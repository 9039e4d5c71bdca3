import ScdtServer.CtfArchive.Authority
import ScdtServer.CtfArchive.Redemption

/-!
# How long authority lasts

Tokens expire, and codes are forgotten.  So whatever a session is good for can be
traced back, within a bounded time, to a signature on a challenge.
-/

namespace ScdtServer.Sessions

open ScdtServer.Transition
open ScdtServer.Http
open ScdtServer.Models
open ScdtServer.Jwt
open ScdtServer.Auth
open ScdtServer.Codes
open ScdtServer.Tables
open ScdtServer.Api
open ScdtServer.Authority
open ScdtServer.Redemption

variable {server : Server} {now tolerance : Time} {events more : List Event} {event : Event}
variable {token : Token} {position : ℕ}

/-! ## Time in a run -/

def elapsed : Event → Time
  | .elapse duration => duration
  | _ => 0

/-- When the event at a position of a run takes place. -/
def instant (now : Time) (events : List Event) (position : ℕ) : Time :=
  now + ((events.take position).map elapsed).sum

theorem instant_append (hle : position ≤ events.length) :
    instant now (events ++ more) position = instant now events position := by
  rw [instant, instant, List.take_append_of_le_length hle]

theorem instant_take {bound : ℕ} (hle : position ≤ bound) :
    instant now (events.take bound) position = instant now events position := by
  rw [instant, instant, List.take_take, Nat.min_eq_left hle]

theorem now_of_step {state next : State} (hstep : Step server state event next) :
    next.now = state.now + elapsed event := by
  cases hstep with
  | exchange => rfl
  | expire => rfl
  | elapse duration => rfl

theorem now_of_run {start last : State} (hrun : Run (Step server) start events last) :
    last.now = instant start.now events events.length := by
  induction hrun with
  | nil => rfl
  | @snoc labels middle label last _ hfinal ih =>
      calc
        last.now = middle.now + elapsed label := now_of_step hfinal
        _ = instant start.now labels labels.length + elapsed label := by rw [ih]
        _ = instant start.now (labels ++ [label]) (labels ++ [label]).length := by
          simp only [instant, List.take_length, List.map_append, List.map_singleton,
            List.sum_append, List.sum_singleton, Nat.add_assoc]

/-- The time at a position, seen from the state that the run has there. -/
theorem now_of_take {start middle : State}
    (hrun : Run (Step server) start (events.take position) middle)
    (hle : position ≤ events.length) : middle.now = instant start.now events position := by
  rw [now_of_run hrun, List.length_take, Nat.min_eq_left hle, instant_take le_rfl]

theorem at_append (hat : events[position]? = some event) :
    (events ++ more)[position]? = some event := by
  rw [List.getElem?_append_left (List.getElem?_eq_some_iff.mp hat).1, hat]

theorem le_length_of_at (hat : events[position]? = some event) : position ≤ events.length :=
  (List.getElem?_eq_some_iff.mp hat).1.le

/-! ## What is promised about jwt_simple and tokio -/

/-- A token is accepted until it expires, up to a tolerance. -/
def Expiring (jwt : JwtSimple) (tolerance : Time) : Prop :=
  ∀ key now text claims, jwt.verifyToken key now text = some claims →
    now ≤ claims.expiresAt + tolerance

/-- Sleeping tasks wake up when they are due. -/
def Prompt (state : State) (event : Event) : Prop :=
  ∀ duration, event = .elapse duration →
    ∀ timer ∈ state.codes.timers, state.now + duration ≤ timer.due

/-! ## How long tokens are good for -/

section

variable {signer : Signer} {ecdsa : Ecdsa}

theorem expiresAt_of_authenticate {T : Type} [KeyedJWT T] {E : Type} {value : T}
    {validFor : Time}
    (hproduced : (authenticate signer value validFor now : Handler E Token) = .ok token) :
    token.claims.expiresAt = now + validFor := by
  rw [(authenticate_eq_ok hproduced).2.1]
  rfl

theorem expiresAt_of_initiate {random : Option (Vector UInt8 32)} {id : UInt8}
    (hminted : initiateChallenge signer now random id = .ok token) :
    token.claims.expiresAt = now + fromSecs 10 := by
  unfold initiateChallenge at hminted
  split at hminted
  · cases hminted
  · split at hminted
    · cases hminted
    · exact expiresAt_of_authenticate hminted

theorem expiresAt_of_finish {jwtChallenge : JWTChallenge} {r s : String}
    (hminted : finishChallenge ecdsa signer now jwtChallenge r s = .ok token) :
    token.claims.expiresAt = now + fromMins 30 := by
  unfold finishChallenge at hminted
  split at hminted
  · obtain ⟨challenge, _, hminted⟩ := Handler.bind_eq_ok.mp hminted
    obtain ⟨admin, _, hminted⟩ := Handler.bind_eq_ok.mp hminted
    exact expiresAt_of_authenticate hminted
  · cases hminted

theorem expiresAt_of_redeem {codes : InMemorySet GuestCode} {code : GuestCode}
    (hminted : (Guest.redeemCode signer codes now code).1 = .ok token) :
    token.claims.expiresAt = now + fromHours 6 := by
  unfold Guest.redeemCode at hminted
  split at hminted
  · exact expiresAt_of_authenticate hminted
  · cases hminted

end

/-! ## The past of a token -/

/-- At `position` a challenge is issued, for ten seconds. -/
structure Issues (server : Server) (now : Time) (events : List Event) (position : ℕ)
    (id : UInt8) (bytes : Vector UInt8 32) (token : Token) : Prop where
  exchange : ∃ exchange, events[position]? = some (.exchange exchange) ∧
    Initiated server id bytes token exchange
  expires : token.claims.expiresAt = instant now events position + fromSecs 10

/-- An administrator asks for a challenge, and answers it in time with a signature
that verifies; the session is good for half an hour. -/
structure SignsIn (server : Server) (now tolerance : Time) (events : List Event)
    (initiate finish : ℕ) (admin : JWTAdmin) (token : Token) : Prop where
  listed : Listed admin
  ordered : initiate < finish
  prompt : instant now events finish ≤ instant now events initiate + fromSecs 10 + tolerance
  signature : ∃ bytes challenge exchange, Issues server now events initiate admin.id bytes
    challenge ∧ events[finish]? = some (.exchange exchange) ∧
      presented JWTChallenge exchange.headers = some challenge.text ∧
        Finished server admin bytes token exchange
  expires : token.claims.expiresAt = instant now events finish + fromMins 30

/-- A code is traded for a session of six hours. -/
structure Trades (now : Time) (events : List Event) (position : ℕ) (code : GuestCode)
    (token : Token) : Prop where
  exchange : ∃ exchange, events[position]? = some (.exchange exchange) ∧
    exchange.minted = some token
  custom : token.claims.custom = .user ⟨code⟩
  expires : token.claims.expiresAt = instant now events position + fromHours 6

/-- What a token's claims say about its past, and about the time of it. -/
inductive Past (server : Server) (now tolerance : Time) (events : List Event)
    (token : Token) : Prop
  | challenge {position : ℕ} {id : UInt8} {bytes : Vector UInt8 32}
      (hissues : Issues server now events position id bytes token)
      (hexists : keyExists id = true)
  | admin {initiate finish : ℕ} {admin : JWTAdmin}
      (hsigns : SignsIn server now tolerance events initiate finish admin token)
  | user {position : ℕ} {code : GuestCode} (htrades : Trades now events position code token)

theorem Issues.append {id : UInt8} {bytes : Vector UInt8 32}
    (hissues : Issues server now events position id bytes token) (more : List Event) :
    Issues server now (events ++ more) position id bytes token := by
  obtain ⟨exchange, hat, hinitiated⟩ := hissues.exchange
  refine ⟨⟨exchange, at_append hat, hinitiated⟩, ?_⟩
  rw [instant_append (le_length_of_at hat)]
  exact hissues.expires

theorem SignsIn.append {initiate finish : ℕ} {admin : JWTAdmin}
    (hsigns : SignsIn server now tolerance events initiate finish admin token)
    (more : List Event) :
    SignsIn server now tolerance (events ++ more) initiate finish admin token := by
  obtain ⟨bytes, challenge, exchange, hissues, hat, hpresented, hfinished⟩ := hsigns.signature
  have hfinish := le_length_of_at hat
  have hinitiate := hsigns.ordered.le.trans hfinish
  refine ⟨hsigns.listed, hsigns.ordered, ?_,
    ⟨bytes, challenge, exchange, hissues.append more, at_append hat, hpresented, hfinished⟩, ?_⟩
  · rw [instant_append hfinish, instant_append hinitiate]
    exact hsigns.prompt
  · rw [instant_append hfinish]
    exact hsigns.expires

theorem Trades.append {code : GuestCode} (htrades : Trades now events position code token)
    (more : List Event) : Trades now (events ++ more) position code token := by
  obtain ⟨exchange, hat, hminted⟩ := htrades.exchange
  refine ⟨⟨exchange, at_append hat, hminted⟩, htrades.custom, ?_⟩
  rw [instant_append (le_length_of_at hat)]
  exact htrades.expires

theorem Past.append (hpast : Past server now tolerance events token) (more : List Event) :
    Past server now tolerance (events ++ more) token := by
  cases hpast with
  | challenge hissues hexists => exact .challenge (hissues.append more) hexists
  | admin hsigns => exact .admin (hsigns.append more)
  | user htrades => exact .user (htrades.append more)

/-- What an extractor accepts was issued with its key and has not expired. -/
theorem live_of_extracted {T : Type} [KeyedJWT T] {state : State} {exchange : Exchange}
    {value : T} (hexpiring : Expiring server.signer.jwt tolerance)
    (hunforged : Unforged server state (.exchange exchange))
    (hkey : KeyedJWT.key T server.signer.keys = server.signer.keys.adminKey ∨
      KeyedJWT.key T server.signer.keys = server.signer.keys.challengeKey ∨
      KeyedJWT.key T server.signer.keys = server.signer.keys.userKey)
    (hextracted : fromRequestParts server.signer T state.now exchange.headers = .ok value) :
    ∃ issued ∈ state.issued, issued.claims.custom = KeyedJWT.serialize value ∧
      presented T exchange.headers = some issued.text ∧
        state.now ≤ issued.claims.expiresAt + tolerance := by
  obtain ⟨text, claims, hpresented, hverified, hcustom⟩ := fromRequestParts_eq_ok hextracted
  obtain ⟨header, hheader, htext⟩ := Option.bind_eq_some_iff.mp hpresented
  obtain ⟨issued, hmem, _, hclaims, hissued⟩ :=
    hunforged exchange rfl _ _ _ hheader htext _ hkey _ hverified
  refine ⟨issued, hmem, ?_, ?_, ?_⟩
  · rw [hclaims]
    exact hcustom
  · rw [hissued]
    exact hpresented
  · rw [hclaims]
    exact hexpiring _ _ _ _ hverified

/-! ## What the claims of a token come from -/

section

variable {state : State} {exchange : Exchange}
variable (hexpiring : Expiring server.signer.jwt tolerance)
variable (hpasts : ∀ issued ∈ state.issued, Past server now tolerance events issued)
variable (hunforged : Unforged server state (.exchange exchange))
include hexpiring hpasts hunforged

/-- An accepted challenge was issued for the key that it names, and recently. -/
theorem issues_of_extracted {jwtChallenge : JWTChallenge}
    (hextracted : fromRequestParts server.signer JWTChallenge state.now exchange.headers =
      .ok jwtChallenge) :
    ∃ initiate bytes challenge, jwtChallenge.challenge = Base64.encode bytes.toList ∧
      Issues server now events initiate jwtChallenge.id bytes challenge ∧
        presented JWTChallenge exchange.headers = some challenge.text ∧
          state.now ≤ instant now events initiate + fromSecs 10 + tolerance := by
  obtain ⟨issued, hmem, hcustom, htext, hlive⟩ :=
    live_of_extracted hexpiring hunforged (.inr (.inl rfl)) hextracted
  cases hpasts issued hmem with
  | @challenge initiate id bytes hissues _ =>
      obtain ⟨_, _, hinitiated⟩ := hissues.exchange
      have hclaims : (⟨Base64.encode bytes.toList, id⟩ : JWTChallenge) = jwtChallenge :=
        CustomClaims.challenge.inj (hinitiated.custom.symm.trans hcustom)
      rw [hissues.expires] at hlive
      rw [← hclaims]
      exact ⟨initiate, bytes, issued, rfl, hissues, htext, hlive⟩
  | admin hsigns =>
      obtain ⟨_, _, _, _, _, _, hfinished⟩ := hsigns.signature
      cases hfinished.custom.symm.trans hcustom
  | user htrades => cases htrades.custom.symm.trans hcustom

/-- An administrator has signed in, at most half an hour ago. -/
theorem signsIn_of_extracted {admin : JWTAdmin}
    (hextracted : fromRequestParts server.signer JWTAdmin state.now exchange.headers =
      .ok admin) :
    ∃ initiate finish token, SignsIn server now tolerance events initiate finish admin token ∧
      presented JWTAdmin exchange.headers = some token.text ∧
        state.now ≤ instant now events finish + fromMins 30 + tolerance := by
  obtain ⟨issued, hmem, hcustom, htext, hlive⟩ :=
    live_of_extracted hexpiring hunforged (.inl rfl) hextracted
  cases hpasts issued hmem with
  | challenge hissues _ =>
      obtain ⟨_, _, hinitiated⟩ := hissues.exchange
      cases hinitiated.custom.symm.trans hcustom
  | @admin initiate finish admin' hsigns =>
      obtain ⟨_, _, _, _, _, _, hfinished⟩ := hsigns.signature
      obtain rfl : admin' = admin :=
        CustomClaims.admin.inj (hfinished.custom.symm.trans hcustom)
      rw [hsigns.expires] at hlive
      exact ⟨initiate, finish, issued, hsigns, htext, hlive⟩
  | user htrades => cases htrades.custom.symm.trans hcustom

/-- A guest has traded a code, at most six hours ago. -/
theorem trades_of_extracted {user : JWTUser}
    (hextracted : fromRequestParts server.signer JWTUser state.now exchange.headers =
      .ok user) :
    ∃ redemption token, Trades now events redemption user.code token ∧
      presented JWTUser exchange.headers = some token.text ∧
        state.now ≤ instant now events redemption + fromHours 6 + tolerance := by
  obtain ⟨issued, hmem, hcustom, htext, hlive⟩ :=
    live_of_extracted hexpiring hunforged (.inr (.inr rfl)) hextracted
  cases hpasts issued hmem with
  | challenge hissues _ =>
      obtain ⟨_, _, hinitiated⟩ := hissues.exchange
      cases hinitiated.custom.symm.trans hcustom
  | admin hsigns =>
      obtain ⟨_, _, _, _, _, _, hfinished⟩ := hsigns.signature
      cases hfinished.custom.symm.trans hcustom
  | @user redemption code htrades =>
      obtain rfl : (⟨code⟩ : JWTUser) = user :=
        CustomClaims.user.inj (htrades.custom.symm.trans hcustom)
      rw [htrades.expires] at hlive
      exact ⟨redemption, issued, htrades, htext, hlive⟩

end

/-! ## Runs -/

variable {database : Database} {state : State}

/-- The event after `events`. -/
theorem at_length : (events ++ [event])[events.length]? = some event := by
  rw [List.getElem?_append_right le_rfl, Nat.sub_self]
  rfl

/-- A token that the next request mints has a past in the run with it. -/
theorem past_of_minted {headers : Headers} {environment : Environment} {request : Request}
    (hexpiring : Expiring server.signer.jwt tolerance)
    (hnow : state.now = instant now events events.length)
    (hpasts : ∀ issued ∈ state.issued, Past server now tolerance events issued)
    (hevent : event = .exchange (exchangeOf server headers environment state request))
    (hunforged : Unforged server state event)
    (hminted : (serve server headers environment state request).minted = some token) :
    Past server now tolerance (events ++ [event]) token := by
  have hinstant : instant now (events ++ [event]) events.length = state.now := by
    rw [instant_append le_rfl, hnow]
  subst hevent
  rcases minted_cases hminted with
    ⟨id, rfl, hinitiated⟩ | ⟨r, s, jwtChallenge, rfl, hextracted, hfinished⟩ |
      ⟨code, rfl, hredeemed⟩
  · obtain ⟨bytes, hrandom, hexists, hkey, hcustom, _⟩ := initiateChallenge_eq_ok hinitiated
    have hissued : Initiated server id bytes token
        (exchangeOf server headers environment state (.initiateChallenge id)) :=
      { request := rfl, random := hrandom, minted := hminted, key := hkey, custom := hcustom }
    have hexpires := expiresAt_of_initiate hinitiated
    rw [← hinstant] at hexpires
    exact .challenge ⟨⟨_, at_length, hissued⟩, hexpires⟩ hexists
  · obtain ⟨initiate, bytes, challenge, hencoded, hissues, hpresented, hlive⟩ :=
      issues_of_extracted hexpiring hpasts hunforged hextracted
    obtain ⟨rBytes, sBytes, decoded, key, hr, hs, hdecoded, hverifies, hadminKey, hkey,
      hcustom, _⟩ := finishChallenge_eq_ok hfinished
    have hbytes : decoded = bytes.toList := by
      rw [hencoded, Base64.decode_encode] at hdecoded
      exact (Option.some.inj hdecoded).symm
    have hid : key.admin.id = jwtChallenge.id := adminKey_id hadminKey
    rw [← hid] at hissues hadminKey hverifies
    rw [hbytes] at hverifies
    obtain ⟨_, hissued, _⟩ := hissues.exchange
    have hlt : initiate < events.length := (List.getElem?_eq_some_iff.mp hissued).1
    have hsession : Finished server key.admin bytes token
        (exchangeOf server headers environment state (.finishChallenge r s)) :=
      { request := ⟨r, s, rBytes, sBytes, rfl, hr, hs, hverifies⟩
        minted := hminted
        key := hkey
        custom := hcustom }
    have hexpires := expiresAt_of_finish hfinished
    rw [← hinstant] at hexpires
    refine .admin ⟨listed_of_adminKey hadminKey, hlt, ?_,
      ⟨bytes, challenge, _, hissues.append _, at_length, hpresented, hsession⟩, hexpires⟩
    rw [hinstant, instant_append hlt.le]
    exact hlive
  · have hexpires := expiresAt_of_redeem hredeemed
    rw [← hinstant] at hexpires
    exact .user ⟨⟨_, at_length, hminted⟩, (Guest.redeemCode_eq_ok hredeemed).2.1, hexpires⟩

theorem past_of_run (hexpiring : Expiring server.signer.jwt tolerance)
    (hrun : Run (restrict (Step server) (Unforged server)) (.start now database) events state) :
    ∀ issued ∈ state.issued, Past server now tolerance events issued := by
  induction hrun with
  | nil => nofun
  | snoc hbefore hfinal ih =>
      obtain ⟨hstep, hunforged⟩ := hfinal
      cases hstep with
      | exchange =>
          intro issued hmem
          cases List.mem_append.mp hmem with
          | inl hnew =>
              exact past_of_minted hexpiring (now_of_run hbefore.unrestrict) ih rfl hunforged
                (Option.mem_toList.mp hnew)
          | inr hold => exact (ih issued hold).append _
      | expire => exact fun issued hmem => (ih issued hmem).append _
      | elapse => exact fun issued hmem => (ih issued hmem).append _

/-- What is assumed of every event. -/
def Trusted (server : Server) (state : State) (event : Event) : Prop :=
  Unforged server state event ∧ Prompt state event

/-- A guest's session: an administrator who may invite has signed in, handed out the
code and had it traded, once and in time. -/
structure Invites (server : Server) (now tolerance : Time) (events : List Event)
    (initiate finish generation redemption : ℕ) (admin : JWTAdmin) (code : GuestCode)
    (token : Token) : Prop where
  permitted : admin.canInvite = true
  signsIn : ∃ session exchange,
    SignsIn server now tolerance events initiate finish admin session ∧
      events[generation]? = some (.exchange exchange) ∧
        presented JWTAdmin exchange.headers = some session.text
  finished : finish < generation
  generated : generation < redemption
  lasting : ∃ timer, Generates events generation code timer ∧
    ∀ between, generation < between → between < redemption →
      ¬ Wipes events between ∧ ¬ Redeems events between code ∧
        ¬ Expires events between timer
  trades : Trades now events redemption code token
  handedOut : instant now events generation ≤
    instant now events finish + fromMins 30 + tolerance
  redeemed : instant now events redemption ≤ instant now events generation + Guest.codeLifetime

theorem elapse_of_opOf {duration : Time} (hop : opOf event = .elapse duration) :
    event = .elapse duration := by
  cases event with
  | exchange exchange =>
      rw [opOf] at hop
      split at hop <;> cases hop
  | expire timer => cases hop
  | elapse other => rw [Op.elapse.inj hop]

theorem expire_of_opOf {timer : Timer GuestCode} (hop : opOf event = .expire timer) :
    event = .expire timer := by
  cases event with
  | exchange exchange =>
      rw [opOf] at hop
      split at hop <;> cases hop
  | expire other => rw [Op.expire.inj hop]
  | elapse duration => cases hop

theorem onTime_of_run (hrun : Run (restrict (Step server) Prompt) (.start now database) events
    state) : OnTime (clocked state) := by
  apply hrun.invariant (fun state => OnTime (clocked state))
  · exact fun _ hmem => absurd hmem List.not_mem_nil
  · intro before event after hbefore hstep
    apply (step_codes hstep.1).onTime _ hbefore
    intro duration hop
    exact hstep.2 duration (elapse_of_opOf hop)

/-- The run up to a position of a run. -/
theorem reached_at {condition : State → Event → Prop}
    (hrun : Run (restrict (Step server) condition) (.start now database) events state)
    (hat : events[position]? = some event) :
    ∃ middle next, Run (restrict (Step server) condition) (.start now database)
      (events.take position) middle ∧ restrict (Step server) condition middle event next ∧
        middle.now = instant now events position := by
  obtain ⟨middle, next, hbefore, hstep⟩ := hrun.step_at hat
  exact ⟨middle, next, hbefore, hstep, now_of_take hbefore.unrestrict (le_length_of_at hat)⟩

theorem at_of_take {bound : ℕ} (hat : (events.take bound)[position]? = some event) :
    position < bound ∧ events[position]? = some event := by
  have hlt := (List.getElem?_eq_some_iff.mp hat).1
  rw [List.length_take] at hlt
  rw [List.getElem?_take_of_lt (by omega)] at hat
  exact ⟨by omega, hat⟩

section

variable {generation redemption : ℕ} {code : GuestCode} {timer : Timer GuestCode}

/-- A code is handed out by an administrator who has signed in and may invite. -/
theorem signsIn_of_generates (hexpiring : Expiring server.signer.jwt tolerance)
    (hrun : Run (restrict (Step server) (Unforged server)) (.start now database) events state)
    (hgenerates : Generates events generation code timer) :
    timer.due = instant now events generation + Guest.codeLifetime ∧
      ∃ initiate finish admin session exchange, admin.canInvite = true ∧
        SignsIn server now tolerance events initiate finish admin session ∧
          events[generation]? = some (.exchange exchange) ∧
            presented JWTAdmin exchange.headers = some session.text ∧ finish < generation ∧
              instant now events generation ≤
                instant now events finish + fromMins 30 + tolerance := by
  obtain ⟨exchange, hat, hrequest, _, hspawned⟩ := hgenerates
  obtain ⟨middle, next, hbefore, ⟨hstep, hunforged⟩, hnow⟩ := reached_at hrun hat
  have hpasts := past_of_run hexpiring hbefore
  cases hstep with
  | @exchange headers environment _ request =>
      obtain rfl : request = .generateCode := hrequest
      obtain ⟨_, htimer, _, admin, hextracted, hinvite⟩ := generated_of_spawned hspawned
      obtain ⟨initiate, finish, session, hsigns, hpresented, hlive⟩ :=
        signsIn_of_extracted hexpiring hpasts hunforged hextracted
      obtain ⟨_, _, _, _, hfinish, _⟩ := hsigns.signature
      have hlt := (at_of_take hfinish).1
      have hsigns' := hsigns.append (events.drop generation)
      rw [List.take_append_drop] at hsigns'
      rw [instant_take hlt.le, hnow] at hlive
      refine ⟨?_, initiate, finish, admin, session, _, hinvite, hsigns', hat, hpresented, hlt,
        hlive⟩
      rw [htimer, ← hnow]
      rfl

/-- A code is redeemed before its task wakes up, which is in time. -/
theorem redeemed_of_generates
    (hrun : Run (restrict (Step server) Prompt) (.start now database) events state)
    (hgenerates : Generates events generation code timer)
    (hredeems : Redeems events redemption code) (hlt : generation < redemption)
    (hsleeps : ∀ between, generation < between → between < redemption →
      ¬ Expires events between timer) :
    instant now events redemption ≤ timer.due := by
  obtain ⟨_, _, hredeemed, _⟩ := hredeems
  obtain ⟨middle, _, hbefore, _, hnow⟩ := reached_at hrun hredeemed
  obtain ⟨exchange, hat, hrequest, _, hspawned⟩ := hgenerates
  have hops : ∀ index, index < redemption →
      ((events.take redemption).map opOf)[index]? = events[index]?.map opOf := by
    intro index hindex
    rw [List.getElem?_map, List.getElem?_take_of_lt hindex]
  have hinserted : ((events.take redemption).map opOf)[generation]? =
      some (.insertTemp timer) := by
    rw [hops generation hlt, hat, Option.map_some, opOf, hrequest, hspawned]
  have hmem : timer ∈ (clocked middle).codes.timers := by
    apply pending_of_inserted (run_codes hbefore.unrestrict) hinserted
    intro between hbetween hfired
    have hbound := (List.getElem?_eq_some_iff.mp hfired).1
    rw [List.length_map, List.length_take] at hbound
    rw [hops between (by omega)] at hfired
    obtain ⟨event, hevent, hop⟩ := Option.map_eq_some_iff.mp hfired
    apply hsleeps between hbetween (by omega)
    rw [Expires, hevent, expire_of_opOf hop]
  rw [← hnow]
  exact onTime_of_run hbefore timer hmem

/-- A code that is traded for a session has been handed out to be. -/
theorem invites_of_trades (hexpiring : Expiring server.signer.jwt tolerance)
    (hrun : Run (restrict (Step server) (Trusted server)) (.start now database) events state)
    (htrades : Trades now events redemption code token) :
    ∃ initiate finish generation admin,
      Invites server now tolerance events initiate finish generation redemption admin code
        token := by
  have hunforged : Run (restrict (Step server) (Unforged server)) (.start now database) events
      state := hrun.mono fun _ _ _ hstep => ⟨hstep.1, hstep.2.1⟩
  have hprompt : Run (restrict (Step server) Prompt) (.start now database) events state :=
    hrun.mono fun _ _ _ hstep => ⟨hstep.1, hstep.2.2⟩
  obtain ⟨exchange, hat, hminted⟩ := htrades.exchange
  have hredeems : Redeems events redemption code :=
    redeems_of_mints hrun.unrestrict ⟨exchange, token, hat, hminted, htrades.custom⟩
  obtain ⟨generation, hmatches⟩ := exists_matches (run_codes hrun.unrestrict) hredeems.op
  have hpaid := paidBy_of_matches hrun.unrestrict hredeems hmatches
  obtain ⟨timer, hgenerates, hbetween⟩ := hpaid.lasting
  obtain ⟨hdue, initiate, finish, admin, session, exchange', hinvite, hsigns, hgenerated,
    hpresented, hlt, hhanded⟩ := signsIn_of_generates hexpiring hunforged hgenerates
  have hredeemed := redeemed_of_generates hprompt hgenerates hredeems hpaid.earlier
    fun between hleft hright => (hbetween between hleft hright).2.2
  rw [hdue] at hredeemed
  exact ⟨initiate, finish, generation, admin,
    { permitted := hinvite
      signsIn := ⟨session, exchange', hsigns, hgenerated, hpresented⟩
      finished := hlt
      generated := hpaid.earlier
      lasting := ⟨timer, hgenerates, hbetween⟩
      trades := htrades
      handedOut := hhanded
      redeemed := hredeemed }⟩

/-- From a challenge to the last request of a guest that it can lead to. -/
def lifetime (tolerance : Time) : Time :=
  fromSecs 10 + fromMins 30 + Guest.codeLifetime + fromHours 6 + 3 * tolerance

end

/-! ## A guest of the first administrator -/

def userClaims : JWTClaims := withCustomClaims (.user ⟨⟨7⟩⟩) (fromHours 6) (fromMins 10)

def knownTokens : List Token :=
  [⟨sessionKeys.challengeKey, challengeClaims, "c"⟩, ⟨sessionKeys.adminKey, adminClaims, "a"⟩,
    ⟨sessionKeys.userKey, userClaims, "u"⟩]

/-- Three tokens, which are accepted for a quarter of an hour after they expire. -/
def knownJwt : JwtSimple where
  authenticate key claims :=
    (knownTokens.find? fun token => decide (token.key = key ∧ token.claims = claims)).map
      Token.text
  verifyToken key now text :=
    (knownTokens.find? fun token => decide (token.key = key ∧ token.text = text ∧
      now ≤ token.claims.expiresAt + fromMins 15)).map Token.claims

def knownServer : Server := ⟨⟨knownJwt, sessionKeys⟩, sessionEcdsa⟩

def knownEnvironment : Environment := ⟨some sessionChallenge, some 7, .available, none⟩

def userHeaders : Headers
  | .userJwt => some ⟨[117]⟩
  | _ => none

theorem knownToken_of_verified {key : HS256Key} {text : String} {claims : JWTClaims}
    (hverified : knownJwt.verifyToken key now text = some claims) :
    (⟨key, claims, text⟩ : Token) ∈ knownTokens ∧ now ≤ claims.expiresAt + fromMins 15 := by
  obtain ⟨token, hfound, rfl⟩ := Option.map_eq_some_iff.mp hverified
  have hmatches := List.find?_some hfound
  obtain ⟨rfl, rfl, hlive⟩ := of_decide_eq_true hmatches
  exact ⟨List.mem_of_find?_eq_some hfound, hlive⟩

theorem knownJwt_expiring : Expiring knownJwt (fromMins 15) :=
  fun _ _ _ _ hverified => (knownToken_of_verified hverified).2

/-- The tokens that the headers show have been issued. -/
def shown (headers : Headers) (issued : List Token) : Bool :=
  [HeaderName.challenge, .adminJwt, .userJwt].all fun name =>
    knownTokens.all fun token =>
      decide ((headers name).bind HeaderValue.toStr = some token.text → token ∈ issued)

theorem unforged_of_shown {headers : Headers} {environment : Environment} {request : Request}
    (hshown : shown headers state.issued = true) :
    Unforged knownServer state
      (.exchange (exchangeOf knownServer headers environment state request)) := by
  intro exchange hexchange name value text hname htext key _ claims hverified
  obtain rfl := Event.exchange.inj hexchange
  have hknown := (knownToken_of_verified hverified).1
  have hmem : name ∈ [HeaderName.challenge, .adminJwt, .userJwt] := by
    cases name <;> decide
  have hname' : headers name = some value := hname
  have hall := List.all_eq_true.mp (List.all_eq_true.mp hshown name hmem) _ hknown
  have hissued := of_decide_eq_true hall (by rw [hname', Option.bind_some, htext])
  exact ⟨_, hissued, rfl, rfl, rfl⟩

def known0 : State := .start 0 .empty

def known1 : State :=
  afterRequest knownServer (fun _ => none) knownEnvironment known0 (.initiateChallenge 0)

def known2 : State :=
  afterRequest knownServer finishHeaders knownEnvironment known1 sessionFinish

def known3 : State := afterRequest knownServer wipeHeaders knownEnvironment known2 .generateCode

def known4 : State := { known3 with now := known3.now + fromMins 10 }

def known5 : State :=
  afterRequest knownServer (fun _ => none) knownEnvironment known4 (.redeemCode ⟨7⟩)

/-- A challenge is issued and answered. -/
def signingIn : List Event :=
  [.exchange (exchangeOf knownServer (fun _ => none) knownEnvironment known0
    (.initiateChallenge 0)),
  .exchange (exchangeOf knownServer finishHeaders knownEnvironment known1 sessionFinish)]

/-- A code is handed out, and traded after ten minutes. -/
def inviting : List Event :=
  signingIn ++
    [.exchange (exchangeOf knownServer wipeHeaders knownEnvironment known2 .generateCode)] ++
    [.elapse (fromMins 10)] ++
    [.exchange (exchangeOf knownServer (fun _ => none) knownEnvironment known4
      (.redeemCode ⟨7⟩))]

theorem prompt_exchange {exchange : Exchange} : Prompt state (.exchange exchange) := by
  intro duration hevent
  cases hevent

theorem signingIn_run :
    Run (restrict (Step knownServer) (Trusted knownServer)) known0 signingIn known2 :=
  .snoc (.snoc .nil ⟨.exchange, unforged_of_shown (by decide +kernel), prompt_exchange⟩)
    ⟨.exchange, unforged_of_shown (by decide +kernel), prompt_exchange⟩

theorem inviting_run :
    Run (restrict (Step knownServer) (Trusted knownServer)) known0 inviting known5 := by
  have hprompt : Prompt known3 (.elapse (fromMins 10)) := by
    intro duration hevent
    obtain rfl := Event.elapse.inj hevent
    decide +kernel
  refine .snoc (.snoc (.snoc signingIn_run ?_) ⟨.elapse _, ?_, hprompt⟩) ?_
  · exact ⟨.exchange, unforged_of_shown (by decide +kernel), prompt_exchange⟩
  · intro exchange hexchange
    cases hexchange
  · exact ⟨.exchange, unforged_of_shown (by decide +kernel), prompt_exchange⟩

end ScdtServer.Sessions
