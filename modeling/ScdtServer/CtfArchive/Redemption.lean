import ScdtServer.CtfArchive.Api

/-!
# What a guest code buys

A process of the server drives the set of guest codes through operations; each
session of a guest is matched with the handing out of its code.
-/

namespace ScdtServer.Redemption

open ScdtServer.Transition
open ScdtServer.Http
open ScdtServer.Models
open ScdtServer.Jwt
open ScdtServer.Codes
open ScdtServer.Tables
open ScdtServer.Api

variable {server : Server} {headers : Headers} {environment : Environment} {state : State}
variable {request : Request}

/-! ## The set of codes in a run -/

/-- The operation on the set that an event amounts to. -/
def opOf : Event → Op GuestCode
  | .exchange exchange =>
      match exchange.request, exchange.spawned, exchange.reply with
      | .generateCode, some timer, _ => .insertTemp timer
      | .wipeCodes, _, .response .ok _ => .wipe
      | .redeemCode code, _, .response .unauthorized _ => .remove code false
      | .redeemCode code, _, _ => .remove code true
      | _, _, _ => .other
  | .expire timer => .expire timer
  | .elapse duration => .elapse duration

def clocked (state : State) : Clocked GuestCode := ⟨state.now, state.codes⟩

/-- The codes play no part in the other requests. -/
def IsAboutCodes : Request → Prop
  | .generateCode | .wipeCodes | .redeemCode _ => True
  | _ => False

theorem authorized_codes {T : Type} [KeyedJWT T] {handler : T → Served}
    (hhandler : ∀ value, (handler value).codes = state.codes) :
    (authorized server headers state T handler).codes = state.codes := by
  unfold authorized
  split
  · exact hhandler _
  · rfl

/-- Requests that are not about codes leave them alone. -/
theorem serve_codes (hrequest : ¬ IsAboutCodes request) :
    (serve server headers environment state request).codes = state.codes := by
  cases request with
  | generateCode | wipeCodes | redeemCode => exact absurd trivial hrequest
  | initiateChallenge id => rfl
  | setConnectionInstructions challengeId body =>
      apply authorized_codes
      intro admin
      split <;> rfl
  | _ => exact authorized_codes fun _ => rfl

theorem opOf_other (hrequest : ¬ IsAboutCodes request) :
    opOf (.exchange (exchangeOf server headers environment state request)) = .other := by
  cases request with
  | generateCode | wipeCodes | redeemCode => exact absurd trivial hrequest
  | _ => rfl

theorem step_generateCode :
    Codes.Step (clocked state)
      (opOf (.exchange (exchangeOf server headers environment state .generateCode)))
      (clocked (afterRequest server headers environment state .generateCode)) := by
  unfold opOf exchangeOf clocked afterRequest
  dsimp only [serve, authorized]
  cases fromRequestParts server.signer JWTAdmin state.now headers with
  | error status => exact .other
  | ok admin =>
      dsimp only
      cases houtcome : Guest.generateCode state.codes state.now admin environment.code with
      | mk outcome codes =>
          cases outcome with
          | error abort =>
              rw [Guest.generateCode_eq_error houtcome]
              exact .other
          | ok code =>
              rw [(Guest.generateCode_eq_ok houtcome).2.1]
              exact .insertTemp code Guest.codeLifetime

theorem step_wipeCodes :
    Codes.Step (clocked state)
      (opOf (.exchange (exchangeOf server headers environment state .wipeCodes)))
      (clocked (afterRequest server headers environment state .wipeCodes)) := by
  unfold opOf exchangeOf clocked afterRequest
  dsimp only [serve, authorized]
  cases hextracted : fromRequestParts server.signer JWTAdmin state.now headers with
  | error status =>
      rw [fromRequestParts_eq_error hextracted]
      exact .other
  | ok admin => exact .wipe

theorem opOf_redeemCode (code : GuestCode) :
    opOf (.exchange (exchangeOf server headers environment state (.redeemCode code))) =
      .remove code (state.codes.remove code).1 := by
  unfold opOf exchangeOf
  dsimp only [serve, onToken, unchanged, Guest.redeemCode]
  cases hremoved : state.codes.remove code with
  | mk found codes =>
      cases found with
      | false => rfl
      | true =>
          dsimp only
          cases houtcome : (authenticate server.signer (⟨code⟩ : JWTUser) (fromHours 6)
              state.now : Handler StatusCode Token) with
          | ok token => rfl
          | error abort =>
              rw [authenticate_eq_error houtcome]
              rfl

theorem step_redeemCode (code : GuestCode) :
    Codes.Step (clocked state)
      (opOf (.exchange (exchangeOf server headers environment state (.redeemCode code))))
      (clocked (afterRequest server headers environment state (.redeemCode code))) := by
  rw [opOf_redeemCode]
  have hcodes : (afterRequest server headers environment state (.redeemCode code)).codes =
      (state.codes.remove code).2 :=
    Guest.redeemCode_codes server.signer state.codes state.now code
  unfold clocked
  rw [hcodes]
  exact .remove code

/-- The API drives the set of codes through operations. -/
theorem step_codes {event : Event} {next : State} (hstep : Api.Step server state event next) :
    Codes.Step (clocked state) (opOf event) (clocked next) := by
  cases hstep with
  | @exchange headers environment _ request =>
      by_cases hrequest : IsAboutCodes request
      · cases request with
        | generateCode => exact step_generateCode
        | wipeCodes => exact step_wipeCodes
        | redeemCode code => exact step_redeemCode code
        | _ => cases hrequest
      · rw [opOf_other hrequest]
        have hcodes : (afterRequest server headers environment state request).codes =
            state.codes := serve_codes hrequest
        unfold clocked
        rw [hcodes]
        exact .other
  | expire hpending hdue => exact .expire hpending hdue
  | elapse duration => exact .elapse duration

theorem run_codes {now : Time} {database : Database} {events : List Event} {last : State}
    (hrun : Run (Api.Step server) (.start now database) events last) :
    Run Codes.Step ⟨now, .default⟩ (events.map opOf) (clocked last) :=
  hrun.map clocked opOf fun _ _ _ hstep => step_codes hstep

/-! ## Generations and redemptions -/

/-- At `position` a code was handed out, to expire by `timer`. -/
def Generates (events : List Event) (position : ℕ) (code : GuestCode)
    (timer : Timer GuestCode) : Prop :=
  ∃ exchange, events[position]? = some (.exchange exchange) ∧
    exchange.request = .generateCode ∧ exchange.reply = .response .ok (.code code) ∧
    exchange.spawned = some timer

/-- At `position` a code was traded for a session. -/
def Redeems (events : List Event) (position : ℕ) (code : GuestCode) : Prop :=
  ∃ exchange token, events[position]? = some (.exchange exchange) ∧
    exchange.request = .redeemCode code ∧
    exchange.reply = .response .ok (.text token.text) ∧ exchange.minted = some token ∧
    token.claims.custom = .user ⟨code⟩

def Wipes (events : List Event) (position : ℕ) : Prop :=
  ∃ exchange, events[position]? = some (.exchange exchange) ∧
    exchange.request = .wipeCodes ∧ exchange.reply = .response .ok .empty

def Expires (events : List Event) (position : ℕ) (timer : Timer GuestCode) : Prop :=
  events[position]? = some (.expire timer)

/-- The administrator on whose request a code was handed out may invite. -/
def Invited (server : Server) (start : State) (events : List Event) (position : ℕ) : Prop :=
  ∃ exchange state admin, events[position]? = some (.exchange exchange) ∧
    Run (Api.Step server) start (events.take position) state ∧
    fromRequestParts server.signer JWTAdmin state.now exchange.headers = .ok admin ∧
    admin.canInvite = true

/-- A session for a code has been minted at `position`. -/
def Mints (events : List Event) (position : ℕ) (code : GuestCode) : Prop :=
  ∃ exchange token, events[position]? = some (.exchange exchange) ∧
    exchange.minted = some token ∧ token.claims.custom = .user ⟨code⟩

/-- The redemption is paid for by the generation: the code was handed out on the
request of an administrator who may invite, and since then the codes have not
been wiped, the code has not been redeemed, and the timer of that generation has
not fired. -/
structure PaidBy (server : Server) (start : State) (events : List Event)
    (generation redemption : ℕ) (code : GuestCode) : Prop where
  earlier : generation < redemption
  invited : Invited server start events generation
  lasting : ∃ timer, Generates events generation code timer ∧
    ∀ between, generation < between → between < redemption →
      ¬ Wipes events between ∧ ¬ Redeems events between code ∧
        ¬ Expires events between timer

/-! ## From events to operations -/

section

variable {events : List Event} {position : ℕ} {code : GuestCode} {timer : Timer GuestCode}

theorem Redeems.op (hredeems : Redeems events position code) :
    (events.map opOf)[position]? = some (.remove code true) := by
  obtain ⟨exchange, token, hat, hrequest, hreply, _, _⟩ := hredeems
  rw [List.getElem?_map, hat, Option.map_some, opOf, hrequest, hreply]

theorem Wipes.op (hwipes : Wipes events position) :
    (events.map opOf)[position]? = some .wipe := by
  obtain ⟨exchange, hat, hrequest, hreply⟩ := hwipes
  rw [List.getElem?_map, hat, Option.map_some, opOf, hrequest, hreply]

theorem Expires.op (hexpires : Expires events position timer) :
    (events.map opOf)[position]? = some (.expire timer) := by
  rw [List.getElem?_map, hexpires, Option.map_some, opOf]

theorem insertTemp_of_opOf {event : Event} (hop : opOf event = .insertTemp timer) :
    ∃ exchange, event = .exchange exchange ∧ exchange.request = .generateCode ∧
      exchange.spawned = some timer := by
  cases event with
  | exchange exchange =>
      refine ⟨exchange, rfl, ?_⟩
      rw [opOf] at hop
      split at hop
      · rename_i spawned hrequest hspawned
        rw [hspawned, Op.insertTemp.inj hop]
        exact ⟨hrequest, rfl⟩
      all_goals cases hop
  | expire fired => cases hop
  | elapse duration => cases hop

/-- A timer is spawned when a code is handed out. -/
theorem generated_of_spawned
    (hspawned : (serve server headers environment state .generateCode).spawned = some timer) :
    (serve server headers environment state .generateCode).reply =
        .response .ok (.code timer.value) ∧
      timer = state.codes.nextTimer state.now timer.value Guest.codeLifetime ∧
      environment.code = some timer.value.code ∧
      ∃ admin, fromRequestParts server.signer JWTAdmin state.now headers = .ok admin ∧
        admin.canInvite = true := by
  dsimp only [serve, authorized] at hspawned ⊢
  split at hspawned
  · rename_i admin hadmin
    rw [hadmin]
    dsimp only
    cases houtcome : Guest.generateCode state.codes state.now admin environment.code with
    | mk outcome codes =>
        rw [houtcome] at hspawned
        cases outcome with
        | error abort => cases hspawned
        | ok code =>
            obtain rfl := Option.some.inj hspawned
            have hgenerated := Guest.generateCode_eq_ok houtcome
            exact ⟨rfl, rfl, hgenerated.2.2, admin, rfl, hgenerated.1⟩
  · cases hspawned

/-- Handing out a code is an insertion into the set for half an hour. -/
theorem opOf_generated
    (hreply : (serve server headers environment state .generateCode).reply =
      .response .ok (.code code)) :
    opOf (.exchange (exchangeOf server headers environment state .generateCode)) =
      .insertTemp (state.codes.nextTimer state.now code Guest.codeLifetime) := by
  unfold opOf exchangeOf
  dsimp only [serve, authorized] at hreply ⊢
  split at hreply
  · rename_i admin hadmin
    cases houtcome : Guest.generateCode state.codes state.now admin environment.code with
    | mk outcome codes =>
        rw [houtcome] at hreply
        cases outcome with
        | error abort => cases abort <;> cases hreply
        | ok handed =>
            cases hreply
            rfl
  · cases hreply

end

/-! ## The matching -/

section

variable {now : Time} {database : Database} {events : List Event} {last : State}
variable {generation redemption position : ℕ} {code : GuestCode} {timer : Timer GuestCode}

/-- An insertion into the set is the handing out of a code. -/
theorem generates_of_insertTemp
    (hrun : Run (Api.Step server) (.start now database) events last)
    (hop : (events.map opOf)[position]? = some (.insertTemp timer)) :
    Generates events position timer.value timer ∧
      Invited server (.start now database) events position := by
  rw [List.getElem?_map] at hop
  obtain ⟨event, hat, hevent⟩ := Option.map_eq_some_iff.mp hop
  obtain ⟨exchange, rfl, hrequest, hspawned⟩ := insertTemp_of_opOf hevent
  obtain ⟨state, next, hprefix, hstep⟩ := hrun.step_at hat
  cases hstep with
  | @exchange headers environment _ request =>
      obtain rfl : request = .generateCode := hrequest
      obtain ⟨hreply, _, _, admin, hextracted, hinvite⟩ := generated_of_spawned hspawned
      exact ⟨⟨_, hat, rfl, hreply, hspawned⟩,
        ⟨_, state, admin, hat, hprefix, hextracted, hinvite⟩⟩

theorem paidBy_of_matches
    (hrun : Run (Api.Step server) (.start now database) events last)
    (hredeems : Redeems events redemption code)
    (hmatches : Matches (events.map opOf) generation redemption) :
    PaidBy server (.start now database) events generation redemption code := by
  obtain ⟨timer, hearlier, hremoved, hinserted, hbetween⟩ := hmatches
  have hvalue : timer.value = code := by
    have hop := Option.some.inj (hremoved.symm.trans hredeems.op)
    injection hop
  obtain ⟨hgenerates, hinvited⟩ := generates_of_insertTemp hrun hinserted
  rw [hvalue] at hgenerates
  refine ⟨hearlier, hinvited, timer, hgenerates, ?_⟩
  intro between hleft hright
  have hnot := hbetween between hleft hright
  refine ⟨?_, ?_, ?_⟩
  · intro hwipes
    exact hnot _ hwipes.op (.inl rfl)
  · intro hredeems'
    rw [← hvalue] at hredeems'
    exact hnot _ hredeems'.op (.inr (.inl rfl))
  · intro hexpires
    exact hnot _ hexpires.op (.inr (.inr rfl))

/-- A session of a guest is minted only for a code that is redeemed. -/
theorem redeems_of_mints
    (hrun : Run (Api.Step server) (.start now database) events last)
    (hmints : Mints events position code) : Redeems events position code := by
  obtain ⟨exchange, token, hat, hminted, hcustom⟩ := hmints
  obtain ⟨state, next, _, hstep⟩ := hrun.step_at hat
  cases hstep with
  | @exchange headers environment _ request =>
      rcases minted_cases hminted with
        ⟨id, _, hinitiated⟩ | ⟨r, s, jwtChallenge, _, _, hfinished⟩ | ⟨other, rfl, hredeemed⟩
      · obtain ⟨bytes, _, _, _, hchallenge, _⟩ := Auth.initiateChallenge_eq_ok hinitiated
        cases hchallenge.symm.trans hcustom
      · obtain ⟨rBytes, sBytes, decoded, key, _, _, _, _, _, _, hadmin, _⟩ :=
          Auth.finishChallenge_eq_ok hfinished
        cases hadmin.symm.trans hcustom
      · have huser := (Guest.redeemCode_eq_ok hredeemed).2.1
        obtain rfl : other = code := by
          have hclaims := CustomClaims.user.inj (huser.symm.trans hcustom)
          injection hclaims
        refine ⟨_, token, hat, rfl, ?_, hminted, hcustom⟩
        show ofValue _ (Guest.redeemCode server.signer state.codes state.now other).1 = _
        rw [hredeemed]
        rfl

/-- The positions in a list at which something is found are finitely many. -/
theorem finite_positions {A : Type*} {entries : List A} {condition : ℕ → Prop}
    (hcondition : ∀ position, condition position → ∃ entry, entries[position]? = some entry) :
    { position | condition position }.Finite := by
  apply (Set.finite_lt_nat entries.length).subset
  intro position hposition
  obtain ⟨entry, hentry⟩ := hcondition position hposition
  exact (List.getElem?_eq_some_iff.mp hentry).1

/-- A code that is handed out buys at most one session: redemptions are matched
injectively with the generations that pay for them, so no more sessions are
minted for a code than it was handed out. -/
theorem code_buys_one_session
    (hrun : Run (Api.Step server) (.start now database) events last) :
    (∃ source : ℕ → ℕ,
      Set.InjOn source { redemption | ∃ code, Redeems events redemption code } ∧
      ∀ redemption code, Redeems events redemption code →
        PaidBy server (.start now database) events (source redemption) redemption code) ∧
    ∀ code, { redemption | Mints events redemption code }.ncard ≤
      { generation | ∃ timer, Generates events generation code timer }.ncard := by
  obtain ⟨source, hinjective, hmatches⟩ := exists_matching (run_codes hrun)
  have hremovals : ∀ redemption code, Redeems events redemption code →
      redemption ∈ Removals (events.map opOf) :=
    fun redemption code hredeems => ⟨code, hredeems.op⟩
  have hpaid : ∀ redemption code, Redeems events redemption code →
      PaidBy server (.start now database) events (source redemption) redemption code :=
    fun redemption code hredeems =>
      paidBy_of_matches hrun hredeems (hmatches _ (hremovals _ _ hredeems))
  refine ⟨⟨source, ?_, hpaid⟩, ?_⟩
  · apply hinjective.mono
    intro redemption hredeems
    obtain ⟨code, hcode⟩ := hredeems
    exact hremovals redemption code hcode
  · intro code
    have hfinite :
        { generation | ∃ timer, Generates events generation code timer }.Finite := by
      apply finite_positions
      intro generation hgenerates
      obtain ⟨timer, exchange, hat, _⟩ := hgenerates
      exact ⟨_, hat⟩
    apply Set.ncard_le_ncard_of_injOn source _ _ hfinite
    · intro redemption hmints
      obtain ⟨timer, hgenerates, _⟩ :=
        (hpaid redemption code (redeems_of_mints hrun hmints)).lasting
      exact ⟨timer, hgenerates⟩
    · apply hinjective.mono
      intro redemption hmints
      exact hremovals redemption code (redeems_of_mints hrun hmints)

end

/-! ## A guest with a code -/

/-- A server that knows a single administrator. -/
def guestServer : Server where
  signer :=
    { jwt :=
        { authenticate _ _ := some "t"
          verifyToken _ now _ :=
            some (withCustomClaims (.admin ⟨1, false, false, true, false⟩) 1 now) }
      keys := ⟨⟨[1]⟩, ⟨[2]⟩, ⟨[3]⟩⟩ }
  ecdsa :=
    { VerifyingKey := Unit
      Signature := Unit
      fromSec1Bytes _ := none
      fromSlice _ := none
      verify _ _ _ := false }

def guestEnvironment : Environment := ⟨none, some 7, .available, none⟩

def guestHeaders : Headers := fun _ => some ⟨[116]⟩

def guest0 : State := .start 0 .empty

def guest1 : State := afterRequest guestServer guestHeaders guestEnvironment guest0 .generateCode

/-- The code 7 is handed out and redeemed. -/
def guestEvents : List Event :=
  [.exchange (exchangeOf guestServer guestHeaders guestEnvironment guest0 .generateCode),
    .exchange (exchangeOf guestServer guestHeaders guestEnvironment guest1 (.redeemCode ⟨7⟩))]

theorem code_buys_one_session_guest :
    ∃ generation, PaidBy guestServer guest0 guestEvents generation 1 ⟨7⟩ := by
  have hrun : Run (Api.Step guestServer) guest0 guestEvents (afterRequest guestServer
      guestHeaders guestEnvironment guest1 (.redeemCode ⟨7⟩)) :=
    .snoc (.snoc .nil .exchange) .exchange
  have hredeems : Redeems guestEvents 1 ⟨7⟩ := ⟨_, _, rfl, rfl, rfl, rfl, rfl⟩
  obtain ⟨source, _, hpaid⟩ := (code_buys_one_session hrun).1
  exact ⟨source 1, hpaid 1 ⟨7⟩ hredeems⟩

end ScdtServer.Redemption
