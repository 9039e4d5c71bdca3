import ScdtServer.CtfArchive.Api

/-!
# Where authority comes from

Every token that the server has produced has an origin among the exchanges
before it.  The origin of an administrator's token is a verified signature on a
challenge that was issued for the same key.
-/

namespace ScdtServer.Authority

open ScdtServer.Transition
open ScdtServer.Http
open ScdtServer.Models
open ScdtServer.Jwt
open ScdtServer.Auth
open ScdtServer.Tables
open ScdtServer.Api

variable {server : Server} {events : List Event} {token : Token}

/-! ## What is promised about jwt_simple -/

/-- A text that a request presents verifies under a key of the server only if
the server has produced it with that key, for the claims it verifies to. -/
def Unforged (server : Server) (state : State) (event : Event) : Prop :=
  ∀ exchange, event = .exchange exchange → ∀ name value text,
    exchange.headers name = some value → value.toStr = some text →
      ∀ key, key = server.signer.keys.adminKey ∨ key = server.signer.keys.challengeKey ∨
          key = server.signer.keys.userKey →
        ∀ claims, server.signer.jwt.verifyToken key state.now text = some claims →
          ∃ issued ∈ state.issued, issued.key = key ∧ issued.claims = claims ∧
            issued.text = text

/-- The claims can be read off a token's text. -/
def Readable (jwt : JwtSimple) : Prop :=
  ∀ key key' claims claims' text, jwt.authenticate key claims = some text →
    jwt.authenticate key' claims' = some text → claims = claims'

/-! ## Origins of tokens -/

/-- `initiate_challenge` has minted a token for the key `id`, with the random
bytes as its challenge. -/
structure Initiated (server : Server) (id : UInt8) (bytes : Vector UInt8 32) (token : Token)
    (exchange : Exchange) : Prop where
  request : exchange.request = .initiateChallenge id
  random : exchange.environment.challengeBytes = some bytes
  minted : exchange.minted = some token
  key : token.key = server.signer.keys.challengeKey
  custom : token.claims.custom = .challenge ⟨Base64.encode bytes.toList, id⟩

/-- `finish_challenge` has minted a token for the administrator, whose `r||s`
verified on the bytes under the key with the administrator's number. -/
structure Finished (server : Server) (admin : JWTAdmin) (bytes : Vector UInt8 32)
    (token : Token) (exchange : Exchange) : Prop where
  request : ∃ r s rBytes sBytes, exchange.request = .finishChallenge r s ∧
    Base64.decode r = some rBytes ∧ Base64.decode s = some sBytes ∧
    Verifies server.ecdsa admin.id bytes.toList (rBytes ++ sBytes)
  minted : exchange.minted = some token
  key : token.key = server.signer.keys.adminKey
  custom : token.claims.custom = .admin admin

/-- In the course of `events` the challenge was issued. -/
def ChallengeIssued (server : Server) (events : List Event) (id : UInt8)
    (bytes : Vector UInt8 32) (token : Token) : Prop :=
  keyExists id = true ∧
    ∃ exchange, .exchange exchange ∈ events ∧ Initiated server id bytes token exchange

/-- In the course of `events` a challenge was issued and then finished by a
signature. -/
def SessionMinted (server : Server) (events : List Event) (admin : JWTAdmin)
    (token : Token) : Prop :=
  ∃ before after finish bytes challenge, events = before ++ .exchange finish :: after ∧
    ChallengeIssued server before admin.id bytes challenge ∧
    Finished server admin bytes token finish

/-- The administrator has the permissions that are listed for the key: the first key
may do everything, the second one may only invite. -/
def Listed (admin : JWTAdmin) : Prop :=
  admin =
      { id := 0, canDocker := true, canCreate := true, canInvite := true, canHostDemo := true } ∨
    admin =
      { id := 1, canDocker := false, canCreate := false, canInvite := true, canHostDemo := false }

theorem listed_of_adminKey {id : UInt8} {key : AdminKey} (hfound : adminKey id = some key) :
    Listed key.admin := by
  have hmem : key ∈ adminKeys := List.mem_of_find?_eq_some hfound
  rcases List.mem_pair.mp hmem with rfl | rfl
  · exact .inl rfl
  · exact .inr rfl

/-- What the claims of a token say about its past. -/
inductive Origin (server : Server) (events : List Event) (token : Token) : Prop
  | challenge {id : UInt8} {bytes : Vector UInt8 32}
      (hissued : ChallengeIssued server events id bytes token)
      (hcustom : token.claims.custom = .challenge ⟨Base64.encode bytes.toList, id⟩)
  | admin {admin : JWTAdmin} (hlisted : Listed admin)
      (hminted : SessionMinted server events admin token)
      (hcustom : token.claims.custom = .admin admin)
  | user {code : GuestCode} (hcustom : token.claims.custom = .user ⟨code⟩)

theorem ChallengeIssued.append {id : UInt8} {bytes : Vector UInt8 32}
    (hissued : ChallengeIssued server events id bytes token) (more : List Event) :
    ChallengeIssued server (events ++ more) id bytes token := by
  obtain ⟨hexists, exchange, hmem, hinitiated⟩ := hissued
  exact ⟨hexists, exchange, List.mem_append_left more hmem, hinitiated⟩

theorem SessionMinted.append {admin : JWTAdmin}
    (hminted : SessionMinted server events admin token) (more : List Event) :
    SessionMinted server (events ++ more) admin token := by
  obtain ⟨before, after, finish, bytes, challenge, rfl, hissued, hfinished⟩ := hminted
  exact ⟨before, after ++ more, finish, bytes, challenge, by simp, hissued, hfinished⟩

theorem Origin.append (horigin : Origin server events token) (more : List Event) :
    Origin server (events ++ more) token := by
  cases horigin with
  | challenge hissued hcustom => exact .challenge (hissued.append more) hcustom
  | admin hlisted hminted hcustom => exact .admin hlisted (hminted.append more) hcustom
  | user hcustom => exact .user hcustom

section

variable {headers : Headers} {environment : Environment} {state : State} {request : Request}

/-- Whatever is minted is genuine. -/
theorem genuine_of_minted
    (hminted : (serve server headers environment state request).minted = some token) :
    token.Genuine server.signer.jwt := by
  rcases minted_cases hminted with
    ⟨id, _, hinitiated⟩ | ⟨r, s, jwtChallenge, _, _, hfinished⟩ | ⟨code, _, hredeemed⟩
  · obtain ⟨bytes, _, _, _, _, hgenuine⟩ := initiateChallenge_eq_ok hinitiated
    exact hgenuine
  · obtain ⟨rBytes, sBytes, decoded, key, _, _, _, _, _, _, _, hgenuine⟩ :=
      finishChallenge_eq_ok hfinished
    exact hgenuine
  · exact (Guest.redeemCode_eq_ok hredeemed).2.2

end

/-! ## Runs -/

/-- What an extractor accepts was issued with its key. -/
theorem issued_of_extracted {T : Type} [KeyedJWT T] {state : State} {exchange : Exchange}
    {value : T} (hunforged : Unforged server state (.exchange exchange))
    (hkey : KeyedJWT.key T server.signer.keys = server.signer.keys.adminKey ∨
      KeyedJWT.key T server.signer.keys = server.signer.keys.challengeKey ∨
      KeyedJWT.key T server.signer.keys = server.signer.keys.userKey)
    (hextracted : fromRequestParts server.signer T state.now exchange.headers = .ok value) :
    ∃ issued ∈ state.issued, issued.key = KeyedJWT.key T server.signer.keys ∧
      issued.claims.custom = KeyedJWT.serialize value ∧
      presented T exchange.headers = some issued.text := by
  obtain ⟨text, claims, hpresented, hverified, hcustom⟩ := fromRequestParts_eq_ok hextracted
  obtain ⟨header, hheader, htext⟩ := Option.bind_eq_some_iff.mp hpresented
  obtain ⟨issued, hmem, hissuedKey, hclaims, hissuedText⟩ :=
    hunforged exchange rfl _ _ _ hheader htext _ hkey _ hverified
  refine ⟨issued, hmem, hissuedKey, ?_, ?_⟩
  · rw [hclaims]
    exact hcustom
  · rw [hissuedText]
    exact hpresented

/-- A challenge that is accepted was issued, and for the key it names. -/
theorem challenge_of_extracted {state : State} {exchange : Exchange}
    {jwtChallenge : JWTChallenge}
    (horigins : ∀ issued ∈ state.issued, Origin server events issued)
    (hunforged : Unforged server state (.exchange exchange))
    (hextracted :
      fromRequestParts server.signer JWTChallenge state.now exchange.headers = .ok jwtChallenge) :
    ∃ bytes challenge, jwtChallenge.challenge = Base64.encode bytes.toList ∧
      ChallengeIssued server events jwtChallenge.id bytes challenge := by
  obtain ⟨issued, hmem, _, hcustom, _⟩ :=
    issued_of_extracted hunforged (.inr (.inl rfl)) hextracted
  cases horigins issued hmem with
  | @challenge id bytes hissued hchallenge =>
      have hclaims : (⟨Base64.encode bytes.toList, id⟩ : JWTChallenge) = jwtChallenge :=
        CustomClaims.challenge.inj (hchallenge.symm.trans hcustom)
      rw [← hclaims]
      exact ⟨bytes, issued, rfl, hissued⟩
  | admin _ _ hadmin => cases hadmin.symm.trans hcustom
  | user huser => cases huser.symm.trans hcustom

/-- A token minted by a request has its origin in that request. -/
theorem origin_of_minted {state : State} {headers : Headers} {environment : Environment}
    {request : Request} (horigins : ∀ issued ∈ state.issued, Origin server events issued)
    (hunforged : Unforged server state
      (.exchange (exchangeOf server headers environment state request)))
    (hminted : (serve server headers environment state request).minted = some token) :
    Origin server
      (events ++ [.exchange (exchangeOf server headers environment state request)]) token := by
  rcases minted_cases hminted with
    ⟨id, rfl, hinitiated⟩ | ⟨r, s, jwtChallenge, rfl, hextracted, hfinished⟩ |
      ⟨code, rfl, hredeemed⟩
  · obtain ⟨bytes, hrandom, hexists, hkey, hcustom, _⟩ := initiateChallenge_eq_ok hinitiated
    apply Origin.challenge _ hcustom
    exact ⟨hexists, _, List.mem_append_right _ (List.mem_singleton_self _),
      { request := rfl, random := hrandom, minted := hminted, key := hkey, custom := hcustom }⟩
  · obtain ⟨bytes, challenge, hencoded, hissued⟩ :=
      challenge_of_extracted horigins hunforged hextracted
    obtain ⟨rBytes, sBytes, decoded, key, hr, hs, hdecoded, hverifies, hadminKey, hkey,
      hcustom, _⟩ := finishChallenge_eq_ok hfinished
    have hbytes : decoded = bytes.toList := by
      rw [hencoded, Base64.decode_encode] at hdecoded
      exact (Option.some.inj hdecoded).symm
    have hid : key.admin.id = jwtChallenge.id := adminKey_id hadminKey
    apply Origin.admin (listed_of_adminKey hadminKey) _ hcustom
    refine ⟨events, [], _, bytes, challenge, rfl, by rw [hid]; exact hissued, ?_⟩
    refine { request := ?_, minted := hminted, key := hkey, custom := hcustom }
    refine ⟨r, s, rBytes, sBytes, rfl, hr, hs, ?_⟩
    rw [hid, ← hbytes]
    exact hverifies
  · exact .user (Guest.redeemCode_eq_ok hredeemed).2.1

/-- Every token has an origin in the run. -/
theorem origin_of_run {now : Time} {database : Database} {state : State}
    (hrun : Run (restrict (Step server) (Unforged server)) (.start now database)
      events state) :
    ∀ issued ∈ state.issued, Origin server events issued := by
  induction hrun with
  | nil => nofun
  | snoc _ hfinal ih =>
      obtain ⟨hstep, hunforged⟩ := hfinal
      cases hstep with
      | exchange =>
          intro issued hmem
          cases List.mem_append.mp hmem with
          | inl hnew => exact origin_of_minted ih hunforged (Option.mem_toList.mp hnew)
          | inr hold => exact (ih issued hold).append _
      | expire => exact fun issued hmem => (ih issued hmem).append _
      | elapse => exact fun issued hmem => (ih issued hmem).append _

theorem genuine_of_run {now : Time} {database : Database} {state : State}
    (hrun : Run (Step server) (.start now database) events state) :
    ∀ issued ∈ state.issued, issued.Genuine server.signer.jwt := by
  induction hrun with
  | nil => nofun
  | snoc _ hfinal ih =>
      cases hfinal with
      | exchange =>
          intro issued hmem
          cases List.mem_append.mp hmem with
          | inl hnew => exact genuine_of_minted (Option.mem_toList.mp hnew)
          | inr hold => exact ih issued hold
      | expire => exact ih
      | elapse => exact ih

/-! ## What the extractors accept -/

/-- A token that the extractor of `T` accepts was issued for a `T`. -/
def Separate (server : Server) (state : State) (headers : Headers) (T : Type) [KeyedJWT T] :
    Prop :=
  ∀ issued ∈ state.issued, presented T headers = some issued.text → ∀ value : T,
    fromRequestParts server.signer T state.now headers = .ok value →
      issued.claims.custom = KeyedJWT.serialize value

/-- What can be said about an exchange that comes after `events`. -/
structure Justified (server : Server) (events : List Event) (state : State)
    (exchange : Exchange) : Prop where
  /-- An administrator is known to the server by a session that a signature on
  an earlier challenge has bought. -/
  admin : ∀ admin,
    fromRequestParts server.signer JWTAdmin state.now exchange.headers = .ok admin →
      Listed admin ∧ ∃ token, presented JWTAdmin exchange.headers = some token.text ∧
        SessionMinted server events admin token
  separateAdmin : Separate server state exchange.headers JWTAdmin
  separateChallenge : Separate server state exchange.headers JWTChallenge
  separateUser : Separate server state exchange.headers JWTUser
  finish : ∀ r s, exchange.request = .finishChallenge r s →
    exchange.reply ≠ .panicked .decodeChallenge ∧
      ∀ body, exchange.reply ≠ .response .internalServerError body

theorem separate_of_issued {T : Type} [KeyedJWT T] {state : State} {exchange : Exchange}
    (hreadable : Readable server.signer.jwt)
    (hgenuine : ∀ issued ∈ state.issued, issued.Genuine server.signer.jwt)
    (hunforged : Unforged server state (.exchange exchange))
    (hkey : KeyedJWT.key T server.signer.keys = server.signer.keys.adminKey ∨
      KeyedJWT.key T server.signer.keys = server.signer.keys.challengeKey ∨
      KeyedJWT.key T server.signer.keys = server.signer.keys.userKey) :
    Separate server state exchange.headers T := by
  intro issued hissued hpresented value hextracted
  obtain ⟨accepted, haccepted, _, hcustom, htext⟩ :=
    issued_of_extracted hunforged hkey hextracted
  have hsame : issued.text = accepted.text :=
    Option.some.inj (hpresented.symm.trans htext)
  have hgenuine' := hgenuine accepted haccepted
  unfold Token.Genuine at hgenuine'
  rw [← hsame] at hgenuine'
  rw [hreadable _ _ _ _ _ (hgenuine issued hissued) hgenuine']
  exact hcustom

theorem finish_reply {state : State} {headers : Headers} {environment : Environment}
    {r s : String} (horigins : ∀ issued ∈ state.issued, Origin server events issued)
    (hunforged : Unforged server state
      (.exchange (exchangeOf server headers environment state (.finishChallenge r s)))) :
    let reply := (serve server headers environment state (.finishChallenge r s)).reply
    reply ≠ .panicked .decodeChallenge ∧ ∀ body, reply ≠ .response .internalServerError body := by
  dsimp only [serve, authorized]
  split
  · rename_i jwtChallenge hextracted
    obtain ⟨bytes, challenge, hencoded, hexists, _⟩ :=
      challenge_of_extracted horigins hunforged hextracted
    have hdecoded : Base64.decode jwtChallenge.challenge = some bytes.toList := by
      rw [hencoded, Base64.decode_encode]
    cases houtcome : finishChallenge server.ecdsa server.signer state.now jwtChallenge r s with
    | ok token => exact ⟨nofun, nofun⟩
    | error abort =>
        have hnot := finishChallenge_eq_error hdecoded hexists houtcome
        cases abort with
        | error status =>
            refine ⟨nofun, ?_⟩
            intro body hreply
            injection hreply with hstatus
            exact hnot.2 (congrArg Abort.error hstatus)
        | panic site =>
            refine ⟨?_, nofun⟩
            intro hreply
            injection hreply with hsite
            exact hnot.1 (congrArg Abort.panic hsite)
  · rename_i status hrefused
    rw [fromRequestParts_eq_error hrefused]
    exact ⟨nofun, nofun⟩

/-- Authority comes only from a signature, whatever any number of clients
present. -/
theorem authority_from_signature (hreadable : Readable server.signer.jwt) {now : Time}
    {database : Database} {state next : State} {exchange : Exchange}
    (hrun : Run (restrict (Step server) (Unforged server)) (.start now database)
      events state)
    (hstep : restrict (Step server) (Unforged server) state (.exchange exchange) next) :
    Justified server events state exchange := by
  have horigins := origin_of_run hrun
  have hgenuine := genuine_of_run hrun.unrestrict
  obtain ⟨hstep, hunforged⟩ := hstep
  refine
    { admin := ?_
      separateAdmin := separate_of_issued hreadable hgenuine hunforged (.inl rfl)
      separateChallenge := separate_of_issued hreadable hgenuine hunforged (.inr (.inl rfl))
      separateUser := separate_of_issued hreadable hgenuine hunforged (.inr (.inr rfl))
      finish := ?_ }
  · intro admin hextracted
    obtain ⟨issued, hmem, _, hcustom, htext⟩ :=
      issued_of_extracted hunforged (.inl rfl) hextracted
    cases horigins issued hmem with
    | challenge _ hchallenge => cases hchallenge.symm.trans hcustom
    | @admin admin' hlisted hminted hadmin =>
        obtain rfl : admin' = admin := CustomClaims.admin.inj (hadmin.symm.trans hcustom)
        exact ⟨hlisted, issued, htext, hminted⟩
    | user huser => cases huser.symm.trans hcustom
  · intro r s hrequest
    cases hstep with
    | @exchange headers environment _ request =>
        obtain rfl : request = .finishChallenge r s := hrequest
        exact finish_reply horigins hunforged

/-! ## A session of the first administrator -/

def sessionKeys : JWTKeys := ⟨⟨[1]⟩, ⟨[2]⟩, ⟨[3]⟩⟩

def sessionChallenge : Vector UInt8 32 := Vector.replicate 32 0

def sessionSignature : List UInt8 := List.replicate 32 7

def challengeClaims : JWTClaims :=
  withCustomClaims (.challenge ⟨Base64.encode sessionChallenge.toList, 0⟩) (fromSecs 10) 0

def adminClaims : JWTClaims :=
  withCustomClaims (.admin ⟨0, true, true, true, true⟩) (fromMins 30) 0

/-- The two tokens of the session have the texts `c` and `a`. -/
def sessionJwt : JwtSimple where
  authenticate _ claims :=
    if claims = challengeClaims then some "c"
    else if claims = adminClaims then some "a"
    else none
  verifyToken key _ text :=
    if key = sessionKeys.challengeKey ∧ text = "c" then some challengeClaims
    else if key = sessionKeys.adminKey ∧ text = "a" then some adminClaims
    else none

/-- One signature verifies. -/
def sessionEcdsa : Ecdsa where
  VerifyingKey := List UInt8
  Signature := List UInt8
  fromSec1Bytes bytes := some bytes
  fromSlice bytes := if bytes.length = 64 then some bytes else none
  verify _ _ signature := signature == sessionSignature ++ sessionSignature

def sessionServer : Server := ⟨⟨sessionJwt, sessionKeys⟩, sessionEcdsa⟩

def sessionEnvironment : Environment := ⟨some sessionChallenge, none, .available, none⟩

/-- A header with the first token. -/
def finishHeaders : Headers
  | .challenge => some ⟨[99]⟩
  | _ => none

/-- A header with the second token. -/
def wipeHeaders : Headers
  | .adminJwt => some ⟨[97]⟩
  | _ => none

def sessionFinish : Request :=
  .finishChallenge (Base64.encode sessionSignature) (Base64.encode sessionSignature)

def session0 : State := .start 0 .empty

def session1 : State :=
  afterRequest sessionServer (fun _ => none) sessionEnvironment session0 (.initiateChallenge 0)

/-- The session's two tokens verify only to what they were minted for. -/
theorem session_verifies {key : HS256Key} {now : Time} {text : String} {claims : JWTClaims}
    (hverified : sessionJwt.verifyToken key now text = some claims) :
    (⟨key, claims, text⟩ : Token) = ⟨sessionKeys.challengeKey, challengeClaims, "c"⟩ ∨
      (⟨key, claims, text⟩ : Token) = ⟨sessionKeys.adminKey, adminClaims, "a"⟩ := by
  unfold sessionJwt at hverified
  dsimp only at hverified
  split at hverified
  · rename_i hboth
    rw [hboth.1, hboth.2, ← Option.some.inj hverified]
    exact .inl rfl
  · split at hverified
    · rename_i hboth
      rw [hboth.1, hboth.2, ← Option.some.inj hverified]
      exact .inr rfl
    · cases hverified

theorem session_readable : Readable sessionJwt := by
  intro key key' claims claims' text hfirst hsecond
  have htexts : (some "c" : Option String) ≠ some "a" := by decide
  unfold sessionJwt at hfirst hsecond
  dsimp only at hfirst hsecond
  split at hfirst
  · rename_i hclaims
    split at hsecond
    · rename_i hclaims'
      rw [hclaims, hclaims']
    · split at hsecond
      · exact absurd (hfirst.trans hsecond.symm) htexts
      · cases hsecond
  · split at hfirst
    · rename_i hclaims
      split at hsecond
      · exact absurd (hsecond.trans hfirst.symm) htexts
      · split at hsecond
        · rename_i hclaims'
          rw [hclaims, hclaims']
        · cases hsecond
    · cases hfirst

theorem session1_issued :
    session1.issued = [⟨sessionKeys.challengeKey, challengeClaims, "c"⟩] := by
  decide

def session2 : State :=
  afterRequest sessionServer finishHeaders sessionEnvironment session1 sessionFinish

theorem session2_issued :
    session2.issued = [⟨sessionKeys.adminKey, adminClaims, "a"⟩,
      ⟨sessionKeys.challengeKey, challengeClaims, "c"⟩] := by
  decide

theorem session_unforged (headers : Headers) (request : Request) (state : State)
    (hissued : ∀ name value text, headers name = some value → value.toStr = some text →
      ∀ token ∈ [(⟨sessionKeys.challengeKey, challengeClaims, "c"⟩ : Token),
        ⟨sessionKeys.adminKey, adminClaims, "a"⟩], token.text = text → token ∈ state.issued) :
    Unforged sessionServer state
      (.exchange (exchangeOf sessionServer headers sessionEnvironment state request)) := by
  intro exchange hexchange name value text hname htext key _ claims hverified
  obtain rfl := Event.exchange.inj hexchange
  have hmem := hissued name value text hname htext
  cases session_verifies hverified with
  | inl htoken =>
      injection htoken with hkey hclaims htext'
      have hissued' := hmem _ List.mem_cons_self htext'.symm
      exact ⟨_, hissued', hkey.symm, hclaims.symm, htext'.symm⟩
  | inr htoken =>
      injection htoken with hkey hclaims htext'
      have hissued' := hmem _ (List.mem_cons_of_mem _ (List.mem_singleton_self _)) htext'.symm
      exact ⟨_, hissued', hkey.symm, hclaims.symm, htext'.symm⟩

/-- The first administrator asks for a challenge, signs it and wipes the
codes. -/
theorem authority_from_signature_session :
    Justified sessionServer
      [.exchange (exchangeOf sessionServer (fun _ => none) sessionEnvironment session0
        (.initiateChallenge 0)),
      .exchange (exchangeOf sessionServer finishHeaders sessionEnvironment session1
        sessionFinish)]
      session2
      (exchangeOf sessionServer wipeHeaders sessionEnvironment session2 .wipeCodes) := by
  have hfirst : Unforged sessionServer session0 (.exchange (exchangeOf sessionServer
      (fun _ => none) sessionEnvironment session0 (.initiateChallenge 0))) :=
    session_unforged _ _ _ nofun
  have hsecond : Unforged sessionServer session1 (.exchange (exchangeOf sessionServer
      finishHeaders sessionEnvironment session1 sessionFinish)) := by
    apply session_unforged
    intro name value text hname htext token hmem htoken
    cases name with
    | challenge =>
        obtain rfl := Option.some.inj hname
        have hc : some "c" = some text := (show _ = some "c" by decide).symm.trans htext
        rw [session1_issued]
        cases List.mem_cons.mp hmem with
        | inl hfound => exact List.mem_singleton.mpr hfound
        | inr hfound =>
            rw [List.mem_singleton.mp hfound, ← Option.some.inj hc] at htoken
            exact absurd htoken (by decide)
    | adminJwt => cases hname
    | userJwt => cases hname
  have hthird : Unforged sessionServer session2 (.exchange (exchangeOf sessionServer
      wipeHeaders sessionEnvironment session2 .wipeCodes)) := by
    apply session_unforged
    intro name value text _ _ token hmem _
    rw [session2_issued]
    simpa [or_comm] using hmem
  exact authority_from_signature session_readable
    (.snoc (.snoc .nil ⟨.exchange, hfirst⟩) ⟨.exchange, hsecond⟩) ⟨.exchange, hthird⟩

end ScdtServer.Authority
