import ScdtServer.CtfArchive.Auth
import ScdtServer.CtfArchive.Guest
import ScdtServer.CtfArchive.Ctfs
import ScdtServer.CtfArchive.Categories
import ScdtServer.CtfArchive.Challenges

/-!
# The API as a whole

One process of the server: its keys, the guest codes, the database, and the
tokens that it has produced.  Each handler makes at most one access to what
requests share, so a request is one step.
-/

namespace ScdtServer.Api

open ScdtServer.Transition
open ScdtServer.Http
open ScdtServer.Models
open ScdtServer.Jwt
open ScdtServer.Auth
open ScdtServer.Codes
open ScdtServer.Dates
open ScdtServer.Tables
open ScdtServer.Challenges

/-- What stays fixed while a process runs. -/
structure Server where
  signer : Signer
  ecdsa : Ecdsa

structure State where
  now : Time
  codes : InMemorySet GuestCode
  database : Database
  /-- The tokens produced so far. -/
  issued : List Token

/-- A process starts with no codes and no tokens on the database it finds. -/
def State.start (now : Time) (database : Database) : State where
  now := now
  codes := .default
  database := database
  issued := []

inductive Request
  | ctfsList
  | ctfsCreate (ctf : Ctfs.CreateCtf)
  | categoriesGet (ctfId : ℤ)
  | categoriesCreate (category : Categories.CreateCategory)
  | challengesList (categoryId : ℤ)
  | getMetadata (challengeId : ℤ)
  | challengesCreate (query : CreateChallenge) (multi : NextField)
  | getArchive (challengeId : ℤ)
  | start (challengeId : ℤ)
  | configureDocker (challengeId : ℤ) (imageName : String) (portMap : ExposePorts)
  | getFlag (challengeId : ℤ)
  | setConnectionInstructions (challengeId : ℤ) (body : Option (List UInt8))
  | hostDemo (challengeId : ℤ)
  | setArchive (challengeId : ℤ) (multi : NextField)
  | initiateChallenge (id : UInt8)
  | finishChallenge (r s : String)
  | generateCode
  | wipeCodes
  | redeemCode (code : GuestCode)

/-- What the surroundings contribute to serving a request: random numbers, the
way to the database and the answer of challd. -/
structure Environment where
  challengeBytes : Option (Vector UInt8 32)
  code : Option UInt32
  service : Service
  challd : Option (Except ChalldClient.ChalldError String)

inductive Body
  | empty
  | text (text : String)
  | error (text : ErrorText)
  | id (id : ℤ)
  | ids (ids : List ℤ)
  | code (code : GuestCode)
  | ctfs (ctfs : List Ctfs.Ctf)
  | categories (categories : List Categories.Category)
  | challenge (challenge : Challenge)
  | archive (archive : List UInt8)

inductive Reply
  | response (status : StatusCode) (body : Body)
  | panicked (site : Panic)

/-- A request with all that serving it has led to. -/
structure Exchange where
  headers : Headers
  request : Request
  environment : Environment
  reply : Reply
  minted : Option Token
  spawned : Option (Timer GuestCode)
  sent : Option ContainerRequest

/-! ## Responses -/

/-- The response to a handler that returns only a status. -/
def ofStatus : Handler Empty StatusCode → Reply
  | .ok status => .response status .empty
  | .error (.panic site) => .panicked site

def ofValue {A : Type} (body : A → Body) : Handler StatusCode A → Reply
  | .ok value => .response .ok (body value)
  | .error (.error status) => .response status .empty
  | .error (.panic site) => .panicked site

def ofCreated : Handler StatusCode (StatusCode × ℤ) → Reply
  | .ok (status, id) => .response status (.id id)
  | .error (.error status) => .response status .empty
  | .error (.panic site) => .panicked site

def ofTotal {A : Type} (body : A → Body) : Handler Empty A → Reply
  | .ok value => .response .ok (body value)
  | .error (.panic site) => .panicked site

def ofContainer (body : String → Body) :
    Handler (StatusCode × ErrorText) String → Reply
  | .ok config => .response .ok (body config)
  | .error (.error (status, text)) => .response status (.error text)
  | .error (.panic site) => .panicked site

/-! ## Serving a request -/

/-- What serving a request leads to. -/
structure Served where
  codes : InMemorySet GuestCode
  database : Database
  reply : Reply
  minted : Option Token
  spawned : Option (Timer GuestCode)
  sent : Option ContainerRequest

variable (server : Server) (headers : Headers) (environment : Environment) (state : State)

/-- Nothing changes. -/
def unchanged (reply : Reply) : Served where
  codes := state.codes
  database := state.database
  reply := reply
  minted := none
  spawned := none
  sent := none

/-- Only the database may change. -/
def onDatabase {E A : Type} (reply : Handler E A → Reply)
    (outcome : Handler E A × Database) : Served :=
  { unchanged state (reply outcome.1) with database := outcome.2 }

/-- A token is produced or not. -/
def onToken (outcome : Handler StatusCode Token) : Served :=
  { unchanged state (ofValue (fun token => .text token.text) outcome) with
    minted := outcome.toOption }

/-- A container is asked for, if the handler comes to that. -/
def onContainer (body : String → Body)
    (outcome : Handler (StatusCode × ErrorText) ContainerRequest × Database) : Served :=
  { unchanged state
      (ofContainer body (outcome.1 >>= fun _ => containerAnswer environment.challd)) with
    database := outcome.2
    sent := outcome.1.toOption }

/-- Handlers that take a `T` run only with one that the extractor accepts. -/
def authorized (T : Type) [KeyedJWT T] (handler : T → Served) : Served :=
  match fromRequestParts server.signer T state.now headers with
  | .ok value => handler value
  | .error status => unchanged state (.response status .empty)

def serve : Request → Served
  | .ctfsList =>
      authorized server headers state JWTUser fun user =>
        onDatabase state (ofTotal .ctfs) (Ctfs.list environment.service state.database user)
  | .ctfsCreate ctf =>
      authorized server headers state JWTAdmin fun admin =>
        onDatabase state ofCreated (Ctfs.create environment.service state.database admin ctf)
  | .categoriesGet ctfId =>
      authorized server headers state JWTUser fun user =>
        onDatabase state (ofValue .categories)
          (Categories.get environment.service state.database ctfId user)
  | .categoriesCreate category =>
      authorized server headers state JWTAdmin fun admin =>
        onDatabase state ofCreated
          (Categories.create environment.service state.database admin category)
  | .challengesList categoryId =>
      authorized server headers state JWTUser fun user =>
        onDatabase state (ofValue .ids)
          (Challenges.list environment.service state.database categoryId user)
  | .getMetadata challengeId =>
      authorized server headers state JWTUser fun user =>
        onDatabase state (ofValue .challenge)
          (Challenges.getMetadata environment.service state.database challengeId user)
  | .challengesCreate query multi =>
      authorized server headers state JWTAdmin fun admin =>
        onDatabase state ofCreated
          (Challenges.create environment.service state.database query admin multi)
  | .getArchive challengeId =>
      authorized server headers state JWTUser fun user =>
        onDatabase state (ofValue .archive)
          (Challenges.getArchive environment.service state.database challengeId user)
  | .start challengeId =>
      authorized server headers state JWTUser fun user =>
        onContainer environment state .text
          (Challenges.start environment.service state.database challengeId user)
  | .configureDocker challengeId imageName portMap =>
      authorized server headers state JWTAdmin fun admin =>
        onDatabase state ofStatus
          (Challenges.configureDocker environment.service state.database admin challengeId
            imageName portMap)
  | .getFlag challengeId =>
      authorized server headers state JWTUser fun user =>
        onDatabase state (ofValue .text)
          (Challenges.getFlag environment.service state.database challengeId user)
  | .setConnectionInstructions challengeId body =>
      authorized server headers state JWTAdmin fun admin =>
        match connectionInstructions body with
        | .ok instructions =>
            onDatabase state ofStatus
              (Challenges.setConnectionInstructions environment.service state.database admin
                challengeId instructions)
        | .error (status, text) => unchanged state (.response status (.text text))
  | .hostDemo challengeId =>
      authorized server headers state JWTAdmin fun admin =>
        onContainer environment state (fun _ => .empty)
          (Challenges.hostDemo environment.service state.database challengeId admin)
  | .setArchive challengeId multi =>
      authorized server headers state JWTAdmin fun admin =>
        onDatabase state ofStatus
          (Challenges.setArchive environment.service state.database challengeId admin multi)
  | .initiateChallenge id =>
      onToken state
        (Auth.initiateChallenge server.signer state.now environment.challengeBytes id)
  | .finishChallenge r s =>
      authorized server headers state JWTChallenge fun jwtChallenge =>
        onToken state
          (Auth.finishChallenge server.ecdsa server.signer state.now jwtChallenge r s)
  | .generateCode =>
      authorized server headers state JWTAdmin fun admin =>
        let (outcome, codes) :=
          Guest.generateCode state.codes state.now admin environment.code
        { unchanged state (ofValue .code outcome) with
          codes := codes
          spawned := outcome.toOption.map fun code =>
            state.codes.nextTimer state.now code Guest.codeLifetime }
  | .wipeCodes =>
      authorized server headers state JWTAdmin fun admin =>
        let (status, codes) := Guest.wipeCodes state.codes admin
        { unchanged state (.response status .empty) with codes := codes }
  | .redeemCode code =>
      let (outcome, codes) := Guest.redeemCode server.signer state.codes state.now code
      { onToken state outcome with codes := codes }

/-! ## Steps -/

inductive Event
  | exchange (exchange : Exchange)
  | expire (timer : Timer GuestCode)
  | elapse (duration : Time)

/-- The exchange that serving a request amounts to. -/
def exchangeOf (request : Request) : Exchange :=
  let served := serve server headers environment state request
  { headers := headers
    request := request
    environment := environment
    reply := served.reply
    minted := served.minted
    spawned := served.spawned
    sent := served.sent }

/-- The state after a request has been served. -/
def afterRequest (request : Request) : State :=
  let served := serve server headers environment state request
  { now := state.now
    codes := served.codes
    database := served.database
    issued := served.minted.toList ++ state.issued }

inductive Step (server : Server) : State → Event → State → Prop
  | exchange {headers : Headers} {environment : Environment} {state : State}
      {request : Request} :
      Step server state (.exchange (exchangeOf server headers environment state request))
        (afterRequest server headers environment state request)
  | expire {state : State} {timer : Timer GuestCode} (hpending : timer ∈ state.codes.timers)
      (hdue : timer.due ≤ state.now) :
      Step server state (.expire timer) { state with codes := state.codes.expire timer }
  | elapse {state : State} (duration : Time) :
      Step server state (.elapse duration) { state with now := state.now + duration }

/-! ## Which requests mint tokens -/

section

variable {server headers environment state} {request : Request} {token : Token}

/-- Behind the extractor of `T`, tokens are minted only by the handler. -/
theorem authorized_minted {T : Type} [KeyedJWT T] {handler : T → Served}
    (hminted : (authorized server headers state T handler).minted = some token) :
    ∃ value, fromRequestParts server.signer T state.now headers = .ok value ∧
      (handler value).minted = some token := by
  unfold authorized at hminted
  split at hminted
  · rename_i value hvalue
    exact ⟨value, hvalue, hminted⟩
  · cases hminted

theorem onToken_minted (state : State) {outcome : Handler StatusCode Token} :
    (onToken state outcome).minted = some token ↔ outcome = .ok token := by
  cases outcome with
  | error abort => constructor <;> nofun
  | ok found => simp [onToken, Except.toOption]

/-- The three places at which tokens are minted. -/
theorem minted_cases
    (hminted : (serve server headers environment state request).minted = some token) :
    (∃ id, request = .initiateChallenge id ∧
      initiateChallenge server.signer state.now environment.challengeBytes id = .ok token) ∨
    (∃ r s jwtChallenge, request = .finishChallenge r s ∧
      fromRequestParts server.signer JWTChallenge state.now headers = .ok jwtChallenge ∧
      finishChallenge server.ecdsa server.signer state.now jwtChallenge r s = .ok token) ∨
    ∃ code, request = .redeemCode code ∧
      (Guest.redeemCode server.signer state.codes state.now code).1 = .ok token := by
  cases request with
  | initiateChallenge id => exact .inl ⟨id, rfl, (onToken_minted state).mp hminted⟩
  | finishChallenge r s =>
      obtain ⟨jwtChallenge, hextracted, htoken⟩ := authorized_minted hminted
      exact .inr (.inl ⟨r, s, jwtChallenge, rfl, hextracted, (onToken_minted state).mp htoken⟩)
  | redeemCode code => exact .inr (.inr ⟨code, rfl, (onToken_minted state).mp hminted⟩)
  | setConnectionInstructions challengeId body =>
      obtain ⟨admin, _, hnothing⟩ := authorized_minted hminted
      split at hnothing <;> cases hnothing
  | _ =>
      obtain ⟨value, _, hnothing⟩ := authorized_minted hminted
      cases hnothing

end

/-! ## Which requests reach challd -/

section

variable {server headers environment state} {request : Request} {sent : ContainerRequest}

/-- Behind the extractor of `T`, containers are asked for only by the handler. -/
theorem authorized_sent {T : Type} [KeyedJWT T] {handler : T → Served}
    (hsent : (authorized server headers state T handler).sent = some sent) :
    ∃ value, fromRequestParts server.signer T state.now headers = .ok value ∧
      (handler value).sent = some sent := by
  unfold authorized at hsent
  split at hsent
  · rename_i value hvalue
    exact ⟨value, hvalue, hsent⟩
  · cases hsent

theorem onContainer_sent {body : String → Body}
    {outcome : Handler (StatusCode × ErrorText) ContainerRequest × Database}
    (hsent : (onContainer environment state body outcome).sent = some sent) :
    outcome.1 = .ok sent := by
  cases houtcome : outcome.1 with
  | error abort =>
      simp only [onContainer, houtcome, Except.toOption] at hsent
      cases hsent
  | ok found =>
      simp only [onContainer, houtcome, Except.toOption] at hsent
      rw [Option.some.inj hsent]

/-- Guests start challenges in their own name; demos are for administrators who
may host them. -/
theorem sent_cases
    (hsent : (serve server headers environment state request).sent = some sent) :
    (∃ challengeId user, request = .start challengeId ∧
      fromRequestParts server.signer JWTUser state.now headers = .ok user ∧
      (containerRequest environment.service state.database challengeId
        (.guest user.code)).1 = .ok sent) ∨
    ∃ challengeId admin, request = .hostDemo challengeId ∧
      fromRequestParts server.signer JWTAdmin state.now headers = .ok admin ∧
      admin.canHostDemo = true ∧
      (containerRequest environment.service state.database challengeId .demo).1 = .ok sent := by
  cases request with
  | start challengeId =>
      obtain ⟨user, huser, hhandler⟩ := authorized_sent hsent
      exact .inl ⟨challengeId, user, rfl, huser, onContainer_sent hhandler⟩
  | hostDemo challengeId =>
      obtain ⟨admin, hadmin, hhandler⟩ := authorized_sent hsent
      have houtcome := onContainer_sent hhandler
      unfold hostDemo at houtcome
      split at houtcome
      · cases houtcome
      · rename_i hallowed
        exact .inr ⟨challengeId, admin, rfl, hadmin, by simpa using hallowed, houtcome⟩
  | setConnectionInstructions challengeId body =>
      obtain ⟨admin, _, hnothing⟩ := authorized_sent hsent
      split at hnothing <;> cases hnothing
  | initiateChallenge id => cases hsent
  | redeemCode code => cases hsent
  | _ =>
      obtain ⟨value, _, hnothing⟩ := authorized_sent hsent
      cases hnothing

end

/-! ## What requests write -/

/-- What a request can do to the database. -/
inductive Writes : Request → Database → Database → Prop
  | nothing {request : Request} {database : Database} : Writes request database database
  | ctf {ctf : Ctfs.CreateCtf} {startDate endDate : NaiveDate} {row : CtfRow}
      {database : Database} (hstart : ctf.startDate.tryInto = some startDate)
      (hend : ctf.endDate.tryInto = some endDate)
      (hstored : CtfRow.stored ⟨ctf.name, startDate, endDate⟩ = some row) :
      Writes (.ctfsCreate ctf) database (insertCtf row database).2
  | category {category : Categories.CreateCategory} {row : CategoryRow}
      {database : Database}
      (hstored : CategoryRow.stored
        ⟨category.name, category.ctfId, category.categoryType.asStr⟩ = some row) :
      Writes (.categoriesCreate category) database (insertCategory row database).2
  | challenge {query : CreateChallenge} {multi : NextField} {archive : Option (List UInt8)}
      {row : ChallengeRow} {database : Database}
      (harchive : readArchive multi = .ok archive)
      (hstored : (query.row archive).stored = some row) :
      Writes (.challengesCreate query multi) database (insertChallenge row database).2
  | docker {challengeId : ℤ} {imageName kept : String} {portMap : ExposePorts}
      {database : Database} (hstored : varchar 63 imageName = some kept) :
      Writes (.configureDocker challengeId imageName portMap) database
        (updateChallenge challengeId (configured kept portMap) database).2
  | instructions {challengeId : ℤ} {body : Option (List UInt8)}
      {instructions kept : Option String} {database : Database}
      (hbody : connectionInstructions body = .ok instructions)
      (hstored : instructions.mapM (varchar 255) = some kept) :
      Writes (.setConnectionInstructions challengeId body) database
        (updateChallenge challengeId (instructed kept) database).2
  | archive {challengeId : ℤ} {multi : NextField} {archive : Option (List UInt8)}
      {database : Database} (harchive : readArchive multi = .ok archive) :
      Writes (.setArchive challengeId multi) database
        (updateChallenge challengeId (archived archive) database).2

section

variable {server headers environment state} {request : Request}

theorem authorized_writes {T : Type} [KeyedJWT T] {handler : T → Served}
    (hhandler : ∀ value, Writes request state.database (handler value).database) :
    Writes request state.database (authorized server headers state T handler).database := by
  unfold authorized
  split
  · exact hhandler _
  · exact .nothing

/-- A statement is one way to write, or nothing is written. -/
theorem execute_writes {E A : Type} {statement : Statement A}
    (hstatement : Writes request state.database (statement state.database).2) :
    Writes request state.database
      (execute (E := E) environment.service statement state.database).2 := by
  cases execute_database E environment.service statement state.database with
  | inl hsame =>
      rw [hsame]
      exact .nothing
  | inr hdone =>
      rw [hdone]
      exact hstatement

/-- Values that are refused write nothing. -/
theorem withValues_writes {A B : Type} {values : Option A} {statement : A → Statement B}
    (hstatement : ∀ kept, values = some kept →
      Writes request state.database (statement kept state.database).2) :
    Writes request state.database (withValues values statement state.database).2 := by
  cases values with
  | none => exact .nothing
  | some kept => exact hstatement kept rfl

theorem query_writes {E A : Type} {statement : Statement A}
    (hquery : (statement state.database).2 = state.database) :
    Writes request state.database
      (execute (E := E) environment.service statement state.database).2 := by
  rw [execute_query hquery]
  exact .nothing

theorem serve_writes :
    Writes request state.database
      (serve server headers environment state request).database := by
  cases request with
  | ctfsList => exact authorized_writes fun _ => query_writes rfl
  | ctfsCreate ctf =>
      apply authorized_writes
      intro admin
      dsimp only [onDatabase, Ctfs.create]
      split
      · exact .nothing
      · split
        · exact .nothing
        · split
          · rename_i startDate endDate hstart hend
            exact execute_writes (withValues_writes fun _ hstored => .ctf hstart hend hstored)
          · exact .nothing
  | categoriesGet ctfId => exact authorized_writes fun _ => query_writes rfl
  | categoriesCreate category =>
      apply authorized_writes
      intro admin
      dsimp only [onDatabase, Categories.create]
      split
      · exact .nothing
      · exact execute_writes (withValues_writes fun _ hstored => .category hstored)
  | challengesList categoryId => exact authorized_writes fun _ => query_writes rfl
  | getMetadata challengeId =>
      exact authorized_writes fun _ => query_writes (getResult_database _)
  | challengesCreate query multi =>
      apply authorized_writes
      intro admin
      dsimp only [onDatabase, Challenges.create]
      split
      · exact .nothing
      · split
        · exact .nothing
        · rename_i archive harchive
          exact execute_writes (withValues_writes fun _ hstored => .challenge harchive hstored)
  | getArchive challengeId =>
      exact authorized_writes fun _ => query_writes (getResult_database _)
  | start challengeId =>
      exact authorized_writes fun _ => query_writes (getResult_database _)
  | configureDocker challengeId imageName portMap =>
      apply authorized_writes
      intro admin
      dsimp only [onDatabase, Challenges.configureDocker]
      split
      · exact .nothing
      · exact execute_writes (withValues_writes fun _ hstored => .docker hstored)
  | getFlag challengeId =>
      exact authorized_writes fun _ => query_writes (getResult_database _)
  | setConnectionInstructions challengeId body =>
      apply authorized_writes
      intro admin
      split
      · rename_i instructions hbody
        dsimp only [onDatabase, Challenges.setConnectionInstructions]
        split
        · exact .nothing
        · exact execute_writes (withValues_writes fun _ hstored => .instructions hbody hstored)
      · exact .nothing
  | hostDemo challengeId =>
      apply authorized_writes
      intro admin
      dsimp only [onContainer, Challenges.hostDemo]
      split
      · exact .nothing
      · exact query_writes (getResult_database _)
  | setArchive challengeId multi =>
      apply authorized_writes
      intro admin
      dsimp only [onDatabase, Challenges.setArchive]
      split
      · exact .nothing
      · split
        · exact .nothing
        · split
          · exact .nothing
          · rename_i archive harchive
            exact execute_writes (.archive harchive)
  | initiateChallenge id => exact .nothing
  | finishChallenge r s => exact authorized_writes fun _ => .nothing
  | generateCode => exact authorized_writes fun _ => .nothing
  | wipeCodes => exact authorized_writes fun _ => .nothing
  | redeemCode code => exact .nothing

end

end ScdtServer.Api
