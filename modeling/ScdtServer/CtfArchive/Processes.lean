import ScdtServer.CtfArchive.Api

/-!
# Databases that the API can lead to

The database outlives the processes of the server.  What holds of the migrated
database and survives whatever requests write holds of every database that any
number of processes leave behind.
-/

namespace ScdtServer.Processes

open ScdtServer.Transition
open ScdtServer.Http
open ScdtServer.Jwt
open ScdtServer.Tables
open ScdtServer.Challenges
open ScdtServer.Api

/-- Only requests of some kind are served. -/
def Only (condition : Database → Request → Prop) (state : State) (event : Event) : Prop :=
  ∀ exchange, event = .exchange exchange → condition state.database exchange.request

/-- The databases after any number of processes on `first`, each of which has
served only requests that satisfy `condition`. -/
inductive Leads (condition : Database → Request → Prop) (first : Database) : Database → Prop
  | here : Leads condition first first
  | process {server : Server} {now : Time} {found : Database} {events : List Event}
      {last : State} (hfound : Leads condition first found)
      (hrun : Run (restrict (Step server) (Only condition)) (.start now found) events last) :
      Leads condition first last.database

/-- The databases that come of the migrated one. -/
abbrev Reached (condition : Database → Request → Prop) (database : Database) : Prop :=
  Leads condition .empty database

/-- Every request is served. -/
def anyRequest : Database → Request → Prop := fun _ _ => True

/-- A request can be the whole of a process. -/
theorem Leads.request {condition : Database → Request → Prop} {first database : Database}
    (hleads : Leads condition first database) (server : Server) (headers : Headers)
    (environment : Environment) (now : Time) (request : Request)
    (hcondition : condition database request) :
    Leads condition first
      (serve server headers environment (.start now database) request).database := by
  have hstep : restrict (Step server) (Only condition) (.start now database)
      (.exchange (exchangeOf server headers environment (.start now database) request))
      (afterRequest server headers environment (.start now database) request) := by
    refine ⟨.exchange, ?_⟩
    intro exchange hexchange
    rw [← Event.exchange.inj hexchange]
    exact hcondition
  exact .process hleads (.snoc .nil hstep)

variable {server : Server} {condition : Database → Request → Prop}

/-- A step that serves no request leaves the database alone; a request writes. -/
theorem step_writes {state next : State} {event : Event}
    (hstep : Step server state event next) :
    next.database = state.database ∨
      ∃ exchange, event = .exchange exchange ∧
        Writes exchange.request state.database next.database := by
  cases hstep with
  | exchange => exact .inr ⟨_, rfl, serve_writes⟩
  | expire => exact .inl rfl
  | elapse => exact .inl rfl

/-- An assertion about the database survives a run if it survives the writes. -/
theorem run_database {assertion : Database → Prop} {start last : State}
    {events : List Event} (hstart : assertion start.database)
    (hwrites : ∀ request before after, condition before request → assertion before →
      Writes request before after → assertion after)
    (hrun : Run (restrict (Step server) (Only condition)) start events last) :
    assertion last.database := by
  apply hrun.invariant (fun state => assertion state.database) hstart
  intro before label after hbefore hstep
  cases step_writes hstep.1 with
  | inl hsame =>
      rw [hsame]
      exact hbefore
  | inr hrequest =>
      obtain ⟨exchange, hlabel, hwritten⟩ := hrequest
      exact hwrites _ _ _ (hstep.2 exchange hlabel) hbefore hwritten

/-- What holds of the first database and is preserved by requests holds of every
later one. -/
theorem Leads.invariant {assertion : Database → Prop} {first database : Database}
    (hfirst : assertion first)
    (hwrites : ∀ request before after, condition before request → assertion before →
      Writes request before after → assertion after)
    (hleads : Leads condition first database) : assertion database := by
  induction hleads with
  | here => exact hfirst
  | process _ hrun ih => exact run_database ih hwrites hrun

/-- What a database becomes in the process that has it and in those after it. -/
def Later (before after : Database) : Prop :=
  ∃ server state events last, state.database = before ∧
    Run (restrict (Step server) (Only anyRequest)) state events last ∧
    Leads anyRequest last.database after

theorem Later.invariant {assertion : Database → Prop} {before after : Database}
    (hbefore : assertion before)
    (hwrites : ∀ request before after, assertion before → Writes request before after →
      assertion after)
    (hlater : Later before after) : assertion after := by
  obtain ⟨server, state, events, last, rfl, hrun, hleads⟩ := hlater
  have hlast : assertion last.database :=
    run_database hbefore (fun _ _ _ _ => hwrites _ _ _) hrun
  exact hleads.invariant hlast (fun _ _ _ _ => hwrites _ _ _)

/-! ## Where the rows of challenges come from -/

/-- What is stored of the values of a request. -/
def storedQuery (query : CreateChallenge) : CreateChallenge where
  name := cut 63 query.name
  flag := query.flag.map (cut 127)
  categoryId := query.categoryId
  description := cut 2047 query.description
  difficulty := cut 31 query.difficulty
  connectionInstructions := query.connectionInstructions.map (cut 255)

theorem eq_row_of_stored {query : CreateChallenge} {archive : Option (List UInt8)}
    {row : ChallengeRow} (hstored : (query.row archive).stored = some row) :
    row = (storedQuery query).row archive :=
  ChallengeRow.eq_of_stored hstored

/-- What a request has to do with the row of a challenge after it. -/
inductive RowOrigin (request : Request) (before : Database) (id : ℤ) (row : ChallengeRow) :
    Prop
  | kept (hfound : before.challenges.find id = some row)
  | created {query : CreateChallenge} {multi : NextField} {archive : Option (List UInt8)}
      (hrequest : request = .challengesCreate query multi)
      (harchive : readArchive multi = .ok archive)
      (hid : id = before.challenges.sequence + 1)
      (hrow : row = (storedQuery query).row archive)
  | docker {imageName kept : String} {portMap : ExposePorts} {old : ChallengeRow}
      (hrequest : request = .configureDocker id imageName portMap)
      (hstored : varchar 63 imageName = some kept)
      (hfound : before.challenges.find id = some old)
      (hrow : row = configured kept portMap old)
  | instructions {body : Option (List UInt8)} {instructions : Option String}
      {old : ChallengeRow} (hrequest : request = .setConnectionInstructions id body)
      (hbody : connectionInstructions body = .ok instructions)
      (hfound : before.challenges.find id = some old)
      (hrow : row = instructed (instructions.map (cut 255)) old)
  | archive {multi : NextField} {archive : Option (List UInt8)} {old : ChallengeRow}
      (hrequest : request = .setArchive id multi)
      (harchive : readArchive multi = .ok archive)
      (hfound : before.challenges.find id = some old) (hrow : row = archived archive old)

theorem rowOrigin_of_writes {request : Request} {before after : Database} {id : ℤ}
    {row : ChallengeRow} (hwritten : Writes request before after)
    (hfound : after.challenges.find id = some row) : RowOrigin request before id row := by
  cases hwritten with
  | nothing => exact .kept hfound
  | ctf => exact .kept hfound
  | category => exact .kept hfound
  | challenge harchive hstored =>
      cases Sql.Table.find_insert hfound with
      | inl hold => exact .kept hold
      | inr hnew =>
          exact .created rfl harchive (Sql.Table.insert_eq_ok hnew.2).1
            (hnew.1.trans (eq_row_of_stored hstored))
  | docker hstored =>
      cases Sql.Table.find_update hfound with
      | inl hold => exact .kept hold
      | inr hchanged =>
          obtain ⟨rfl, old, hold, hrow⟩ := hchanged
          exact .docker rfl hstored hold hrow
  | instructions hbody hstored =>
      cases Sql.Table.find_update hfound with
      | inl hold => exact .kept hold
      | inr hchanged =>
          obtain ⟨rfl, old, hold, hrow⟩ := hchanged
          rw [eq_cut_of_mapM_varchar hstored] at hrow
          exact .instructions rfl hbody hold hrow
  | archive harchive =>
      cases Sql.Table.find_update hfound with
      | inl hold => exact .kept hold
      | inr hchanged =>
          obtain ⟨rfl, old, hold, hrow⟩ := hchanged
          exact .archive rfl harchive hold hrow

/-! ## Processes with one request of the first administrator -/

/-- The session of an administrator and the session of a guest. -/
def exampleJwt : JwtSimple where
  authenticate key _ :=
    if key = ⟨[1]⟩ then some "a" else if key = ⟨[3]⟩ then some "u" else none
  verifyToken key now text :=
    if key = ⟨[1]⟩ ∧ text = "a" then
      some (withCustomClaims (.admin ⟨0, true, true, true, true⟩) (fromMins 30) now)
    else if key = ⟨[3]⟩ ∧ text = "u" then
      some (withCustomClaims (.user ⟨⟨7⟩⟩) (fromHours 6) now)
    else none

def exampleServer : Server where
  signer := ⟨exampleJwt, ⟨⟨[1]⟩, ⟨[2]⟩, ⟨[3]⟩⟩⟩
  ecdsa :=
    { VerifyingKey := Unit
      Signature := Unit
      fromSec1Bytes _ := none
      fromSlice _ := none
      verify _ _ _ := false }

def exampleHeaders : Headers
  | .adminJwt => some ⟨[97]⟩
  | .userJwt => some ⟨[117]⟩
  | .challenge => none

def exampleEnvironment : Environment := ⟨none, none, .available, none⟩

/-- The database that a request leaves. -/
def afterAdmin (database : Database) (request : Request) : Database :=
  (serve exampleServer exampleHeaders exampleEnvironment (.start 0 database) request).database

theorem Leads.admin {first database : Database} {request : Request}
    (hleads : Leads condition first database) (hcondition : condition database request) :
    Leads condition first (afterAdmin database request) :=
  hleads.request exampleServer exampleHeaders exampleEnvironment 0 request hcondition

def exampleAdmin : JWTAdmin := ⟨0, true, true, true, true⟩

theorem exampleAdmin_extracted (database : Database) :
    fromRequestParts exampleServer.signer JWTAdmin (State.start 0 database).now
      exampleHeaders = .ok exampleAdmin := by
  have hextracted : fromRequestParts exampleServer.signer JWTAdmin 0 exampleHeaders =
      .ok exampleAdmin := by
    decide
  exact hextracted

def eventRequest : Request := .ctfsCreate ⟨"event", ⟨2024, 9, 21⟩, ⟨2024, 9, 22⟩⟩

def webRequest : Request := .categoriesCreate ⟨"web", 1, .web⟩

/-- The creation of a challenge in the first category. -/
def challengeRequest (name : String) : Request :=
  .challengesCreate ⟨name, none, 1, "", "", none⟩ .none

def onePort : ExposePorts := ⟨[(80, .tcp)], List.nodup_singleton _⟩

/-- A challenge in a category of an event. -/
def oneChallenge : Database :=
  afterAdmin (afterAdmin (afterAdmin .empty eventRequest) webRequest) (challengeRequest "first")

end ScdtServer.Processes
