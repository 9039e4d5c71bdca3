import ScdtServer.CtfArchive.Effects

/-!
# How the handlers of challenges end

A handler that writes either succeeds, with one change to one row, or leaves the
rows as they are.
-/

namespace ScdtServer.Outcomes

open ScdtServer.Transition
open ScdtServer.Http
open ScdtServer.Jwt
open ScdtServer.Sql
open ScdtServer.Tables
open ScdtServer.Challenges
open ScdtServer.Api
open ScdtServer.Effects
open ScdtServer.Processes

/-! ## Exchanges -/

/-- A request is served by a process. -/
inductive Serves : Database → Exchange → Database → Prop
  | request {server : Server} {headers : Headers} {environment : Environment}
      {state : State} {request : Request} :
      Serves state.database (exchangeOf server headers environment state request)
        (afterRequest server headers environment state request).database

/-- A request that does not succeed changes no row. -/
theorem sameRows_of_failed {before after : Database} {exchange : Exchange}
    (hserves : Serves before exchange after) (hreply : ¬ Succeeds exchange.reply) :
    SameRows before after := by
  cases hserves with
  | @request server headers environment state request =>
      have hsame : (serve server headers environment state request).database =
          state.database → SameRows state.database
            (afterRequest server headers environment state request).database := by
        intro hdatabase
        rw [afterRequest, hdatabase]
        exact .refl _
      have heffect : Effect server headers state request
          (serve server headers environment state request) :=
        serve_effect
      cases heffect with
      | nothing hdatabase => exact hsame hdatabase
      | sends _ _ hdatabase => exact hsame hdatabase
      | invites _ _ hdatabase => exact hsame hdatabase
      | forgets _ hdatabase => exact hsame hdatabase
      | writes _ _ _ _ _ _ hfailed => exact hfailed hreply

/-- The exchange of an event. -/
def exchangeIn : Event → Option Exchange
  | .exchange exchange => some exchange
  | _ => none

/-- A run of a process is a history of exchanges. -/
theorem serves_of_run {server : Server} {start last : State} {events : List Event}
    (hrun : Run (Step server) start events last) :
    Run Serves start.database (events.filterMap exchangeIn) last.database := by
  induction hrun with
  | nil => exact .nil
  | snoc _ hstep ih =>
      rw [List.filterMap_append]
      cases hstep with
      | exchange => exact .snoc ih .request
      | @expire _ timer =>
          have hnone : [Event.expire timer].filterMap exchangeIn = [] := rfl
          rwa [hnone, List.append_nil]
      | @elapse _ duration =>
          have hnone : [Event.elapse duration].filterMap exchangeIn = [] := rfl
          rwa [hnone, List.append_nil]

/-- The exchange of the first administrator. -/
def adminExchange (database : Database) (request : Request) : Exchange :=
  exchangeOf exampleServer exampleHeaders exampleEnvironment (.start 0 database) request

theorem run_admin {exchanges : List Exchange} {database : Database} (request : Request)
    (hrun : Run Serves .empty exchanges database) :
    Run Serves .empty (exchanges ++ [adminExchange database request])
      (afterAdmin database request) :=
  .snoc hrun (@Serves.request exampleServer exampleHeaders exampleEnvironment
    (.start 0 database) request)

/-! ## Outcomes -/

/-- The archive in a body. -/
def archiveIn : NextField → Option (List UInt8)
  | .field _ _ bytes => bytes
  | .none => none
  | .error => none

/-- The instructions in a body; an empty body has none. -/
def instructionsIn : Option (List UInt8) → Option String
  | some bytes => if bytes.isEmpty then none else ByteReader.fromUtf8 bytes
  | none => none

variable {server : Server} {headers : Headers} {environment : Environment} {state : State}

/-- What a challenge handler leaves behind, unless it succeeds. -/
def Failed (state : State) (served : Served) : Prop :=
  ¬ Succeeds served.reply ∧ SameRows state.database served.database

/-- A handler that the extractor keeps from running has failed. -/
theorem authorized_cases {T : Type} [KeyedJWT T] {handler : T → Served}
    {Done : Served → Prop}
    (hhandler : ∀ value, Failed state (handler value) ∨ Done (handler value)) :
    Failed state (authorized server headers state T handler) ∨
      Done (authorized server headers state T handler) := by
  unfold authorized
  split
  · exact hhandler _
  · rename_i status hrefused
    rw [fromRequestParts_eq_error hrefused]
    exact .inl ⟨not_false, .refl _⟩

/-- The row with the number is changed. -/
def Changed (state : State) (id : ℤ) (change : ChallengeRow → ChallengeRow)
    (served : Served) : Prop :=
  (∃ body, served.reply = .response .ok body) ∧
    ∀ other, served.database.challenges.find other =
      if other = id then (state.database.challenges.find other).map change
      else state.database.challenges.find other

/-- An update of a challenge. -/
theorem updated_cases {id : ℤ} {change : ChallengeRow → ChallengeRow}
    {next : Except QueryError ℕ → Handler Empty StatusCode}
    (hdone : ∀ count, next (.ok count) = .ok .ok)
    (hrefused : ∀ error, ¬ Succeeds (ofStatus (next (.error error)))) :
    let served := onDatabase state ofStatus (answer (execute environment.service
      (updateChallenge id change) state.database) next)
    Failed state served ∨ Changed state id change served := by
  cases environment.service with
  | noConnection => exact .inl ⟨not_false, .refl _⟩
  | failing => exact .inl ⟨hrefused _, .refl _⟩
  | available =>
      rcases Table.update_outcome state.database.challenges id change with hupdated | hkept
      · obtain ⟨count, hcount, hfind⟩ := hupdated
        apply Or.inr
        refine ⟨⟨.empty, ?_⟩, hfind⟩
        simp only [onDatabase, unchanged, answer, execute, updateChallenge, hcount]
        exact congrArg ofStatus (hdone count)
      · obtain ⟨violation, hupdate⟩ := hkept
        apply Or.inl
        simp only [execute, updateChallenge, hupdate]
        exact ⟨hrefused _, .refl _⟩

/-- An update with values that their columns may refuse. -/
theorem updated_values_cases {A : Type} {id : ℤ} {values : Option A}
    {change : A → ChallengeRow → ChallengeRow}
    {next : Except QueryError ℕ → Handler Empty StatusCode}
    (hdone : ∀ count, next (.ok count) = .ok .ok)
    (hrefused : ∀ error, ¬ Succeeds (ofStatus (next (.error error)))) :
    let statement := withValues values fun kept => updateChallenge id (change kept)
    let served := onDatabase state ofStatus
      (answer (execute environment.service statement state.database) next)
    Failed state served ∨ ∃ kept, values = some kept ∧ Changed state id (change kept) served := by
  cases values with
  | none =>
      cases environment.service with
      | noConnection => exact .inl ⟨not_false, .refl _⟩
      | failing | available => exact .inl ⟨hrefused _, .refl _⟩
  | some kept =>
      have hcases := @updated_cases environment state id (change kept) next hdone hrefused
      exact hcases.imp_right fun hchanged => ⟨kept, rfl, hchanged⟩

theorem updateStatus_failed (error : QueryError) :
    ¬ Succeeds (ofStatus (.ok (updateStatus (.error error)))) := by
  cases error <;> exact not_false

theorem archiveIn_of_readArchive {multi : NextField} {archive : Option (List UInt8)}
    (harchive : readArchive multi = .ok archive) : archive = archiveIn multi := by
  cases multi with
  | field name contentType bytes =>
      unfold readArchive at harchive
      dsimp only at harchive
      split at harchive
      · cases bytes with
        | none => cases harchive
        | some bytes => exact (Except.ok.inj harchive).symm
      · cases harchive
  | none => exact (Except.ok.inj harchive).symm
  | error => cases harchive

/-- A body that cannot be read is a bad request. -/
theorem readArchive_eq_error {multi : NextField} {status : StatusCode}
    (hrefused : readArchive multi = .error status) : status = .badRequest := by
  cases multi with
  | field name contentType bytes =>
      unfold readArchive at hrefused
      dsimp only at hrefused
      split at hrefused
      · cases bytes with
        | none => exact (Except.error.inj hrefused).symm
        | some bytes => cases hrefused
      · exact (Except.error.inj hrefused).symm
  | none => cases hrefused
  | error => exact (Except.error.inj hrefused).symm

theorem connectionInstructions_cases (body : Option (List UInt8)) :
    connectionInstructions body = .ok (instructionsIn body) ∨
      ∃ text, connectionInstructions body = .error (.badRequest, text) := by
  cases body with
  | none => exact .inr ⟨_, rfl⟩
  | some bytes =>
      simp only [connectionInstructions, instructionsIn]
      split
      · exact .inl rfl
      · cases ByteReader.fromUtf8 bytes with
        | none => exact .inr ⟨_, rfl⟩
        | some text => exact .inl rfl

theorem setArchive_cases (server : Server) (headers : Headers) (environment : Environment)
    (state : State) (id : ℤ) (multi : NextField) :
    let served := serve server headers environment state (.setArchive id multi)
    Failed state served ∨ Changed state id (archived (archiveIn multi)) served := by
  apply authorized_cases
  intro admin
  unfold setArchive
  split
  · exact .inl ⟨not_false, .refl _⟩
  · split
    · exact .inl ⟨not_false, .refl _⟩
    · split
      · rename_i status hrefused
        rw [readArchive_eq_error hrefused]
        exact .inl ⟨not_false, .refl _⟩
      · rename_i archive harchive
        rw [archiveIn_of_readArchive harchive]
        exact updated_cases (fun _ => rfl) updateStatus_failed

theorem setConnectionInstructions_cases (server : Server) (headers : Headers)
    (environment : Environment) (state : State) (id : ℤ) (body : Option (List UInt8)) :
    let served := serve server headers environment state (.setConnectionInstructions id body)
    Failed state served ∨
      Changed state id (instructed ((instructionsIn body).map (cut 255))) served := by
  apply authorized_cases
  intro admin
  rcases connectionInstructions_cases body with hbody | ⟨text, hbody⟩
  · rw [hbody]
    dsimp only
    unfold setConnectionInstructions
    split
    · exact .inl ⟨not_false, .refl _⟩
    · apply (updated_values_cases (fun _ => rfl) updateStatus_failed).imp_right
      intro hchanged
      obtain ⟨kept, hstored, hchanged⟩ := hchanged
      rwa [eq_cut_of_mapM_varchar hstored] at hchanged
  · rw [hbody]
    exact .inl ⟨not_false, .refl _⟩

theorem configureDocker_cases (server : Server) (headers : Headers)
    (environment : Environment) (state : State) (id : ℤ) (imageName : String)
    (portMap : ExposePorts) :
    let served := serve server headers environment state
      (.configureDocker id imageName portMap)
    Failed state served ∨
      Changed state id (configured (cut 63 imageName) portMap) served := by
  apply authorized_cases
  intro admin
  unfold configureDocker
  split
  · exact .inl ⟨not_false, .refl _⟩
  · refine (updated_values_cases (fun _ => rfl) ?_).imp_right ?_
    · intro error
      cases error with
      | databaseError kind => cases kind <;> exact not_false
      | notFound | other => exact not_false
    · intro hchanged
      obtain ⟨kept, hstored, hchanged⟩ := hchanged
      rwa [eq_cut_of_varchar hstored] at hchanged

/-- A new challenge is found under the number that is answered. -/
def Created (state : State) (query : CreateChallenge) (multi : NextField)
    (served : Served) : Prop :=
  ∃ id, served.reply = .response .created (.id id) ∧
    ∀ other, served.database.challenges.find other =
      if other = id then some ((storedQuery query).row (archiveIn multi))
      else state.database.challenges.find other

/-- An insertion of a challenge. -/
theorem inserted_cases {query : CreateChallenge} {multi : NextField}
    {next : Except QueryError ℤ → Handler StatusCode (StatusCode × ℤ)}
    (hdone : ∀ id, next (.ok id) = .ok (.created, id))
    (hrefused : ∀ error, ¬ Succeeds (ofCreated (next (.error error)))) :
    let statement := withValues (query.row (archiveIn multi)).stored insertChallenge
    let served := onDatabase state ofCreated
      (answer (execute environment.service statement state.database) next)
    Failed state served ∨ Created state query multi served := by
  cases environment.service with
  | noConnection => exact .inl ⟨not_false, .refl _⟩
  | failing => exact .inl ⟨hrefused _, .refl _⟩
  | available =>
      cases hstored : (query.row (archiveIn multi)).stored with
      | none => exact .inl ⟨hrefused _, .refl _⟩
      | some row =>
          have hrow := eq_row_of_stored hstored
          rcases Table.insert_cases state.database.challenges row
            (state.database.categories.find row.categoryId).isSome
            with happended | ⟨violation, hinsert⟩
          · obtain ⟨hadmits, hfree, _, hinsert⟩ := happended
            apply Or.inr
            refine ⟨state.database.challenges.sequence + 1, ?_, ?_⟩
            · simp only [onDatabase, unchanged, answer, execute, withValues, insertChallenge,
                hinsert]
              exact congrArg ofCreated (hdone _)
            · intro other
              simp only [onDatabase, answer, execute, withValues, insertChallenge, hinsert]
              rw [← hrow]
              exact Table.find_push
          · apply Or.inl
            simp only [execute, withValues, insertChallenge, hinsert]
            exact ⟨hrefused _, rfl, rfl, rfl⟩

theorem challengesCreate_cases (server : Server) (headers : Headers)
    (environment : Environment) (state : State) (query : CreateChallenge)
    (multi : NextField) :
    let served := serve server headers environment state (.challengesCreate query multi)
    Failed state served ∨ Created state query multi served := by
  apply authorized_cases
  intro admin
  unfold create
  split
  · exact .inl ⟨not_false, .refl _⟩
  · split
    · rename_i status hrefused
      rw [readArchive_eq_error hrefused]
      exact .inl ⟨not_false, .refl _⟩
    · rename_i archive harchive
      rw [archiveIn_of_readArchive harchive]
      apply inserted_cases
      · exact fun _ => rfl
      · intro error
        cases error with
        | databaseError kind => cases kind <;> exact not_false
        | notFound | other => exact not_false

end ScdtServer.Outcomes
