import ScdtServer.CtfArchive.Processes

/-!
# What a request can bring about

All that serving a request can do is listed once, with the permission that stands
behind it.
-/

namespace ScdtServer.Effects

open ScdtServer.Http
open ScdtServer.Models
open ScdtServer.Jwt
open ScdtServer.Codes
open ScdtServer.Sql
open ScdtServer.Tables
open ScdtServer.Challenges
open ScdtServer.ChalldClient
open ScdtServer.Api

/-- The answer is 401 or 403. -/
def Refused : Reply → Prop
  | .response .unauthorized _ => True
  | .response .forbidden _ => True
  | _ => False

/-- The answer is 200 or 201. -/
def Succeeds : Reply → Prop
  | .response .ok _ => True
  | .response .created _ => True
  | _ => False

/-- The tables have the same rows. -/
structure SameRows (before after : Database) : Prop where
  ctfs : after.ctfs.rows = before.ctfs.rows
  categories : after.categories.rows = before.categories.rows
  challenges : after.challenges.rows = before.challenges.rows

theorem SameRows.refl (database : Database) : SameRows database database := ⟨rfl, rfl, rfl⟩

/-- The permission that a writing request needs. -/
def permits (admin : JWTAdmin) : Request → Bool
  | .configureDocker _ _ _ => admin.canDocker
  | .ctfsCreate _ => admin.canCreate
  | .categoriesCreate _ => admin.canCreate
  | .challengesCreate _ _ => admin.canCreate
  | .setConnectionInstructions _ _ => admin.canCreate
  | .setArchive _ _ => admin.canCreate
  | _ => false

/-- Who stands behind a request to challd. -/
inductive Sender (server : Server) (headers : Headers) (now : Time) : StartMode → Prop
  | guest {user : JWTUser}
      (hextracted : fromRequestParts server.signer JWTUser now headers = .ok user) :
      Sender server headers now (.guest user.code)
  | demo {admin : JWTAdmin}
      (hextracted : fromRequestParts server.signer JWTAdmin now headers = .ok admin)
      (hpermitted : admin.canHostDemo = true) : Sender server headers now .demo

/-- All that serving a request can bring about. -/
inductive Effect (server : Server) (headers : Headers) (state : State) (request : Request)
    (served : Served) : Prop
  | nothing (hdatabase : served.database = state.database)
      (hcodes : served.codes = state.codes) (hsent : served.sent = none)
  | writes {admin : JWTAdmin}
      (hextracted : fromRequestParts server.signer JWTAdmin state.now headers = .ok admin)
      (hpermitted : permits admin request = true)
      (hwritten : Writes request state.database served.database)
      (hcodes : served.codes = state.codes) (hsent : served.sent = none)
      (hreply : ¬ Refused served.reply)
      (hfailed : ¬ Succeeds served.reply → SameRows state.database served.database)
  | sends {sent : ContainerRequest} (hsent : served.sent = some sent)
      (hsender : Sender server headers state.now sent.startMode)
      (hdatabase : served.database = state.database)
      (hcodes : served.codes = state.codes) (hreply : ¬ Refused served.reply)
  | invites {admin : JWTAdmin}
      (hextracted : fromRequestParts server.signer JWTAdmin state.now headers = .ok admin)
      (hpermitted : admin.canInvite = true) (hdatabase : served.database = state.database)
      (hsent : served.sent = none) (hreply : ¬ Refused served.reply)
  | forgets (hcodes : served.codes.set ⊆ state.codes.set)
      (hdatabase : served.database = state.database) (hsent : served.sent = none)
      (hreply : ¬ Refused served.reply)

variable {server : Server} {headers : Headers} {environment : Environment} {state : State}
variable {request : Request}

theorem effect_unchanged (reply : Reply) :
    Effect server headers state request (unchanged state reply) :=
  .nothing rfl rfl rfl

theorem authorized_effect {T : Type} [KeyedJWT T] {handler : T → Served}
    (hhandler : ∀ value, fromRequestParts server.signer T state.now headers = .ok value →
      Effect server headers state request (handler value)) :
    Effect server headers state request (authorized server headers state T handler) := by
  unfold authorized
  split
  · rename_i value hextracted
    exact hhandler value hextracted
  · exact effect_unchanged _

/-- A handler that only queries. -/
theorem effect_of_query {E A : Type} {reply : Handler E A → Reply}
    {outcome : Handler E A × Database} (hquery : outcome.2 = state.database) :
    Effect server headers state request (onDatabase state reply outcome) :=
  .nothing hquery rfl rfl

/-- A reply that comes out of a statement is refused only if the handler refuses. -/
theorem not_refused_of_answer {E A B : Type} {reply : Handler E B → Reply}
    {statement : Statement A} {next : Except QueryError A → Handler E B}
    {database : Database} {service : Service}
    (hpanic : ∀ site, ¬ Refused (reply (.error (.panic site))))
    (hnext : ∀ result, ¬ Refused (reply (next result))) :
    ¬ Refused (reply (answer (execute service statement database) next).1) := by
  cases service with
  | available => exact hnext _
  | noConnection => exact hpanic _
  | failing => exact hnext _

/-- Only `forbidden` is answered with a refusal. -/
theorem containerRequest_not_refused {service : Service} {database : Database}
    {challengeId : ℤ} {startMode : StartMode} {body : String → Body}
    {challd : Option (Except ChalldError String)} :
    ¬ Refused (ofContainer body
      ((containerRequest service database challengeId startMode).1 >>=
        fun _ => containerAnswer challd)) := by
  have hanswer : ¬ Refused (ofContainer body (containerAnswer challd)) := by
    cases challd with
    | none => exact id
    | some answered => cases answered <;> exact id
  cases hrequest : (containerRequest service database challengeId startMode).1 with
  | ok found => exact hanswer
  | error abort =>
      intro hrefused
      cases Handler.bind_eq_error.mp hrequest with
      | inl hfirst =>
          cases service with
          | noConnection =>
              cases hfirst
              exact hrefused
          | _ => cases hfirst
      | inr hrest =>
          obtain ⟨result, _, hnext⟩ := hrest
          cases result with
          | error error =>
              cases error <;> cases hnext <;> exact hrefused
          | ok columns =>
              obtain ⟨dockerImage, portNums, portTypes⟩ := columns
              cases dockerImage with
              | none =>
                  cases hnext
                  exact hrefused
              | some imageName =>
                  dsimp only at hnext
                  split at hnext
                  · cases hnext
                  · cases hnext
                    exact hrefused

theorem effect_of_container {body : String → Body} {challengeId : ℤ} {startMode : StartMode}
    (hsender : Sender server headers state.now startMode) :
    Effect server headers state request (onContainer environment state body
      (containerRequest environment.service state.database challengeId startMode)) := by
  have hdatabase := containerRequest_database environment.service state.database challengeId
    startMode
  cases hrequest : (containerRequest environment.service state.database challengeId
      startMode).1 with
  | error abort =>
      apply Effect.nothing hdatabase rfl
      rw [onContainer, hrequest]
      rfl
  | ok sent =>
      have hmode : sent.startMode = startMode := by
        obtain ⟨_, _, _, _, hmode, _⟩ := containerRequest_eq_ok hrequest
        exact hmode
      have hsent : (onContainer environment state body (containerRequest environment.service
          state.database challengeId startMode)).sent = some sent := by
        rw [onContainer, hrequest]
        rfl
      apply Effect.sends hsent _ hdatabase rfl containerRequest_not_refused
      rwa [hmode]

/-- A statement that is refused changes no row. -/
def Atomic {A : Type} (statement : Statement A) : Prop :=
  ∀ database error, (statement database).1 = .error error →
    SameRows database (statement database).2

theorem sameRows_of_answer {E A B : Type} {reply : Handler E B → Reply}
    {statement : Statement A} {next : Except QueryError A → Handler E B}
    {database : Database} {service : Service} (hatomic : Atomic statement)
    (hdone : ∀ value, Succeeds (reply (next (.ok value))))
    (hfailed : ¬ Succeeds (reply (answer (execute service statement database) next).1)) :
    SameRows database (answer (execute service statement database) next).2 := by
  cases service with
  | available =>
      cases hresult : (statement database).1 with
      | ok value =>
          have hok : (answer (execute .available statement database) next).1 =
              next (.ok value) := by
            simp only [answer, execute, hresult]
            rfl
          rw [hok] at hfailed
          exact absurd (hdone value) hfailed
      | error error => exact hatomic database error hresult
  | noConnection => exact .refl _
  | failing => exact .refl _

/-- Values that are refused change no row either. -/
theorem withValues_atomic {A B : Type} {values : Option A} {statement : A → Statement B}
    (hatomic : ∀ kept, Atomic (statement kept)) : Atomic (withValues values statement) := by
  intro database error hrefused
  cases values with
  | none => exact .refl _
  | some kept => exact hatomic kept database error hrefused

theorem insertCtf_atomic (row : CtfRow) : Atomic (insertCtf row) := by
  intro database error hrefused
  rcases Table.insert_cases database.ctfs row true with hdone | ⟨violation, hinsert⟩
  · obtain ⟨_, _, _, hinsert⟩ := hdone
    simp only [insertCtf, hinsert] at hrefused
    cases hrefused
  · simp only [insertCtf, hinsert]
    exact ⟨rfl, rfl, rfl⟩

theorem insertCategory_atomic (row : CategoryRow) : Atomic (insertCategory row) := by
  intro database error hrefused
  rcases Table.insert_cases database.categories row (database.ctfs.find row.ctfId).isSome
    with hdone | ⟨violation, hinsert⟩
  · obtain ⟨_, _, _, hinsert⟩ := hdone
    simp only [insertCategory, hinsert] at hrefused
    cases hrefused
  · simp only [insertCategory, hinsert]
    exact ⟨rfl, rfl, rfl⟩

theorem insertChallenge_atomic (row : ChallengeRow) : Atomic (insertChallenge row) := by
  intro database error hrefused
  rcases Table.insert_cases database.challenges row
    (database.categories.find row.categoryId).isSome with hdone | ⟨violation, hinsert⟩
  · obtain ⟨_, _, _, hinsert⟩ := hdone
    simp only [insertChallenge, hinsert] at hrefused
    cases hrefused
  · simp only [insertChallenge, hinsert]
    exact ⟨rfl, rfl, rfl⟩

theorem updateChallenge_atomic (id : ℤ) (change : ChallengeRow → ChallengeRow) :
    Atomic (updateChallenge id change) := by
  intro database error hrefused
  rcases Table.update_outcome database.challenges id change with hdone | ⟨violation, hupdate⟩
  · obtain ⟨_, hok, _⟩ := hdone
    simp only [updateChallenge, hok] at hrefused
    cases hrefused
  · simp only [updateChallenge, hupdate]
    exact .refl _

/-- A handler that comes to its statement is answered without a refusal. -/
theorem effect_of_statement {E A B : Type} {reply : Handler E B → Reply}
    {statement : Statement A} {next : Except QueryError A → Handler E B} {admin : JWTAdmin}
    (hextracted : fromRequestParts server.signer JWTAdmin state.now headers = .ok admin)
    (hpermitted : permits admin request = true)
    (hwritten : Writes request state.database (statement state.database).2)
    (hatomic : Atomic statement) (hpanic : ∀ site, ¬ Refused (reply (.error (.panic site))))
    (hnext : ∀ result, ¬ Refused (reply (next result)))
    (hdone : ∀ value, Succeeds (reply (next (.ok value)))) :
    Effect server headers state request (onDatabase state reply
      (answer (execute environment.service statement state.database) next)) :=
  .writes hextracted hpermitted (execute_writes hwritten) rfl rfl
    (not_refused_of_answer hpanic hnext) (sameRows_of_answer hatomic hdone)

theorem updateStatus_not_refused (result : Except QueryError ℕ) :
    ¬ Refused (ofStatus (.ok (updateStatus result))) := by
  cases result with
  | ok count => exact id
  | error error => cases error <;> exact id

theorem serve_effect :
    Effect server headers state request (serve server headers environment state request) := by
  cases request with
  | ctfsList => exact authorized_effect fun _ _ => effect_of_query (execute_query rfl)
  | ctfsCreate ctf =>
      apply authorized_effect
      intro admin hextracted
      unfold Ctfs.create
      split
      · exact .nothing rfl rfl rfl
      · rename_i hcreate
        have hpermitted : permits admin (.ctfsCreate ctf) = true := by
          simpa [permits] using hcreate
        split
        · exact .nothing rfl rfl rfl
        · split
          · rename_i startDate endDate hstart hend
            apply effect_of_statement hextracted hpermitted
              (withValues_writes fun _ hstored => .ctf hstart hend hstored)
              (withValues_atomic insertCtf_atomic) fun _ => id
            · intro result
              split <;> exact id
            · exact fun _ => trivial
          · exact .nothing rfl rfl rfl
  | categoriesGet ctfId => exact authorized_effect fun _ _ => effect_of_query (execute_query rfl)
  | categoriesCreate category =>
      apply authorized_effect
      intro admin hextracted
      unfold Categories.create
      split
      · exact .nothing rfl rfl rfl
      · rename_i hcreate
        have hpermitted : permits admin (.categoriesCreate category) = true := by
          simpa [permits] using hcreate
        apply effect_of_statement hextracted hpermitted
          (withValues_writes fun _ hstored => .category hstored)
          (withValues_atomic insertCategory_atomic) fun _ => id
        · intro result
          split <;> exact id
        · exact fun _ => trivial
  | challengesList categoryId =>
      exact authorized_effect fun _ _ => effect_of_query (execute_query rfl)
  | getMetadata challengeId =>
      exact authorized_effect fun _ _ => effect_of_query (execute_query (getResult_database _))
  | challengesCreate query multi =>
      apply authorized_effect
      intro admin hextracted
      unfold Challenges.create
      split
      · exact .nothing rfl rfl rfl
      · rename_i hcreate
        have hpermitted : permits admin (.challengesCreate query multi) = true := by
          simpa [permits] using hcreate
        split
        · exact .nothing rfl rfl rfl
        · rename_i archive harchive
          apply effect_of_statement hextracted hpermitted
            (withValues_writes fun _ hstored => .challenge harchive hstored)
            (withValues_atomic insertChallenge_atomic) fun _ => id
          · intro result
            split <;> exact id
          · exact fun _ => trivial
  | getArchive challengeId =>
      exact authorized_effect fun _ _ => effect_of_query (execute_query (getResult_database _))
  | start challengeId =>
      exact authorized_effect fun _ hextracted => effect_of_container (.guest hextracted)
  | configureDocker challengeId imageName portMap =>
      apply authorized_effect
      intro admin hextracted
      unfold configureDocker
      split
      · exact .nothing rfl rfl rfl
      · rename_i hdocker
        have hpermitted :
            permits admin (.configureDocker challengeId imageName portMap) = true := by
          simpa [permits] using hdocker
        apply effect_of_statement hextracted hpermitted
          (withValues_writes fun _ hstored => .docker hstored)
          (withValues_atomic fun _ => updateChallenge_atomic _ _) fun _ => id
        · intro result
          split <;> exact id
        · exact fun _ => trivial
  | getFlag challengeId =>
      exact authorized_effect fun _ _ => effect_of_query (execute_query (getResult_database _))
  | setConnectionInstructions challengeId body =>
      apply authorized_effect
      intro admin hextracted
      split
      · rename_i instructions hbody
        unfold setConnectionInstructions
        split
        · exact .nothing rfl rfl rfl
        · rename_i hcreate
          have hpermitted : permits admin (.setConnectionInstructions challengeId body) = true := by
            simpa [permits] using hcreate
          exact effect_of_statement hextracted hpermitted
            (withValues_writes fun _ hstored => .instructions hbody hstored)
            (withValues_atomic fun _ => updateChallenge_atomic _ _) (fun _ => id)
            updateStatus_not_refused fun _ => trivial
      · exact effect_unchanged _
  | hostDemo challengeId =>
      apply authorized_effect
      intro admin hextracted
      unfold hostDemo
      split
      · exact .nothing rfl rfl rfl
      · rename_i hdemo
        exact effect_of_container (.demo hextracted (by simpa using hdemo))
  | setArchive challengeId multi =>
      apply authorized_effect
      intro admin hextracted
      unfold setArchive
      split
      · exact .nothing rfl rfl rfl
      · rename_i hcreate
        have hpermitted : permits admin (.setArchive challengeId multi) = true := by
          simpa [permits] using hcreate
        split
        · exact .nothing rfl rfl rfl
        · split
          · exact .nothing rfl rfl rfl
          · rename_i archive harchive
            exact effect_of_statement hextracted hpermitted (.archive harchive)
              (updateChallenge_atomic _ _) (fun _ => id) updateStatus_not_refused
              fun _ => trivial
  | initiateChallenge id => exact .nothing rfl rfl rfl
  | finishChallenge r s => exact authorized_effect fun _ _ => .nothing rfl rfl rfl
  | generateCode =>
      apply authorized_effect
      intro admin hextracted
      cases hgenerated : Guest.generateCode state.codes state.now admin environment.code with
      | mk outcome codes =>
          cases outcome with
          | error abort =>
              have hcodes := Guest.generateCode_eq_error hgenerated
              exact .nothing rfl hcodes rfl
          | ok code =>
              have hgenerates := Guest.generateCode_eq_ok hgenerated
              exact .invites hextracted hgenerates.1 rfl rfl id
  | wipeCodes =>
      exact authorized_effect fun _ _ => .forgets (Finset.empty_subset _) rfl rfl id
  | redeemCode code =>
      by_cases hmem : code ∈ state.codes.set
      · have hredeemed := Guest.redeemCode_of_mem server.signer state.now hmem
        have hreply : ¬ Refused (ofValue (fun token => .text token.text)
            (authenticate server.signer (⟨code⟩ : JWTUser) (fromHours 6) state.now)) := by
          cases hproduced : authenticate (E := StatusCode) server.signer (⟨code⟩ : JWTUser)
              (fromHours 6) state.now with
          | ok token => exact id
          | error abort =>
              rw [authenticate_eq_error hproduced]
              exact id
        simp only [serve, hredeemed]
        exact .forgets (Finset.erase_subset _ _) rfl rfl hreply
      · have hcodes : (Guest.redeemCode server.signer state.codes state.now code).2 =
            state.codes := by
          rw [Guest.redeemCode_codes, InMemorySet.remove, Finset.erase_eq_of_notMem hmem]
        exact .nothing rfl hcodes rfl

/-! ## The columns for docker -/

/-- The columns that `configure_docker` is for. -/
def dockerColumns (row : ChallengeRow) :
    Option String × List (Option Int16) × List (Option PortType) :=
  (row.dockerImage, row.portNumbers, row.portTypes)

/-- Other requests keep them. -/
theorem dockerColumns_kept {before after : Database} {id : ℤ} {row : ChallengeRow}
    (hwritten : Writes request before after)
    (hfound : before.challenges.find id = some row)
    (hother : ∀ imageName portMap, request ≠ .configureDocker id imageName portMap) :
    (after.challenges.find id).map dockerColumns = some (dockerColumns row) := by
  have hsame : (before.challenges.find id).map dockerColumns = some (dockerColumns row) :=
    congrArg (Option.map dockerColumns) hfound
  cases hwritten with
  | nothing | ctf | category => exact hsame
  | challenge => exact congrArg (Option.map dockerColumns) (Table.find_insert_of_find hfound)
  | @docker challengeId imageName kept portMap =>
      have hne : id ≠ challengeId := by
        rintro rfl
        exact hother imageName portMap rfl
      rcases Table.update_outcome before.challenges challengeId (configured kept portMap)
        with hdone | hrefused
      · obtain ⟨_, _, hfind⟩ := hdone
        dsimp only [updateChallenge]
        rw [hfind, if_neg hne]
        exact hsame
      · obtain ⟨_, hupdate⟩ := hrefused
        dsimp only [updateChallenge]
        rw [hupdate]
        exact hsame
  | @instructions _ _ _ text =>
      exact (Table.find_update_map (instructed text) dockerColumns fun _ => rfl).trans hsame
  | @archive _ _ bytes =>
      exact (Table.find_update_map (archived bytes) dockerColumns fun _ => rfl).trans hsame

end ScdtServer.Effects
