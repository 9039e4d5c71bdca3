import ScdtServer.CtfArchive.Outcomes

/-!
# Challenges as a keyed store

What the reading handlers say about a challenge is what its creation and the
latest of the successful updates have said, whatever else has happened.
-/

namespace ScdtServer.ChallengeStore

open ScdtServer.Transition
open ScdtServer.Http
open ScdtServer.Jwt
open ScdtServer.Sql
open ScdtServer.Tables
open ScdtServer.Challenges
open ScdtServer.Api
open ScdtServer.Effects
open ScdtServer.Outcomes
open ScdtServer.Processes

/-! ## The store -/

/-- What a challenge is known by. -/
structure Entry where
  name : String
  flag : Option String
  description : String
  difficulty : String
  archive : Option (List UInt8)
  instructions : Option String
  deriving DecidableEq

abbrev Store := ℤ → Option Entry

/-- A created challenge: its columns cut off blanks in excess. -/
def entry (query : CreateChallenge) (multi : NextField) : Entry where
  name := cut 63 query.name
  flag := query.flag.map (cut 127)
  description := cut 2047 query.description
  difficulty := cut 31 query.difficulty
  archive := archiveIn multi
  instructions := query.connectionInstructions.map (cut 255)

def withArchive (archive : Option (List UInt8)) (entry : Entry) : Entry :=
  { entry with archive := archive }

def withInstructions (instructions : Option String) (entry : Entry) : Entry :=
  { entry with instructions := instructions }

/-- What an exchange does to the store: only challenges that are created and the
archives and instructions that are set matter. -/
def record (store : Store) (exchange : Exchange) : Store :=
  match exchange.request, exchange.reply with
  | .challengesCreate query multi, .response .created (.id id) =>
      Function.update store id (some (entry query multi))
  | .setArchive id multi, .response .ok _ =>
      Function.update store id ((store id).map (withArchive (archiveIn multi)))
  | .setConnectionInstructions id body, .response .ok _ =>
      Function.update store id
        ((store id).map (withInstructions ((instructionsIn body).map (cut 255))))
  | _, _ => store

/-- The store after a history that starts with nothing. -/
def recorded (exchanges : List Exchange) : Store := exchanges.foldl record fun _ => none

/-! ## The store in the database -/

def entryOf (row : ChallengeRow) : Entry where
  name := row.name
  flag := row.flag
  description := row.description
  difficulty := row.difficulty
  archive := row.archive
  instructions := row.connectionInstructions

def storeOf (database : Database) : Store :=
  fun id => (database.challenges.find id).map entryOf

/-- What the reading handlers answer about an entry, or about none. -/
def Reads (database : Database) (id : ℤ) (user : JWTUser) : Option Entry → Prop
  | none =>
      (getFlag .available database id user).1 = Handler.fail .notFound ∧
      (getArchive .available database id user).1 = Handler.fail .notFound ∧
      (getMetadata .available database id user).1 = Handler.fail .notFound
  | some entry =>
      (getFlag .available database id user).1 =
        (match entry.flag with
        | some flag => .ok flag
        | none => Handler.fail .notFound) ∧
      (getArchive .available database id user).1 = .ok (entry.archive.getD []) ∧
      ∃ challenge, (getMetadata .available database id user).1 = .ok challenge ∧
        challenge.hasArchive = entry.archive.isSome ∧
        challenge.connectionInstructions = entry.instructions ∧
        challenge.name = entry.name ∧ challenge.description = entry.description ∧
        challenge.difficulty = entry.difficulty

theorem reads_storeOf (database : Database) (id : ℤ) (user : JWTUser) :
    Reads database id user (storeOf database id) := by
  cases hrow : database.challenges.find id with
  | none =>
      simp only [storeOf, hrow, Option.map_none, Reads, getFlag, getArchive, getMetadata,
        answer, execute, getResult]
      exact ⟨rfl, rfl, rfl⟩
  | some row =>
      simp only [storeOf, hrow, Option.map_some, Reads, getFlag, getArchive, getMetadata,
        answer, execute, getResult]
      refine ⟨?_, rfl, _, rfl, rfl, rfl, rfl, rfl, rfl⟩
      unfold entryOf
      cases row.flag <;> rfl

variable {state : State}

/-! ## One exchange -/

theorem record_failed {store : Store} {exchange : Exchange}
    (hreply : ¬ Succeeds exchange.reply) : record store exchange = store := by
  unfold record
  split
  · rename_i hcreated
    rw [hcreated] at hreply
    exact absurd trivial hreply
  · rename_i hok
    rw [hok] at hreply
    exact absurd trivial hreply
  · rename_i hok
    rw [hok] at hreply
    exact absurd trivial hreply
  · rfl

/-- The store records three kinds of requests. -/
theorem record_unrecorded {store : Store} {exchange : Exchange}
    (hcreate : ∀ query multi, exchange.request ≠ .challengesCreate query multi)
    (harchive : ∀ id multi, exchange.request ≠ .setArchive id multi)
    (hinstructions : ∀ id body, exchange.request ≠ .setConnectionInstructions id body) :
    record store exchange = store := by
  unfold record
  split
  · rename_i hrequest _
    exact absurd hrequest (hcreate _ _)
  · rename_i hrequest _
    exact absurd hrequest (harchive _ _)
  · rename_i hrequest _
    exact absurd hrequest (hinstructions _ _)
  · rfl

theorem storeOf_eq {before after : Database}
    (hrows : after.challenges.rows = before.challenges.rows) :
    storeOf after = storeOf before := by
  funext id
  unfold storeOf Table.find
  rw [hrows]

theorem storeOf_changed {id : ℤ} {change : ChallengeRow → ChallengeRow} {served : Served}
    (update : Entry → Entry) (hupdate : ∀ row, entryOf (change row) = update (entryOf row))
    (hchanged : Changed state id change served) :
    storeOf served.database = Function.update (storeOf state.database) id
      ((storeOf state.database id).map update) := by
  funext other
  unfold storeOf
  rw [hchanged.2]
  by_cases hother : other = id
  · rw [hother, if_pos rfl, Function.update_self, Option.map_map, Option.map_map]
    congr 1
    funext row
    exact hupdate row
  · rw [if_neg hother, Function.update_of_ne hother]

/-- The other requests leave the store alone. -/
theorem storeOf_of_writes {request : Request} {before after : Database}
    (hwritten : Writes request before after)
    (hcreate : ∀ query multi, request ≠ .challengesCreate query multi)
    (harchive : ∀ id multi, request ≠ .setArchive id multi)
    (hinstructions : ∀ id body, request ≠ .setConnectionInstructions id body) :
    storeOf after = storeOf before := by
  cases hwritten with
  | nothing | ctf | category => rfl
  | challenge => exact absurd rfl (hcreate _ _)
  | instructions => exact absurd rfl (hinstructions _ _)
  | archive => exact absurd rfl (harchive _ _)
  | @docker _ _ kept portMap =>
      funext id
      exact Table.find_update_map (configured kept portMap) entryOf fun _ => rfl

theorem storeOf_created {query : CreateChallenge} {multi : NextField} {served : Served}
    {id : ℤ} (hfind : ∀ other, served.database.challenges.find other =
      if other = id then some ((storedQuery query).row (archiveIn multi))
      else state.database.challenges.find other) :
    storeOf served.database =
      Function.update (storeOf state.database) id (some (entry query multi)) := by
  funext other
  unfold storeOf
  rw [hfind]
  by_cases hother : other = id
  · rw [hother, if_pos rfl, Function.update_self]
    rfl
  · rw [if_neg hother, Function.update_of_ne hother]

/-- The database follows the store. -/
theorem serves_record {before after : Database} {exchange : Exchange}
    (hserves : Serves before exchange after) :
    storeOf after = record (storeOf before) exchange := by
  cases hserves with
  | @request server headers environment state request =>
      have hfailed : Failed state (serve server headers environment state request) →
          storeOf (afterRequest server headers environment state request).database =
            record (storeOf state.database)
              (exchangeOf server headers environment state request) := by
        intro hfailed
        rw [record_failed hfailed.1]
        exact storeOf_eq hfailed.2.challenges
      have hother : (∀ query multi, request ≠ .challengesCreate query multi) →
          (∀ id multi, request ≠ .setArchive id multi) →
          (∀ id body, request ≠ .setConnectionInstructions id body) →
          storeOf (afterRequest server headers environment state request).database =
            record (storeOf state.database)
              (exchangeOf server headers environment state request) := by
        intro hcreate harchive hinstructions
        rw [record_unrecorded hcreate harchive hinstructions]
        exact storeOf_of_writes serve_writes hcreate harchive hinstructions
      cases request with
      | challengesCreate query multi =>
          cases challengesCreate_cases server headers environment state query multi with
          | inl h => exact hfailed h
          | inr hcreated =>
              obtain ⟨id, hreply, hfind⟩ := hcreated
              refine (storeOf_created hfind).trans ?_
              simp only [record, exchangeOf, hreply]
      | setArchive id multi =>
          cases setArchive_cases server headers environment state id multi with
          | inl h => exact hfailed h
          | inr hchanged =>
              obtain ⟨body, hreply⟩ := hchanged.1
              refine (storeOf_changed (withArchive (archiveIn multi)) (fun _ => rfl)
                hchanged).trans ?_
              simp only [record, exchangeOf, hreply]
      | setConnectionInstructions id body =>
          cases setConnectionInstructions_cases server headers environment state id body with
          | inl h => exact hfailed h
          | inr hchanged =>
              obtain ⟨body', hreply⟩ := hchanged.1
              refine (storeOf_changed (withInstructions ((instructionsIn body).map (cut 255)))
                (fun _ => rfl) hchanged).trans ?_
              simp only [record, exchangeOf, hreply]
      | _ =>
          exact hother (fun _ _ => Request.noConfusion) (fun _ _ => Request.noConfusion)
            fun _ _ => Request.noConfusion

theorem recorded_snoc (exchanges : List Exchange) (exchange : Exchange) :
    recorded (exchanges ++ [exchange]) = record (recorded exchanges) exchange := by
  rw [recorded, List.foldl_append]
  rfl

/-- The store is what the history has recorded. -/
theorem storeOf_recorded {exchanges : List Exchange} {last : Database}
    (hrun : Run Serves .empty exchanges last) : storeOf last = recorded exchanges := by
  induction hrun with
  | nil => rfl
  | snoc _ hserves ih =>
      rw [serves_record hserves, ih, recorded_snoc]

/-! ## Which challenges are created -/

/-- The exchange is the creation of a challenge. -/
def Creates (exchange : Exchange) (id : ℤ) : Prop :=
  ∃ query multi, exchange.request = .challengesCreate query multi ∧
    exchange.reply = .response .created (.id id)

theorem isSome_update_map {store : Store} {id other : ℤ} (update : Entry → Entry) :
    (Function.update store id ((store id).map update) other).isSome =
      (store other).isSome := by
  by_cases hother : other = id
  · rw [hother, Function.update_self, Option.isSome_map]
  · rw [Function.update_of_ne hother]

/-- An exchange creates an entry, or changes an entry that is there. -/
theorem record_cases (store : Store) (exchange : Exchange) :
    (∃ created entry, Creates exchange created ∧
      record store exchange = Function.update store created (some entry)) ∨
    (∀ id, ¬ Creates exchange id) ∧
      ∀ id, (record store exchange id).isSome = (store id).isSome := by
  generalize hrecord : record store exchange = after
  unfold record at hrecord
  split at hrecord
  · rename_i query multi created hrequest hreply
    exact .inl ⟨created, _, ⟨query, multi, hrequest, hreply⟩, hrecord.symm⟩
  · rename_i hrequest _
    rw [← hrecord]
    refine .inr ⟨?_, fun _ => isSome_update_map _⟩
    intro id hcreates
    obtain ⟨_, _, hrequest', _⟩ := hcreates
    cases hrequest.symm.trans hrequest'
  · rename_i hrequest _
    rw [← hrecord]
    refine .inr ⟨?_, fun _ => isSome_update_map _⟩
    intro id hcreates
    obtain ⟨_, _, hrequest', _⟩ := hcreates
    cases hrequest.symm.trans hrequest'
  · rename_i hother _ _
    rw [← hrecord]
    refine .inr ⟨?_, fun _ => rfl⟩
    intro id hcreates
    obtain ⟨query, multi, hrequest, hreply⟩ := hcreates
    exact hother query multi id hrequest hreply

theorem Creates.unique {exchange : Exchange} {id other : ℤ} (hcreates : Creates exchange id)
    (hcreates' : Creates exchange other) : id = other := by
  obtain ⟨_, _, _, hreply⟩ := hcreates
  obtain ⟨_, _, _, hreply'⟩ := hcreates'
  injection hreply.symm.trans hreply' with _ hbody
  injection hbody

theorem isSome_record {store : Store} {exchange : Exchange} {id : ℤ} :
    (record store exchange id).isSome = true ↔
      (store id).isSome = true ∨ Creates exchange id := by
  cases record_cases store exchange with
  | inl hcreated =>
      obtain ⟨created, entry, hcreates, hrecord⟩ := hcreated
      rw [hrecord]
      by_cases hid : id = created
      · rw [hid, Function.update_self]
        exact iff_of_true rfl (.inr hcreates)
      · rw [Function.update_of_ne hid, or_iff_left]
        exact fun hcreates' => hid (hcreates'.unique hcreates)
  | inr hkept => rw [hkept.2, or_iff_left (hkept.1 id)]

theorem isSome_recorded {exchanges : List Exchange} {id : ℤ} :
    (recorded exchanges id).isSome = true ↔ ∃ exchange ∈ exchanges, Creates exchange id := by
  induction exchanges using List.reverseRecOn with
  | nil => simp [recorded]
  | append_singleton exchanges exchange ih =>
      rw [recorded_snoc, isSome_record, ih]
      constructor
      · intro hcreated
        cases hcreated with
        | inl hbefore =>
            obtain ⟨earlier, hmem, hcreates⟩ := hbefore
            exact ⟨earlier, List.mem_append_left _ hmem, hcreates⟩
        | inr hlast => exact ⟨exchange, by simp, hlast⟩
      · intro hcreated
        obtain ⟨earlier, hmem, hcreates⟩ := hcreated
        cases List.mem_append.mp hmem with
        | inl hbefore => exact .inl ⟨earlier, hbefore, hcreates⟩
        | inr hlast =>
            rw [List.mem_singleton.mp hlast] at hcreates
            exact .inr hcreates

/-! ## What exchanges leave alone -/

/-- The exchange is about the archive or the instructions of a challenge. -/
def Updates (exchange : Exchange) (id : ℤ) : Prop :=
  (∃ multi, exchange.request = .setArchive id multi) ∨
    ∃ body, exchange.request = .setConnectionInstructions id body

theorem record_other {store : Store} {exchange : Exchange} {id : ℤ}
    (hcreates : ¬ Creates exchange id) (hupdates : ¬ Updates exchange id) :
    record store exchange id = store id := by
  generalize hrecord : record store exchange = after
  unfold record at hrecord
  split at hrecord
  · rename_i query multi created hrequest hreply
    have hid : id ≠ created := by
      rintro rfl
      exact hcreates ⟨query, multi, hrequest, hreply⟩
    rw [← hrecord, Function.update_of_ne hid]
  · rename_i updated multi body hrequest _
    have hid : id ≠ updated := by
      rintro rfl
      exact hupdates (.inl ⟨multi, hrequest⟩)
    rw [← hrecord, Function.update_of_ne hid]
  · rename_i updated body text hrequest _
    have hid : id ≠ updated := by
      rintro rfl
      exact hupdates (.inr ⟨body, hrequest⟩)
    rw [← hrecord, Function.update_of_ne hid]
  · rw [← hrecord]

/-! ## What the creation of a challenge answers -/

/-- The category of every challenge exists. -/
def Referenced (database : Database) : Prop :=
  ∀ id row, database.challenges.find id = some row →
    (database.categories.find row.categoryId).isSome = true

theorem referenced_of_writes {request : Request} {before after : Database}
    (hreferenced : Referenced before) (hwritten : Writes request before after) :
    Referenced after := by
  intro id row hfound
  have hupdated : ∀ change : ChallengeRow → ChallengeRow,
      (∀ old, (change old).categoryId = old.categoryId) → ∀ updated,
        (before.challenges.update updated change).2.find id = some row →
          (before.categories.find row.categoryId).isSome = true := by
    intro change hkeeps updated hfound
    cases Table.find_update hfound with
    | inl hold => exact hreferenced id row hold
    | inr hchanged =>
        obtain ⟨_, old, hold, hrow⟩ := hchanged
        rw [hrow, hkeeps]
        exact hreferenced updated old hold
  cases hwritten with
  | nothing | ctf => exact hreferenced id row hfound
  | category =>
      obtain ⟨category, hcategory⟩ := Option.isSome_iff_exists.mp (hreferenced id row hfound)
      exact Option.isSome_iff_exists.mpr ⟨category, Table.find_insert_of_find hcategory⟩
  | challenge =>
      cases Table.find_insert hfound with
      | inl hold => exact hreferenced id row hold
      | inr hnew =>
          rw [hnew.1]
          exact (Table.insert_eq_ok hnew.2).2
  | @docker _ _ kept portMap =>
      exact hupdated (configured kept portMap) (fun _ => rfl) _ hfound
  | @instructions _ _ _ text => exact hupdated (instructed text) (fun _ => rfl) _ hfound
  | @archive _ _ bytes => exact hupdated (archived bytes) (fun _ => rfl) _ hfound

theorem referenced_of_run {exchanges : List Exchange} {last : Database}
    (hrun : Run Serves .empty exchanges last) : Referenced last := by
  apply hrun.invariant Referenced
  · exact nofun
  · intro before exchange after hreferenced hserves
    cases hserves with
    | request => exact referenced_of_writes hreferenced serve_writes

variable {database : Database} {admin : JWTAdmin} {query : CreateChallenge} {multi : NextField}
variable {archive : Option (List UInt8)}

/-- The category has a challenge of that name. -/
def Taken (database : Database) (query : CreateChallenge) : Prop :=
  ∃ id row, database.challenges.find id = some row ∧ row.name = query.name ∧
    row.categoryId = query.categoryId

/-- What the creation of a challenge answers: CREATED, NOT_FOUND or CONFLICT. -/
structure Answers (database : Database) (admin : JWTAdmin) (query : CreateChallenge)
    (multi : NextField) : Prop where
  created : (∃ id, (create .available database query admin multi).1 = .ok (.created, id)) ↔
    database.categories.find query.categoryId ≠ none ∧ ¬ Taken database query
  missing : (create .available database query admin multi).1 = Handler.fail .notFound ↔
    database.categories.find query.categoryId = none
  conflict : (create .available database query admin multi).1 = Handler.fail .conflict ↔
    database.categories.find query.categoryId ≠ none ∧ Taken database query

theorem free_row_iff :
    database.challenges.free (database.challenges.sequence + 1) (query.row archive) = true ↔
      ¬ Taken database query := by
  rw [Table.free_next_iff]
  have hclashes : ∀ row : ChallengeRow, challengeSchema.clashes row (query.row archive) =
      (row.name == query.name && row.categoryId == query.categoryId) := by
    intro row
    simp only [challengeSchema, CreateChallenge.row]
    cases row.dockerImage <;> rfl
  constructor
  · intro hfree htaken
    obtain ⟨id, row, hfound, hname, hcategory⟩ := htaken
    have hclash := hfree id row hfound
    rw [hclashes, hname, hcategory, beq_self_eq_true, beq_self_eq_true] at hclash
    cases hclash
  · intro htaken id row hfound
    rw [hclashes, Bool.and_eq_false_iff]
    by_contra hboth
    rw [not_or, Bool.not_eq_false, Bool.not_eq_false] at hboth
    exact htaken ⟨id, row, hfound, eq_of_beq hboth.1, eq_of_beq hboth.2⟩

theorem create_eq (hcreate : admin.canCreate = true)
    (harchive : readArchive multi = .ok archive) :
    create .available database query admin multi =
      answer (execute .available (withValues (query.row archive).stored insertChallenge)
          database)
        fun result =>
          match result with
          | .ok id => .ok (.created, id)
          | .error (.databaseError .unique) => Handler.fail .conflict
          | .error (.databaseError .foreignKey) => Handler.fail .notFound
          | .error _ => Handler.fail .internalServerError := by
  unfold create
  rw [hcreate, harchive]
  rfl

theorem answers_of_fits (hreferenced : Referenced database) (hcreate : admin.canCreate = true)
    (harchive : readArchive multi = .ok archive)
    (hfits : challengeSchema.fits (query.row archive) = true) :
    Answers database admin query multi := by
  have hadmits : challengeSchema.admits (query.row archive) = true := by
    rwa [admits_challenge]
  have hstored : (query.row archive).stored = some (query.row archive) :=
    ChallengeRow.stored_of_fits hfits
  have hinsert := fun referenced =>
    @Table.insert_of_admits _ _ database.challenges (query.row archive) referenced hadmits
  cases hcategory : database.categories.find query.categoryId with
  | none =>
      have htaken : ¬ Taken database query := by
        intro htaken
        obtain ⟨id, row, hfound, _, hrow⟩ := htaken
        have hexists := hreferenced id row hfound
        rw [hrow, hcategory] at hexists
        cases hexists
      have hanswer : (create .available database query admin multi).1 =
          Handler.fail .notFound := by
        rw [create_eq hcreate harchive, hstored]
        have hmissing : (database.categories.find (query.row archive).categoryId).isSome =
            false := by
          rw [CreateChallenge.row, hcategory]
          rfl
        simp only [answer, execute, withValues, insertChallenge, hmissing, hinsert,
          dif_pos (free_row_iff.mpr htaken)]
        rfl
      constructor
      · rw [hanswer]
        exact iff_of_false (not_exists.mpr fun _ => Handler.ok_ne_fail.symm)
          fun hboth => hboth.1 hcategory
      · exact iff_of_true hanswer hcategory
      · rw [hanswer]
        exact iff_of_false (Handler.fail_ne (by decide)) fun hboth => hboth.1 hcategory
  | some category =>
      have hexists : (database.categories.find (query.row archive).categoryId).isSome =
          true := by
        rw [CreateChallenge.row, hcategory]
        rfl
      have hcategory' : database.categories.find query.categoryId ≠ none := by
        rw [hcategory]
        exact Option.some_ne_none category
      by_cases htaken : Taken database query
      · have hanswer : (create .available database query admin multi).1 =
            Handler.fail .conflict := by
          rw [create_eq hcreate harchive, hstored]
          simp only [answer, execute, withValues, insertChallenge, hexists, hinsert,
            dif_neg (mt free_row_iff.mp (not_not.mpr htaken))]
          rfl
        constructor
        · rw [hanswer]
          exact iff_of_false (not_exists.mpr fun _ => Handler.ok_ne_fail.symm)
            fun hboth => hboth.2 htaken
        · rw [hanswer]
          exact iff_of_false (Handler.fail_ne (by decide)) hcategory'
        · exact iff_of_true hanswer ⟨hcategory', htaken⟩
      · have hanswer : (create .available database query admin multi).1 =
            .ok (.created, database.challenges.sequence + 1) := by
          rw [create_eq hcreate harchive, hstored]
          simp only [answer, execute, withValues, insertChallenge, hexists, hinsert,
            dif_pos (free_row_iff.mpr htaken)]
          rfl
        constructor
        · exact iff_of_true ⟨_, hanswer⟩ ⟨hcategory', htaken⟩
        · rw [hanswer]
          exact iff_of_false Handler.ok_ne_fail hcategory'
        · rw [hanswer]
          exact iff_of_false Handler.ok_ne_fail fun hboth => htaken hboth.2

/-- Along every run of the API the handlers answer from the store. -/
theorem challenge_store {exchanges : List Exchange} {last : Database}
    (hrun : Run Serves .empty exchanges last) :
    (∀ id user, Reads last id user (recorded exchanges id)) ∧
    (∀ id, (recorded exchanges id).isSome = true ↔
      ∃ exchange ∈ exchanges, Creates exchange id) ∧
    (∀ exchange after, Serves last exchange after → ¬ Succeeds exchange.reply →
      SameRows last after) ∧
    (∀ exchange id, ¬ Creates exchange id → ¬ Updates exchange id →
      recorded (exchanges ++ [exchange]) id = recorded exchanges id) ∧
    ∀ admin query multi archive, admin.canCreate = true → readArchive multi = .ok archive →
      challengeSchema.fits (query.row archive) = true → Answers last admin query multi := by
  refine ⟨?_, fun _ => isSome_recorded, fun _ _ => sameRows_of_failed, ?_, ?_⟩
  · intro id user
    rw [← storeOf_recorded hrun]
    exact reads_storeOf last id user
  · intro exchange id hcreates hupdates
    rw [recorded_snoc, record_other hcreates hupdates]
  · intro admin query multi archive hcreate harchive hfits
    exact answers_of_fits (referenced_of_run hrun) hcreate harchive hfits

/-! ## A short run -/

/-- A database with one category. -/
def oneCategory : Database := afterAdmin (afterAdmin .empty eventRequest) webRequest

theorem oneCategory_run : Run Serves .empty
    [adminExchange .empty eventRequest,
      adminExchange (afterAdmin .empty eventRequest) webRequest] oneCategory :=
  run_admin webRequest (run_admin eventRequest .nil)

/-- A name of 64 characters. -/
def longQuery : CreateChallenge :=
  ⟨String.ofList (List.replicate 64 'a'), none, 1, "", "", none⟩

/-- A name of 63 characters and a blank. -/
def blankQuery : CreateChallenge :=
  ⟨String.ofList (List.replicate 63 'a' ++ [' ']), none, 1, "", "", none⟩

/-- A name that does not fit its column is an error of the server, or it is not shown
as it was created. -/
theorem long_name_not_created :
    (¬ ∀ exchanges last, Run Serves .empty exchanges last →
      ∀ admin query multi archive, admin.canCreate = true →
        readArchive multi = .ok archive → Answers last admin query multi) ∧
    ¬ ∀ exchanges last, Run Serves .empty exchanges last →
      ∀ exchange ∈ exchanges, ∀ query multi id user challenge,
        exchange.request = .challengesCreate query multi →
        exchange.reply = .response .created (.id id) →
        (getMetadata .available last id user).1 = .ok challenge →
        challenge.name = query.name := by
  constructor
  · intro hclaim
    have hanswers := hclaim _ _ oneCategory_run exampleAdmin longQuery .none none rfl rfl
    have hfailed : (create .available oneCategory longQuery exampleAdmin .none).1 =
        Handler.fail .internalServerError := by
      rfl
    have hcategory : oneCategory.categories.find longQuery.categoryId ≠ none := by decide
    have htaken : ¬ Taken oneCategory longQuery := nofun
    obtain ⟨id, hcreated⟩ := hanswers.created.mpr ⟨hcategory, htaken⟩
    cases hfailed.symm.trans hcreated
  · intro hclaim
    have hrun := run_admin (.challengesCreate blankQuery .none) oneCategory_run
    have hshown := hclaim _ _ hrun _ (List.mem_append_right _ (List.mem_singleton.mpr rfl))
      blankQuery .none 1 ⟨⟨7⟩⟩ _ rfl rfl rfl
    revert hshown
    decide

/-- A challenge with a flag, an archive and instructions. -/
def pwnRequest : Request :=
  .challengesCreate ⟨"first", some "flag", 1, "a stack", "easy", some "ask us"⟩
    (.field (some "zip_file") (some "application/zip") (some [80, 75, 3, 4]))

/-- The instructions become "nc". -/
def instructRequest : Request := .setConnectionInstructions 1 (some [110, 99])

def withPwn : Database := afterAdmin oneCategory pwnRequest

def withNc : Database := afterAdmin withPwn instructRequest

/-- A challenge is created, its instructions are set, and another one is created. -/
def pwnExchanges : List Exchange :=
  [adminExchange .empty eventRequest, adminExchange (afterAdmin .empty eventRequest) webRequest,
    adminExchange oneCategory pwnRequest, adminExchange withPwn instructRequest,
    adminExchange withNc (challengeRequest "second")]

/-- The flag and the archive are those of the creation, the instructions are the
latest. -/
theorem challenge_store_pwn :
    Reads (afterAdmin withNc (challengeRequest "second")) 1 ⟨⟨7⟩⟩
      (some ⟨"first", some "flag", "a stack", "easy", some [80, 75, 3, 4], some "nc"⟩) := by
  have hrun : Run Serves .empty pwnExchanges
      (afterAdmin withNc (challengeRequest "second")) :=
    run_admin (challengeRequest "second") (run_admin instructRequest
      (run_admin pwnRequest oneCategory_run))
  have hrecorded : recorded pwnExchanges 1 =
      some ⟨"first", some "flag", "a stack", "easy", some [80, 75, 3, 4], some "nc"⟩ := by
    decide
  have hreads := (challenge_store hrun).1 1 ⟨⟨7⟩⟩
  rwa [hrecorded] at hreads

end ScdtServer.ChallengeStore
