import ScdtServer.CtfArchive.Outcomes
import ScdtServer.CtfArchive.Panics

/-!
# The catalogue

CTFs, categories and challenges are only ever added.  So the lists that guests see
are those of the creations that have been answered, in any processes.
-/

namespace ScdtServer.Catalogue

open ScdtServer.Transition
open ScdtServer.Http
open ScdtServer.Jwt
open ScdtServer.Sql
open ScdtServer.Tables
open ScdtServer.Challenges
open ScdtServer.Api
open ScdtServer.Effects
open ScdtServer.Outcomes
open ScdtServer.Processes (exampleServer exampleHeaders exampleEnvironment afterAdmin eventRequest
  webRequest eq_row_of_stored)
open ScdtServer.Calendar (Listable listable_of_writes list_of_listable listed tryFrom_tryInto)
open ScdtServer.Panics (categoryShown get_rows)

/-! ## What has been created -/

/-- A CTF.  Of its name the column cuts off blanks in excess. -/
def createdCtf (exchange : Exchange) : Option Ctfs.Ctf :=
  match exchange.request, exchange.reply with
  | .ctfsCreate ctf, .response .created (.id id) =>
      some ⟨id, cut 127 ctf.name, ctf.startDate, ctf.endDate⟩
  | _, _ => none

/-- A category, and the CTF that it is for. -/
def createdCategory (exchange : Exchange) : Option (ℤ × Categories.Category) :=
  match exchange.request, exchange.reply with
  | .categoriesCreate category, .response .created (.id id) =>
      some (category.ctfId, ⟨id, cut 63 category.name, category.categoryType⟩)
  | _, _ => none

/-- The number of a challenge, and the category that it is for. -/
def createdChallenge (exchange : Exchange) : Option (ℤ × ℤ) :=
  match exchange.request, exchange.reply with
  | .challengesCreate query _, .response .created (.id id) => some (query.categoryId, id)
  | _, _ => none

/-- Under which CTF a category is listed. -/
def shelved (entry : ℤ × CategoryRow) : ℤ × Categories.Category :=
  (entry.2.ctfId, categoryShown entry)

/-- Under which category a challenge is listed. -/
def placed (entry : ℤ × ChallengeRow) : ℤ × ℤ := (entry.2.categoryId, entry.1)

/-- The tables hold what has been created. -/
structure Catalogued (exchanges : List Exchange) (database : Database) : Prop where
  listable : Listable database
  ctfs : database.ctfs.rows.map listed = exchanges.filterMap createdCtf
  categories : database.categories.rows.map shelved = exchanges.filterMap createdCategory
  challenges : database.challenges.rows.map placed = exchanges.filterMap createdChallenge

variable {server : Server} {headers : Headers} {environment : Environment} {state : State}
variable {request : Request} {before after database : Database} {exchange : Exchange}
variable {exchanges : List Exchange}

/-! ## What a request creates -/

/-- A row is added to one of the tables, under a number. -/
inductive Adds (before after : Database) (id : ℤ) : Request → Prop
  | ctf {ctf : Ctfs.CreateCtf} {row : CtfRow} (hname : row.name = cut 127 ctf.name)
      (hstart : ctf.startDate.tryInto = some row.startDate)
      (hend : ctf.endDate.tryInto = some row.endDate)
      (hrows : after.ctfs.rows = before.ctfs.rows ++ [(id, row)])
      (hcategories : after.categories = before.categories)
      (hchallenges : after.challenges = before.challenges) :
      Adds before after id (.ctfsCreate ctf)
  | category {category : Categories.CreateCategory}
      (hrows : after.categories.rows = before.categories.rows ++
        [(id, ⟨cut 63 category.name, category.ctfId, category.categoryType.asStr⟩)])
      (hctfs : after.ctfs = before.ctfs) (hchallenges : after.challenges = before.challenges) :
      Adds before after id (.categoriesCreate category)
  | challenge {query : CreateChallenge} {multi : NextField} {row : ChallengeRow}
      (hcategory : row.categoryId = query.categoryId)
      (hrows : after.challenges.rows = before.challenges.rows ++ [(id, row)])
      (hctfs : after.ctfs = before.ctfs) (hcategories : after.categories = before.categories) :
      Adds before after id (.challengesCreate query multi)

/-- The request is answered with the number of the row that it has added. -/
def Added (state : State) (request : Request) (served : Served) : Prop :=
  ∃ id, served.reply = .response .created (.id id) ∧
    Adds state.database served.database id request

theorem inserted_cases {Row : Type} {values : Option Row} {statement : Row → Statement ℤ}
    {next : Except QueryError ℤ → Handler StatusCode (StatusCode × ℤ)}
    (hstatement : ∀ row, values = some row →
      (∃ id, (statement row state.database).1 = .ok id ∧
        Adds state.database (statement row state.database).2 id request) ∨
          ∃ error, (statement row state.database).1 = .error error ∧
            SameRows state.database (statement row state.database).2)
    (hdone : ∀ id, next (.ok id) = .ok (.created, id))
    (hrefused : ∀ error, ¬ Succeeds (ofCreated (next (.error error)))) :
    let served := onDatabase state ofCreated
      (answer (execute environment.service (withValues values statement) state.database) next)
    Failed state served ∨ Added state request served := by
  cases environment.service with
  | noConnection => exact .inl ⟨not_false, .refl _⟩
  | failing => exact .inl ⟨hrefused _, .refl _⟩
  | available =>
      cases values with
      | none => exact .inl ⟨hrefused _, .refl _⟩
      | some row =>
          rcases hstatement row rfl with ⟨id, hid, hadds⟩ | ⟨error, herror, hsame⟩
          · refine .inr ⟨id, ?_, hadds⟩
            simp only [onDatabase, unchanged, answer, execute, withValues, hid]
            exact congrArg ofCreated (hdone id)
          · refine .inl ⟨?_, hsame⟩
            simp only [onDatabase, unchanged, answer, execute, withValues, herror]
            exact hrefused error

theorem ctfsCreate_cases (ctf : Ctfs.CreateCtf) :
    let served := serve server headers environment state (.ctfsCreate ctf)
    Failed state served ∨ Added state (.ctfsCreate ctf) served := by
  apply authorized_cases
  intro admin
  unfold Ctfs.create
  split
  · exact .inl ⟨not_false, .refl _⟩
  · split
    · exact .inl ⟨not_false, .refl _⟩
    · split
      · rename_i startDate endDate hstart hend
        apply inserted_cases
        · intro row hstored
          dsimp only [insertCtf]
          obtain rfl := CtfRow.eq_of_stored hstored
          rcases Table.rows_insert state.database.ctfs ⟨cut 127 ctf.name, startDate, endDate⟩
            true with ⟨id, hid, hrows⟩ | ⟨violation, hrefused, hrows⟩
          · rw [hid]
            exact .inl ⟨id, rfl, .ctf rfl hstart hend hrows rfl rfl⟩
          · rw [hrefused]
            exact .inr ⟨_, rfl, hrows, rfl, rfl⟩
        · exact fun _ => rfl
        · intro error
          cases error with
          | databaseError kind => cases kind <;> exact not_false
          | notFound | other => exact not_false
      · exact .inl ⟨not_false, .refl _⟩

/-- A type is stored as it is. -/
theorem eq_of_stored {category : Categories.CreateCategory} {row : CategoryRow}
    (hstored : CategoryRow.stored
      ⟨category.name, category.ctfId, category.categoryType.asStr⟩ = some row) :
    row = ⟨cut 63 category.name, category.ctfId, category.categoryType.asStr⟩ := by
  have htype : cut 63 category.categoryType.asStr = category.categoryType.asStr := by
    cases category.categoryType <;> decide
  have hrow := CategoryRow.eq_of_stored hstored
  dsimp only at hrow
  rwa [htype] at hrow

theorem categoriesCreate_cases (category : Categories.CreateCategory) :
    let served := serve server headers environment state (.categoriesCreate category)
    Failed state served ∨ Added state (.categoriesCreate category) served := by
  apply authorized_cases
  intro admin
  unfold Categories.create
  split
  · exact .inl ⟨not_false, .refl _⟩
  · apply inserted_cases
    · intro row hstored
      dsimp only [insertCategory]
      obtain rfl := eq_of_stored hstored
      rcases Table.rows_insert state.database.categories
        ⟨cut 63 category.name, category.ctfId, category.categoryType.asStr⟩
        (state.database.ctfs.find category.ctfId).isSome with
          ⟨id, hid, hrows⟩ | ⟨violation, hrefused, hrows⟩
      · rw [hid]
        exact .inl ⟨id, rfl, .category hrows rfl rfl⟩
      · rw [hrefused]
        exact .inr ⟨_, rfl, rfl, hrows, rfl⟩
    · exact fun _ => rfl
    · intro error
      cases error with
      | databaseError kind => cases kind <;> exact not_false
      | notFound | other => exact not_false

theorem challengesCreate_cases (query : CreateChallenge) (multi : NextField) :
    let served := serve server headers environment state (.challengesCreate query multi)
    Failed state served ∨ Added state (.challengesCreate query multi) served := by
  apply authorized_cases
  intro admin
  unfold create
  split
  · exact .inl ⟨not_false, .refl _⟩
  · split
    · rename_i status hrefused
      rw [readArchive_eq_error hrefused]
      exact .inl ⟨not_false, .refl _⟩
    · rename_i archive harchive
      apply inserted_cases
      · intro row hstored
        have hcategory : row.categoryId = query.categoryId := by
          rw [eq_row_of_stored hstored]
          rfl
        dsimp only [insertChallenge]
        rcases Table.rows_insert state.database.challenges row
          (state.database.categories.find row.categoryId).isSome with
            ⟨id, hid, hrows⟩ | ⟨violation, hrefused, hrows⟩
        · rw [hid]
          exact .inl ⟨id, rfl, .challenge hcategory hrows rfl rfl⟩
        · rw [hrefused]
          exact .inr ⟨_, rfl, rfl, rfl, hrows⟩
      · exact fun _ => rfl
      · intro error
        cases error with
        | databaseError kind => cases kind <;> exact not_false
        | notFound | other => exact not_false

/-! ## What a request does to the lists -/

/-- Nothing is created, and nothing is removed or moved. -/
structure Kept (before after : Database) (exchange : Exchange) : Prop where
  noCtf : createdCtf exchange = none
  noCategory : createdCategory exchange = none
  noChallenge : createdChallenge exchange = none
  ctfs : after.ctfs.rows = before.ctfs.rows
  categories : after.categories.rows = before.categories.rows
  challenges : after.challenges.rows.map placed = before.challenges.rows.map placed

theorem kept_of_failed (hreply : ¬ Succeeds exchange.reply) (hsame : SameRows before after) :
    Kept before after exchange where
  noCtf := by
    unfold createdCtf
    split
    · rename_i hcreated
      rw [hcreated] at hreply
      exact absurd trivial hreply
    · rfl
  noCategory := by
    unfold createdCategory
    split
    · rename_i hcreated
      rw [hcreated] at hreply
      exact absurd trivial hreply
    · rfl
  noChallenge := by
    unfold createdChallenge
    split
    · rename_i hcreated
      rw [hcreated] at hreply
      exact absurd trivial hreply
    · rfl
  ctfs := hsame.ctfs
  categories := hsame.categories
  challenges := congrArg (List.map placed) hsame.challenges

def isCreation : Request → Bool
  | .ctfsCreate _ => true
  | .categoriesCreate _ => true
  | .challengesCreate _ _ => true
  | _ => false

/-- Updates leave challenges where they are. -/
theorem placed_update {challenges : Table challengeSchema} {id : ℤ}
    {change : ChallengeRow → ChallengeRow}
    (hkeeps : ∀ row, (change row).categoryId = row.categoryId) :
    (challenges.update id change).2.rows.map placed = challenges.rows.map placed := by
  have hplaced : placed = Prod.swap ∘ fun entry : ℤ × ChallengeRow =>
      (entry.1, entry.2.categoryId) := rfl
  rw [hplaced, ← List.map_map, ← List.map_map, Table.rows_update_map change _ hkeeps]

theorem kept_of_writes (hwritten : Writes exchange.request before after)
    (hother : isCreation exchange.request = false) : Kept before after exchange where
  noCtf := by
    unfold createdCtf
    split
    · rename_i hrequest _
      rw [hrequest] at hother
      cases hother
    · rfl
  noCategory := by
    unfold createdCategory
    split
    · rename_i hrequest _
      rw [hrequest] at hother
      cases hother
    · rfl
  noChallenge := by
    unfold createdChallenge
    split
    · rename_i hrequest _
      rw [hrequest] at hother
      cases hother
    · rfl
  ctfs := by
    generalize exchange.request = request at hwritten hother
    cases hwritten with
    | ctf => cases hother
    | _ => rfl
  categories := by
    generalize exchange.request = request at hwritten hother
    cases hwritten with
    | category => cases hother
    | _ => rfl
  challenges := by
    generalize exchange.request = request at hwritten hother
    cases hwritten with
    | challenge => cases hother
    | docker | instructions | archive => exact placed_update fun _ => rfl
    | nothing | ctf | category => rfl

/-- A request adds one row to a list, or it leaves the lists alone. -/
theorem serves_cases (hserves : Serves before exchange after) :
    Kept before after exchange ∨
      ∃ id, exchange.reply = .response .created (.id id) ∧
        Adds before after id exchange.request := by
  cases hserves with
  | @request server headers environment state request =>
      have hfailed : ∀ request, Failed state (serve server headers environment state request) →
          Kept state.database (afterRequest server headers environment state request).database
            (exchangeOf server headers environment state request) :=
        fun request hfailed => kept_of_failed hfailed.1 hfailed.2
      cases hcreation : isCreation request with
      | false => exact .inl (kept_of_writes serve_writes hcreation)
      | true =>
          cases request with
          | ctfsCreate ctf => exact (ctfsCreate_cases ctf).imp_left (hfailed _)
          | categoriesCreate category =>
              exact (categoriesCreate_cases category).imp_left (hfailed _)
          | challengesCreate query multi =>
              exact (challengesCreate_cases query multi).imp_left (hfailed _)
          | _ => cases hcreation

theorem parse_asStr (categoryType : Categories.CategoryType) :
    Categories.CategoryType.parse categoryType.asStr = some categoryType := by
  cases categoryType <;> rfl

theorem filterMap_snoc {A B : Type} {choose : A → Option B} {entries : List A} {entry : A} :
    (entries ++ [entry]).filterMap choose = entries.filterMap choose ++ (choose entry).toList := by
  rw [List.filterMap_append]
  congr 1

/-- A list that nothing is added to. -/
theorem list_kept {A B : Type} {choose : A → Option B} {entries : List A} {entry : A}
    {listed listed' : List B} (hlisted : listed = entries.filterMap choose)
    (hkept : listed' = listed) (hnone : choose entry = none) :
    listed' = (entries ++ [entry]).filterMap choose := by
  rw [filterMap_snoc, hnone, hkept, hlisted]
  exact (List.append_nil _).symm

/-- A list that something is added to. -/
theorem list_added {A B : Type} {choose : A → Option B} {entries : List A} {entry : A}
    {listed listed' : List B} {added : B} (hlisted : listed = entries.filterMap choose)
    (hadded : listed' = listed ++ [added]) (hsome : choose entry = some added) :
    listed' = (entries ++ [entry]).filterMap choose := by
  rw [filterMap_snoc, hsome, hadded, hlisted]
  rfl

theorem catalogued_of_kept (hcatalogued : Catalogued exchanges before)
    (hlistable : Listable after) (hkept : Kept before after exchange) :
    Catalogued (exchanges ++ [exchange]) after where
  listable := hlistable
  ctfs := list_kept hcatalogued.ctfs (congrArg _ hkept.ctfs) hkept.noCtf
  categories := list_kept hcatalogued.categories (congrArg _ hkept.categories) hkept.noCategory
  challenges := list_kept hcatalogued.challenges hkept.challenges hkept.noChallenge

theorem catalogued_of_adds {id : ℤ} (hcatalogued : Catalogued exchanges before)
    (hlistable : Listable after) (hreply : exchange.reply = .response .created (.id id))
    (hadds : Adds before after id exchange.request) :
    Catalogued (exchanges ++ [exchange]) after := by
  generalize hrequest : exchange.request = request at hadds
  cases hadds with
  | @ctf ctf row hname hstart hend hrows hcategories hchallenges =>
      have hlisted : listed (id, row) =
          ⟨id, cut 127 ctf.name, ctf.startDate, ctf.endDate⟩ := by
        simp only [listed, hname, tryFrom_tryInto hstart, tryFrom_tryInto hend,
          Option.getD_some]
      refine ⟨hlistable, ?_, ?_, ?_⟩
      · apply list_added hcatalogued.ctfs
        · rw [hrows, List.map_append]
          rfl
        · simp only [createdCtf, hrequest, hreply, hlisted]
      · apply list_kept hcatalogued.categories
        · rw [hcategories]
        · simp only [createdCategory, hrequest]
      · apply list_kept hcatalogued.challenges
        · rw [hchallenges]
        · simp only [createdChallenge, hrequest]
  | @category category hrows hctfs hchallenges =>
      refine ⟨hlistable, ?_, ?_, ?_⟩
      · apply list_kept hcatalogued.ctfs
        · rw [hctfs]
        · simp only [createdCtf, hrequest]
      · apply list_added hcatalogued.categories
        · rw [hrows, List.map_append]
          rfl
        · simp only [createdCategory, hrequest, hreply, shelved, categoryShown, parse_asStr,
            Option.getD_some]
      · apply list_kept hcatalogued.challenges
        · rw [hchallenges]
        · simp only [createdChallenge, hrequest]
  | @challenge query multi row hcategory hrows hctfs hcategories =>
      refine ⟨hlistable, ?_, ?_, ?_⟩
      · apply list_kept hcatalogued.ctfs
        · rw [hctfs]
        · simp only [createdCtf, hrequest]
      · apply list_kept hcatalogued.categories
        · rw [hcategories]
        · simp only [createdCategory, hrequest]
      · apply list_added hcatalogued.challenges
        · rw [hrows, List.map_append]
          rfl
        · simp only [createdChallenge, hrequest, hreply, placed, hcategory]

theorem catalogued_of_run (hrun : Run Serves .empty exchanges database) :
    Catalogued exchanges database := by
  apply Run.history Catalogued _ _ hrun
  · exact ⟨nofun, rfl, rfl, rfl⟩
  · intro exchanges before exchange after hcatalogued hserves
    have hlistable : Listable after := by
      cases hserves with
      | request => exact listable_of_writes hcatalogued.listable serve_writes
    rcases serves_cases hserves with hkept | ⟨id, hreply, hadds⟩
    · exact catalogued_of_kept hcatalogued hlistable hkept
    · exact catalogued_of_adds hcatalogued hlistable hreply hadds

/-! ## The lists -/

/-- The answer is such a list, in any order. -/
def Lists {A : Type} (reply : Reply) (body : List A → Body) (entries : List A) : Prop :=
  ∃ listed, reply = .response .ok (body listed) ∧ listed.Perm entries

theorem get_reply (ctfId : ℤ) (user : JWTUser) :
    (Categories.get .available database ctfId user).1 =
      .ok ((database.categories.filter fun row => row.ctfId == ctfId).map categoryShown) :=
  get_rows database ctfId

/-- In every run, by any processes, the lists are those of all that has been created:
nothing is missing, nothing is there twice, and nothing else is there. -/
theorem catalogue_listed (hrun : Run Serves .empty exchanges database) (server : Server)
    (headers : Headers) (environment : Environment) (state : State) (user : JWTUser)
    (hstate : state.database = database) (havailable : environment.service = .available)
    (huser : fromRequestParts server.signer JWTUser state.now headers = .ok user) :
    Lists (serve server headers environment state .ctfsList).reply .ctfs
      (exchanges.filterMap createdCtf) ∧
    (∀ ctfId, Lists (serve server headers environment state (.categoriesGet ctfId)).reply
      .categories (((exchanges.filterMap createdCategory).filter
        fun entry => entry.1 == ctfId).map Prod.snd)) ∧
    ∀ categoryId, Lists
      (serve server headers environment state (.challengesList categoryId)).reply
      .ids (((exchanges.filterMap createdChallenge).filter
        fun entry => entry.1 == categoryId).map Prod.snd) := by
  have hcatalogued := catalogued_of_run hrun
  subst hstate
  simp only [serve, authorized, huser, havailable]
  refine ⟨⟨_, ?_, .of_eq hcatalogued.ctfs⟩, ?_, ?_⟩
  · exact congrArg (ofTotal .ctfs) (list_of_listable hcatalogued.listable)
  · intro ctfId
    refine ⟨_, congrArg (ofValue .categories) (get_reply ctfId user), .of_eq ?_⟩
    rw [← hcatalogued.categories, List.filter_map, List.map_map]
    rfl
  · intro categoryId
    refine ⟨(state.database.challenges.filter fun row =>
      row.categoryId == categoryId).map Prod.fst, rfl, .of_eq ?_⟩
    rw [← hcatalogued.challenges, List.filter_map, List.map_map]
    rfl

/-- An event, a category of it, and an event whose dates are not in order. -/
def eventExchanges : List Exchange :=
  [adminExchange .empty eventRequest, adminExchange (afterAdmin .empty eventRequest) webRequest,
    adminExchange (afterAdmin (afterAdmin .empty eventRequest) webRequest)
      (.ctfsCreate ⟨"reversed", ⟨2024, 9, 22⟩, ⟨2024, 9, 21⟩⟩)]

/-- The first event and its category are listed. -/
theorem catalogue_listed_event :
    let database := afterAdmin (afterAdmin (afterAdmin .empty eventRequest) webRequest)
      (.ctfsCreate ⟨"reversed", ⟨2024, 9, 22⟩, ⟨2024, 9, 21⟩⟩)
    let answered := fun request => (serve exampleServer exampleHeaders exampleEnvironment
      (.start 0 database) request).reply
    Lists (answered .ctfsList) .ctfs [⟨1, "event", ⟨2024, 9, 21⟩, ⟨2024, 9, 22⟩⟩] ∧
      Lists (answered (.categoriesGet 1)) .categories [⟨1, "web", .web⟩] ∧
      Lists (answered (.challengesList 1)) .ids [] := by
  intro database answered
  have hrun : Run Serves .empty eventExchanges database :=
    run_admin _ (run_admin webRequest (run_admin eventRequest .nil))
  have huser : fromRequestParts exampleServer.signer JWTUser 0 exampleHeaders =
      .ok ⟨⟨7⟩⟩ := by
    decide
  have hctfs : eventExchanges.filterMap createdCtf =
      [⟨1, "event", ⟨2024, 9, 21⟩, ⟨2024, 9, 22⟩⟩] := by
    decide +kernel
  have hcategories : ((eventExchanges.filterMap createdCategory).filter
      fun entry => entry.1 == 1).map Prod.snd = [⟨1, "web", .web⟩] := by
    decide +kernel
  have hchallenges : ((eventExchanges.filterMap createdChallenge).filter
      fun entry => entry.1 == 1).map Prod.snd = [] := by
    decide +kernel
  have hlisted := catalogue_listed hrun exampleServer exampleHeaders exampleEnvironment
    (.start 0 database) ⟨⟨7⟩⟩ rfl rfl huser
  rw [← hctfs, ← hcategories, ← hchallenges]
  exact ⟨hlisted.1, hlisted.2.1 1, hlisted.2.2 1⟩

end ScdtServer.Catalogue
