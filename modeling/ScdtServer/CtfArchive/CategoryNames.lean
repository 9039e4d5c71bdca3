import ScdtServer.CtfArchive.Processes

/-!
# Names of categories

The API speaks of names that are unique in a CTF, and there is a constraint for
that.  The column has another one: a name is unique among all categories.  A name
with U+0000 in it is an error of the server, whatever the CTF.
-/

namespace ScdtServer.CategoryNames

open ScdtServer.Http
open ScdtServer.Jwt
open ScdtServer.Sql
open ScdtServer.Tables
open ScdtServer.Categories
open ScdtServer.Api
open ScdtServer.Processes

variable {database : Database} {admin : JWTAdmin} {category : CreateCategory}

/-! ## References to CTFs -/

/-- The CTF of every category exists. -/
def Referenced (database : Database) : Prop :=
  ∀ id row, database.categories.find id = some row →
    (database.ctfs.find row.ctfId).isSome = true

theorem referenced_of_writes {request : Request} {before after : Database}
    (hreferenced : Referenced before) (hwritten : Writes request before after) :
    Referenced after := by
  intro id row hfound
  cases hwritten with
  | ctf =>
      obtain ⟨ctf, hctf⟩ := Option.isSome_iff_exists.mp (hreferenced id row hfound)
      exact Option.isSome_iff_exists.mpr ⟨ctf, Table.find_insert_of_find hctf⟩
  | category =>
      cases Table.find_insert hfound with
      | inl hold => exact hreferenced id row hold
      | inr hnew =>
          rw [hnew.1]
          exact (Table.insert_eq_ok hnew.2).2
  | _ => exact hreferenced id row hfound

theorem referenced_of_reached (hreached : Reached anyRequest database) :
    Referenced database := by
  apply hreached.invariant
  · exact nofun
  · exact fun _ _ _ _ => referenced_of_writes

/-! ## What `create` answers -/

/-- The row of a new category. -/
def rowOf (category : CreateCategory) : CategoryRow :=
  ⟨category.name, category.ctfId, category.categoryType.asStr⟩

/-- Some CTF has a category of that name. -/
def Named (database : Database) (name : String) : Prop :=
  ∃ id row, database.categories.find id = some row ∧ row.name = name

/-- The CTF has a category of that name. -/
def Taken (database : Database) (ctfId : ℤ) (name : String) : Prop :=
  ∃ id row, database.categories.find id = some row ∧ row.name = name ∧ row.ctfId = ctfId

/-- There is a new row, and its number is the answer. -/
def Created (database : Database) (category : CreateCategory)
    (outcome : Handler StatusCode (StatusCode × ℤ) × Database) : Prop :=
  ∃ id, outcome.1 = .ok (.created, id) ∧ database.categories.find id = none ∧
    ∀ other, outcome.2.categories.find other =
      if other = id then some (rowOf category) else database.categories.find other

/-- A type fits its column. -/
theorem fits_asStr (categoryType : CategoryType) :
    fitsVarchar 63 categoryType.asStr = true := by
  cases categoryType <;> decide

theorem fits_rowOf (hname : fitsVarchar 63 category.name = true) :
    categorySchema.fits (rowOf category) = true := by
  simp only [categorySchema, rowOf, hname, fits_asStr, Bool.and_self]

/-- A type passes its CHECK. -/
theorem admits_rowOf (hname : fitsVarchar 63 category.name = true) :
    categorySchema.admits (rowOf category) = true := by
  have hchecks : categorySchema.passesAll (rowOf category) = true := by
    unfold rowOf
    cases category.categoryType <;> rfl
  rw [Schema.admits, fits_rowOf hname, hchecks, Bool.and_self]

/-- The constraint of the column is the one that decides. -/
theorem clashes_category (first second : CategoryRow) :
    categorySchema.clashes first second = (first.name == second.name) := by
  simp only [categorySchema]
  cases first.name == second.name <;> rfl

theorem free_rowOf_iff :
    database.categories.free (database.categories.sequence + 1) (rowOf category) = true ↔
      ¬ Named database category.name := by
  rw [Table.free_next_iff]
  constructor
  · intro hfree hnamed
    obtain ⟨id, row, hfound, hname⟩ := hnamed
    have hclash := hfree id row hfound
    rw [clashes_category] at hclash
    exact beq_eq_false_iff_ne.mp hclash hname
  · intro hnamed id row hfound
    rw [clashes_category]
    apply beq_eq_false_iff_ne.mpr
    exact fun hname => hnamed ⟨id, row, hfound, hname⟩

theorem create_eq (hcreate : admin.canCreate = true) :
    create .available database admin category =
      answer (execute .available (withValues (rowOf category).stored insertCategory) database)
        fun result =>
          match result with
          | .ok id => .ok (.created, id)
          | .error (.databaseError .unique) => Handler.fail .conflict
          | .error (.databaseError .foreignKey) => Handler.fail .notFound
          | .error _ => Handler.fail .internalServerError := by
  unfold create
  rw [hcreate]
  rfl

/-- A name that fits is stored as it is. -/
theorem stored_rowOf (hname : fitsVarchar 63 category.name = true) :
    (rowOf category).stored = some (rowOf category) :=
  CategoryRow.stored_of_fits (fits_rowOf hname)

/-- A name with U+0000 in it is refused, as an error of the server. -/
theorem create_zero (database : Database) (hcreate : admin.canCreate = true)
    (hzero : '\x00' ∈ category.name.toList) :
    (create .available database admin category).1 = Handler.fail .internalServerError := by
  have hstored : (rowOf category).stored = none := by
    rw [CategoryRow.stored, rowOf, varchar, if_pos hzero]
    rfl
  rw [create_eq hcreate, hstored]
  rfl

/-- A name that any CTF uses is refused. -/
theorem create_named (hcreate : admin.canCreate = true)
    (hname : fitsVarchar 63 category.name = true) (hnamed : Named database category.name) :
    (create .available database admin category).1 = Handler.fail .conflict := by
  have hfree := mt free_rowOf_iff.mp (not_not.mpr hnamed)
  rw [create_eq hcreate, stored_rowOf hname]
  simp only [answer, execute, withValues, insertCategory,
    Table.insert_of_admits (admits_rowOf hname), dif_neg hfree]
  rfl

theorem create_missing (hcreate : admin.canCreate = true)
    (hname : fitsVarchar 63 category.name = true) (hnamed : ¬ Named database category.name)
    (hmissing : database.ctfs.find category.ctfId = none) :
    (create .available database admin category).1 = Handler.fail .notFound := by
  have hreferenced : (database.ctfs.find (rowOf category).ctfId).isSome = false := by
    rw [rowOf, hmissing]
    rfl
  rw [create_eq hcreate, stored_rowOf hname]
  simp only [answer, execute, withValues, insertCategory,
    Table.insert_of_admits (admits_rowOf hname), dif_pos (free_rowOf_iff.mpr hnamed), hreferenced]
  rfl

theorem create_created (hcreate : admin.canCreate = true)
    (hname : fitsVarchar 63 category.name = true) (hnamed : ¬ Named database category.name)
    (hctf : (database.ctfs.find category.ctfId).isSome = true) :
    Created database category (create .available database admin category) := by
  have hreferenced : (database.ctfs.find (rowOf category).ctfId).isSome = true := hctf
  have hfree := free_rowOf_iff.mpr hnamed
  have hfind := fun other =>
    Table.find_insert_of_free other (admits_rowOf hname) hfree
  have hinsert := Table.insert_of_free (admits_rowOf hname) hfree
  rw [create_eq hcreate, stored_rowOf hname]
  simp only [answer, execute, withValues, insertCategory, hreferenced]
  refine ⟨database.categories.sequence + 1, ?_, Table.find_next _, hfind⟩
  rw [hinsert]
  rfl

/-! ## Names that are unique in a CTF only -/

/-- What the API says about the answers of `create`. -/
structure Exact (database : Database) (admin : JWTAdmin) (category : CreateCategory) :
    Prop where
  missing : (create .available database admin category).1 = Handler.fail .notFound ↔
    database.ctfs.find category.ctfId = none
  conflict : (create .available database admin category).1 = Handler.fail .conflict ↔
    Taken database category.ctfId category.name
  created : database.ctfs.find category.ctfId ≠ none →
    ¬ Taken database category.ctfId category.name →
      Created database category (create .available database admin category)

/-- Every category of that name is in the CTF. -/
def Local (database : Database) (category : CreateCategory) : Prop :=
  ∀ id row, database.categories.find id = some row → row.name = category.name →
    row.ctfId = category.ctfId

theorem id_eq_of_name {id id' : ℤ} {row row' : CategoryRow}
    (hfound : database.categories.find id = some row)
    (hfound' : database.categories.find id' = some row') (hname : row.name = row'.name) :
    id = id' := by
  by_contra hne
  have hclash := Table.clashes_of_find hne hfound hfound'
  rw [clashes_category] at hclash
  exact beq_eq_false_iff_ne.mp hclash hname

/-- No category has U+0000 in its name. -/
theorem not_taken_zero {ctfId : ℤ} {name : String} (hzero : '\x00' ∈ name.toList) :
    ¬ Taken database ctfId name := by
  intro htaken
  obtain ⟨id, row, hfound, rfl, _⟩ := htaken
  have hfits := (Bool.and_eq_true_iff.mp (Table.admits_of_find hfound)).1
  have hname : fitsVarchar 63 row.name = true := (Bool.and_eq_true_iff.mp hfits).1
  exact (fitsVarchar_iff.mp hname).1 hzero

/-- What is an error of the server is none of the three answers. -/
theorem not_exact (hfailed : (create .available database admin category).1 =
    Handler.fail .internalServerError)
    (hfree : ¬ Taken database category.ctfId category.name) :
    ¬ Exact database admin category := by
  intro hexact
  by_cases hmissing : database.ctfs.find category.ctfId = none
  · have hnotFound := hexact.missing.mpr hmissing
    cases hfailed.symm.trans hnotFound
  · obtain ⟨id, hcreated, _⟩ := hexact.created hmissing hfree
    cases hfailed.symm.trans hcreated

theorem exact_iff (hreferenced : Referenced database) (hcreate : admin.canCreate = true)
    (hlength : category.name.length ≤ 63) :
    Exact database admin category ↔
      Local database category ∧ '\x00' ∉ category.name.toList := by
  constructor
  · intro hexact
    have hzero : '\x00' ∉ category.name.toList := fun hzero =>
      not_exact (create_zero database hcreate hzero) (not_taken_zero hzero) hexact
    have hname : fitsVarchar 63 category.name = true := fitsVarchar_iff.mpr ⟨hzero, hlength⟩
    refine ⟨?_, hzero⟩
    intro id row hfound hrow
    have hconflict := create_named hcreate hname ⟨id, row, hfound, hrow⟩
    obtain ⟨id', row', hfound', hrow', hctf⟩ := hexact.conflict.mp hconflict
    obtain rfl := id_eq_of_name hfound hfound' (hrow.trans hrow'.symm)
    rw [Option.some.inj (hfound.symm.trans hfound'), hctf]
  · intro hboth
    obtain ⟨hlocal, hzero⟩ := hboth
    have hname : fitsVarchar 63 category.name = true := fitsVarchar_iff.mpr ⟨hzero, hlength⟩
    by_cases hnamed : Named database category.name
    · -- the name is taken in the CTF itself, which therefore exists
      have hconflict := create_named hcreate hname hnamed
      obtain ⟨id, row, hfound, hrow⟩ := hnamed
      have hctf := hlocal id row hfound hrow
      have htaken : Taken database category.ctfId category.name :=
        ⟨id, row, hfound, hrow, hctf⟩
      have hexists := hreferenced id row hfound
      rw [hctf] at hexists
      refine ⟨?_, iff_of_true hconflict htaken, fun _ hfree => absurd htaken hfree⟩
      rw [hconflict]
      apply iff_of_false nofun
      intro hmissing
      rw [hmissing] at hexists
      cases hexists
    · have hfree : ¬ Taken database category.ctfId category.name :=
        fun ⟨id, row, hfound, hrow, _⟩ => hnamed ⟨id, row, hfound, hrow⟩
      cases hctf : database.ctfs.find category.ctfId with
      | none =>
          have hmissing := create_missing hcreate hname hnamed hctf
          refine ⟨iff_of_true hmissing hctf, ?_, fun hexists => absurd hctf hexists⟩
          rw [hmissing]
          exact iff_of_false nofun hfree
      | some ctf =>
          have hcreated := create_created hcreate hname hnamed
            (Option.isSome_iff_exists.mpr ⟨ctf, hctf⟩)
          have hanswer : ∃ id, (create .available database admin category).1 =
              .ok (.created, id) := ⟨hcreated.choose, hcreated.choose_spec.1⟩
          obtain ⟨id, hanswer⟩ := hanswer
          refine ⟨?_, ?_, fun _ _ => hcreated⟩
          · rw [hanswer, hctf]
            exact iff_of_false nofun nofun
          · rw [hanswer]
            exact iff_of_false nofun hfree

/-- Names are unique in every CTF.  They are only that for the requests whose name
no other CTF uses and has no U+0000 in it. -/
theorem category_names (hreached : Reached anyRequest database) :
    (∀ id id' row row', database.categories.find id = some row →
      database.categories.find id' = some row' → row.ctfId = row'.ctfId →
        row.name = row'.name → id = id') ∧
    ∀ admin category, admin.canCreate = true → category.name.length ≤ 63 →
      (Exact database admin category ↔
        Local database category ∧ '\x00' ∉ category.name.toList) := by
  constructor
  · intro id id' row row' hfound hfound' _ hname
    exact id_eq_of_name hfound hfound' hname
  · intro admin category hcreate hlength
    exact exact_iff (referenced_of_reached hreached) hcreate hlength

/-! ## Two CTFs -/

def firstRequest : Request := .ctfsCreate ⟨"first", ⟨2024, 9, 21⟩, ⟨2024, 9, 22⟩⟩

def secondRequest : Request := .ctfsCreate ⟨"second", ⟨2025, 9, 20⟩, ⟨2025, 9, 21⟩⟩

def reversing (ctfId : ℤ) : CreateCategory := ⟨"reversing", ctfId, .reversing⟩

/-- Two CTFs, the first with a category. -/
def twoCtfs : Database :=
  afterAdmin (afterAdmin (afterAdmin .empty firstRequest) secondRequest)
    (.categoriesCreate (reversing 1))

theorem twoCtfs_reached : Reached anyRequest twoCtfs :=
  ((Leads.here.admin trivial).admin trivial).admin trivial

theorem twoCtfs_find {id : ℤ} {row : CategoryRow}
    (hfound : twoCtfs.categories.find id = some row) : row = rowOf (reversing 1) := by
  have hentry : (id, row) = (1, rowOf (reversing 1)) :=
    List.mem_singleton.mp (Table.find_eq_some_iff.mp hfound)
  exact congrArg Prod.snd hentry

/-- The second CTF cannot have the category of the first. -/
theorem reversing_refused :
    ¬ ∀ database, Reached anyRequest database → ∀ admin category, admin.canCreate = true →
      category.name.length ≤ 63 → Exact database admin category := by
  intro hclaim
  have hexact := hclaim twoCtfs twoCtfs_reached exampleAdmin (reversing 2) rfl (by decide)
  have hboth := (exact_iff (referenced_of_reached twoCtfs_reached) rfl (by decide)).mp hexact
  have hctf := hboth.1 1 (rowOf (reversing 1)) rfl rfl
  exact absurd hctf (by decide)

/-- In the first CTF the name conflicts, as it should. -/
theorem category_names_conflict : Exact twoCtfs exampleAdmin (reversing 1) := by
  apply ((category_names twoCtfs_reached).2 exampleAdmin (reversing 1) rfl (by decide)).mpr
  refine ⟨?_, by decide⟩
  intro id row hfound _
  rw [twoCtfs_find hfound]
  rfl

end ScdtServer.CategoryNames
