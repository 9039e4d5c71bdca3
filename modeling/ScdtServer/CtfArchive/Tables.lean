import ScdtServer.Core.Sql
import ScdtServer.CtfArchive.Dates
import ScdtServer.CtfArchive.Http
import ScdtServer.CtfArchive.Models

/-!
# The database of the archive

The three tables with the constraints of the migrations, and how a handler runs
a statement.
-/

namespace ScdtServer.Tables

open ScdtServer.Sql
open ScdtServer.Dates
open ScdtServer.Http
open ScdtServer.Models

/-! ## Texts -/

/-- The first characters of a text, `limit` at most. -/
def cut (limit : ℕ) (text : String) : String := String.ofList (text.toList.take limit)

/-- What a column `VARCHAR(limit)` stores for a text.  No text of the database has
U+0000 in it, and blanks over the limit are cut off. -/
def varchar (limit : ℕ) (text : String) : Option String :=
  if '\x00' ∈ text.toList then none
  else if (text.toList.drop limit).all fun char => char = ' ' then some (cut limit text)
  else none

/-- The column stores the text as it is. -/
def fitsVarchar (limit : ℕ) (text : String) : Bool := varchar limit text == some text

section

variable {limit : ℕ} {text kept : String}

theorem cut_of_length_le (hlength : text.length ≤ limit) : cut limit text = text := by
  rw [← String.length_toList] at hlength
  rw [cut, List.take_of_length_le hlength, String.ofList_toList]

theorem varchar_eq_some :
    varchar limit text = some kept ↔
      '\x00' ∉ text.toList ∧ (∀ char ∈ text.toList.drop limit, char = ' ') ∧
        kept = cut limit text := by
  unfold varchar
  split
  · rename_i hzero
    exact iff_of_false nofun fun hstored => hstored.1 hzero
  · rename_i hzero
    split
    · rename_i hblanks
      have hall : ∀ char ∈ text.toList.drop limit, char = ' ' := by simpa using hblanks
      rw [Option.some_inj, eq_comm]
      exact ⟨fun heq => ⟨hzero, hall, heq⟩, fun hstored => hstored.2.2⟩
    · rename_i hblanks
      apply iff_of_false nofun
      intro hstored
      exact hblanks (by simpa using hstored.2.1)

theorem eq_cut_of_varchar (hstored : varchar limit text = some kept) : kept = cut limit text :=
  (varchar_eq_some.mp hstored).2.2

/-- What fits is what has no U+0000 and is no longer than the column. -/
theorem fitsVarchar_iff :
    fitsVarchar limit text = true ↔ '\x00' ∉ text.toList ∧ text.length ≤ limit := by
  rw [fitsVarchar, beq_iff_eq, varchar_eq_some]
  constructor
  · intro hstored
    obtain ⟨hzero, _, heq⟩ := hstored
    have hlength := congrArg String.length heq
    rw [cut, String.length_ofList, List.length_take, String.length_toList] at hlength
    exact ⟨hzero, by omega⟩
  · intro hfits
    obtain ⟨hzero, hlength⟩ := hfits
    refine ⟨hzero, ?_, (cut_of_length_le hlength).symm⟩
    rw [← String.length_toList] at hlength
    rw [List.drop_of_length_le hlength]
    exact nofun

theorem varchar_of_fits (hfits : fitsVarchar limit text = true) :
    varchar limit text = some text :=
  eq_of_beq hfits

theorem mapM_varchar_of_fits {value : Option String}
    (hfits : value.all (fitsVarchar limit) = true) :
    value.mapM (varchar limit) = some value := by
  cases value with
  | none => rfl
  | some text =>
      have htext : varchar limit text = some text := varchar_of_fits hfits
      rw [Option.mapM_some, htext]
      rfl

theorem eq_cut_of_mapM_varchar {value kept : Option String}
    (hstored : value.mapM (varchar limit) = some kept) : kept = value.map (cut limit) := by
  cases value with
  | none =>
      cases hstored
      rfl
  | some text =>
      rw [Option.mapM_some] at hstored
      obtain ⟨text', htext, hkept⟩ := Option.map_eq_some_iff.mp hstored
      rw [← hkept, eq_cut_of_varchar htext]
      rfl

end

example : varchar 3 "web  " = some "web" := by decide

/-! ## Tables -/

structure CtfRow where
  name : String
  startDate : NaiveDate
  endDate : NaiveDate
  deriving DecidableEq

/-- `ends_after_start`. -/
def CtfRow.endsAfterStart (row : CtfRow) : Truth := some (row.startDate.ble row.endDate)

/-- The row with its values as they are stored. -/
def CtfRow.stored (row : CtfRow) : Option CtfRow := do
  let name ← varchar 127 row.name
  return { row with name := name }

def ctfSchema : Schema CtfRow where
  fits row := fitsVarchar 127 row.name
  checks row := [row.endsAfterStart]
  clashes first second := first.name == second.name
  clashes_symm _ _ := Bool.beq_comm

structure CategoryRow where
  name : String
  ctfId : ℤ
  categoryType : String
  deriving DecidableEq

/-- `valid_category_type`. -/
def CategoryRow.validCategoryType (row : CategoryRow) : Truth :=
  some (["rev", "pwn", "web", "crypto", "stego", "forensics", "misc"].contains
    row.categoryType)

def CategoryRow.stored (row : CategoryRow) : Option CategoryRow := do
  let name ← varchar 63 row.name
  let categoryType ← varchar 63 row.categoryType
  return { row with name := name, categoryType := categoryType }

/-- The name is unique by itself and together with the CTF
(`unique_name_per_ctf`). -/
def categorySchema : Schema CategoryRow where
  fits row := fitsVarchar 63 row.name && fitsVarchar 63 row.categoryType
  checks row := [row.validCategoryType]
  clashes first second :=
    first.name == second.name ||
      (first.name == second.name && first.ctfId == second.ctfId)
  clashes_symm first second := by
    rw [Bool.beq_comm, @Bool.beq_comm _ _ _ first.ctfId]

structure ChallengeRow where
  name : String
  flag : Option String
  categoryId : ℤ
  description : String
  difficulty : String
  archive : Option (List UInt8)
  dockerImage : Option String
  portNumbers : List (Option Int16)
  portTypes : List (Option PortType)
  connectionInstructions : Option String
  deriving DecidableEq

/-- `limited_port_number`. -/
def ChallengeRow.limitedPortNumber (row : ChallengeRow) : Truth :=
  lessThan (arrayLength row.portNumbers 0) (some 10)

/-- `has_port_types`. -/
def ChallengeRow.hasPortTypes (row : ChallengeRow) : Truth :=
  equals (arrayLength row.portTypes 0) (arrayLength row.portNumbers 0)

def ChallengeRow.stored (row : ChallengeRow) : Option ChallengeRow := do
  let name ← varchar 63 row.name
  let flag ← row.flag.mapM (varchar 127)
  let description ← varchar 2047 row.description
  let difficulty ← varchar 31 row.difficulty
  let dockerImage ← row.dockerImage.mapM (varchar 63)
  let connectionInstructions ← row.connectionInstructions.mapM (varchar 255)
  return { row with
    name := name
    flag := flag
    description := description
    difficulty := difficulty
    dockerImage := dockerImage
    connectionInstructions := connectionInstructions }

/-- The image is unique unless it is NULL; so is the name together with the
category (`unique_name_per_category`). -/
def challengeSchema : Schema ChallengeRow where
  fits row :=
    fitsVarchar 63 row.name && row.flag.all (fitsVarchar 127) &&
      fitsVarchar 2047 row.description && fitsVarchar 31 row.difficulty &&
      row.dockerImage.all (fitsVarchar 63) &&
      row.connectionInstructions.all (fitsVarchar 255)
  checks row := [row.limitedPortNumber, row.hasPortTypes]
  clashes first second :=
    (first.dockerImage.isSome && first.dockerImage == second.dockerImage) ||
      (first.name == second.name && first.categoryId == second.categoryId)
  clashes_symm first second := by
    rw [@Bool.beq_comm _ _ _ first.name, @Bool.beq_comm _ _ _ first.categoryId]
    congr 1
    cases first.dockerImage <;> cases second.dockerImage <;> simp [eq_comm]

structure Database where
  ctfs : Table ctfSchema
  categories : Table categorySchema
  challenges : Table challengeSchema

/-- The database after the migrations. -/
protected def Database.empty : Database := ⟨.empty, .empty, .empty⟩

/-! ## Statements -/

/-- `diesel::result::Error`. -/
inductive QueryError
  | databaseError (kind : Violation)
  | notFound
  | other
  deriving DecidableEq

abbrev Statement (A : Type) := Database → Except QueryError A × Database

/-- Loading a single row. -/
def getResult {A : Type} (select : Database → Option A) : Statement A :=
  fun database =>
      match select database with
      | some value => (.ok value, database)
      | none => (.error .notFound, database)

def getResults {A : Type} (select : Database → A) : Statement A :=
  fun database => (.ok (select database), database)

/-- Values that their columns refuse are an error before the statement looks at a
row. -/
def withValues {A B : Type} (values : Option A) (statement : A → Statement B) :
    Statement B :=
  fun database =>
      match values with
      | some values => statement values database
      | none => (.error (.databaseError .value), database)

def insertCtf (row : CtfRow) : Statement ℤ :=
  fun database =>
      let (result, ctfs) := database.ctfs.insert row true
      (result.mapError .databaseError, { database with ctfs := ctfs })

def insertCategory (row : CategoryRow) : Statement ℤ :=
  fun database =>
      let referenced := (database.ctfs.find row.ctfId).isSome
      let (result, categories) := database.categories.insert row referenced
      (result.mapError .databaseError, { database with categories := categories })

def insertChallenge (row : ChallengeRow) : Statement ℤ :=
  fun database =>
      let referenced := (database.categories.find row.categoryId).isSome
      let (result, challenges) := database.challenges.insert row referenced
      (result.mapError .databaseError, { database with challenges := challenges })

def updateChallenge (id : ℤ) (change : ChallengeRow → ChallengeRow) : Statement ℕ :=
  fun database =>
      let (result, challenges) := database.challenges.update id change
      (result.mapError .databaseError, { database with challenges := challenges })

/-- How the database can be reached while a request is served. -/
inductive Service
  | available
  | noConnection
  /-- The statement is not executed. -/
  | failing
  deriving DecidableEq

variable {E A B : Type}

/-- Take a connection from the pool and run a statement on it. -/
def execute (service : Service) (statement : Statement A) (database : Database) :
    Handler E (Except QueryError A) × Database :=
  match service with
  | .available =>
      let (result, database) := statement database
      (.ok result, database)
  | .noConnection => (Handler.panic .poolConnection, database)
  | .failing => (.ok (.error .other), database)

/-- Answer from the result of a statement. -/
def answer (executed : Handler E A × Database) (next : A → Handler E B) :
    Handler E B × Database :=
  (executed.1 >>= next, executed.2)

/-! ## What running a statement leaves -/

/-- A statement is carried out as a whole or not at all. -/
theorem execute_database (E : Type) (service : Service) (statement : Statement A)
    (database : Database) :
    (execute (E := E) service statement database).2 = database ∨
      (execute (E := E) service statement database).2 = (statement database).2 := by
  cases service with
  | available => exact .inr rfl
  | noConnection => exact .inl rfl
  | failing => exact .inl rfl

@[simp]
theorem getResult_database (select : Database → Option A) :
    (getResult select database).2 = database := by
  unfold getResult
  split <;> rfl

/-- Queries leave the database as it is. -/
theorem execute_query {service : Service} {statement : Statement A} {database : Database}
    (hquery : (statement database).2 = database) :
    (execute (E := E) service statement database).2 = database := by
  cases execute_database E service statement database with
  | inl hsame => exact hsame
  | inr hdone => exact hdone.trans hquery

/-! ## Rows as they are stored -/

theorem CtfRow.stored_of_fits {row : CtfRow} (hfits : ctfSchema.fits row = true) :
    row.stored = some row := by
  rw [CtfRow.stored, varchar_of_fits hfits]
  rfl

theorem CtfRow.eq_of_stored {row kept : CtfRow} (hstored : row.stored = some kept) :
    kept = { row with name := cut 127 row.name } := by
  obtain ⟨name, hname, hkept⟩ := Option.bind_eq_some_iff.mp hstored
  rw [← Option.some.inj hkept, eq_cut_of_varchar hname]

theorem CategoryRow.stored_of_fits {row : CategoryRow}
    (hfits : categorySchema.fits row = true) : row.stored = some row := by
  obtain ⟨hname, htype⟩ := Bool.and_eq_true_iff.mp hfits
  rw [CategoryRow.stored, varchar_of_fits hname, varchar_of_fits htype]
  rfl

theorem CategoryRow.eq_of_stored {row kept : CategoryRow} (hstored : row.stored = some kept) :
    kept = { row with
      name := cut 63 row.name
      categoryType := cut 63 row.categoryType } := by
  obtain ⟨name, hname, hrest⟩ := Option.bind_eq_some_iff.mp hstored
  obtain ⟨categoryType, htype, hkept⟩ := Option.bind_eq_some_iff.mp hrest
  rw [← Option.some.inj hkept, eq_cut_of_varchar hname, eq_cut_of_varchar htype]

theorem ChallengeRow.stored_of_fits {row : ChallengeRow}
    (hfits : challengeSchema.fits row = true) : row.stored = some row := by
  simp only [challengeSchema, Bool.and_eq_true] at hfits
  obtain ⟨⟨⟨⟨⟨hname, hflag⟩, hdescription⟩, hdifficulty⟩, himage⟩, hinstructions⟩ := hfits
  rw [ChallengeRow.stored, varchar_of_fits hname, mapM_varchar_of_fits hflag,
    varchar_of_fits hdescription, varchar_of_fits hdifficulty, mapM_varchar_of_fits himage,
    mapM_varchar_of_fits hinstructions]
  rfl

theorem ChallengeRow.eq_of_stored {row kept : ChallengeRow} (hstored : row.stored = some kept) :
    kept = { row with
      name := cut 63 row.name
      flag := row.flag.map (cut 127)
      description := cut 2047 row.description
      difficulty := cut 31 row.difficulty
      dockerImage := row.dockerImage.map (cut 63)
      connectionInstructions := row.connectionInstructions.map (cut 255) } := by
  obtain ⟨name, hname, hrest⟩ := Option.bind_eq_some_iff.mp hstored
  obtain ⟨flag, hflag, hrest⟩ := Option.bind_eq_some_iff.mp hrest
  obtain ⟨description, hdescription, hrest⟩ := Option.bind_eq_some_iff.mp hrest
  obtain ⟨difficulty, hdifficulty, hrest⟩ := Option.bind_eq_some_iff.mp hrest
  obtain ⟨dockerImage, himage, hrest⟩ := Option.bind_eq_some_iff.mp hrest
  obtain ⟨instructions, hinstructions, hkept⟩ := Option.bind_eq_some_iff.mp hrest
  rw [← Option.some.inj hkept, eq_cut_of_varchar hname, eq_cut_of_mapM_varchar hflag,
    eq_cut_of_varchar hdescription, eq_cut_of_varchar hdifficulty,
    eq_cut_of_mapM_varchar himage, eq_cut_of_mapM_varchar hinstructions]

/-! ## Rows that the CHECKs admit -/

theorem admits_ctf (row : CtfRow) :
    ctfSchema.admits row = (fitsVarchar 127 row.name && row.startDate.ble row.endDate) := by
  calc ctfSchema.admits row
      = (ctfSchema.fits row && [row.endsAfterStart].all passes) := rfl
    _ = (fitsVarchar 127 row.name && row.startDate.ble row.endDate) := by
        simp only [ctfSchema, CtfRow.endsAfterStart, List.all_cons, List.all_nil,
          passes_known, Bool.and_true]

theorem limitedPortNumber_unknown (row : ChallengeRow) : row.limitedPortNumber = none := by
  rw [ChallengeRow.limitedPortNumber, arrayLength_zero, lessThan_unknown]

theorem hasPortTypes_unknown (row : ChallengeRow) : row.hasPortTypes = none := by
  rw [ChallengeRow.hasPortTypes, arrayLength_zero, equals_unknown]

/-- Whether a row may be in the table depends on its values fitting their columns
only. -/
theorem admits_challenge (row : ChallengeRow) :
    challengeSchema.admits row = challengeSchema.fits row := by
  have hchecks : challengeSchema.checks row = [none, none] := by
    simp only [challengeSchema, limitedPortNumber_unknown, hasPortTypes_unknown]
  calc challengeSchema.admits row
      = (challengeSchema.fits row && [none, none].all passes) := by
        rw [Schema.admits, Schema.passesAll, hchecks]
    _ = challengeSchema.fits row := by
        simp only [List.all_cons, List.all_nil, passes_unknown, Bool.and_true]

end ScdtServer.Tables
