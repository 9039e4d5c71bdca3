import Mathlib

/-!
# Tables of a relational database

Conditions have three truth values, and a CHECK rejects a row only when its
condition is false.  Arrays know their dimensions: an array of one dimension
has a length along dimension 1 and along no other.

A table numbers its rows from a sequence and carries what its constraints
promise.
-/

namespace ScdtServer.Sql

/-! ## Conditions -/

/-- True, false or unknown. -/
abbrev Truth := Option Bool

def lessThan (left right : Option ℤ) : Truth := do
  let left ← left
  let right ← right
  return decide (left < right)

def equals (left right : Option ℤ) : Truth := do
  let left ← left
  let right ← right
  return decide (left = right)

/-- A CHECK is satisfied unless it is false. -/
def passes (condition : Truth) : Bool := condition != some false

@[simp]
theorem lessThan_unknown (right : Option ℤ) : lessThan none right = none := rfl

@[simp]
theorem equals_unknown (right : Option ℤ) : equals none right = none := rfl

/-- An unknown condition rejects nothing. -/
@[simp]
theorem passes_unknown : passes none = true := rfl

@[simp]
theorem passes_known (condition : Bool) : passes (some condition) = condition := by
  cases condition <;> rfl

/-- `array_length` on an array of at most one dimension. -/
def arrayLength {A : Type} (array : List A) (dimension : ℤ) : Option ℤ :=
  if dimension = 1 ∧ array ≠ [] then some array.length else none

/-- No array has a dimension 0. -/
@[simp]
theorem arrayLength_zero {A : Type} (array : List A) : arrayLength array 0 = none := rfl

/-! ## Constraints -/

/-- Why a statement was refused. -/
inductive Violation
  | unique
  | foreignKey
  | check
  /-- A value does not fit the type of its column. -/
  | value
  deriving DecidableEq

/-- What the declaration of a table asks of its rows. -/
structure Schema (Row : Type) where
  /-- The values fit their columns. -/
  fits : Row → Bool
  checks : Row → List Truth
  /-- Two rows have the same values in some unique columns. -/
  clashes : Row → Row → Bool
  clashes_symm : ∀ first second, clashes first second = clashes second first

namespace Schema

variable {Row : Type} (schema : Schema Row)

def passesAll (row : Row) : Bool := (schema.checks row).all passes

/-- The row may be in a table. -/
def admits (row : Row) : Bool := schema.fits row && schema.passesAll row

end Schema

/-! ## Tables -/

/-- The rows of a table, by their numbers. -/
structure Table {Row : Type} (schema : Schema Row) where
  rows : List (ℤ × Row)
  /-- The last number that the sequence has given out. -/
  sequence : ℤ
  numbered : ∀ entry ∈ rows, entry.1 ≤ sequence
  nodup : (rows.map Prod.fst).Nodup
  admitted : ∀ entry ∈ rows, schema.admits entry.2 = true
  unique : rows.Pairwise fun first second => schema.clashes first.2 second.2 = false

namespace Table

variable {Row : Type} {schema : Schema Row}

protected def empty : Table schema where
  rows := []
  sequence := 0
  numbered := nofun
  nodup := List.nodup_nil
  admitted := nofun
  unique := .nil

def find (table : Table schema) (id : ℤ) : Option Row :=
  (table.rows.find? fun entry => entry.1 == id).map Prod.snd

def filter (table : Table schema) (condition : Row → Bool) : List (ℤ × Row) :=
  table.rows.filter fun entry => condition entry.2

/-- The sequence gives out numbers also to rows that are refused. -/
def skip (table : Table schema) : Table schema :=
  { table with
    sequence := table.sequence + 1
    numbered := fun entry hmem => (table.numbered entry hmem).trans (Int.le_add_one le_rfl) }

/-- The unique columns of `row` clash with no row whose number is not `id`. -/
def free (table : Table schema) (id : ℤ) (row : Row) : Bool :=
  table.rows.all fun entry => entry.1 == id || !schema.clashes entry.2 row

/-- Append a row that the constraints allow. -/
def push (table : Table schema) (row : Row) (hadmits : schema.admits row = true)
    (hfree : table.free (table.sequence + 1) row = true) : Table schema where
  rows := table.rows ++ [(table.sequence + 1, row)]
  sequence := table.sequence + 1
  numbered := by
    intro entry hmem
    cases List.mem_append.mp hmem with
    | inl hold => exact (table.numbered entry hold).trans (Int.le_add_one le_rfl)
    | inr hnew => rw [List.mem_singleton.mp hnew]
  nodup := by
    rw [List.map_append, List.nodup_append]
    refine ⟨table.nodup, List.nodup_singleton _, ?_⟩
    intro id hold other hnew heq
    obtain ⟨entry, hmem, rfl⟩ := List.mem_map.mp hold
    have hle := table.numbered entry hmem
    have hother : other = table.sequence + 1 := by simpa using hnew
    omega
  admitted := by
    intro entry hmem
    cases List.mem_append.mp hmem with
    | inl hold => exact table.admitted entry hold
    | inr hnew =>
        rw [List.mem_singleton.mp hnew]
        exact hadmits
  unique := by
    apply List.pairwise_append.mpr
    refine ⟨table.unique, List.pairwise_singleton _ _, ?_⟩
    intro entry hold other hnew
    rw [List.mem_singleton.mp hnew]
    have hclash := List.all_eq_true.mp hfree entry hold
    have hle := table.numbered entry hold
    have hne : (entry.1 == table.sequence + 1) = false := by
      simp only [beq_eq_false_iff_ne]
      omega
    simpa [hne] using hclash

/-- Put a row that the constraints allow in the place of another. -/
def set (table : Table schema) (id : ℤ) (row : Row) (hadmits : schema.admits row = true)
    (hfree : table.free id row = true) : Table schema where
  rows := table.rows.map fun entry => if entry.1 = id then (id, row) else entry
  sequence := table.sequence
  numbered := by
    intro entry hmem
    obtain ⟨old, hold, rfl⟩ := List.mem_map.mp hmem
    have hle := table.numbered old hold
    split
    · rename_i hid
      rw [← hid]
      exact hle
    · exact hle
  nodup := by
    have hkeys : (table.rows.map fun entry => if entry.1 = id then (id, row) else entry).map
        Prod.fst = table.rows.map Prod.fst := by
      rw [List.map_map]
      apply List.map_congr_left
      intro entry _
      dsimp only [Function.comp]
      split
      · rename_i hid
        exact hid.symm
      · rfl
    rw [hkeys]
    exact table.nodup
  admitted := by
    intro entry hmem
    obtain ⟨old, hold, rfl⟩ := List.mem_map.mp hmem
    split
    · exact hadmits
    · exact table.admitted old hold
  unique := by
    rw [List.pairwise_map]
    have hkeys := List.pairwise_map.mp (List.nodup_iff_pairwise_ne.mp table.nodup)
    apply (table.unique.and hkeys).imp_of_mem
    intro first second hfirst hsecond hpair
    have hclash : ∀ entry ∈ table.rows, entry.1 ≠ id →
        schema.clashes entry.2 row = false := by
      intro entry hmem hne
      have hall := List.all_eq_true.mp hfree entry hmem
      simpa [hne] using hall
    split
    · rename_i hid
      split
      · rename_i hid'
        exact absurd (hid.trans hid'.symm) hpair.2
      · rename_i hid'
        rw [schema.clashes_symm]
        exact hclash second hsecond hid'
    · rename_i hid
      split
      · exact hclash first hfirst hid
      · exact hpair.1

/-- `INSERT … RETURNING id`.  Values and CHECKs are looked at before the unique
columns, references last. -/
def insert (table : Table schema) (row : Row) (referenced : Bool) :
    Except Violation ℤ × Table schema :=
  if schema.fits row = false then (.error .value, table.skip)
  else if hadmits : schema.admits row = true then
    if hfree : table.free (table.sequence + 1) row = true then
      if referenced then (.ok (table.sequence + 1), table.push row hadmits hfree)
      else (.error .foreignKey, table.skip)
    else (.error .unique, table.skip)
  else (.error .check, table.skip)

/-- `UPDATE … WHERE id = …`, with the number of rows it has changed. -/
def update (table : Table schema) (id : ℤ) (change : Row → Row) :
    Except Violation ℕ × Table schema :=
  match table.find id with
  | none => (.ok 0, table)
  | some row =>
      if schema.fits (change row) = false then (.error .value, table)
      else if hadmits : schema.admits (change row) = true then
        if hfree : table.free id (change row) = true then
          (.ok 1, table.set id (change row) hadmits hfree)
        else (.error .unique, table)
      else (.error .check, table)

/-! ## Looking rows up -/

section

variable {table : Table schema} {id other : ℤ} {row : Row}

/-- A number finds its row. -/
theorem find_eq_some_iff : table.find id = some row ↔ (id, row) ∈ table.rows := by
  unfold find
  constructor
  · intro hfound
    obtain ⟨entry, hentry, rfl⟩ := Option.map_eq_some_iff.mp hfound
    have hid : entry.1 = id := by simpa using List.find?_some hentry
    rw [← hid]
    exact List.mem_of_find?_eq_some hentry
  · intro hmem
    have hsome : (table.rows.find? fun entry => entry.1 == id).isSome = true := by
      rw [List.find?_isSome]
      exact ⟨(id, row), hmem, beq_self_eq_true id⟩
    obtain ⟨entry, hentry⟩ := Option.isSome_iff_exists.mp hsome
    have hid : entry.1 = id := by simpa using List.find?_some hentry
    have heq : entry = (id, row) :=
      List.inj_on_of_nodup_map table.nodup (List.mem_of_find?_eq_some hentry) hmem hid
    rw [hentry, heq]
    rfl

/-- A filter keeps the rows that satisfy its condition. -/
theorem mem_filter_iff {condition : Row → Bool} {entry : ℤ × Row} :
    entry ∈ table.filter condition ↔
      table.find entry.1 = some entry.2 ∧ condition entry.2 = true := by
  rw [filter, List.mem_filter, find_eq_some_iff]

theorem find_set {hadmits : schema.admits row = true} {hfree : table.free id row = true} :
    (table.set id row hadmits hfree).find other =
      if other = id then (table.find other).map fun _ => row else table.find other := by
  have hkeys : ((fun entry : ℤ × Row => entry.1 == other) ∘
      fun entry => if entry.1 = id then (id, row) else entry) =
        fun entry => entry.1 == other := by
    funext entry
    dsimp only [Function.comp]
    split
    · rename_i hid
      rw [hid]
    · rfl
  unfold find set
  rw [List.find?_map, hkeys]
  cases hentry : table.rows.find? fun entry => entry.1 == other with
  | none => simp
  | some entry =>
      have hother : entry.1 = other := by simpa using List.find?_some hentry
      simp only [Option.map_some, hother]
      split <;> rfl

/-- The next number of the sequence has no row yet. -/
theorem find_next (table : Table schema) : table.find (table.sequence + 1) = none := by
  by_contra hfound
  obtain ⟨old, hold⟩ := Option.ne_none_iff_exists'.mp hfound
  have hle := table.numbered _ (find_eq_some_iff.mp hold)
  exact absurd hle (by simp)

theorem find_push {hadmits : schema.admits row = true}
    {hfree : table.free (table.sequence + 1) row = true} :
    (table.push row hadmits hfree).find other =
      if other = table.sequence + 1 then some row else table.find other := by
  have hfresh := table.find_next
  unfold find push
  rw [List.find?_append]
  split
  · rename_i hother
    rw [hother]
    have hnone : (table.rows.find? fun entry => entry.1 == table.sequence + 1) = none := by
      simpa [find] using hfresh
    rw [hnone]
    simp
  · rename_i hother
    have hnot : (table.sequence + 1 == other) = false :=
      beq_eq_false_iff_ne.mpr (Ne.symm hother)
    simp [hnot]

/-- A row is free to take a number if no other row clashes with it. -/
theorem free_iff :
    table.free id row = true ↔
      ∀ other found, table.find other = some found → other ≠ id →
        schema.clashes found row = false := by
  unfold free
  rw [List.all_eq_true]
  constructor
  · intro hall other found hfound hne
    have hentry := hall (other, found) (find_eq_some_iff.mp hfound)
    simpa [hne] using hentry
  · intro hall entry hmem
    by_cases hid : entry.1 = id
    · rw [hid, beq_self_eq_true, Bool.true_or]
    · have hclash := hall entry.1 entry.2 (find_eq_some_iff.mpr hmem) hid
      rw [hclash, Bool.not_false, Bool.or_true]

/-- No row has the next number yet. -/
theorem free_next_iff :
    table.free (table.sequence + 1) row = true ↔
      ∀ other found, table.find other = some found → schema.clashes found row = false := by
  rw [free_iff]
  constructor
  · intro hfree other found hfound
    have hne : other ≠ table.sequence + 1 := by
      rintro rfl
      rw [find_next] at hfound
      cases hfound
    exact hfree other found hfound hne
  · exact fun hfree other found hfound _ => hfree other found hfound

/-! ## Inserting -/

/-- What becomes of a row that satisfies the CHECKs. -/
theorem insert_of_admits {referenced : Bool} (hadmits : schema.admits row = true) :
    table.insert row referenced =
      if hfree : table.free (table.sequence + 1) row = true then
        if referenced then (.ok (table.sequence + 1), table.push row hadmits hfree)
        else (.error .foreignKey, table.skip)
      else (.error .unique, table.skip) := by
  have hfits : ¬ schema.fits row = false := by
    rw [(Bool.and_eq_true_iff.mp hadmits).1]
    exact Bool.noConfusion
  unfold insert
  rw [if_neg hfits, dif_pos hadmits]

/-- A row that the constraints allow is appended. -/
theorem insert_of_free (hadmits : schema.admits row = true)
    (hfree : table.free (table.sequence + 1) row = true) :
    table.insert row true = (.ok (table.sequence + 1), table.push row hadmits hfree) := by
  rw [insert_of_admits hadmits, dif_pos hfree, if_pos rfl]

/-- It is found under the number that is answered. -/
theorem find_insert_of_free (other : ℤ) (hadmits : schema.admits row = true)
    (hfree : table.free (table.sequence + 1) row = true) :
    (table.insert row true).2.find other =
      if other = table.sequence + 1 then some row else table.find other := by
  rw [insert_of_free hadmits hfree]
  exact @find_push _ _ table other row hadmits hfree

/-- A row is appended, or a number is lost. -/
theorem insert_cases (table : Table schema) (row : Row) (referenced : Bool) :
    (∃ hadmits hfree, referenced = true ∧ table.insert row referenced =
      (.ok (table.sequence + 1), table.push row hadmits hfree)) ∨
    ∃ violation, table.insert row referenced = (.error violation, table.skip) := by
  by_cases hadmits : schema.admits row = true
  · rw [insert_of_admits hadmits]
    split
    · rename_i hfree
      cases referenced with
      | true => exact .inl ⟨hadmits, hfree, rfl, rfl⟩
      | false => exact .inr ⟨_, rfl⟩
    · exact .inr ⟨_, rfl⟩
  · unfold insert
    rw [dif_neg hadmits]
    split
    · exact .inr ⟨_, rfl⟩
    · exact .inr ⟨_, rfl⟩

/-- The number of a new row is the next one of the sequence, and what the row
references exists. -/
theorem insert_eq_ok {referenced : Bool}
    (hinserted : (table.insert row referenced).1 = .ok id) :
    id = table.sequence + 1 ∧ referenced = true := by
  cases insert_cases table row referenced with
  | inl happended =>
      obtain ⟨_, _, hreferenced, hinsert⟩ := happended
      rw [hinsert] at hinserted
      exact ⟨(Except.ok.inj hinserted).symm, hreferenced⟩
  | inr hrefused =>
      obtain ⟨violation, hinsert⟩ := hrefused
      rw [hinsert] at hinserted
      cases hinserted

/-- After an insertion there is at most the new row besides the old ones. -/
theorem find_insert {referenced : Bool} {found : Row}
    (hfound : (table.insert row referenced).2.find other = some found) :
    table.find other = some found ∨
      (found = row ∧ (table.insert row referenced).1 = .ok other) := by
  cases insert_cases table row referenced with
  | inl happended =>
      obtain ⟨_, _, _, hinsert⟩ := happended
      rw [hinsert] at hfound ⊢
      rw [find_push] at hfound
      split at hfound
      · rename_i hother
        rw [hother]
        exact .inr ⟨(Option.some.inj hfound).symm, rfl⟩
      · exact .inl hfound
  | inr hrefused =>
      obtain ⟨violation, hinsert⟩ := hrefused
      rw [hinsert] at hfound
      exact .inl hfound

/-- An insertion keeps the rows that there are. -/
theorem find_insert_of_find {referenced : Bool} {found : Row}
    (hfound : table.find other = some found) :
    (table.insert row referenced).2.find other = some found := by
  cases insert_cases table row referenced with
  | inl happended =>
      obtain ⟨_, _, _, hinsert⟩ := happended
      have hother : other ≠ table.sequence + 1 := by
        intro hnext
        rw [hnext, find_next] at hfound
        cases hfound
      rw [hinsert, find_push, if_neg hother]
      exact hfound
  | inr hrefused =>
      obtain ⟨violation, hinsert⟩ := hrefused
      rw [hinsert]
      exact hfound

/-! ## Updating -/

/-- An update that the constraints allow is carried out. -/
theorem update_of_admits {change : Row → Row} {old : Row} (hold : table.find id = some old)
    (hadmits : schema.admits (change old) = true) (hfree : table.free id (change old) = true) :
    table.update id change = (.ok 1, table.set id (change old) hadmits hfree) := by
  have hfits : ¬ schema.fits (change old) = false := by
    rw [(Bool.and_eq_true_iff.mp hadmits).1]
    exact Bool.noConfusion
  unfold update
  rw [hold]
  dsimp only
  rw [if_neg hfits, dif_pos hadmits, dif_pos hfree]

/-- There is nothing to update without a row. -/
theorem update_of_missing {change : Row → Row} (hmissing : table.find id = none) :
    table.update id change = (.ok 0, table) := by
  unfold update
  rw [hmissing]

/-- A row is replaced, or the table stays as it is. -/
theorem update_cases (table : Table schema) (id : ℤ) (change : Row → Row) :
    (∃ old hadmits hfree, table.find id = some old ∧
      table.update id change = (.ok 1, table.set id (change old) hadmits hfree)) ∨
    (table.find id = none ∧ table.update id change = (.ok 0, table)) ∨
    ∃ violation, table.update id change = (.error violation, table) := by
  cases hrow : table.find id with
  | none => exact .inr (.inl ⟨rfl, update_of_missing hrow⟩)
  | some old =>
      unfold update
      rw [hrow]
      dsimp only
      split
      · exact .inr (.inr ⟨_, rfl⟩)
      · split
        · rename_i hadmits
          split
          · rename_i hfree
            exact .inl ⟨old, hadmits, hfree, rfl, rfl⟩
          · exact .inr (.inr ⟨_, rfl⟩)
        · exact .inr (.inr ⟨_, rfl⟩)

/-- An update changes the row with the number, if there is one, or is refused as a
whole. -/
theorem update_outcome (table : Table schema) (id : ℤ) (change : Row → Row) :
    (∃ count, (table.update id change).1 = .ok count ∧
      ∀ other, (table.update id change).2.find other =
        if other = id then (table.find other).map change else table.find other) ∨
    ∃ violation, table.update id change = (.error violation, table) := by
  rcases update_cases table id change with hreplaced | hmissing | hrefused
  · obtain ⟨old, _, _, hold, hupdate⟩ := hreplaced
    refine .inl ⟨1, congrArg Prod.fst hupdate, ?_⟩
    intro other
    rw [hupdate, find_set]
    split
    · rename_i hother
      rw [hother, hold]
      rfl
    · rfl
  · obtain ⟨hrow, hupdate⟩ := hmissing
    refine .inl ⟨0, congrArg Prod.fst hupdate, ?_⟩
    intro other
    rw [hupdate]
    split
    · rename_i hother
      rw [hother, hrow]
      rfl
    · rfl
  · exact .inr hrefused

/-- After an update there are the old rows, but for the one that was changed. -/
theorem find_update {change : Row → Row} {found : Row}
    (hfound : (table.update id change).2.find other = some found) :
    table.find other = some found ∨
      (other = id ∧ ∃ old, table.find id = some old ∧ found = change old) := by
  cases update_outcome table id change with
  | inl hupdated =>
      obtain ⟨_, _, hfind⟩ := hupdated
      rw [hfind] at hfound
      split at hfound
      · rename_i hother
        obtain ⟨old, hold, hchange⟩ := Option.map_eq_some_iff.mp hfound
        rw [hother] at hold
        exact .inr ⟨hother, old, hold, hchange.symm⟩
      · exact .inl hfound
  | inr hrefused =>
      obtain ⟨_, hupdate⟩ := hrefused
      rw [hupdate] at hfound
      exact .inl hfound

/-- What a change keeps of every row, an update keeps of the table. -/
theorem find_update_map {A : Type} (change : Row → Row) (project : Row → A)
    (hkeeps : ∀ row, project (change row) = project row) :
    ((table.update id change).2.find other).map project = (table.find other).map project := by
  cases update_outcome table id change with
  | inl hupdated =>
      obtain ⟨_, _, hfind⟩ := hupdated
      rw [hfind]
      split
      · rw [Option.map_map]
        congr 1
        funext row
        exact hkeeps row
      · rfl
  | inr hrefused =>
      obtain ⟨_, hupdate⟩ := hrefused
      rw [hupdate]

@[simp]
theorem update_sequence (change : Row → Row) :
    (table.update id change).2.sequence = table.sequence := by
  rcases update_cases table id change with hreplaced | hmissing | hrefused
  · obtain ⟨_, _, _, _, hupdate⟩ := hreplaced
    rw [hupdate]
    rfl
  · rw [hmissing.2]
  · obtain ⟨_, hupdate⟩ := hrefused
    rw [hupdate]

/-- A row is appended under the number that is answered, or the rows stay as they are. -/
theorem rows_insert (table : Table schema) (row : Row) (referenced : Bool) :
    (∃ id, (table.insert row referenced).1 = .ok id ∧
      (table.insert row referenced).2.rows = table.rows ++ [(id, row)]) ∨
    ∃ violation, (table.insert row referenced).1 = .error violation ∧
      (table.insert row referenced).2.rows = table.rows := by
  rcases insert_cases table row referenced with ⟨_, _, -, hinsert⟩ | ⟨violation, hinsert⟩
  · rw [hinsert]
    exact .inl ⟨_, rfl, rfl⟩
  · rw [hinsert]
    exact .inr ⟨violation, rfl, rfl⟩

/-- What a change keeps of a row is kept in all rows, which stay in their order. -/
theorem rows_update_map {A : Type} (change : Row → Row) (project : Row → A)
    (hkeeps : ∀ row, project (change row) = project row) :
    (table.update id change).2.rows.map (fun entry => (entry.1, project entry.2)) =
      table.rows.map fun entry => (entry.1, project entry.2) := by
  rcases update_cases table id change with ⟨old, _, _, hold, hupdate⟩ | hmissing | ⟨_, hupdate⟩
  · rw [hupdate]
    dsimp only [set]
    rw [List.map_map]
    apply List.map_congr_left
    intro entry hmem
    dsimp only [Function.comp]
    split
    · rename_i hid
      have hfound := find_eq_some_iff.mpr hmem
      rw [hid, hold] at hfound
      rw [hkeeps, hid, Option.some.inj hfound]
    · rfl
  · rw [hmissing.2]
  · rw [hupdate]

/-! ## What the constraints say about rows that are found -/

/-- Rows of a table clash with no other. -/
theorem clashes_of_find {found found' : Row} (hne : id ≠ other)
    (hfound : table.find id = some found) (hfound' : table.find other = some found') :
    schema.clashes found found' = false := by
  have hmem := find_eq_some_iff.mp hfound
  have hmem' := find_eq_some_iff.mp hfound'
  have hsymm : Std.Symm fun first second : ℤ × Row =>
      schema.clashes first.2 second.2 = false := by
    constructor
    intro first second hclash
    rw [schema.clashes_symm]
    exact hclash
  have hentries : ((id, found) : ℤ × Row) ≠ (other, found') :=
    fun heq => hne (congrArg Prod.fst heq)
  exact table.unique.forall hmem hmem' hentries

theorem admits_of_find (hfound : table.find id = some row) : schema.admits row = true :=
  table.admitted _ (find_eq_some_iff.mp hfound)

end

end Table

end ScdtServer.Sql
