import Mathlib

/-!
# Maps that a loop fills

A loop inserts its entries into a map one after the other, each under a key of
its own.  An insertion replaces what is there, so of the entries with one key
the last is found, and all of them are found just in case entries with one key
have one value.
-/

namespace ScdtServer.Collect

variable {A K V : Type*}

/-- Entries with one key have one value. -/
def Agree (key : A → K) (value : A → V) (entries : List A) : Prop :=
  ∀ first ∈ entries, ∀ second ∈ entries, key first = key second →
    value first = value second

variable [DecidableEq K]

/-- Insert the entries from the first to the last. -/
def collect (key : A → K) (value : A → V) (entries : List A) : AList fun _ : K => V :=
  entries.foldl (fun map entry => map.insert (key entry) (value entry)) ∅

variable {key : A → K} {value : A → V} {entries : List A}

@[simp]
theorem collect_nil : collect key value [] = ∅ := rfl

@[simp]
theorem collect_concat (entry : A) :
    collect key value (entries ++ [entry]) =
      (collect key value entries).insert (key entry) (value entry) := by
  rw [collect, List.foldl_append]
  rfl

/-- The last entry with the key is found. -/
theorem lookup_collect (sought : K) :
    (collect key value entries).lookup sought =
      (entries.reverse.find? fun entry => key entry = sought).map value := by
  induction entries using List.reverseRecOn with
  | nil => rfl
  | append_singleton entries last ih =>
      rw [collect_concat, List.reverse_concat]
      by_cases hlast : key last = sought
      · rw [List.find?_cons_of_pos (by simpa using hlast), ← hlast, AList.lookup_insert,
          Option.map_some]
      · rw [List.find?_cons_of_neg (by simpa using hlast),
          AList.lookup_insert_ne (Ne.symm hlast), ih]

/-- What is found is the value of an entry. -/
theorem exists_of_lookup_collect {sought : K} {found : V}
    (hfound : (collect key value entries).lookup sought = some found) :
    ∃ entry ∈ entries, key entry = sought ∧ value entry = found := by
  rw [lookup_collect] at hfound
  obtain ⟨entry, hentry, hvalue⟩ := Option.map_eq_some_iff.mp hfound
  have hmem : entry ∈ entries := List.mem_reverse.mp (List.mem_of_find?_eq_some hentry)
  have hkey : key entry = sought := by simpa using List.find?_some hentry
  exact ⟨entry, hmem, hkey, hvalue⟩

/-- Under the key of an entry there is a value. -/
theorem exists_lookup_collect {entry : A} (hmem : entry ∈ entries) :
    ∃ found, (collect key value entries).lookup (key entry) = some found := by
  have hsome : (entries.reverse.find? fun other => key other = key entry).isSome = true :=
    List.find?_isSome.mpr ⟨entry, List.mem_reverse.mpr hmem, decide_eq_true rfl⟩
  obtain ⟨last, hlast⟩ := Option.isSome_iff_exists.mp hsome
  refine ⟨value last, ?_⟩
  rw [lookup_collect, hlast, Option.map_some]

/-- No entry is lost exactly when the entries agree. -/
theorem all_found_iff_agree :
    (∀ entry ∈ entries, (collect key value entries).lookup (key entry) = some (value entry)) ↔
      Agree key value entries := by
  constructor
  · intro hall first hfirst second hsecond hkeys
    have hvalue := hall first hfirst
    rw [hkeys, hall second hsecond] at hvalue
    exact (Option.some.inj hvalue).symm
  · intro hagree entry hmem
    obtain ⟨found, hfound⟩ :
        ∃ found, (collect key value entries).lookup (key entry) = some found :=
      exists_lookup_collect hmem
    obtain ⟨last, hlast, hkeys, hvalue⟩ := exists_of_lookup_collect hfound
    rw [hfound, ← hvalue, hagree last hlast entry hmem hkeys]

end ScdtServer.Collect
