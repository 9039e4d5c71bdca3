import Mathlib

/-!
# Arrays with gaps

The entries of two arrays belong together by their indices, and some of them
are missing.  What is left when each array drops its missing entries by itself
still belongs together if both have their gaps at the same indices.
-/

namespace ScdtServer.Alignment

variable {A B : Type*} {first : List (Option A)} {second : List (Option B)}

/-- What the arrays have at the indices at which one of them has an entry. -/
def presentPairs (first : List (Option A)) (second : List (Option B)) :
    List (Option A × Option B) :=
  (first.zip second).filter fun pair => pair.1.isSome || pair.2.isSome

/-- The same entries are missing in both arrays. -/
def SameGaps (first : List (Option A)) (second : List (Option B)) : Prop :=
  first.map Option.isSome = second.map Option.isSome

theorem SameGaps.length_eq (hgaps : SameGaps first second) : first.length = second.length := by
  have hlength := congrArg List.length hgaps
  rwa [List.length_map, List.length_map] at hlength

/-- Dropping the gaps of each array by itself keeps the pairs together. -/
theorem presentPairs_of_sameGaps (hgaps : SameGaps first second) :
    presentPairs first second =
      (first.reduceOption.zip second.reduceOption).map fun pair =>
        (some pair.1, some pair.2) := by
  induction first generalizing second with
  | nil =>
      obtain rfl : second = [] := List.length_eq_zero_iff.mp hgaps.length_eq.symm
      rfl
  | cons left first ih =>
      cases second with
      | nil => cases hgaps
      | cons right second =>
          obtain ⟨hhead, htail⟩ := List.cons.inj hgaps
          cases left with
          | none =>
              cases right with
              | none => exact ih htail
              | some right => cases hhead
          | some left =>
              cases right with
              | none => cases hhead
              | some right => exact congrArg (List.cons (some left, some right)) (ih htail)

/-- If no pair lacks one of its entries, the gaps are at the same indices. -/
theorem sameGaps_of_present (hlength : first.length = second.length)
    (hpresent : ∀ pair ∈ presentPairs first second,
      pair.1.isSome = true ∧ pair.2.isSome = true) :
    SameGaps first second := by
  have hagree : ∀ pair ∈ first.zip second, pair.1.isSome = pair.2.isSome := by
    intro pair hmem
    by_cases hsome : (pair.1.isSome || pair.2.isSome) = true
    · obtain ⟨hleft, hright⟩ := hpresent pair (List.mem_filter.mpr ⟨hmem, hsome⟩)
      rw [hleft, hright]
    · rw [Bool.not_eq_true, Bool.or_eq_false_iff] at hsome
      rw [hsome.1, hsome.2]
  calc
    first.map Option.isSome = ((first.zip second).map Prod.fst).map Option.isSome := by
      rw [List.map_fst_zip hlength.le]
    _ = ((first.zip second).map Prod.snd).map Option.isSome := by
      rw [List.map_map, List.map_map]
      exact List.map_congr_left hagree
    _ = second.map Option.isSome := by
      rw [List.map_snd_zip hlength.ge]

end ScdtServer.Alignment
