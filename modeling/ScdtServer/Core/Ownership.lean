import Mathlib

/-!
# Resources and their holders

Each holder holds at most one resource of a kind.  `Covered` says that no
resource is without a holder; `Owned` says moreover that a held resource exists
and has only one holder.  The lemmas follow the life of a resource: it is
acquired, handed from one holder to another, and released.
-/

namespace ScdtServer.Ownership

open Function

variable {Holder Resource : Type*} [DecidableEq Holder]
variable {present present' : Resource → Prop} {held : Holder → Option Resource}
variable {holder : Holder} {resource : Resource}

/-- Every resource that is present has a holder. -/
def Covered (present : Resource → Prop) (held : Holder → Option Resource) : Prop :=
  ∀ resource, present resource → ∃ holder, held holder = some resource

/-- No resource has two holders. -/
def Exclusive (held : Holder → Option Resource) : Prop :=
  ∀ left right resource,
    held left = some resource → held right = some resource → left = right

/-- The resources that are present are exactly those held, each by one holder. -/
structure Owned (present : Resource → Prop) (held : Holder → Option Resource) :
    Prop where
  covered : Covered present held
  present : ∀ holder resource, held holder = some resource → present resource
  exclusive : Exclusive held

omit [DecidableEq Holder] in
theorem Covered.mono (hcovered : Covered present held)
    (hpresent : ∀ resource, present' resource → present resource) :
    Covered present' held :=
  fun resource h => hcovered resource (hpresent resource h)

theorem Covered.acquire (hcovered : Covered present held)
    (hfree : held holder = none)
    (hpresent : ∀ other, present' other → present other ∨ other = resource) :
    Covered present' (update held holder (some resource)) := by
  intro other hother
  rcases hpresent other hother with hold | rfl
  · obtain ⟨keeper, hkeeper⟩ := hcovered other hold
    refine ⟨keeper, ?_⟩
    have hne : keeper ≠ holder := by
      rintro rfl
      simp [hfree] at hkeeper
    rw [update_of_ne hne]
    exact hkeeper
  · exact ⟨holder, update_self ..⟩

theorem Covered.release (hcovered : Covered present held)
    (hholds : held holder = some resource)
    (hpresent : ∀ other, present' other → present other ∧ other ≠ resource) :
    Covered present' (update held holder none) := by
  intro other hother
  obtain ⟨hold, hother⟩ := hpresent other hother
  obtain ⟨keeper, hkeeper⟩ := hcovered other hold
  refine ⟨keeper, ?_⟩
  have hne : keeper ≠ holder := by
    rintro rfl
    exact hother (by simpa [hholds] using hkeeper.symm)
  rw [update_of_ne hne]
  exact hkeeper

theorem Covered.transfer {receiver : Holder} (hcovered : Covered present held)
    (hfree : held receiver = none) :
    Covered present (update (update held holder none) receiver (held holder)) := by
  intro other hother
  obtain ⟨keeper, hkeeper⟩ := hcovered other hother
  by_cases hkeep : keeper = holder
  · subst keeper
    exact ⟨receiver, by rw [update_self, hkeeper]⟩
  · refine ⟨keeper, ?_⟩
    have hne : keeper ≠ receiver := by
      rintro rfl
      simp [hfree] at hkeeper
    rw [update_of_ne hne, update_of_ne hkeep]
    exact hkeeper

theorem Exclusive.acquire (hexclusive : Exclusive held)
    (hunheld : ∀ other, held other ≠ some resource) :
    Exclusive (update held holder (some resource)) := by
  intro left right other hleft hright
  by_cases hl : left = holder <;> by_cases hr : right = holder
  · rw [hl, hr]
  · subst hl
    rw [update_self, Option.some.injEq] at hleft
    rw [update_of_ne hr, ← hleft] at hright
    exact absurd hright (hunheld right)
  · subst hr
    rw [update_self, Option.some.injEq] at hright
    rw [update_of_ne hl, ← hright] at hleft
    exact absurd hleft (hunheld left)
  · rw [update_of_ne hl] at hleft
    rw [update_of_ne hr] at hright
    exact hexclusive _ _ _ hleft hright

theorem Exclusive.release (hexclusive : Exclusive held) :
    Exclusive (update held holder none) := by
  intro left right other hleft hright
  have hl : left ≠ holder := by
    rintro rfl
    simp at hleft
  have hr : right ≠ holder := by
    rintro rfl
    simp at hright
  rw [update_of_ne hl] at hleft
  rw [update_of_ne hr] at hright
  exact hexclusive _ _ _ hleft hright

theorem Exclusive.transfer {receiver : Holder} (hexclusive : Exclusive held) :
    Exclusive (update (update held holder none) receiver (held holder)) := by
  cases hheld : held holder with
  | none => exact hexclusive.release.release
  | some resource =>
      refine hexclusive.release.acquire fun other hother => ?_
      by_cases hne : other = holder
      · simp [hne] at hother
      · rw [update_of_ne hne] at hother
        exact hne (hexclusive _ _ _ hother hheld)

theorem Owned.acquire (howned : Owned present held) (hfree : held holder = none)
    (habsent : ¬ present resource)
    (hpresent : ∀ other, present' other ↔ present other ∨ other = resource) :
    Owned present' (update held holder (some resource)) where
  covered := howned.covered.acquire hfree fun other => (hpresent other).mp
  present keeper other h := by
    by_cases hkeeper : keeper = holder
    · subst keeper
      rw [update_self, Option.some.injEq] at h
      exact (hpresent other).mpr (.inr h.symm)
    · rw [update_of_ne hkeeper] at h
      exact (hpresent other).mpr (.inl (howned.present _ _ h))
  exclusive := howned.exclusive.acquire fun other h => habsent (howned.present _ _ h)

theorem Owned.release (howned : Owned present held)
    (hholds : held holder = some resource)
    (hpresent : ∀ other, present' other ↔ present other ∧ other ≠ resource) :
    Owned present' (update held holder none) where
  covered := howned.covered.release hholds fun other => (hpresent other).mp
  present keeper other h := by
    have hkeeper : keeper ≠ holder := by
      rintro rfl
      simp at h
    rw [update_of_ne hkeeper] at h
    refine (hpresent other).mpr ⟨howned.present _ _ h, ?_⟩
    rintro rfl
    exact hkeeper (howned.exclusive _ _ _ h hholds)
  exclusive := howned.exclusive.release

theorem Owned.transfer {receiver : Holder} (howned : Owned present held)
    (hfree : held receiver = none) :
    Owned present (update (update held holder none) receiver (held holder)) where
  covered := howned.covered.transfer hfree
  present keeper other h := by
    by_cases hkeeper : keeper = receiver
    · subst keeper
      rw [update_self] at h
      exact howned.present _ _ h
    · rw [update_of_ne hkeeper] at h
      by_cases hholder : keeper = holder
      · simp [hholder] at h
      · rw [update_of_ne hholder] at h
        exact howned.present _ _ h
  exclusive := howned.exclusive.transfer

/-! ## Ghost records with one component for each kind of resource -/

variable {Ghost : Type*} (component : Ghost → Option Resource) (ghosts : Holder → Ghost)

/-- Updating a holder's record updates the component it is viewed through. -/
theorem component_update (ghost : Ghost) :
    (fun other => component (update ghosts holder ghost other)) =
      update (fun other => component (ghosts other)) holder (component ghost) := by
  funext other
  by_cases hother : other = holder
  · subst other
    simp
  · simp [hother]

/-- A component that a new record agrees on is unchanged. -/
theorem component_update_same {ghost : Ghost}
    (hsame : component ghost = component (ghosts holder)) :
    (fun other => component (update ghosts holder ghost other)) =
      fun other => component (ghosts other) := by
  rw [component_update, hsame]
  exact update_eq_self ..

variable {component ghosts} {ghost : Ghost}

theorem Covered.keep (hcovered : Covered present fun other => component (ghosts other))
    (hsame : component ghost = component (ghosts holder)) :
    Covered present fun other => component (update ghosts holder ghost other) := by
  rw [component_update_same component ghosts hsame]
  exact hcovered

theorem Exclusive.keep (hexclusive : Exclusive fun other => component (ghosts other))
    (hsame : component ghost = component (ghosts holder)) :
    Exclusive fun other => component (update ghosts holder ghost other) := by
  rw [component_update_same component ghosts hsame]
  exact hexclusive

theorem Owned.keep (howned : Owned present fun other => component (ghosts other))
    (hsame : component ghost = component (ghosts holder)) :
    Owned present fun other => component (update ghosts holder ghost other) := by
  rw [component_update_same component ghosts hsame]
  exact howned

end ScdtServer.Ownership
