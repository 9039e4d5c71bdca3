import Mathlib

/-!
# Finite runs of a labelled transition system

A system is a step relation between states whose steps carry a label.  A run
keeps the labels of its steps, oldest first, so that statements about what
happened earlier in a run can be made on the labels alone.  The induction over
runs is packaged once as `Run.invariant`.
-/

namespace ScdtServer.Transition

variable {State Label : Type*}

/-- A run from `start`, with the labels of its steps in order. -/
inductive Run (step : State → Label → State → Prop) (start : State) :
    List Label → State → Prop
  | nil : Run step start [] start
  | snoc {labels : List Label} {middle : State} {label : Label} {last : State}
      (before : Run step start labels middle) (final : step middle label last) :
      Run step start (labels ++ [label]) last

/-- The steps of a system whose label and prior state satisfy `condition`. -/
def restrict (step : State → Label → State → Prop)
    (condition : State → Label → Prop) : State → Label → State → Prop :=
  fun before label after => step before label after ∧ condition before label

variable {step : State → Label → State → Prop} {start last : State}
variable {labels : List Label}

/-- An assertion that holds at the start and survives every step holds at the
end of every run. -/
theorem Run.invariant (assertion : State → Prop) (hstart : assertion start)
    (hstep : ∀ before label after,
      assertion before → step before label after → assertion after)
    (hrun : Run step start labels last) : assertion last := by
  induction hrun with
  | nil => exact hstart
  | snoc _ final ih => exact hstep _ _ _ ih final

/-- The same for an assertion about the labels so far and the state. -/
theorem Run.history (assertion : List Label → State → Prop) (hstart : assertion [] start)
    (hstep : ∀ labels before label after,
      assertion labels before → step before label after →
        assertion (labels ++ [label]) after)
    (hrun : Run step start labels last) : assertion labels last := by
  induction hrun with
  | nil => exact hstart
  | snoc _ final ih => exact hstep _ _ _ _ ih final

/-- A run of a system is a run of every system that has its steps. -/
theorem Run.mono {other : State → Label → State → Prop}
    (hother : ∀ before label after, step before label after → other before label after)
    (hrun : Run step start labels last) : Run other start labels last := by
  induction hrun with
  | nil => exact .nil
  | snoc _ final ih => exact .snoc ih (hother _ _ _ final)

/-- A run of the restricted system is a run of the system. -/
theorem Run.unrestrict {condition : State → Label → Prop}
    (hrun : Run (restrict step condition) start labels last) :
    Run step start labels last := by
  induction hrun with
  | nil => exact .nil
  | snoc _ final ih => exact .snoc ih final.1

/-- A run all of whose labels meet a condition is one of the restricted system. -/
theorem Run.restrict_labels {condition : Label → Prop} (hrun : Run step start labels last)
    (hcondition : ∀ label ∈ labels, condition label) :
    Run (restrict step fun _ label => condition label) start labels last := by
  induction hrun with
  | nil => exact .nil
  | snoc _ final ih =>
      refine .snoc (ih fun label hmem => ?_) ⟨final, ?_⟩
      · exact hcondition label (List.mem_append_left _ hmem)
      · exact hcondition _ (List.mem_append_right _ (List.mem_singleton_self _))

theorem Run.append {middle : State} {more : List Label}
    (hrun : Run step start labels middle) (hmore : Run step middle more last) :
    Run step start (labels ++ more) last := by
  induction hmore with
  | nil => simpa using hrun
  | snoc _ final ih =>
      rw [← List.append_assoc]
      exact .snoc ih final

/-- A system that simulates another one step for step does so along its runs. -/
theorem Run.map {State' Label' : Type*} {other : State' → Label' → State' → Prop}
    (project : State → State') (rename : Label → Label')
    (hsimulates : ∀ before label after, step before label after →
      other (project before) (rename label) (project after))
    (hrun : Run step start labels last) :
    Run other (project start) (labels.map rename) (project last) := by
  induction hrun with
  | nil => exact .nil
  | snoc _ final ih =>
      rw [List.map_append, List.map_singleton]
      exact .snoc ih (hsimulates _ _ _ final)

/-- Cut a run in front of one of its labels. -/
theorem Run.split {before after : List Label} {label : Label}
    (hrun : Run step start (before ++ label :: after) last) :
    ∃ middle next, Run step start before middle ∧ step middle label next ∧
      Run step next after last := by
  generalize hlabels : before ++ label :: after = all at hrun
  induction hrun generalizing after with
  | nil => simp at hlabels
  | @snoc prior middle final last hprior hfinal ih =>
      rcases List.eq_nil_or_concat after with rfl | ⟨init, final', rfl⟩
      · have hparts := List.append_inj' hlabels rfl
        obtain ⟨rfl, hlast⟩ := hparts
        obtain rfl : label = final := by simpa using hlast
        exact ⟨middle, last, hprior, hfinal, .nil⟩
      · have hcons : (before ++ label :: init) ++ [final'] = prior ++ [final] := by
          simpa using hlabels
        obtain ⟨hprior', hlast⟩ := List.append_inj' hcons rfl
        obtain rfl : final' = final := by simpa using hlast
        obtain ⟨cut, next, hfirst, hcut, hrest⟩ := ih hprior'
        refine ⟨cut, next, hfirst, hcut, ?_⟩
        rw [List.concat_eq_append]
        exact .snoc hrest hfinal

/-- The step that a run takes at one of its labels. -/
theorem Run.step_at {position : ℕ} {label : Label}
    (hrun : Run step start labels last) (hat : labels[position]? = some label) :
    ∃ middle next, Run step start (labels.take position) middle ∧ step middle label next := by
  obtain ⟨hlt, hlabel⟩ := List.getElem?_eq_some_iff.mp hat
  have hsplit : labels = labels.take position ++ label :: labels.drop (position + 1) := by
    calc
      labels = labels.take position ++ labels.drop position :=
        (List.take_append_drop position labels).symm
      _ = labels.take position ++ label :: labels.drop (position + 1) := by
        rw [List.drop_eq_getElem_cons hlt, hlabel]
  rw [hsplit] at hrun
  obtain ⟨middle, next, hprefix, hstep, _⟩ := hrun.split
  exact ⟨middle, next, hprefix, hstep⟩

/-- Every instant of a run has a state. -/
theorem Run.take (hrun : Run step start labels last) (position : ℕ) :
    ∃ middle, Run step start (labels.take position) middle := by
  cases hat : labels[position]? with
  | none =>
      have hlength : labels.length ≤ position := List.getElem?_eq_none_iff.mp hat
      rw [List.take_of_length_le hlength]
      exact ⟨last, hrun⟩
  | some label =>
      obtain ⟨middle, next, hprefix, _⟩ := hrun.step_at hat
      exact ⟨middle, hprefix⟩

/-! ## Systems that know their past -/

/-- The same system with the labels so far as a part of its state. -/
def recorded (step : State → Label → State → Prop) :
    List Label × State → Label → List Label × State → Prop :=
  fun before label after => step before.2 label after.2 ∧ after.1 = before.1 ++ [label]

/-- A run whose steps meet a condition on what came before them is recorded if every
step of it meets the condition after the labels so far. -/
theorem Run.record {condition : List Label × State → Label → Prop} {past : List Label}
    (hcondition : ∀ labels before label after, Run step start labels before →
      step before label after → condition (past ++ labels, before) label)
    (hrun : Run step start labels last) :
    Run (restrict (recorded step) condition) (past, start) labels (past ++ labels, last) := by
  induction hrun with
  | nil =>
      rw [List.append_nil]
      exact .nil
  | snoc before final ih =>
      refine .snoc ih ⟨⟨final, ?_⟩, hcondition _ _ _ _ before final⟩
      rw [List.append_assoc]

section Executable

variable {Move : Type*}

/-- Follow a schedule of moves through a partial transition function that also
reports the label of each step it takes. -/
def follow (advance : Move → State → Option (Label × State)) :
    List Move → State → Option (List Label × State)
  | [], state => some ([], state)
  | move :: moves, state =>
      match advance move state with
      | none => none
      | some (label, next) =>
          match follow advance moves next with
          | none => none
          | some (labels, last) => some (label :: labels, last)

/-- A schedule that can be followed is a run of every relation that contains
the transition function. -/
theorem run_of_follow {advance : Move → State → Option (Label × State)}
    (hsound : ∀ move state label next,
      advance move state = some (label, next) → step state label next)
    {moves : List Move}
    (hfollow : follow advance moves start = some (labels, last)) :
    Run step start labels last := by
  induction moves generalizing start labels with
  | nil =>
      obtain ⟨rfl, rfl⟩ : [] = labels ∧ start = last := by
        simpa [follow] using hfollow
      exact .nil
  | cons move moves ih =>
      simp only [follow] at hfollow
      split at hfollow
      · cases hfollow
      · rename_i label next hadvance
        split at hfollow
        · cases hfollow
        · rename_i rest final hrest
          obtain ⟨rfl, rfl⟩ : label :: rest = labels ∧ final = last := by
            simpa using hfollow
          exact (Run.snoc .nil (hsound _ _ _ _ hadvance)).append (ih hrest)

/-- Let only those steps through that pass a check. -/
def checked (check : State → Label → Bool)
    (advance : Move → State → Option (Label × State)) (move : Move) (state : State) :
    Option (Label × State) :=
  match advance move state with
  | none => none
  | some (label, next) => if check state label then some (label, next) else none

theorem restrict_of_checked {check : State → Label → Bool}
    {condition : State → Label → Prop} {advance : Move → State → Option (Label × State)}
    (hcheck : ∀ state label, check state label = true → condition state label)
    (hsound : ∀ move state label next,
      advance move state = some (label, next) → step state label next)
    (move : Move) (state : State) (label : Label) (next : State)
    (hadvance : checked check advance move state = some (label, next)) :
    restrict step condition state label next := by
  unfold checked at hadvance
  split at hadvance
  · cases hadvance
  · rename_i found reached hfound
    split at hadvance
    · rename_i hpassed
      obtain ⟨rfl, rfl⟩ : found = label ∧ reached = next := by simpa using hadvance
      exact ⟨hsound _ _ _ _ hfound, hcheck _ _ hpassed⟩
    · cases hadvance

/-- A schedule whose labels and last state pass a test gives such a run. -/
theorem exists_history_of_follow {advance : Move → State → Option (Label × State)}
    (start : State) (moves : List Move) (test : List Label → State → Bool)
    (hsound : ∀ move state label next,
      advance move state = some (label, next) → step state label next)
    (htest : (follow advance moves start).any
      (fun reached => test reached.1 reached.2) = true) :
    ∃ labels last, Run step start labels last ∧ test labels last = true := by
  cases hfollow : follow advance moves start with
  | none => simp [hfollow] at htest
  | some reached =>
      refine ⟨reached.1, reached.2, run_of_follow hsound hfollow, ?_⟩
      simpa [hfollow] using htest

/-- A schedule whose last state passes a test gives a run to such a state. -/
theorem exists_run_of_follow {advance : Move → State → Option (Label × State)}
    (start : State) (moves : List Move) (test : State → Bool)
    (hsound : ∀ move state label next,
      advance move state = some (label, next) → step state label next)
    (htest : (follow advance moves start).any (fun reached => test reached.2) = true) :
    ∃ labels last, Run step start labels last ∧ test last = true :=
  exists_history_of_follow start moves (fun _ => test) hsound htest

end Executable

end ScdtServer.Transition
