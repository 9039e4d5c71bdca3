import ScdtServer.Core.Transition
import ScdtServer.Core.TaskPool

/-!
# What a pool of tasks comes to

A goal is inevitable when the system neither goes on for ever nor stops before
it has reached it.  Two facts about pools make for that.  Every step replaces
one program by programs that are further unfolded, so that a pool on its own
takes finitely many steps, however its calls are answered.  And where a task
only waits for tasks that it has spawned, waiting always leads to a later task,
so that some task is not waiting.
-/

namespace ScdtServer.Liveness

open Function Relation
open ScdtServer.Interaction ScdtServer.Interaction.Program ScdtServer.TaskPool

/-! ## Inevitable goals -/

section Inevitable

variable {State Label : Type*} {step : State → Label → State → Prop} {goal : State → Prop}

/-- Whichever steps the system takes from a state, it reaches the goal, and it
is not stuck before. -/
inductive Inevitable (step : State → Label → State → Prop) (goal : State → Prop) :
    State → Prop
  | reached {state : State} (hgoal : goal state) : Inevitable step goal state
  | onward {state : State} (hmove : ∃ label next, step state label next)
      (hnext : ∀ label next, step state label next → Inevitable step goal next) :
      Inevitable step goal state

/-- A goal is inevitable when there is always a step towards it and no way to
take steps for ever. -/
theorem inevitable_of_wellFounded (assertion : State → Prop)
    (hpreserved : ∀ before label after,
      assertion before → step before label after → assertion after)
    (hterminates : WellFounded fun after before =>
      assertion before ∧ ∃ label, step before label after)
    (hprogress : ∀ state, assertion state → ¬ goal state → ∃ label next, step state label next)
    {state : State} (hstate : assertion state) : Inevitable step goal state := by
  induction state using hterminates.induction with
  | _ state ih =>
      by_cases hgoal : goal state
      · exact .reached hgoal
      · refine .onward (hprogress state hstate hgoal) fun label next hstep => ?_
        exact ih next ⟨hstate, label, hstep⟩ (hpreserved state label next hstate hstep)

end Inevitable

/-! ## Pools terminate -/

variable {S : Signature} {Shared Choice : Type} {exec : Exec S Shared Choice}
variable {tasks : Tasks S}

/-- The programs that one step of a task makes of its program. -/
inductive Unfolds : Program S S.Result → Program S S.Result → Prop
  | answer {request : S.Call} {next : S.Answer request → Program S S.Result}
      (answer : S.Answer request) : Unfolds (next answer) (.call request next)
  | child {role : S.Role} {child : Program S S.Result} {next : ℕ → Program S S.Result} :
      Unfolds child (.spawn role child next)
  | spawn {role : S.Role} {child : Program S S.Result} {next : ℕ → Program S S.Result}
      (task : ℕ) : Unfolds (next task) (.spawn role child next)
  | join {task : ℕ} {next : Option S.Result → Program S S.Result}
      (outcome : Option S.Result) : Unfolds (next outcome) (.join task next)

theorem wellFounded_unfolds : WellFounded (@Unfolds S) := by
  have hacc : ∀ {A : Type} (program : Program S A) (hA : A = S.Result),
      Acc Unfolds (hA ▸ program) := by
    intro A program
    induction program with
    | ret value =>
        rintro rfl
        exact ⟨_, fun other hother => by cases hother⟩
    | panic =>
        rintro rfl
        exact ⟨_, fun other hother => by cases hother⟩
    | call request next ih =>
        rintro rfl
        refine ⟨_, fun other hother => ?_⟩
        cases hother with
        | answer answer => exact ih answer rfl
    | spawn role child next ihchild ih =>
        rintro rfl
        refine ⟨_, fun other hother => ?_⟩
        cases hother with
        | child => exact ihchild rfl
        | spawn task => exact ih task rfl
    | join task next ih =>
        rintro rfl
        refine ⟨_, fun other hother => ?_⟩
        cases hother with
        | join outcome => exact ih outcome rfl
  exact ⟨fun program => hacc program rfl⟩

/-- The programs of a pool, whoever runs them. -/
def programs (tasks : Tasks S) : Multiset (Program S S.Result) := tasks.map Task.program

@[simp]
theorem programs_cons (entry : Task S) :
    programs (entry :: tasks) = entry.program ::ₘ programs tasks := rfl

theorem programs_concat (entry : Task S) :
    programs (tasks ++ [entry]) = programs tasks + {entry.program} := by
  rw [programs, List.map_append, ← Multiset.coe_add]
  rfl

theorem programs_set {task : ℕ} {old new : Task S} (hat : tasks[task]? = some old) :
    programs (tasks.set task new) + {old.program} = programs tasks + {new.program} := by
  induction tasks generalizing task with
  | nil => cases hat
  | cons first rest ih =>
      cases task with
      | zero =>
          obtain rfl : first = old := by simpa using hat
          calc
            programs (new :: rest) + {first.program} =
                first.program ::ₘ new.program ::ₘ programs rest := by
              rw [add_comm, Multiset.singleton_add, programs_cons]
            _ = new.program ::ₘ first.program ::ₘ programs rest :=
              Multiset.cons_swap _ _ _
            _ = programs (first :: rest) + {new.program} := by
              rw [add_comm, Multiset.singleton_add, programs_cons]
      | succ task =>
          have hrest : rest[task]? = some old := by simpa using hat
          rw [List.set_cons_succ, programs_cons, programs_cons, Multiset.cons_add,
            Multiset.cons_add, ih hrest]

/-- A step cuts one program down to what it unfolds to. -/
theorem cutExpand_of_step {before after : Shared × Tasks S} {event : Event S Choice}
    (hstep : Step exec before event after) :
    CutExpand Unfolds (programs after.2) (programs before.2) := by
  cases hstep with
  | @answer _ _ _ _ _ _ request next answer _ hat hexec =>
      refine ⟨{next answer}, .call request next, ?_, programs_set hat⟩
      intro other hother
      rw [Multiset.mem_singleton.mp hother]
      exact .answer answer
  | @spawn _ tasks task ownRole origin role child next hat =>
      have hset : programs (tasks.set task ⟨ownRole, origin, next tasks.length⟩) +
          {.spawn role child next} = programs tasks + {next tasks.length} := programs_set hat
      refine ⟨{next tasks.length, child}, .spawn role child next, ?_, ?_⟩
      · intro other hother
        rcases Multiset.mem_cons.mp hother with rfl | hchild
        · exact .spawn _
        · rw [Multiset.mem_singleton.mp hchild]
          exact .child
      · rw [programs_concat, add_right_comm, hset, add_assoc]
        rfl
  | @join _ _ _ _ _ awaited next other hat hother hended =>
      refine ⟨{next other.program.outcome}, .join awaited next, ?_, programs_set hat⟩
      intro unfolded hunfolded
      rw [Multiset.mem_singleton.mp hunfolded]
      exact .join _

/-! ## Somebody is not waiting -/

variable {G : Type} {R : Rules S G} {ghosts : ℕ → G}

/-- Rules under which the tasks that are waited for are those that the waiting
task has spawned. -/
structure WaitsForSpawned (R : Rules S G) : Prop where
  /-- Every answer can be taken in, and it changes nothing about the waiting. -/
  answered : ∀ request answer ghost, R.pre request ghost →
    ∃ ghost', R.after request answer ghost ghost' ∧ R.awaiting ghost' = R.awaiting ghost
  given : ∀ role ghost, R.spawnable role ghost → R.awaiting (R.give role ghost) = none
  kept : ∀ role ghost task awaited, R.spawnable role ghost →
    R.awaiting (R.keep role ghost task) = some awaited →
      awaited = task ∨ R.awaiting ghost = some awaited
  joined : ∀ ghost, R.awaiting (R.joined ghost) = none

/-- Every task meets its obligations, and whoever waits, waits for a later
task. -/
structure Orderly (R : Rules S G) (tasks : Tasks S) (ghosts : ℕ → G) : Prop where
  guarded : Guarded R tasks ghosts
  later : ∀ task awaited, task < tasks.length → R.awaiting (ghosts task) = some awaited →
    task < awaited ∧ awaited < tasks.length

theorem Orderly.set {task : ℕ} {entry : Task S} {ghost : G} (horderly : Orderly R tasks ghosts)
    (hguarded : Guarded R (tasks.set task entry) (update ghosts task ghost))
    (hawaiting : ∀ awaited, R.awaiting ghost = some awaited →
      R.awaiting (ghosts task) = some awaited) :
    Orderly R (tasks.set task entry) (update ghosts task ghost) where
  guarded := hguarded
  later other awaited hlt hwaits := by
    rw [List.length_set] at hlt ⊢
    apply horderly.later other awaited hlt
    by_cases hother : other = task
    · subst other
      rw [update_self] at hwaits
      exact hawaiting awaited hwaits
    · rwa [update_of_ne hother] at hwaits

/-- A new task that waits for nobody. -/
theorem Orderly.concat {entry : Task S} {ghost : G} (horderly : Orderly R tasks ghosts)
    (hwp : wp R entry.program (fun _ => R.ended) ghost) (hawaiting : R.awaiting ghost = none) :
    Orderly R (tasks ++ [entry]) (update ghosts tasks.length ghost) where
  guarded := horderly.guarded.concat hwp
  later other awaited hlt hwaits := by
    rw [List.length_append, List.length_singleton] at hlt ⊢
    by_cases hother : other = tasks.length
    · rw [hother, update_self, hawaiting] at hwaits
      cases hwaits
    · rw [update_of_ne hother] at hwaits
      have hlater := horderly.later other awaited (by omega) hwaits
      exact ⟨hlater.1, by omega⟩

theorem Orderly.step {shared shared' : Shared} {tasks' : Tasks S} {event : Event S Choice}
    (hrules : WaitsForSpawned R) (horderly : Orderly R tasks ghosts)
    (hstep : Step exec (shared, tasks) event (shared', tasks')) :
    ∃ ghosts', Orderly R tasks' ghosts' := by
  cases hstep with
  | @answer _ _ _ task _ _ request next answer _ hat hexec =>
      obtain ⟨ghost', hafter, hawaiting⟩ :=
        hrules.answered request answer (ghosts task) (horderly.guarded.pre hat)
      refine ⟨_, horderly.set (horderly.guarded.answer hat hafter) ?_⟩
      intro awaited hwaits
      rwa [hawaiting] at hwaits
  | @join _ _ task _ _ awaited next other hat hother hended =>
      refine ⟨_, horderly.set (horderly.guarded.join other.program.outcome hat) ?_⟩
      intro awaited hwaits
      rw [hrules.joined] at hwaits
      cases hwaits
  | @spawn _ _ task _ _ role child next hat =>
      have hspawnable := (horderly.guarded task _ hat).1
      have hlt : task < tasks.length := (List.getElem?_eq_some_iff.mp hat).1
      refine ⟨_, horderly.guarded.spawn hat, ?_⟩
      intro other awaited hother hwaits
      rw [List.length_append, List.length_set, List.length_singleton] at hother ⊢
      by_cases hfresh : other = tasks.length
      · rw [hfresh, update_self, hrules.given role _ hspawnable] at hwaits
        cases hwaits
      rw [update_of_ne hfresh] at hwaits
      by_cases hself : other = task
      · subst other
        rw [update_self] at hwaits
        rcases hrules.kept role _ _ _ hspawnable hwaits with rfl | hold
        · exact ⟨hlt, by omega⟩
        · have hlater := horderly.later task awaited hlt hold
          exact ⟨hlater.1, by omega⟩
      · rw [update_of_ne hself] at hwaits
        have hlater := horderly.later other awaited (by omega) hwaits
        exact ⟨hlater.1, by omega⟩

/-- The task goes on, and if it waits for another one, that one has ended. -/
structure Ready (tasks : Tasks S) (task : ℕ) (entry : Task S) : Prop where
  at_task : tasks[task]? = some entry
  active : entry.program.isEnded = false
  waiting : ∀ awaited next, entry.program = .join awaited next →
    ∃ other, tasks[awaited]? = some other ∧ other.program.isEnded = true

/-- As long as some task has not ended, the last such task is ready. -/
theorem Orderly.exists_ready (horderly : Orderly R tasks ghosts)
    (hactive : ∃ entry ∈ tasks, entry.program.isEnded = false) :
    ∃ task entry, Ready tasks task entry := by
  classical
  let Active : ℕ → Prop := fun task =>
    ∃ entry : Task S, tasks[task]? = some entry ∧ entry.program.isEnded = false
  have hbounded : ∀ task, Active task → task ≤ tasks.length := by
    rintro task ⟨entry, hat, -⟩
    exact (List.getElem?_eq_some_iff.mp hat).1.le
  obtain ⟨first, hfirst⟩ : ∃ task, Active task := by
    obtain ⟨entry, hmem, hentry⟩ := hactive
    obtain ⟨task, hat⟩ := List.getElem?_of_mem hmem
    exact ⟨task, entry, hat, hentry⟩
  obtain ⟨entry, hat, hentry⟩ : Active (Nat.findGreatest Active tasks.length) :=
    Nat.findGreatest_spec (hbounded first hfirst) hfirst
  refine ⟨_, entry, hat, hentry, fun awaited next hjoin => ?_⟩
  have hwp := horderly.guarded _ entry hat
  rw [hjoin] at hwp
  have hlt := (List.getElem?_eq_some_iff.mp hat).1
  obtain ⟨hlater, hlength⟩ := horderly.later _ awaited hlt hwp.1
  refine ⟨tasks[awaited], List.getElem?_eq_getElem hlength, ?_⟩
  by_contra hgoing
  apply Nat.findGreatest_is_greatest hlater hlength.le
  exact ⟨_, List.getElem?_eq_getElem hlength, by simpa using hgoing⟩

/-- A ready task can take its next step, provided its call is answered in an allowed
way. -/
theorem Ready.step {shared : Shared} {task : ℕ} {entry : Task S}
    (allowed : Event S Choice → Prop) (hready : Ready tasks task entry)
    (hspawn : allowed (.spawn task)) (hjoin : allowed (.join task))
    (hanswered : ∀ request next, entry.program = .call request next →
      ∃ answer choice shared', allowed (.answer task request answer choice) ∧
        exec shared entry.origin request answer choice = some shared') :
    ∃ event after, allowed event ∧ Step exec (shared, tasks) event after := by
  obtain ⟨hat, hactive, hwaiting⟩ := hready
  obtain ⟨role, origin, program⟩ := entry
  cases program with
  | ret value => cases hactive
  | panic => cases hactive
  | call request next =>
      obtain ⟨answer, choice, shared', hallowed, hexec⟩ := hanswered request next rfl
      exact ⟨_, _, hallowed, .answer hat hexec⟩
  | spawn childRole child next => exact ⟨_, _, hspawn, .spawn hat⟩
  | join awaited next =>
      obtain ⟨other, hother, hended⟩ := hwaiting awaited next rfl
      exact ⟨_, _, hjoin, .join hat hother hended⟩

end ScdtServer.Liveness
