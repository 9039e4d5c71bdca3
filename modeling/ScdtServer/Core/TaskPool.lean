import ScdtServer.Core.Interaction

/-!
# Interleaving a pool of tasks

Tasks run programs over one shared state.  At each step any one task has its
pending call answered, spawns another task, or learns that the task it waits
for has ended.  `exec` is the meaning of the calls: it is given the answer and
whatever else the surroundings decide, and says whether that is possible and
what becomes of the shared state.

`Guarded` ties a ghost state to each task through `wp`; the lemmas after it say
how each kind of step preserves it, and that a task which another one must wait
for has not been forgotten.
-/

namespace ScdtServer.TaskPool

open Function
open ScdtServer.Interaction ScdtServer.Interaction.Program

/-- A task, its role, and the root task it descends from. -/
structure Task (S : Signature) where
  role : S.Role
  origin : ℕ
  program : Program S S.Result

abbrev Tasks (S : Signature) := List (Task S)

/-- What happened in a step. -/
inductive Event (S : Signature) (Choice : Type)
  | answer (task : ℕ) (request : S.Call) (answer : S.Answer request) (choice : Choice)
  | spawn (task : ℕ)
  | join (task : ℕ)

variable {S : Signature} {Shared Choice : Type}

/-- The meaning of calls: shared state, origin of the calling task, the call,
its answer and the free choices of the surroundings. -/
abbrev Exec (S : Signature) (Shared Choice : Type) :=
  Shared → ℕ → (request : S.Call) → S.Answer request → Choice → Option Shared

inductive Step (exec : Exec S Shared Choice) :
    Shared × Tasks S → Event S Choice → Shared × Tasks S → Prop
  | answer {shared shared' : Shared} {tasks : Tasks S} {task : ℕ} {role : S.Role}
      {origin : ℕ} {request : S.Call} {next : S.Answer request → Program S S.Result}
      {answer : S.Answer request} {choice : Choice}
      (hat : tasks[task]? = some ⟨role, origin, .call request next⟩)
      (hexec : exec shared origin request answer choice = some shared') :
      Step exec (shared, tasks) (.answer task request answer choice)
        (shared', tasks.set task ⟨role, origin, next answer⟩)
  | spawn {shared : Shared} {tasks : Tasks S} {task : ℕ} {role : S.Role}
      {origin : ℕ} {childRole : S.Role} {child : Program S S.Result}
      {next : ℕ → Program S S.Result}
      (hat : tasks[task]? = some ⟨role, origin, .spawn childRole child next⟩) :
      Step exec (shared, tasks) (.spawn task)
        (shared, tasks.set task ⟨role, origin, next tasks.length⟩ ++
          [⟨childRole, origin, child⟩])
  | join {shared : Shared} {tasks : Tasks S} {task : ℕ} {role : S.Role}
      {origin : ℕ} {awaited : ℕ} {next : Option S.Result → Program S S.Result}
      {other : Task S}
      (hat : tasks[task]? = some ⟨role, origin, .join awaited next⟩)
      (hother : tasks[awaited]? = some other)
      (hended : other.program.isEnded = true) :
      Step exec (shared, tasks) (.join task)
        (shared, tasks.set task ⟨role, origin, next other.program.outcome⟩)

/-! ## Executing a schedule -/

/-- How the surroundings answer the calls of a task. -/
abbrev Oracle (S : Signature) (Choice : Type) :=
  (request : S.Call) → Option (S.Answer request × Choice)

/-- Let one task take its next step, its calls being answered by `oracle`. -/
def advance (exec : Exec S Shared Choice) (task : ℕ) (oracle : Oracle S Choice)
    (pool : Shared × Tasks S) : Option (Event S Choice × Shared × Tasks S) :=
  match pool.2[task]? with
  | some ⟨role, origin, .call request next⟩ =>
      match oracle request with
      | some (answer, choice) =>
          match exec pool.1 origin request answer choice with
          | some shared' =>
              some (.answer task request answer choice, shared',
                pool.2.set task ⟨role, origin, next answer⟩)
          | none => none
      | none => none
  | some ⟨role, origin, .spawn childRole child next⟩ =>
      some (.spawn task, pool.1,
        pool.2.set task ⟨role, origin, next pool.2.length⟩ ++
          [⟨childRole, origin, child⟩])
  | some ⟨role, origin, .join awaited next⟩ =>
      match pool.2[awaited]? with
      | some other =>
          if other.program.isEnded then
            some (.join task, pool.1,
              pool.2.set task ⟨role, origin, next other.program.outcome⟩)
          else none
      | none => none
  | _ => none

theorem step_of_advance {exec : Exec S Shared Choice} {task : ℕ}
    {oracle : Oracle S Choice} {pool pool' : Shared × Tasks S}
    {event : Event S Choice}
    (hadvance : advance exec task oracle pool = some (event, pool')) :
    Step exec pool event pool' := by
  obtain ⟨shared, tasks⟩ := pool
  unfold advance at hadvance
  split at hadvance
  · rename_i hat
    split at hadvance
    · split at hadvance
      · rename_i hexec
        obtain ⟨rfl, rfl⟩ := by simpa using hadvance
        exact .answer hat hexec
      · cases hadvance
    · cases hadvance
  · rename_i hat
    obtain ⟨rfl, rfl⟩ := by simpa using hadvance
    exact .spawn hat
  · rename_i hat
    split at hadvance
    · rename_i hother
      split at hadvance
      · rename_i hended
        obtain ⟨rfl, rfl⟩ := by simpa using hadvance
        exact .join hat hother hended
      · cases hadvance
    · cases hadvance
  · cases hadvance

/-! ## Ghost states of the tasks -/

variable {G : Type} {R : Rules S G} {tasks : Tasks S} {ghosts : ℕ → G}
variable {task : ℕ} {role : S.Role} {origin : ℕ}

/-- Every task meets, from its ghost state, the obligations of its program. -/
def Guarded (R : Rules S G) (tasks : Tasks S) (ghosts : ℕ → G) : Prop :=
  ∀ task entry, tasks[task]? = some entry →
    wp R entry.program (fun _ => R.ended) (ghosts task)

/-- What an ended task owns. -/
theorem Guarded.ended {entry : Task S} (hguarded : Guarded R tasks ghosts)
    (hat : tasks[task]? = some entry) (hended : entry.program.isEnded = true) :
    R.ended (ghosts task) := by
  have hwp := hguarded task entry hat
  revert hwp
  cases hprogram : entry.program <;> simp [hprogram, isEnded] at hended ⊢

private theorem lt_length_of_at {entry : Task S} (hat : tasks[task]? = some entry) :
    task < tasks.length :=
  (List.getElem?_eq_some_iff.mp hat).1

/-- Replacing one task's program and ghost state, the others being untouched. -/
theorem Guarded.set {entry : Task S} {ghost : G} (hguarded : Guarded R tasks ghosts)
    (hwp : wp R entry.program (fun _ => R.ended) ghost) :
    Guarded R (tasks.set task entry) (update ghosts task ghost) := by
  intro other otherEntry hother
  by_cases hne : task = other
  · subst other
    have hentry : entry = otherEntry := by
      have hlt := lt_length_of_at hother
      rw [List.getElem?_set_self (by simpa using hlt)] at hother
      simpa using hother
    rw [update_self, ← hentry]
    exact hwp
  · rw [List.getElem?_set_ne hne] at hother
    rw [update_of_ne (Ne.symm hne)]
    exact hguarded other otherEntry hother

/-- Adding a task at the end of the pool. -/
theorem Guarded.concat {entry : Task S} {ghost : G} (hguarded : Guarded R tasks ghosts)
    (hwp : wp R entry.program (fun _ => R.ended) ghost) :
    Guarded R (tasks ++ [entry]) (update ghosts tasks.length ghost) := by
  intro other otherEntry hother
  by_cases hlt : other < tasks.length
  · rw [List.getElem?_append_left hlt] at hother
    rw [update_of_ne (Nat.ne_of_lt hlt)]
    exact hguarded other otherEntry hother
  · have hlen := lt_length_of_at hother
    have heq : other = tasks.length := by
      simp only [List.length_append, List.length_singleton] at hlen
      omega
    subst other
    have hentry : entry = otherEntry := by simpa using hother
    rw [update_self, ← hentry]
    exact hwp

theorem Guarded.pre {request : S.Call} {next : S.Answer request → Program S S.Result}
    (hguarded : Guarded R tasks ghosts)
    (hat : tasks[task]? = some ⟨role, origin, .call request next⟩) :
    R.pre request (ghosts task) :=
  (hguarded task _ hat).1

theorem Guarded.answer {request : S.Call} {next : S.Answer request → Program S S.Result}
    {answer : S.Answer request} {ghost : G} (hguarded : Guarded R tasks ghosts)
    (hat : tasks[task]? = some ⟨role, origin, .call request next⟩)
    (hafter : R.after request answer (ghosts task) ghost) :
    Guarded R (tasks.set task ⟨role, origin, next answer⟩) (update ghosts task ghost) :=
  hguarded.set ((hguarded task _ hat).2 answer ghost hafter)

theorem Guarded.spawn {childRole : S.Role} {child : Program S S.Result}
    {next : ℕ → Program S S.Result} (hguarded : Guarded R tasks ghosts)
    (hat : tasks[task]? = some ⟨role, origin, .spawn childRole child next⟩) :
    Guarded R
      (tasks.set task ⟨role, origin, next tasks.length⟩ ++ [⟨childRole, origin, child⟩])
      (update
        (update ghosts task (R.keep childRole (ghosts task) tasks.length))
        tasks.length (R.give childRole (ghosts task))) := by
  obtain ⟨-, hchild, hnext⟩ := hguarded task _ hat
  have hset : Guarded R (tasks.set task ⟨role, origin, next tasks.length⟩)
      (update ghosts task (R.keep childRole (ghosts task) tasks.length)) :=
    hguarded.set (hnext tasks.length)
  have hconcat : Guarded R
      (tasks.set task ⟨role, origin, next tasks.length⟩ ++ [⟨childRole, origin, child⟩])
      _ := hset.concat hchild
  simpa only [List.length_set] using hconcat

theorem Guarded.join {awaited : ℕ} {next : Option S.Result → Program S S.Result}
    (outcome : Option S.Result) (hguarded : Guarded R tasks ghosts)
    (hat : tasks[task]? = some ⟨role, origin, .join awaited next⟩) :
    Guarded R (tasks.set task ⟨role, origin, next outcome⟩)
      (update ghosts task (R.joined (ghosts task))) :=
  hguarded.set ((hguarded task _ hat).2 outcome)

theorem Guarded.awaiting {awaited : ℕ} {next : Option S.Result → Program S S.Result}
    (hguarded : Guarded R tasks ghosts)
    (hat : tasks[task]? = some ⟨role, origin, .join awaited next⟩) :
    R.awaiting (ghosts task) = some awaited :=
  (hguarded task _ hat).1

/-! ## The tasks of one root -/

variable {root : ℕ}

/-- The tasks that descend from `root` meet the obligations of their programs. -/
def GuardedOf (R : Rules S G) (root : ℕ) (tasks : Tasks S) (ghosts : ℕ → G) : Prop :=
  ∀ task entry, tasks[task]? = some entry → entry.origin = root →
    wp R entry.program (fun _ => R.ended) (ghosts task)

theorem GuardedOf.ended {entry : Task S} (hguarded : GuardedOf R root tasks ghosts)
    (hat : tasks[task]? = some entry) (horigin : entry.origin = root)
    (hended : entry.program.isEnded = true) : R.ended (ghosts task) := by
  have hwp := hguarded task entry hat horigin
  revert hwp
  cases hprogram : entry.program <;> simp [hprogram, isEnded] at hended ⊢

theorem GuardedOf.set {entry : Task S} {ghost : G} (hguarded : GuardedOf R root tasks ghosts)
    (hwp : entry.origin = root → wp R entry.program (fun _ => R.ended) ghost) :
    GuardedOf R root (tasks.set task entry) (update ghosts task ghost) := by
  intro other otherEntry hother horigin
  by_cases hne : task = other
  · subst other
    have hlt := lt_length_of_at hother
    rw [List.getElem?_set_self (by simpa using hlt)] at hother
    obtain rfl := Option.some.inj hother
    rw [update_self]
    exact hwp horigin
  · rw [List.getElem?_set_ne hne] at hother
    rw [update_of_ne (Ne.symm hne)]
    exact hguarded other otherEntry hother horigin

theorem GuardedOf.concat {entry : Task S} {ghost : G} (hguarded : GuardedOf R root tasks ghosts)
    (hwp : entry.origin = root → wp R entry.program (fun _ => R.ended) ghost) :
    GuardedOf R root (tasks ++ [entry]) (update ghosts tasks.length ghost) := by
  intro other otherEntry hother horigin
  by_cases hlt : other < tasks.length
  · rw [List.getElem?_append_left hlt] at hother
    rw [update_of_ne (Nat.ne_of_lt hlt)]
    exact hguarded other otherEntry hother horigin
  · have hlen := lt_length_of_at hother
    rw [List.length_append, List.length_singleton] at hlen
    obtain rfl : other = tasks.length := by omega
    rw [List.getElem?_concat_length] at hother
    obtain rfl := Option.some.inj hother
    rw [update_self]
    exact hwp horigin

/-- An answer need be a good one only if it is to a task of the root. -/
theorem GuardedOf.answer {request : S.Call} {next : S.Answer request → Program S S.Result}
    {answer : S.Answer request} {ghost : G} (hguarded : GuardedOf R root tasks ghosts)
    (hat : tasks[task]? = some ⟨role, origin, .call request next⟩)
    (hafter : origin = root → R.after request answer (ghosts task) ghost) :
    GuardedOf R root (tasks.set task ⟨role, origin, next answer⟩) (update ghosts task ghost) :=
  hguarded.set fun horigin => (hguarded task _ hat horigin).2 answer ghost (hafter horigin)

theorem GuardedOf.spawn {childRole : S.Role} {child : Program S S.Result}
    {next : ℕ → Program S S.Result} (hguarded : GuardedOf R root tasks ghosts)
    (hat : tasks[task]? = some ⟨role, origin, .spawn childRole child next⟩) :
    GuardedOf R root
      (tasks.set task ⟨role, origin, next tasks.length⟩ ++ [⟨childRole, origin, child⟩])
      (update
        (update ghosts task (R.keep childRole (ghosts task) tasks.length))
        tasks.length (R.give childRole (ghosts task))) := by
  have hset : GuardedOf R root (tasks.set task ⟨role, origin, next tasks.length⟩)
      (update ghosts task (R.keep childRole (ghosts task) tasks.length)) :=
    hguarded.set fun horigin => (hguarded task _ hat horigin).2.2 tasks.length
  have hconcat := @GuardedOf.concat _ _ _ _ _ _ ⟨childRole, origin, child⟩
    (R.give childRole (ghosts task)) hset fun horigin => (hguarded task _ hat horigin).2.1
  rwa [List.length_set] at hconcat

theorem GuardedOf.join {awaited : ℕ} {next : Option S.Result → Program S S.Result}
    (outcome : Option S.Result) (hguarded : GuardedOf R root tasks ghosts)
    (hat : tasks[task]? = some ⟨role, origin, .join awaited next⟩) :
    GuardedOf R root (tasks.set task ⟨role, origin, next outcome⟩)
      (update ghosts task (R.joined (ghosts task))) :=
  hguarded.set fun horigin => (hguarded task _ hat horigin).2 outcome

end ScdtServer.TaskPool
