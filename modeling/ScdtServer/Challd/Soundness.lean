import ScdtServer.Challd.Accounting

/-!
# The invariant of the daemon's runs

`Sound` ties the holdings to the tasks: every task can meet its remaining
obligations, what is on the host is accounted for, and a teardown is awaited by
its request for as long as it lasts.  It holds at the start and survives every
step, whatever fails.
-/

namespace ScdtServer.Soundness

open Function
open ScdtServer.Interaction ScdtServer.Interaction.Program
open ScdtServer.TaskPool ScdtServer.Transition ScdtServer.Ownership
open ScdtServer.Host ScdtServer.Interface ScdtServer.Main ScdtServer.Daemon
open ScdtServer.Holdings ScdtServer.TaskSpecs ScdtServer.Invariant ScdtServer.Accounting

/-- The connection that a task works for. -/
def originOf (tasks : Tasks challd) (task : ℕ) : ℕ :=
  match tasks[task]? with
  | some entry => entry.origin
  | none => 0

/-- Every teardown that is not over is awaited by a request of its connection. -/
def Awaited (tasks : Tasks challd) (ghosts : ℕ → Held) : Prop :=
  ∀ task entry, tasks[task]? = some entry → entry.role = .teardown →
    entry.program.isEnded = false →
      ∃ parent parentEntry, tasks[parent]? = some parentEntry ∧
        parentEntry.role = .request ∧ parentEntry.origin = entry.origin ∧
        (ghosts parent).child = some task

structure Sound (daemon : Daemon) (ghosts : ℕ → Held) : Prop where
  guarded : Guarded rules daemon.tasks ghosts
  inv : Inv daemon.world (originOf daemon.tasks) ghosts
  roles : ∀ task entry, daemon.tasks[task]? = some entry → (ghosts task).role = entry.role
  outside : ∀ task, daemon.tasks.length ≤ task → ghosts task = .bare .connection
  awaited : Awaited daemon.tasks ghosts

variable {tasks : Tasks challd} {ghosts : ℕ → Held} {task : ℕ}

/-! ## The task list -/

theorem originOf_eq {entry : TaskPool.Task challd} (hat : tasks[task]? = some entry) :
    originOf tasks task = entry.origin := by
  rw [originOf, hat]

theorem exec_originOf {entry : TaskPool.Task challd} {world world' : World} {call : Call}
    {answer : Answer call} {choice : Choice} (hat : tasks[task]? = some entry)
    (hexec : exec world entry.origin call answer choice = some world') :
    exec world (originOf tasks task) call answer choice = some world' := by
  rw [originOf_eq hat]
  exact hexec

theorem originOf_set {old new : TaskPool.Task challd} (hat : tasks[task]? = some old)
    (horigin : new.origin = old.origin) :
    originOf (tasks.set task new) = originOf tasks := by
  funext other
  by_cases hother : task = other
  · subst other
    have hlt := (List.getElem?_eq_some_iff.mp hat).1
    rw [originOf_eq hat, ← horigin]
    exact originOf_eq (List.getElem?_set_self hlt)
  · rw [originOf, originOf, List.getElem?_set_ne hother]

theorem originOf_concat {entry : TaskPool.Task challd} :
    originOf (tasks ++ [entry]) = update (originOf tasks) tasks.length entry.origin := by
  funext other
  by_cases hother : other = tasks.length
  · subst other
    rw [update_self]
    exact originOf_eq List.getElem?_concat_length
  · rw [update_of_ne hother, originOf, originOf]
    by_cases hlt : other < tasks.length
    · rw [List.getElem?_append_left hlt]
    · have hge : tasks.length + 1 ≤ other := by omega
      rw [List.getElem?_eq_none (by simpa using hge), List.getElem?_eq_none (by omega)]

/-- The entries of a list in which one has been replaced. -/
theorem at_set {old new entry : TaskPool.Task challd} {other : ℕ}
    (hat : tasks[task]? = some old) (hother : (tasks.set task new)[other]? = some entry) :
    (other = task ∧ entry = new) ∨ (other ≠ task ∧ tasks[other]? = some entry) := by
  by_cases hne : other = task
  · subst other
    have hlt := (List.getElem?_eq_some_iff.mp hat).1
    rw [List.getElem?_set_self hlt] at hother
    exact .inl ⟨rfl, (Option.some.inj hother).symm⟩
  · rw [List.getElem?_set_ne (Ne.symm hne)] at hother
    exact .inr ⟨hne, hother⟩

theorem at_concat {new entry : TaskPool.Task challd} {other : ℕ}
    (hother : (tasks ++ [new])[other]? = some entry) :
    (other = tasks.length ∧ entry = new) ∨
      (other < tasks.length ∧ tasks[other]? = some entry) := by
  by_cases hlt : other < tasks.length
  · rw [List.getElem?_append_left hlt] at hother
    exact .inr ⟨hlt, hother⟩
  · have hlen := (List.getElem?_eq_some_iff.mp hother).1
    rw [List.length_append, List.length_singleton] at hlen
    obtain rfl : other = tasks.length := by omega
    rw [List.getElem?_concat_length] at hother
    exact .inl ⟨rfl, (Option.some.inj hother).symm⟩

/-- A task goes on; it keeps waiting for its child unless that has ended. -/
theorem Awaited.set {old new : TaskPool.Task challd} {held : Held}
    (hawaited : Awaited tasks ghosts) (hat : tasks[task]? = some old)
    (hactive : old.program.isEnded = false) (hrole : new.role = old.role)
    (horigin : new.origin = old.origin)
    (hchild : ∀ child entry, (ghosts task).child = some child →
      tasks[child]? = some entry → entry.program.isEnded = false →
        held.child = some child) :
    Awaited (tasks.set task new) (update ghosts task held) := by
  intro other entry hother hteardown hended
  have hlt := (List.getElem?_eq_some_iff.mp hat).1
  have hbefore : ∃ before, tasks[other]? = some before ∧ before.role = .teardown ∧
      before.program.isEnded = false ∧ before.origin = entry.origin := by
    rcases at_set hat hother with ⟨rfl, rfl⟩ | ⟨hne, hother⟩
    · exact ⟨old, hat, hrole.symm.trans hteardown, hactive, horigin.symm⟩
    · exact ⟨entry, hother, hteardown, hended, rfl⟩
  rcases hbefore with ⟨before, hbefore, hteardown, hended, horigins⟩
  rcases hawaited other before hbefore hteardown hended with
    ⟨parent, parentEntry, hparent, hrequest, hsame, hwaits⟩
  by_cases hne : parent = task
  · subst parent
    obtain rfl : old = parentEntry := Option.some.inj (hat.symm.trans hparent)
    refine ⟨task, new, List.getElem?_set_self hlt, hrole.trans hrequest, ?_, ?_⟩
    · rw [horigin, hsame, horigins]
    · rw [update_self]
      exact hchild other before hwaits hbefore hended
  · refine ⟨parent, parentEntry, ?_, hrequest, hsame.trans horigins, ?_⟩
    · rw [List.getElem?_set_ne (Ne.symm hne)]
      exact hparent
    · rw [update_of_ne hne]
      exact hwaits

/-- A new teardown needs somebody who waits for it. -/
theorem Awaited.concat {new : TaskPool.Task challd} {held : Held} {fresh : ℕ}
    (hawaited : Awaited tasks ghosts) (hfresh : fresh = tasks.length)
    (hnew : new.role = .teardown →
      ∃ parent parentEntry, tasks[parent]? = some parentEntry ∧
        parentEntry.role = .request ∧ parentEntry.origin = new.origin ∧
        (ghosts parent).child = some fresh) :
    Awaited (tasks ++ [new]) (update ghosts fresh held) := by
  subst hfresh
  intro other entry hother hteardown hended
  have hbefore : ∃ parent parentEntry, tasks[parent]? = some parentEntry ∧
      parentEntry.role = .request ∧ parentEntry.origin = entry.origin ∧
      (ghosts parent).child = some other := by
    rcases at_concat hother with ⟨rfl, rfl⟩ | ⟨_, hother⟩
    · exact hnew hteardown
    · exact hawaited other entry hother hteardown hended
  rcases hbefore with ⟨parent, parentEntry, hparent, hrequest, horigin, hwaits⟩
  have hlt := (List.getElem?_eq_some_iff.mp hparent).1
  refine ⟨parent, parentEntry, ?_, hrequest, horigin, ?_⟩
  · rw [List.getElem?_append_left hlt]
    exact hparent
  · rw [update_of_ne (Nat.ne_of_lt hlt)]
    exact hwaits

/-! ## One step -/

/-- No task has the mark. -/
def Unmarked (mark : Held → Bool) (ghosts : ℕ → Held) : Prop :=
  ∀ task, mark (ghosts task) = false

/-- No task has lost anything. -/
abbrev Unlost (ghosts : ℕ → Held) : Prop := Unmarked Held.lost ghosts

/-- No task has been put to rest by a failure. -/
abbrev Awake (ghosts : ℕ → Held) : Prop := Unmarked Held.dormant ghosts

/-- No shutdown has failed to reach Docker. -/
abbrev Unsevered (ghosts : ℕ → Held) : Prop := Unmarked Held.severed ghosts

theorem Unmarked.replace {mark : Held → Bool} {held : Held} (hunmarked : Unmarked mark ghosts)
    (hheld : mark held = false) : Unmarked mark (update ghosts task held) := by
  apply (forall_update_iff ghosts fun _ held => mark held = false).mpr
  exact ⟨hheld, fun other _ => hunmarked other⟩

/-- A mark that a task gets only for a reason stays away without the reason. -/
theorem Unmarked.answer {mark : Held → Bool} {held : Held} {reason : Prop}
    (hunmarked : Unmarked mark ghosts) (hreason : ¬ reason)
    (hheld : mark held = true → mark (ghosts task) = true ∨ reason) :
    Unmarked mark (update ghosts task held) := by
  apply hunmarked.replace
  by_contra hmarked
  rcases hheld (by simpa using hmarked) with hold | hnew
  · rw [hunmarked task] at hold
    cases hold
  · exact hreason hnew

/-- A failing call that costs its connection what it has. -/
def HarmfulAction (daemon : Daemon) : Action → Prop
  | .task (.answer task request answer choice) =>
      Harmful daemon.world (originOf daemon.tasks task) request answer choice
  | _ => False

def failedAction : Action → Bool
  | .task (.answer _ request answer _) => failed request answer
  | _ => false

/-- A shutdown does not reach Docker. -/
def severedAction : Action → Bool
  | .task (.answer _ request answer _) => severs request && failed request answer
  | _ => false

theorem failed_of_harmful {daemon : Daemon} {action : Action}
    (hharmful : HarmfulAction daemon action) : failedAction action = true := by
  cases action with
  | task event =>
      cases event with
      | answer task request answer choice =>
          cases request with
          | stopContainer id => exact decide_eq_true hharmful.1
          | _ => exact hharmful.1
      | _ => exact hharmful.elim
  | _ => exact hharmful.elim

theorem severed_of_succeeded {action : Action} (hsucceeded : failedAction action = false) :
    severedAction action = false := by
  cases action with
  | task event =>
      cases event with
      | answer task request answer choice =>
          have hanswer : failed request answer = false := hsucceeded
          rw [severedAction, hanswer, Bool.and_false]
      | _ => rfl
  | _ => rfl

/-- What a step leads to. -/
structure Next (before : Daemon) (ghosts : ℕ → Held) (action : Action) (after : Daemon)
    (ghosts' : ℕ → Held) : Prop where
  sound : Sound after ghosts'
  unlost : ¬ HarmfulAction before action → Unlost ghosts → Unlost ghosts'
  awake : failedAction action = false → Awake ghosts → Awake ghosts'
  unsevered : severedAction action = false → Unsevered ghosts → Unsevered ghosts'

variable {panics : DoublePanic} {int : Interface} {daemon next : Daemon} {action : Action}

theorem sound_initial : Sound initial fun _ => .bare .connection where
  guarded _ _ hat := by simp [initial] at hat
  inv :=
    { slots :=
        { covered := fun _ h => by simp [initial, initialWorld] at h
          present := fun _ _ h => by cases h
          exclusive := fun _ _ _ h => by cases h }
      eth :=
        { covered := fun _ h => by simp [initial, initialWorld] at h
          present := fun _ _ h => by cases h
          exclusive := fun _ _ _ h => by cases h }
      nat :=
        { covered := fun _ h => by simp [initial, initialWorld] at h
          present := fun _ _ h => by cases h
          exclusive := fun _ _ _ h => by cases h }
      peers := fun _ h => by simp [initial, initialWorld] at h
      live := fun _ h => by simp [Live, initial, initialWorld] at h
      keeper := fun _ _ _ h => by cases h
      ethNodup := List.nodup_nil
      natNodup := List.nodup_nil
      peersNodup := List.nodup_nil
      linked := fun _ => linked_bare }
  roles _ _ hat := by simp [initial] at hat
  outside _ _ := rfl
  awaited _ _ hat := by simp [initial] at hat

/-- Only the cancellation changes. -/
theorem Sound.cancelled (hsound : Sound daemon ghosts) {phase : Phase} {cancelled : Bool} :
    Sound
      { phase := phase
        world := { daemon.world with cancelled := cancelled }
        tasks := daemon.tasks } ghosts where
  guarded := hsound.guarded
  inv :=
    { slots := hsound.inv.slots
      eth := hsound.inv.eth
      nat := hsound.inv.nat
      peers := hsound.inv.peers
      live := hsound.inv.live
      keeper := hsound.inv.keeper
      ethNodup := hsound.inv.ethNodup
      natNodup := hsound.inv.natNodup
      peersNodup := hsound.inv.peersNodup
      linked := fun task => (hsound.inv.linked task).frame (fun _ _ => rfl) fun _ _ => rfl }
  roles := hsound.roles
  outside := hsound.outside
  awaited := hsound.awaited

theorem Sound.accept (hsound : Sound daemon ghosts) :
    Sound
      { daemon with
        tasks := daemon.tasks ++ [⟨.connection, daemon.tasks.length, connection int⟩] }
      ghosts := by
  have hfresh := hsound.outside daemon.tasks.length le_rfl
  have hsame : update ghosts daemon.tasks.length (.bare .connection) = ghosts := by
    rw [← hfresh]
    exact update_eq_self ..
  refine ⟨?_, ?_, ?_, ?_, ?_⟩
  · rw [← hsame]
    exact hsound.guarded.concat (wp_connection int)
  · rw [originOf_concat]
    exact recount hsound.inv hfresh
  · intro task entry hat
    rcases at_concat hat with ⟨rfl, rfl⟩ | ⟨_, hat⟩
    · rw [hfresh]
      rfl
    · exact hsound.roles task entry hat
  · intro task hle
    apply hsound.outside task
    rw [List.length_append] at hle
    omega
  · rw [← hsame]
    apply hsound.awaited.concat rfl
    intro hrole
    cases hrole

theorem Sound.answer {role : Role} {origin : ℕ} {call : Call}
    {rest : Answer call → Prog TaskResult} {answer : Answer call} {choice : Choice}
    {world : World} (hsound : Sound daemon ghosts)
    (hat : daemon.tasks[task]? = some ⟨role, origin, .call (S := challd) call rest⟩)
    (hexec : exec daemon.world origin call answer choice = some world) :
    ∃ ghosts', Next daemon ghosts (.task (.answer task call answer choice))
      { daemon with
        world := world
        tasks := daemon.tasks.set task ⟨role, origin, rest answer⟩ } ghosts' := by
  have hlt := (List.getElem?_eq_some_iff.mp hat).1
  rcases call_outcome hsound.inv (hsound.guarded.pre hat) (exec_originOf hat hexec) with
    ⟨held', houtcome⟩
  rcases after_frame houtcome.after with ⟨hrole, hchild⟩
  refine ⟨update ghosts task held', ⟨?_, ?_, ?_, ?_, ?_⟩, ?_, ?_, ?_⟩
  · exact hsound.guarded.answer hat houtcome.after
  · show Inv world (originOf (daemon.tasks.set task ⟨role, origin, rest answer⟩)) _
    rw [originOf_set hat]
    · exact houtcome.inv
    · rfl
  · intro other entry hother
    rcases at_set hat hother with ⟨rfl, rfl⟩ | ⟨hne, hother⟩
    · have hbefore := hsound.roles other _ hat
      rw [update_self, hrole]
      exact hbefore
    · rw [update_of_ne hne]
      exact hsound.roles _ _ hother
  · intro other hle
    rw [List.length_set] at hle
    rw [update_of_ne (by omega)]
    exact hsound.outside other hle
  · refine hsound.awaited.set hat rfl ?_ ?_ ?_
    · rfl
    · rfl
    · intro child _ hwaits _ _
      rw [hchild]
      exact hwaits
  · exact fun hharmless hunlost => hunlost.answer hharmless houtcome.lost
  · intro hsucceeded hawake
    apply hawake.answer _ houtcome.dormant
    exact Bool.eq_false_iff.mp hsucceeded
  · intro hreached hunsevered
    apply hunsevered.answer _ houtcome.severed
    exact Bool.eq_false_iff.mp hreached

/-- What a task is left with when it spawns another one, and what it hands
over. -/
theorem inv_spawn {childRole : Role} {origins : ℕ → ℕ} {world : World} {fresh : ℕ}
    (hinv : Inv world origins ghosts) (hspawnable : rules.spawnable childRole (ghosts task))
    (hfresh : ghosts fresh = .bare .connection) :
    Inv world (update origins fresh (origins task))
      (update (update ghosts task (rules.keep childRole (ghosts task) fresh)) fresh
        (rules.give childRole (ghosts task))) := by
  have hcounted : Inv world (update origins fresh (origins task)) ghosts :=
    recount hinv hfresh
  have horigin : update origins fresh (origins task) fresh =
      update origins fresh (origins task) task := by
    by_cases hne : task = fresh
    · rw [hne]
    · rw [update_self, update_of_ne hne]
  cases childRole with
  | connection => exact hspawnable.elim
  | request => exact handOver hcounted hfresh horigin (by decide) (by decide)
  | teardown =>
      have hrole : (ghosts task).role = .request := hspawnable.1
      exact handOver hcounted hfresh horigin (by decide) (by decide)
  | writer =>
      rw [update_eq_self]
      refine hcounted.relabel ?_ ?_ ?_ ?_ ?_ linked_bare <;> rw [hfresh] <;> rfl

theorem Sound.spawn {role childRole : Role} {origin : ℕ} {child : Prog TaskResult}
    {rest : ℕ → Prog TaskResult} (hsound : Sound daemon ghosts)
    (hat : daemon.tasks[task]? =
      some ⟨role, origin, .spawn (S := challd) childRole child rest⟩) :
    ∃ ghosts', Next daemon ghosts (.task (.spawn task))
      { daemon with
        tasks := daemon.tasks.set task ⟨role, origin, rest daemon.tasks.length⟩ ++
          [⟨childRole, origin, child⟩] } ghosts' := by
  have hspawnable : rules.spawnable childRole (ghosts task) :=
    (hsound.guarded task _ hat).1
  have hfresh := hsound.outside daemon.tasks.length le_rfl
  have hlt := (List.getElem?_eq_some_iff.mp hat).1
  have hne : task ≠ daemon.tasks.length := Nat.ne_of_lt hlt
  have hbefore : (ghosts task).role = role := hsound.roles task _ hat
  have hinv := inv_spawn hsound.inv hspawnable hfresh
  refine ⟨_, ⟨hsound.guarded.spawn hat, ?_, ?_, ?_, ?_⟩, ?_, ?_, ?_⟩
  · have horigins : originOf
        (daemon.tasks.set task ⟨role, origin, rest daemon.tasks.length⟩ ++
          [⟨childRole, origin, child⟩]) =
        update (originOf daemon.tasks) daemon.tasks.length (originOf daemon.tasks task) := by
      rw [originOf_concat, originOf_set hat, List.length_set, originOf_eq hat]
      rfl
    show Inv daemon.world (originOf (_ ++ _)) _
    rw [horigins]
    exact hinv
  · intro other entry hother
    rcases at_concat hother with ⟨rfl, rfl⟩ | ⟨hlt', hother⟩
    · rw [List.length_set, update_self]
      cases childRole <;> rfl
    · rw [List.length_set] at hlt'
      rw [update_of_ne (Nat.ne_of_lt hlt')]
      rcases at_set hat hother with ⟨rfl, rfl⟩ | ⟨hother', hother⟩
      · rw [update_self, ← hbefore]
        cases childRole <;> rfl
      · rw [update_of_ne hother']
        exact hsound.roles _ _ hother
  · intro other hle
    rw [List.length_append, List.length_set, List.length_singleton] at hle
    rw [update_of_ne (by omega), update_of_ne (by omega)]
    exact hsound.outside other (by omega)
  · have hset : Awaited (daemon.tasks.set task ⟨role, origin, rest daemon.tasks.length⟩)
        (update ghosts task (rules.keep childRole (ghosts task) daemon.tasks.length)) := by
      refine hsound.awaited.set hat rfl ?_ ?_ ?_
      · rfl
      · rfl
      · intro awaited _ hwaits _ _
        cases childRole with
        | connection => exact hspawnable.elim
        | request => simp [hspawnable.2] at hwaits
        | teardown => simp [hspawnable.2] at hwaits
        | writer => exact hwaits
    apply hset.concat (List.length_set ..).symm
    rintro rfl
    refine ⟨task, _, List.getElem?_set_self hlt, ?_, rfl, ?_⟩
    · exact hbefore.symm.trans hspawnable.1
    · rw [update_self]
  · intro _ hunlost
    apply (hunlost.replace _).replace
    all_goals cases childRole <;> first | exact hunlost task | rfl
  · intro _ hawake
    apply (hawake.replace _).replace
    all_goals cases childRole <;> first | exact hawake task | rfl
  · intro _ hunsevered
    apply (hunsevered.replace _).replace
    all_goals cases childRole <;> first | exact hunsevered task | rfl

theorem Sound.join {role : Role} {origin awaited : ℕ}
    {rest : Option TaskResult → Prog TaskResult} {other : TaskPool.Task challd}
    (hsound : Sound daemon ghosts)
    (hat : daemon.tasks[task]? = some ⟨role, origin, .join (S := challd) awaited rest⟩)
    (hother : daemon.tasks[awaited]? = some other)
    (hended : other.program.isEnded = true) :
    ∃ ghosts', Next daemon ghosts (.task (.join task))
      { daemon with
        tasks := daemon.tasks.set task ⟨role, origin, rest other.program.outcome⟩ }
      ghosts' := by
  have hlt := (List.getElem?_eq_some_iff.mp hat).1
  have hinv : Inv daemon.world (originOf daemon.tasks)
      (update ghosts task { ghosts task with child := none }) := by
    refine hsound.inv.relabel rfl rfl rfl rfl rfl ?_
    exact { hsound.inv.linked task with }
  refine ⟨_, ⟨hsound.guarded.join other.program.outcome hat, ?_, ?_, ?_, ?_⟩, ?_, ?_, ?_⟩
  · show Inv daemon.world (originOf (daemon.tasks.set task _)) _
    rw [originOf_set hat]
    · exact hinv
    · rfl
  · intro other' entry hother'
    rcases at_set hat hother' with ⟨rfl, rfl⟩ | ⟨hne, hother'⟩
    · have hbefore := hsound.roles other' _ hat
      rw [update_self]
      exact hbefore
    · rw [update_of_ne hne]
      exact hsound.roles _ _ hother'
  · intro other' hle
    rw [List.length_set] at hle
    rw [update_of_ne (by omega)]
    exact hsound.outside other' hle
  · refine hsound.awaited.set hat rfl ?_ ?_ ?_
    · rfl
    · rfl
    · intro child entry hwaits hchild hactive
      -- the child that was waited for has ended
      have hsame : some awaited = some child := (hsound.guarded.awaiting hat).symm.trans hwaits
      obtain rfl := Option.some.inj hsame
      obtain rfl : other = entry := Option.some.inj (hother.symm.trans hchild)
      rw [hended] at hactive
      cases hactive
  · intro _ hunlost
    exact hunlost.replace (hunlost task)
  · intro _ hawake
    exact hawake.replace (hawake task)
  · intro _ hunsevered
    exact hunsevered.replace (hunsevered task)

/-- Every step of the daemon keeps the books in order. -/
theorem Sound.step (hsound : Sound daemon ghosts) (hstep : Step panics int daemon action next) :
    ∃ ghosts', Next daemon ghosts action next ghosts' := by
  cases hstep with
  | accept hphase => exact ⟨ghosts, hsound.accept, fun _ h => h, fun _ h => h, fun _ h => h⟩
  | signal | cancel | close | wait | leave | abort =>
      exact ⟨ghosts, hsound.cancelled, fun _ h => h, fun _ h => h, fun _ h => h⟩
  | containerExit hphase hrunning =>
      exact ⟨ghosts, { hsound with inv := hsound.inv.containerExit }, fun _ h => h,
        fun _ h => h, fun _ h => h⟩
  | task hphase hpanics hpool =>
      cases hpool with
      | answer hat hexec => exact hsound.answer hat hexec
      | spawn hat => exact hsound.spawn hat
      | join hat hother hended => exact hsound.join hat hother hended

/-! ## Whole runs -/

variable {actions : List Action}

theorem sound_of_run (hrun : Runs panics int actions daemon) : ∃ ghosts, Sound daemon ghosts := by
  apply Run.invariant (fun daemon => ∃ ghosts, Sound daemon ghosts) _ _ hrun
  · exact ⟨_, sound_initial⟩
  · intro before action after hbefore hstep
    rcases hbefore with ⟨ghosts, hsound⟩
    rcases hsound.step hstep with ⟨ghosts', hnext⟩
    exact ⟨ghosts', hnext.sound⟩

/-- As long as no failure is harmful, nothing is ever lost. -/
theorem unlost_of_run
    (hrun : Run (restrict (Step panics int) fun before action => ¬ HarmfulAction before action)
      initial actions daemon) :
    ∃ ghosts, Sound daemon ghosts ∧ Unlost ghosts := by
  apply Run.invariant (fun daemon => ∃ ghosts, Sound daemon ghosts ∧ Unlost ghosts) _ _ hrun
  · exact ⟨_, sound_initial, fun _ => rfl⟩
  · intro before action after hbefore hstep
    rcases hbefore with ⟨ghosts, hsound, hunlost⟩
    rcases hsound.step hstep.1 with ⟨ghosts', hnext⟩
    exact ⟨ghosts', hnext.sound, hnext.unlost hstep.2 hunlost⟩

end ScdtServer.Soundness
