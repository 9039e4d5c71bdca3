import ScdtServer.Challd.Soundness

/-!
# Leaks

A slot in use or a running container should belong to a request that is still
alive.  This holds of every run in which no failure hits a connection that has
something to lose; a single such failure is enough to leak a slot for good.
-/

namespace ScdtServer.Leaks

open ScdtServer.Interaction ScdtServer.Interaction.Program
open ScdtServer.TaskPool ScdtServer.Transition
open ScdtServer.Host ScdtServer.Interface ScdtServer.Daemon
open ScdtServer.Holdings ScdtServer.Invariant ScdtServer.Accounting ScdtServer.Soundness

/-- A task of the connection is alive and has one of the given roles. -/
def Alive (daemon : Daemon) (origin : ℕ) (roles : List Role) : Prop :=
  ∃ (task : ℕ) (entry : TaskPool.Task challd), daemon.tasks[task]? = some entry ∧
    entry.origin = origin ∧ entry.role ∈ roles ∧ entry.program.isEnded = false

/-- Slots belong to requests that are alive: to the connection task that took
them until it has spawned the request task, and to the request task from then
on.  Running containers belong to the request tasks that started them. -/
structure NoLeak (daemon : Daemon) : Prop where
  slots : ∀ slot, daemon.world.slots slot = true →
    Alive daemon (daemon.world.taker slot) [.connection, .request]
  containers : ∀ (id : ContainerId) (container : DockerContainer),
    daemon.world.containers[id]? = some container →
      container.status = .running → Alive daemon container.origin [.request]

/-- No task that works for a request is left. -/
def AllEnded (daemon : Daemon) : Prop :=
  ∀ (task : ℕ) (entry : TaskPool.Task challd), daemon.tasks[task]? = some entry →
    entry.role ∈ [Role.connection, Role.request] → entry.program.isEnded = true

variable {panics : DoublePanic} {int : Interface} {actions : List Action} {daemon : Daemon}
variable {ghosts : ℕ → Held}

/-- A task that still holds something has not ended. -/
theorem active_of_holding {task : ℕ} {entry : TaskPool.Task challd}
    (hsound : Sound daemon ghosts) (hunlost : Unlost ghosts)
    (hat : daemon.tasks[task]? = some entry) (hholds : ¬ (ghosts task).Released) :
    entry.program.isEnded = false := by
  by_contra hended
  rcases (hsound.guarded.ended hat (by simpa using hended)).2 with hlost | hreleased
  · rw [hunlost task] at hlost
    cases hlost
  · exact hholds hreleased

theorem exists_entry {task : ℕ} (hsound : Sound daemon ghosts)
    (hholds : ghosts task ≠ .bare .connection) : ∃ entry, daemon.tasks[task]? = some entry := by
  by_contra hnone
  apply hholds
  apply hsound.outside
  rw [← List.getElem?_eq_none_iff]
  exact Option.eq_none_iff_forall_ne_some.mpr fun entry hat => hnone ⟨entry, hat⟩

/-- The request behind an active request or teardown task is alive. -/
theorem alive_request {task : ℕ} {entry : TaskPool.Task challd}
    (hsound : Sound daemon ghosts) (hat : daemon.tasks[task]? = some entry)
    (hactive : entry.program.isEnded = false)
    (hrole : entry.role = .request ∨ entry.role = .teardown) :
    Alive daemon entry.origin [.request] := by
  rcases hrole with hrequest | hteardown
  · exact ⟨task, entry, hat, rfl, by simp [hrequest], hactive⟩
  · rcases hsound.awaited task entry hat hteardown hactive with
      ⟨parent, parentEntry, hparent, hrequest, horigin, hwaits⟩
    refine ⟨parent, parentEntry, hparent, horigin, by simp [hrequest], ?_⟩
    by_contra hended
    have hnone := (hsound.guarded.ended hparent (by simpa using hended)).1
    rw [hnone] at hwaits
    cases hwaits

theorem noLeak_of_sound (hsound : Sound daemon ghosts) (hunlost : Unlost ghosts) :
    NoLeak daemon where
  slots slot hused := by
    rcases hsound.inv.slots.covered slot hused with ⟨task, hholds⟩
    have hslot : (ghosts task).slot = some slot := hholds
    have hlinked := hsound.inv.linked task
    have hbusy : ghosts task ≠ .bare .connection := by
      intro hbare
      rw [hbare] at hslot
      cases hslot
    rcases exists_entry hsound hbusy with ⟨entry, hat⟩
    have hactive := active_of_holding hsound hunlost hat fun hreleased => by
      rw [hreleased.slot] at hslot
      cases hslot
    have hrole := hsound.roles task entry hat
    have htaker : daemon.world.taker slot = entry.origin :=
      (hlinked.slot slot hslot).trans (originOf_eq hat)
    rw [htaker]
    cases hcase : entry.role with
    | connection => exact ⟨task, entry, hat, rfl, by simp [hcase], hactive⟩
    | request => exact ⟨task, entry, hat, rfl, by simp [hcase], hactive⟩
    | teardown =>
        rcases alive_request hsound hat hactive (.inr hcase) with
          ⟨parent, parentEntry, hparent, horigin, hparentRole, hparentActive⟩
        exact ⟨parent, parentEntry, hparent, horigin, List.mem_cons_of_mem _ hparentRole,
          hparentActive⟩
    | writer =>
        have hnone : (ghosts task).slot = none := hlinked.writer (hrole.trans hcase)
        rw [hnone] at hslot
        cases hslot
  containers id container hcontainer hrunning := by
    have hlive : Live daemon.world id := ⟨container, hcontainer, .inr hrunning⟩
    rcases hsound.inv.live id hlive with ⟨task, hholds⟩
    have hid : (ghosts task).container = some id := hholds
    have hlinked := hsound.inv.linked task
    rcases hlinked.container id hid with ⟨record, hrecord, hkept⟩
    obtain rfl : container = record := Option.some.inj (hcontainer.symm.trans hrecord)
    have hbusy : (ghosts task).container ≠ none := by
      rw [hid]
      exact Option.some_ne_none id
    rcases exists_entry hsound (fun hbare => hbusy (by rw [hbare]; rfl)) with ⟨entry, hat⟩
    have hactive := active_of_holding hsound hunlost hat fun hreleased => by
      rcases hreleased.container with hnone | hdormant
      · rw [hnone] at hid
        cases hid
      · exact hkept.dormant hdormant hrunning
    have hrole := hsound.roles task entry hat
    rw [hkept.origin, originOf_eq hat]
    apply alive_request hsound hat hactive
    cases hcase : entry.role with
    | connection => exact absurd (hlinked.idle (.inl (hrole.trans hcase))).2.2.2 hbusy
    | request => exact .inl rfl
    | teardown => exact .inr rfl
    | writer => exact absurd (hlinked.idle (.inr (hrole.trans hcase))).2.2.2 hbusy

/-- In every run in which no failing call hits a connection with a slot or a
running container, nothing leaks; so once every request has ended, normally or
by a panic, all slots are free and no container runs.  This holds of either kind of
daemon, also of one in which every panic ends its own task only. -/
theorem no_leak
    (hrun : Run (restrict (Step panics int) fun before action => ¬ HarmfulAction before action)
      initial actions daemon) :
    NoLeak daemon ∧
      (AllEnded daemon → (∀ slot, daemon.world.slots slot = false) ∧
        ∀ id, daemon.world.isRunning id = false) := by
  rcases unlost_of_run hrun with ⟨ghosts, hsound, hunlost⟩
  have hnoLeak := noLeak_of_sound hsound hunlost
  refine ⟨hnoLeak, fun hended => ⟨?_, ?_⟩⟩
  · intro slot
    by_contra hused
    rcases hnoLeak.slots slot (by simpa using hused) with
      ⟨task, entry, hat, -, hrole, hactive⟩
    rw [hended task entry hat hrole] at hactive
    cases hactive
  · intro id
    by_contra hrunning
    unfold World.isRunning at hrunning
    split at hrunning
    · rename_i container hat
      rcases hnoLeak.containers id container hat (by simpa using hrunning) with
        ⟨task, entry, hentry, -, hrole, hactive⟩
      rw [hended task entry hentry (List.mem_cons_of_mem _ hrole)] at hactive
      cases hactive
    · exact hrunning rfl

/-- Nothing leaks while a guest is up. -/
theorem no_leak_guest : ∃ actions daemon,
    Run (restrict (Step .endsTask ⟨""⟩) fun before action => ¬ HarmfulAction before action)
      initial actions daemon ∧ daemon.world.isRunning 0 = true ∧ NoLeak daemon := by
  have hcheck : ∀ before action, (!failedAction action) = true →
      ¬ HarmfulAction before action := by
    intro before action hsucceeded hharmful
    rw [failed_of_harmful hharmful] at hsucceeded
    cases hsucceeded
  rcases exists_restricted_run .endsTask ⟨""⟩ (fun _ action => !failedAction action)
    (Script.guest {} 0 0) (fun daemon => daemon.world.isRunning 0) hcheck (by rfl) with
    ⟨actions, daemon, hrun, hrunning⟩
  exact ⟨actions, daemon, hrun, hrunning, (no_leak hrun).1⟩

/-- A guest takes the first slot, and the connection to Docker fails. -/
def failingGuest : List Move :=
  Script.connect {} 0 0 ++ [.task 1 fun call =>
    match call with
    | .connectWithUnixDefaults => some (false, ⟨"", false, false⟩)
    | _ => none]

/-- The panic ends the request, and nobody gives the slot back. -/
theorem leaks : ¬ ∀ int actions daemon, Runs .endsTask int actions daemon → NoLeak daemon := by
  intro hclaim
  rcases exists_run .endsTask ⟨""⟩ failingGuest
    (fun daemon => daemon.world.slots ⟨0, by decide⟩ &&
      daemon.tasks.all fun task => task.program.isEnded)
    (by rfl) with ⟨actions, daemon, hrun, htest⟩
  rw [Bool.and_eq_true, List.all_eq_true] at htest
  rcases (hclaim ⟨""⟩ actions daemon hrun).slots ⟨0, by decide⟩ htest.1 with
    ⟨task, entry, hat, -, -, hactive⟩
  rw [htest.2 entry (List.mem_of_getElem? hat)] at hactive
  cases hactive

end ScdtServer.Leaks
