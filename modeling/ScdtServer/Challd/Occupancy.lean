import ScdtServer.Challd.Soundness
import ScdtServer.Challd.Tenancy

/-!
# Addresses of running containers

An address is given back after the container's stop call, whatever Docker has
answered.  When the call leaves the container running, the address is reissued
under it.  Short of that, a guest's address is kept for as long as its container
runs, and so no more guest containers run than there are addresses.
-/

namespace ScdtServer.Occupancy

open Function
open ScdtServer.Interaction ScdtServer.Interaction.Program
open ScdtServer.TaskPool ScdtServer.Transition ScdtServer.Ownership
open ScdtServer.Host ScdtServer.AddressManager ScdtServer.Interface ScdtServer.Main
open ScdtServer.Daemon
open ScdtServer.Invariant (setContainer_same setContainer_other)
open ScdtServer.Soundness ScdtServer.Tenancy

/-- The connection that takes a slot with an action, and the slot.  Only a
connection's own task takes slots, and the connection is named by that task. -/
def takes : Action → Option (ℕ × Slot)
  | .task (.answer task (.fetchOr slot) inUse _) =>
      if inUse = true then none else some (task, slot)
  | _ => none

/-- The connection has taken the slot at some point of the run. -/
def Took (actions : List Action) (origin : ℕ) (slot : Slot) : Prop :=
  ∃ action ∈ actions, takes action = some (origin, slot)

/-- The container was started for the address of the slot, and it runs. -/
def Occupies (actions : List Action) (world : World) (id : ContainerId) (slot : Slot) :
    Prop :=
  ∃ container, world.containers[id]? = some container ∧ container.status = .running ∧
    Took actions container.origin slot

/-- The container belongs to a connection that has an address. -/
def ServesGuest (world : World) (id : ContainerId) : Prop :=
  ∃ container slot, world.containers[id]? = some container ∧ world.slots slot = true ∧
    world.taker slot = container.origin

/-- Docker fails to stop the container of a guest, which goes on running. -/
def StopFails (world : World) : (call : Call) → Answer call → Choice → Prop
  | .stopContainer id, result, choice =>
      result = StopResult.error ∧ choice.stopped = false ∧ world.isRunning id = true ∧
        ServesGuest world id
  | _, _, _ => False

def StopFailed (daemon : Daemon) : Action → Prop
  | .task (.answer _ request answer choice) => StopFails daemon.world request answer choice
  | _ => False

/-- What the slot table is for.

* An address is given back only when no container started for it runs;
* at most `maxInstances` guest containers run;
* the address of a container that runs is in use, and nobody has taken it since. -/
structure AddressesKept (panics : DoublePanic) (int : Interface) (actions : List Action)
    (daemon : Daemon) : Prop where
  returned : ∀ task slot choice next,
    Step panics int daemon (.task (.answer task (.store slot) () choice)) next →
      ∀ id, ¬ Occupies actions daemon.world id slot
  bounded : ∀ ids : Finset ContainerId,
    (∀ id ∈ ids, ∃ slot, Occupies actions daemon.world id slot) → ids.card ≤ maxInstances
  bound : ∀ id slot, Occupies actions daemon.world id slot →
    daemon.world.slots slot = true ∧
      ∀ container, daemon.world.containers[id]? = some container →
        daemon.world.taker slot = container.origin

/-! ## The stages and the host -/

/-- The stages of the tasks account for the slots in use and for the containers
that run for guests.  One task at a time acts for a connection, and it has the slot
that the connection has taken. -/
structure Books (took : ℕ → Slot → Prop) (world : World) (origins : ℕ → ℕ)
    (stages : ℕ → Stage) : Prop where
  slots : Owned (fun slot => world.slots slot = true) fun task => (stages task).slot
  taker : ∀ task slot, (stages task).slot = some slot → world.taker slot = origins task
  running : ∀ (id : ContainerId) (container : DockerContainer) (slot : Slot),
    world.containers[id]? = some container → container.status = .running →
      took container.origin slot →
        ∃ task held, stages task = .up held id ∧ origins task = container.origin
  created : ∀ task slot id, stages task = .up slot id →
    ∃ container, world.containers[id]? = some container ∧
      container.origin = origins task
  alone : ∀ left right, (stages left).active = true → (stages right).active = true →
    origins left = origins right → left = right
  history : ∀ origin slot, took origin slot → ∀ task, origins task = origin →
    (stages task).active = true → (stages task).slot = some slot
  connected : ∀ task, stages task = .connected → origins task = task ∧
    ∀ container ∈ world.containers, container.origin ≠ task

variable {took took' : ℕ → Slot → Prop} {world world' : World} {origins : ℕ → ℕ}
variable {stages : ℕ → Stage} {task : ℕ} {stage : Stage} {slot : Slot}
variable {id : ContainerId}

theorem active_of_slot (hslot : stage.slot = some slot) : stage.active = true := by
  cases stage with
  | waiting task => cases hslot
  | done => cases hslot
  | _ => rfl

theorem update_cases {other : ℕ} :
    (other = task ∧ update stages task stage other = stage) ∨
      (other ≠ task ∧ update stages task stage other = stages other) := by
  by_cases hsame : other = task
  · subst hsame
    exact .inl ⟨rfl, update_self ..⟩
  · exact .inr ⟨hsame, update_of_ne hsame ..⟩

theorem Books.forget (hbooks : Books took world origins stages)
    (hforget : ∀ origin slot, took' origin slot → took origin slot) :
    Books took' world origins stages :=
  { hbooks with
    running := fun id container slot hat hstatus h =>
      hbooks.running id container slot hat hstatus (hforget _ _ h)
    history := fun origin slot h => hbooks.history origin slot (hforget _ _ h) }

/-- The records of the containers change.  One that runs did so before, or its
task knows that it is up; and one that is new is that of a task that acts for its
connection. -/
theorem Books.recontain (hbooks : Books took world origins stages)
    (hslots : world'.slots = world.slots) (htaker : world'.taker = world.taker)
    (hrunning : ∀ (id : ContainerId) (container : DockerContainer),
      world'.containers[id]? = some container → container.status = .running →
        (∃ before, world.containers[id]? = some before ∧ before.status = .running ∧
            before.origin = container.origin) ∨
          ∃ task slot, stages task = .up slot id ∧ origins task = container.origin)
    (hkept : ∀ (id : ContainerId) (container : DockerContainer),
      world.containers[id]? = some container → ∃ after : DockerContainer,
        world'.containers[id]? = some after ∧ after.origin = container.origin)
    (hnew : ∀ container ∈ world'.containers,
      (∃ before ∈ world.containers, before.origin = container.origin) ∨
        ∃ task, (stages task).active = true ∧ stages task ≠ .connected ∧
          origins task = container.origin) :
    Books took world' origins stages where
  slots := by
    rw [hslots]
    exact hbooks.slots
  taker := by
    rw [htaker]
    exact hbooks.taker
  running id container slot hat hstatus htook := by
    rcases hrunning id container hat hstatus with ⟨before, hbefore, hran, horigin⟩ | hup
    · rw [← horigin] at htook ⊢
      exact hbooks.running id before slot hbefore hran htook
    · exact hup
  created task slot id hup := by
    obtain ⟨container, hat, horigin⟩ := hbooks.created task slot id hup
    obtain ⟨after, hafter, hsame⟩ := hkept id container hat
    exact ⟨after, hafter, hsame.trans horigin⟩
  alone := hbooks.alone
  history := hbooks.history
  connected task hconnected := by
    obtain ⟨horigin, hothers⟩ := hbooks.connected task hconnected
    refine ⟨horigin, fun container hmem hsame => ?_⟩
    rcases hnew container hmem with ⟨before, hbefore, hkeeps⟩ | ⟨other, hactive, hbusy, howns⟩
    · exact hothers before hbefore (hkeeps.trans hsame)
    · have hacts : (stages task).active = true := by rw [hconnected]; rfl
      obtain rfl := hbooks.alone other task hactive hacts
        (howns.trans (hsame.trans horigin.symm))
      exact hbusy hconnected

/-- The calls that do not touch slots or containers. -/
theorem Books.frame (hbooks : Books took world origins stages)
    (hslots : world'.slots = world.slots) (htaker : world'.taker = world.taker)
    (hcontainers : world'.containers = world.containers) :
    Books took world' origins stages := by
  apply hbooks.recontain hslots htaker
  · intro id container hat hrunning
    rw [hcontainers] at hat
    exact .inl ⟨container, hat, hrunning, rfl⟩
  · intro id container hat
    rw [hcontainers]
    exact ⟨container, hat, rfl⟩
  · intro container hmem
    rw [hcontainers] at hmem
    exact .inl ⟨container, hmem, rfl⟩

/-- No task becomes active by a step to a stage that is active only if the last one was. -/
theorem active_of_update (hactive : stage.active = true → (stages task).active = true)
    {other : ℕ} (hother : (update stages task stage other).active = true) :
    (stages other).active = true := by
  rcases @update_cases stages task stage other with ⟨rfl, hnow⟩ | ⟨-, hnow⟩
  · rw [hnow] at hother
    exact hactive hother
  · rwa [hnow] at hother

/-- A task goes on to another stage; what becomes of the slots is up to its move. -/
theorem Books.advance (hbooks : Books took world origins stages)
    (hcontainers : world'.containers = world.containers)
    (htook : ∀ container ∈ world.containers, ∀ slot, took' container.origin slot →
      took container.origin slot)
    (hactive : stage.active = true → (stages task).active = true)
    (hleft : ∀ slot id, stages task = .up slot id →
      stage = .up slot id ∨ ∀ container, world.containers[id]? = some container →
        container.status = .running → ∀ slot, ¬ took container.origin slot)
    (hup : ∀ slot id, stage = .up slot id →
      ∃ container, world.containers[id]? = some container ∧
        container.origin = origins task)
    (hconnected : stage ≠ .connected)
    (hslots : Owned (fun slot => world'.slots slot = true)
      fun other => (update stages task stage other).slot)
    (htaker : ∀ other slot, (update stages task stage other).slot = some slot →
      world'.taker slot = origins other)
    (hhistory : ∀ origin slot, took' origin slot → ∀ other, origins other = origin →
      (update stages task stage other).active = true →
        (update stages task stage other).slot = some slot) :
    Books took' world' origins (update stages task stage) where
  slots := hslots
  taker := htaker
  running id container slot hat hrunning htaken := by
    rw [hcontainers] at hat
    have htaken := htook container (List.mem_of_getElem? hat) slot htaken
    obtain ⟨other, held, hother, horigin⟩ :=
      hbooks.running id container slot hat hrunning htaken
    refine ⟨other, held, ?_, horigin⟩
    rcases @update_cases stages task stage other with ⟨rfl, hnow⟩ | ⟨-, hnow⟩
    · rw [hnow]
      rcases hleft held id hother with hstays | hdown
      · exact hstays
      · exact absurd htaken (hdown container hat hrunning slot)
    · rw [hnow]
      exact hother
  created other slot id hother := by
    rw [hcontainers]
    rcases @update_cases stages task stage other with ⟨rfl, hnow⟩ | ⟨-, hnow⟩
    · exact hup slot id (hnow.symm.trans hother)
    · exact hbooks.created other slot id (hnow.symm.trans hother)
  alone left right hleftActive hrightActive horigin := by
    exact hbooks.alone left right (active_of_update hactive hleftActive)
      (active_of_update hactive hrightActive) horigin
  history := hhistory
  connected other hother := by
    rw [hcontainers]
    rcases @update_cases stages task stage other with ⟨rfl, hnow⟩ | ⟨-, hnow⟩
    · exact absurd (hnow.symm.trans hother) hconnected
    · exact hbooks.connected other (hnow.symm.trans hother)

/-- A task goes on to another stage with the same slot. -/
theorem Books.restage (hbooks : Books took world origins stages)
    (hslot : stage.slot = (stages task).slot)
    (hactive : stage.active = true → (stages task).active = true)
    (hleft : ∀ slot id, stages task = .up slot id →
      stage = .up slot id ∨ ∀ container, world.containers[id]? = some container →
        container.status = .running → ∀ slot, ¬ took container.origin slot)
    (hup : ∀ slot id, stage = .up slot id →
      ∃ container, world.containers[id]? = some container ∧
        container.origin = origins task)
    (hconnected : stage ≠ .connected) :
    Books took world origins (update stages task stage) := by
  have hsame : ∀ other, (update stages task stage other).slot = (stages other).slot := by
    intro other
    rcases @update_cases stages task stage other with ⟨rfl, hnow⟩ | ⟨-, hnow⟩
    · rw [hnow, hslot]
    · rw [hnow]
  apply hbooks.advance rfl (fun _ _ _ h => h) hactive hleft hup hconnected
    (hbooks.slots.keep hslot)
  · intro other slot hother
    rw [hsame] at hother
    exact hbooks.taker other slot hother
  · intro origin slot htook other horigin hother
    rw [hsame]
    exact hbooks.history origin slot htook other horigin (active_of_update hactive hother)

/-- A slot that is found in use stays with whoever has it. -/
theorem Books.pass (hbooks : Books took world origins stages)
    (hused : world.slots slot = true) :
    Books took { world with slots := update world.slots slot true } origins stages := by
  have hsame : update world.slots slot true = world.slots := by
    rw [← hused]
    exact update_eq_self ..
  exact hbooks.frame hsame rfl rfl

/-- The task of a connection takes a free slot. -/
theorem Books.take (hbooks : Books took world origins stages)
    (hstage : stages task = .connected) (hfree : world.slots slot = false)
    (htook : ∀ origin other, took' origin other →
      took origin other ∨ (origin = task ∧ other = slot)) :
    Books took'
      { world with
        slots := update world.slots slot true
        taker := update world.taker slot (origins task) }
      origins (update stages task (.reserved (some slot))) := by
  have hactive : (stages task).active = true := by rw [hstage]; rfl
  have hnone : (stages task).slot = none := by rw [hstage]; rfl
  apply hbooks.advance
  · rfl
  · intro container hmem other h
    rcases htook container.origin other h with hold | ⟨hown, -⟩
    · exact hold
    · exact absurd hown ((hbooks.connected task hstage).2 container hmem)
  · exact fun _ => hactive
  · intro other id hup
    cases hstage.symm.trans hup
  · intro other id hup
    cases hup
  · intro hconnected
    cases hconnected
  · rw [component_update Stage.slot]
    apply hbooks.slots.acquire hnone
    · rw [hfree]
      exact Bool.false_ne_true
    · intro other
      by_cases hother : other = slot <;> simp [hother, update_of_ne]
  · intro other taken hother
    rcases @update_cases stages task (.reserved (some slot)) other with
      ⟨rfl, hnow⟩ | ⟨-, hnow⟩
    · rw [hnow] at hother
      obtain rfl := Option.some.inj hother
      exact update_self ..
    · rw [hnow] at hother
      have hne : taken ≠ slot := by
        rintro rfl
        rw [hbooks.slots.present other taken hother] at hfree
        cases hfree
      exact (update_of_ne hne ..).trans (hbooks.taker other taken hother)
  · intro origin taken h other horigin hother
    rcases @update_cases stages task (.reserved (some slot)) other with
      ⟨rfl, hnow⟩ | ⟨hne, hnow⟩
    · rw [hnow]
      rcases htook origin taken h with hold | ⟨-, rfl⟩
      · have hslot := hbooks.history origin taken hold other horigin hactive
        rw [hnone] at hslot
        cases hslot
      · rfl
    · rw [hnow] at hother ⊢
      rcases htook origin taken h with hold | ⟨rfl, -⟩
      · exact hbooks.history origin taken hold other horigin hother
      · -- only the connection's own task acts for it
        have hself := (hbooks.connected origin hstage).1
        exact absurd (hbooks.alone other origin hother hactive (horigin.trans hself.symm)) hne

/-- The slot is given back. -/
theorem Books.giveBack (hbooks : Books took world origins stages)
    (hstage : stages task = .down (some slot)) :
    Books took { world with slots := update world.slots slot false } origins
      (update stages task .done) := by
  have hholds : (stages task).slot = some slot := by rw [hstage]; rfl
  have hother : ∀ {other}, (update stages task .done other).active = true →
      update stages task .done other = stages other := by
    intro other hactive
    rcases @update_cases stages task .done other with ⟨-, hnow⟩ | ⟨-, hnow⟩
    · rw [hnow] at hactive
      cases hactive
    · exact hnow
  apply hbooks.advance
  · rfl
  · exact fun _ _ _ h => h
  · intro hactive
    cases hactive
  · intro other id hup
    cases hstage.symm.trans hup
  · intro other id hup
    cases hup
  · intro hconnected
    cases hconnected
  · rw [component_update Stage.slot]
    apply hbooks.slots.release hholds
    intro other
    by_cases hother : other = slot <;> simp [hother, update_of_ne]
  · intro other taken htaken
    rw [hother (active_of_slot htaken)] at htaken
    exact hbooks.taker other taken htaken
  · intro origin taken htook other horigin hactive
    have hsame := hother hactive
    rw [hsame] at hactive ⊢
    exact hbooks.history origin taken htook other horigin hactive

/-! ## New tasks -/

/-- A task that does nothing may be counted to any connection. -/
theorem Books.recount {fresh origin : ℕ} (hbooks : Books took world origins stages)
    (hfresh : stages fresh = .done) :
    Books took world (update origins fresh origin) stages := by
  have hsame : ∀ {task}, (stages task).active = true →
      update origins fresh origin task = origins task := by
    intro task hactive
    apply update_of_ne
    rintro rfl
    rw [hfresh] at hactive
    cases hactive
  constructor
  · exact hbooks.slots
  · intro task slot hslot
    rw [hsame (active_of_slot hslot)]
    exact hbooks.taker task slot hslot
  · intro id container slot hat hrunning htook
    obtain ⟨task, held, hup, horigin⟩ := hbooks.running id container slot hat hrunning htook
    refine ⟨task, held, hup, ?_⟩
    rw [hsame (by rw [hup]; rfl)]
    exact horigin
  · intro task slot id hup
    rw [hsame (by rw [hup]; rfl)]
    exact hbooks.created task slot id hup
  · intro left right hleft hright horigin
    rw [hsame hleft, hsame hright] at horigin
    exact hbooks.alone left right hleft hright horigin
  · intro other slot htook task horigin hactive
    rw [hsame hactive] at horigin
    exact hbooks.history other slot htook task horigin hactive
  · intro task hconnected
    rw [hsame (by rw [hconnected]; rfl)]
    exact hbooks.connected task hconnected

/-- The task of a new connection has nothing yet. -/
theorem Books.arrive {fresh : ℕ} (hbooks : Books took world origins stages)
    (hfresh : stages fresh = .done) (horigin : origins fresh = fresh)
    (hnew : ∀ task, (stages task).active = true → origins task ≠ fresh)
    (hpast : ∀ slot, ¬ took fresh slot)
    (hcontainers : ∀ container ∈ world.containers, container.origin ≠ fresh) :
    Books took world origins (update stages fresh .connected) where
  slots := by
    apply hbooks.slots.keep
    rw [hfresh]
    rfl
  taker task slot hslot := by
    rcases @update_cases stages fresh .connected task with ⟨-, hnow⟩ | ⟨-, hnow⟩
    · rw [hnow] at hslot
      cases hslot
    · rw [hnow] at hslot
      exact hbooks.taker task slot hslot
  running id container slot hat hrunning htook := by
    obtain ⟨task, held, hup, hsame⟩ := hbooks.running id container slot hat hrunning htook
    have hne : task ≠ fresh := by
      rintro rfl
      cases hfresh.symm.trans hup
    exact ⟨task, held, (update_of_ne hne ..).trans hup, hsame⟩
  created task slot id hup := by
    rcases @update_cases stages fresh .connected task with ⟨-, hnow⟩ | ⟨-, hnow⟩
    · cases hnow.symm.trans hup
    · exact hbooks.created task slot id (hnow.symm.trans hup)
  alone left right hleft hright hsame := by
    rcases @update_cases stages fresh .connected left with ⟨hl, -⟩ | ⟨-, hnowLeft⟩ <;>
      rcases @update_cases stages fresh .connected right with ⟨hr, -⟩ | ⟨-, hnowRight⟩
    · rw [hl, hr]
    · rw [hnowRight] at hright
      rw [hl, horigin] at hsame
      exact absurd hsame.symm (hnew right hright)
    · rw [hnowLeft] at hleft
      rw [hr, horigin] at hsame
      exact absurd hsame (hnew left hleft)
    · rw [hnowLeft] at hleft
      rw [hnowRight] at hright
      exact hbooks.alone left right hleft hright hsame
  history origin slot htook task hsame hactive := by
    rcases @update_cases stages fresh .connected task with ⟨rfl, -⟩ | ⟨-, hnow⟩
    · rw [← hsame, horigin] at htook
      exact absurd htook (hpast slot)
    · rw [hnow] at hactive ⊢
      exact hbooks.history origin slot htook task hsame hactive
  connected task hconnected := by
    rcases @update_cases stages fresh .connected task with ⟨rfl, -⟩ | ⟨-, hnow⟩
    · exact ⟨horigin, hcontainers⟩
    · exact hbooks.connected task (hnow.symm.trans hconnected)

/-- Whoever acts for a connection hands everything over to a task that it spawns. -/
theorem Books.handOver {fresh : ℕ} {rest given : Stage}
    (hbooks : Books took world origins stages) (hfresh : stages fresh = .done)
    (horigin : origins fresh = origins task) (hactive : (stages task).active = true)
    (hrest : rest.active = false) (hslot : given.slot = (stages task).slot)
    (hgiven : ∀ slot id, given = .up slot id ↔ stages task = .up slot id)
    (hconnected : given ≠ .connected) :
    Books took world origins (update (update stages task rest) fresh given) := by
  have hnone : rest.slot = none := by
    cases hheld : rest.slot with
    | none => rfl
    | some slot =>
        rw [active_of_slot hheld] at hrest
        cases hrest
  -- what a task does now, it or its parent did before
  have hcases : ∀ other, (other = fresh ∧
        update (update stages task rest) fresh given other = given) ∨
      (other = task ∧ update (update stages task rest) fresh given other = rest) ∨
      (other ≠ task ∧ update (update stages task rest) fresh given other = stages other) := by
    intro other
    rcases @update_cases (update stages task rest) fresh given other with hnew | ⟨hne, hnow⟩
    · exact .inl hnew
    · rw [hnow]
      exact .inr update_cases
  have hparent : ∀ other, (update (update stages task rest) fresh given other).active = true →
      ∃ parent, (stages parent).active = true ∧ origins parent = origins other ∧
        (stages parent).slot = (update (update stages task rest) fresh given other).slot ∧
          ((other = fresh ∧ parent = task) ∨ (other ≠ task ∧ parent = other)) := by
    intro other hother
    rcases hcases other with ⟨rfl, hnow⟩ | ⟨-, hnow⟩ | ⟨hne, hnow⟩
    · exact ⟨task, hactive, horigin.symm, by rw [hnow, hslot], .inl ⟨rfl, rfl⟩⟩
    · rw [hnow, hrest] at hother
      cases hother
    · rw [hnow] at hother ⊢
      exact ⟨other, hother, rfl, rfl, .inr ⟨hne, rfl⟩⟩
  constructor
  · rw [component_update Stage.slot, component_update Stage.slot, hnone, hslot]
    apply hbooks.slots.transfer
    rw [hfresh]
    rfl
  · intro other slot hother
    obtain ⟨parent, -, hsame, hparentSlot, -⟩ := hparent other (active_of_slot hother)
    rw [← hsame]
    exact hbooks.taker parent slot (hparentSlot.trans hother)
  · intro id container slot hat hrunning htook
    obtain ⟨other, held, hup, hsame⟩ := hbooks.running id container slot hat hrunning htook
    by_cases htask : other = task
    · subst htask
      refine ⟨fresh, held, ?_, horigin.trans hsame⟩
      rw [update_self]
      exact (hgiven held id).mpr hup
    · have hne : other ≠ fresh := by
        rintro rfl
        cases hfresh.symm.trans hup
      refine ⟨other, held, ?_, hsame⟩
      rw [update_of_ne hne, update_of_ne htask]
      exact hup
  · intro other slot id hup
    rcases hcases other with ⟨rfl, hnow⟩ | ⟨-, hnow⟩ | ⟨-, hnow⟩
    · rw [horigin]
      exact hbooks.created task slot id ((hgiven slot id).mp (hnow.symm.trans hup))
    · rw [hnow.symm.trans hup] at hrest
      cases hrest
    · exact hbooks.created other slot id (hnow.symm.trans hup)
  · intro left right hleft hright hsame
    obtain ⟨parent, hactiveLeft, horiginLeft, -, hl⟩ := hparent left hleft
    obtain ⟨parent', hactiveRight, horiginRight, -, hr⟩ := hparent right hright
    have hparents := hbooks.alone parent parent' hactiveLeft hactiveRight
      (horiginLeft.trans (hsame.trans horiginRight.symm))
    rcases hl with ⟨hl, hp⟩ | ⟨hl, hp⟩ <;> rcases hr with ⟨hr, hp'⟩ | ⟨hr, hp'⟩
    · rw [hl, hr]
    · exact absurd (hp'.symm.trans (hparents.symm.trans hp)) hr
    · exact absurd (hp.symm.trans (hparents.trans hp')) hl
    · exact hp.symm.trans (hparents.trans hp')
  · intro origin slot htook other hother hactiveOther
    obtain ⟨parent, hactiveParent, hsame, hparentSlot, -⟩ := hparent other hactiveOther
    rw [← hparentSlot]
    exact hbooks.history origin slot htook parent (hsame.trans hother) hactiveParent
  · intro other hother
    rcases hcases other with ⟨-, hnow⟩ | ⟨-, hnow⟩ | ⟨-, hnow⟩
    · exact absurd (hnow.symm.trans hother) hconnected
    · rw [hnow.symm.trans hother] at hrest
      cases hrest
    · exact hbooks.connected other (hnow.symm.trans hother)

/-! ## One call -/

variable {actions : List Action} {action : Action} {origin : ℕ}

theorem took_snoc (htook : Took (actions ++ [action]) origin slot) :
    Took actions origin slot ∨ takes action = some (origin, slot) := by
  obtain ⟨other, hmem, htakes⟩ := htook
  rcases List.mem_append.mp hmem with hold | hnew
  · exact .inl ⟨other, hold, htakes⟩
  · rw [List.mem_singleton] at hnew
    rw [hnew] at htakes
    exact .inr htakes

theorem took_of_snoc (hnone : takes action = none)
    (htook : Took (actions ++ [action]) origin slot) : Took actions origin slot := by
  rcases took_snoc htook with hold | hnew
  · exact hold
  · rw [hnone] at hnew
    cases hnew

/-- The calls that touch neither slots nor containers. -/
def quiet : Call → Bool
  | .fetchOr _ => false
  | .store _ => false
  | .createContainer _ => false
  | .startContainer _ => false
  | .stopContainer _ => false
  | _ => true

theorem exec_quiet {call : Call} {answer : Answer call} {choice : Choice}
    (hquiet : quiet call = true)
    (hexec : exec world origin call answer choice = some world') :
    world'.slots = world.slots ∧ world'.taker = world.taker ∧
      world'.containers = world.containers := by
  cases call with
  | fetchOr slot => cases hquiet
  | store slot => cases hquiet
  | createContainer body => cases hquiet
  | startContainer id => cases hquiet
  | stopContainer id => cases hquiet
  | _ =>
      simp only [exec] at hexec
      repeat' split at hexec
      all_goals
        cases hexec
        try exact ⟨rfl, rfl, rfl⟩

theorem after_quiet {call : Call} {answer : Answer call} (hquiet : quiet call = true) :
    after call answer stage = stage := by
  cases call with
  | fetchOr slot => cases hquiet
  | store slot => cases hquiet
  | createContainer body => cases hquiet
  | startContainer id => cases hquiet
  | stopContainer id => cases hquiet
  | _ => rfl

theorem takes_quiet {call : Call} {answer : Answer call} {choice : Choice}
    (hquiet : quiet call = true) :
    takes (.task (.answer task call answer choice)) = none := by
  cases call with
  | fetchOr slot => cases hquiet
  | _ => rfl

/-- The record of one container changes, but not whose it is. -/
theorem setContainer_origins {change : DockerContainer → DockerContainer}
    {container : DockerContainer} (hmem : container ∈ (world.setContainer id change).containers)
    (horigin : ∀ container, (change container).origin = container.origin) :
    ∃ before ∈ world.containers, before.origin = container.origin := by
  obtain ⟨other, hat⟩ := List.getElem?_of_mem hmem
  by_cases hsame : other = id
  · subst hsame
    rw [setContainer_same] at hat
    obtain ⟨before, hbefore, rfl⟩ := Option.map_eq_some_iff.mp hat
    exact ⟨before, List.mem_of_getElem? hbefore, (horigin before).symm⟩
  · rw [setContainer_other hsame] at hat
    exact ⟨container, List.mem_of_getElem? hat, rfl⟩

/-- The record of one container changes.  It does not start to run, unless its
task knows that it is up. -/
theorem Books.change {change : DockerContainer → DockerContainer}
    (hbooks : Books took world origins stages)
    (horigin : ∀ container, (change container).origin = container.origin)
    (hrunning : ∀ container, world.containers[id]? = some container →
      (change container).status = .running → container.status = .running ∨
        ∃ task slot, stages task = .up slot id ∧ origins task = container.origin) :
    Books took (world.setContainer id change) origins stages := by
  apply hbooks.recontain
  · rfl
  · rfl
  · intro other container hat hstatus
    by_cases hsame : other = id
    · subst hsame
      rw [setContainer_same] at hat
      obtain ⟨before, hbefore, rfl⟩ := Option.map_eq_some_iff.mp hat
      rw [horigin]
      rcases hrunning before hbefore hstatus with hran | hup
      · exact .inl ⟨before, hbefore, hran, rfl⟩
      · exact .inr hup
    · rw [setContainer_other hsame] at hat
      exact .inl ⟨container, hat, hstatus, rfl⟩
  · intro other container hat
    by_cases hsame : other = id
    · subst hsame
      refine ⟨change container, ?_, horigin container⟩
      rw [setContainer_same, hat, Option.map_some]
    · refine ⟨container, ?_, rfl⟩
      rw [setContainer_other hsame, hat]
  · exact fun container hmem => .inl (setContainer_origins hmem horigin)

theorem Books.exit (hbooks : Books took world origins stages) :
    Books took (world.setContainer id DockerContainer.exit) origins stages := by
  apply hbooks.change
  · exact fun _ => rfl
  · intro container _ hstatus
    cases hstatus

theorem stop_not_running (container : DockerContainer) :
    container.stop.status ≠ .running := by
  unfold DockerContainer.stop
  split
  · exact Status.noConfusion
  · assumption

theorem stop_origin (container : DockerContainer) :
    container.stop.origin = container.origin := by
  unfold DockerContainer.stop
  split <;> rfl

theorem not_running_of_isRunning {container : DockerContainer}
    (hdown : world.isRunning id = false) (hat : world.containers[id]? = some container) :
    container.status ≠ .running := by
  intro hstatus
  simp only [World.isRunning, hat, hstatus, decide_true] at hdown
  cases hdown

/-- A container whose stop call has been answered is given up; it must be down, or that
of a demo. -/
theorem Books.letGo {held : Option Slot} (hbooks : Books took world origins stages)
    (hstage : stages task = .up held id)
    (hdown : ∀ container, world.containers[id]? = some container →
      container.status = .running → ∀ slot, ¬ took container.origin slot) :
    Books took world origins (update stages task (.down held)) := by
  apply hbooks.restage
  · rw [hstage]
    rfl
  · intro _
    rw [hstage]
    rfl
  · intro slot other hup
    have hsame := hstage.symm.trans hup
    cases hsame
    exact .inr hdown
  · intro slot other hup
    cases hup
  · intro hconnected
    cases hconnected

/-- The container that a connection has an address for serves a guest. -/
theorem Books.servesGuest {held : Option Slot} {container : DockerContainer}
    (hbooks : Books took world origins stages) (hstage : stages task = .up held id)
    (hat : world.containers[id]? = some container) (htook : took container.origin slot) :
    ServesGuest world id := by
  obtain ⟨record, hrecord, horigin⟩ := hbooks.created task held id hstage
  obtain rfl : record = container := Option.some.inj (hrecord.symm.trans hat)
  have hactive : (stages task).active = true := by rw [hstage]; rfl
  have hslot := hbooks.history record.origin slot htook task horigin.symm hactive
  exact ⟨record, slot, hat, hbooks.slots.present task slot hslot,
    (hbooks.taker task slot hslot).trans horigin.symm⟩

theorem Books.stopContainer {held : Option Slot} {result : StopResult} {choice : Choice}
    (hbooks : Books took world origins stages) (hstage : stages task = .up held id)
    (hexec : exec world (origins task) (.stopContainer id) result choice = some world')
    (hstopped : ¬ StopFails world (.stopContainer id) result choice) :
    Books took world' origins (update stages task (.down held)) := by
  have hgone : Books took (world.setContainer id DockerContainer.stop) origins
      (update stages task (.down held)) := by
    have hchanged : Books took (world.setContainer id DockerContainer.stop) origins stages := by
      apply hbooks.change stop_origin
      intro container _ hstatus
      exact absurd hstatus (stop_not_running container)
    apply hchanged.letGo hstage
    intro container hat hrunning
    rw [setContainer_same] at hat
    obtain ⟨before, -, rfl⟩ := Option.map_eq_some_iff.mp hat
    exact absurd hrunning (stop_not_running before)
  obtain rfl | ⟨rfl, hidle | ⟨hfailed, hchoice⟩⟩ := exec_stopContainer hexec
  · exact hgone
  · apply hbooks.letGo hstage
    intro container hat hrunning
    exact absurd hrunning (not_running_of_isRunning hidle hat)
  · apply hbooks.letGo hstage
    intro container hat hrunning taken htook
    apply hstopped
    refine ⟨hfailed, hchoice, ?_, hbooks.servesGuest hstage hat htook⟩
    simp [World.isRunning, hat, hrunning]

/-- A new container does not run yet. -/
theorem Books.append {added : DockerContainer} (hbooks : Books took world origins stages)
    (hcreated : added.status = .created) (hactive : (stages task).active = true)
    (hbusy : stages task ≠ .connected) (horigin : added.origin = origins task) :
    Books took { world with containers := world.containers ++ [added] } origins stages := by
  apply hbooks.recontain
  · rfl
  · rfl
  · intro other container hat hstatus
    by_cases hlt : other < world.containers.length
    · rw [List.getElem?_append_left hlt] at hat
      exact .inl ⟨container, hat, hstatus, rfl⟩
    · have hmem := List.mem_of_getElem? (List.getElem?_append_right
        (Nat.le_of_not_lt hlt) ▸ hat)
      rw [List.mem_singleton] at hmem
      rw [hmem, hcreated] at hstatus
      cases hstatus
  · intro other container hat
    refine ⟨container, ?_, rfl⟩
    rw [List.getElem?_append_left (List.getElem?_eq_some_iff.mp hat).1, hat]
  · intro container hmem
    rcases List.mem_append.mp hmem with hold | hnew
    · exact .inl ⟨container, hold, rfl⟩
    · rw [List.mem_singleton.mp hnew]
      exact .inr ⟨task, hactive, hbusy, horigin.symm⟩

theorem Books.createContainer {held : Option Slot} {body : ContainerCreateBody}
    {created : Option ContainerId} {choice : Choice}
    (hbooks : Books took world origins stages) (hstage : stages task = .reserved held)
    (hexec : exec world (origins task) (.createContainer body) created choice = some world') :
    Books took world' origins
      (update stages task (after (.createContainer body) created (stages task))) := by
  cases created with
  | none =>
      obtain rfl := Option.some.inj hexec
      rw [show after (.createContainer body) none (stages task) = stages task from rfl,
        update_eq_self]
      exact hbooks
  | some id =>
      obtain ⟨rfl, rfl⟩ := exec_createContainer hexec
      have hactive : (stages task).active = true := by rw [hstage]; rfl
      have hbusy : stages task ≠ .connected := by simp [hstage]
      apply (hbooks.append rfl hactive hbusy rfl).restage
      · rw [hstage]
        rfl
      · intro _
        rw [hstage]
        rfl
      · intro slot other hup
        cases hstage.symm.trans hup
      · intro slot other hup
        cases hup
        exact ⟨_, List.getElem?_concat_length, rfl⟩
      · intro hconnected
        cases hconnected

theorem Books.startContainer {held : Option Slot} {started : Bool} {choice : Choice}
    (hbooks : Books took world origins stages) (hstage : stages task = .up held id)
    (hexec : exec world (origins task) (.startContainer id) started choice = some world') :
    Books took world' origins stages := by
  cases started with
  | false =>
      obtain rfl := Option.some.inj hexec
      exact hbooks
  | true =>
      obtain ⟨_, _, _, rfl⟩ := exec_startContainer hexec
      apply hbooks.change
      · exact fun _ => rfl
      · intro container hat _
        obtain ⟨record, hrecord, horigin⟩ := hbooks.created task held id hstage
        obtain rfl : record = container := Option.some.inj (hrecord.symm.trans hat)
        exact .inr ⟨task, held, hstage, horigin.symm⟩

theorem Books.fetchOr {inUse : Bool} {choice : Choice}
    (hbooks : Books (Took actions) world origins stages) (hstage : stages task = .connected)
    (hexec : exec world (origins task) (.fetchOr slot) inUse choice = some world') :
    Books (Took (actions ++ [.task (.answer task (.fetchOr slot) inUse choice)])) world'
      origins (update stages task (after (.fetchOr slot) inUse (stages task))) := by
  obtain ⟨hslot, rfl⟩ := exec_fetchOr hexec
  cases inUse with
  | true =>
      rw [show after (.fetchOr slot) true (stages task) = stages task from rfl,
        update_eq_self]
      apply (hbooks.pass hslot.symm).forget
      exact fun _ _ => took_of_snoc rfl
  | false =>
      apply hbooks.take hstage hslot.symm
      intro origin other htook
      rcases took_snoc htook with hold | hnew
      · exact .inl hold
      · cases hnew
        exact .inr ⟨rfl, rfl⟩

/-- A container belongs to the connection whose task has created it. -/
theorem exec_origins {call : Call} {answer : Answer call} {choice : Choice}
    (hexec : exec world origin call answer choice = some world')
    {container : DockerContainer} (hmem : container ∈ world'.containers) :
    (∃ before ∈ world.containers, before.origin = container.origin) ∨
      container.origin = origin := by
  have hsame : world'.containers = world.containers →
      (∃ before ∈ world.containers, before.origin = container.origin) ∨
        container.origin = origin := by
    intro hcontainers
    rw [hcontainers] at hmem
    exact .inl ⟨container, hmem, rfl⟩
  by_cases hquiet : quiet call = true
  · exact hsame (exec_quiet hquiet hexec).2.2
  · cases call with
    | fetchOr slot =>
        obtain ⟨-, rfl⟩ := exec_fetchOr hexec
        exact hsame rfl
    | store slot =>
        obtain rfl := Option.some.inj hexec
        exact hsame rfl
    | createContainer body =>
        cases answer with
        | none =>
            obtain rfl := Option.some.inj hexec
            exact hsame rfl
        | some id =>
            obtain ⟨-, rfl⟩ := exec_createContainer hexec
            rcases List.mem_append.mp hmem with hold | hnew
            · exact .inl ⟨container, hold, rfl⟩
            · rw [List.mem_singleton.mp hnew]
              exact .inr rfl
    | startContainer id =>
        cases answer with
        | false =>
            obtain rfl := Option.some.inj hexec
            exact hsame rfl
        | true =>
            obtain ⟨_, _, _, rfl⟩ := exec_startContainer hexec
            exact .inl (setContainer_origins hmem fun _ => rfl)
    | stopContainer id =>
        obtain rfl | ⟨rfl, -⟩ := exec_stopContainer hexec
        · exact .inl (setContainer_origins hmem stop_origin)
        · exact hsame rfl
    | _ => exact absurd rfl hquiet

/-- One answered call keeps the books in order, unless it is a stop that fails. -/
theorem Books.answer {call : Call} {answer : Answer call} {choice : Choice}
    (hbooks : Books (Took actions) world origins stages) (hpre : pre call (stages task))
    (hexec : exec world (origins task) call answer choice = some world')
    (hstopped : ¬ StopFails world call answer choice) :
    Books (Took (actions ++ [.task (.answer task call answer choice)])) world' origins
      (update stages task (after call answer (stages task))) := by
  by_cases hquiet : quiet call = true
  · obtain ⟨hslots, htaker, hcontainers⟩ := exec_quiet hquiet hexec
    rw [after_quiet hquiet, update_eq_self]
    apply (hbooks.frame hslots htaker hcontainers).forget
    exact fun _ _ => took_of_snoc (takes_quiet hquiet)
  · cases call with
    | fetchOr slot => exact hbooks.fetchOr hpre hexec
    | store slot =>
        obtain rfl := Option.some.inj hexec
        apply (hbooks.giveBack hpre).forget
        exact fun _ _ => took_of_snoc rfl
    | createContainer body =>
        obtain ⟨held, hstage⟩ := hpre
        apply (hbooks.createContainer hstage hexec).forget
        exact fun _ _ => took_of_snoc rfl
    | startContainer id =>
        obtain ⟨held, hstage⟩ := hpre
        rw [show after (.startContainer id) answer (stages task) = stages task from rfl,
          update_eq_self]
        apply (hbooks.startContainer hstage hexec).forget
        exact fun _ _ => took_of_snoc rfl
    | stopContainer id =>
        obtain ⟨held, hstage⟩ := hpre
        have hdown : after (.stopContainer id) answer (stages task) = .down held := by
          rw [hstage]
          rfl
        rw [hdown]
        apply (hbooks.stopContainer hstage hexec hstopped).forget
        exact fun _ _ => took_of_snoc rfl
    | _ => exact absurd rfl hquiet

/-! ## Whole runs -/

/-- A task works for a connection that is no later than itself. -/
def Earlier (tasks : Tasks challd) : Prop :=
  ∀ (task : ℕ) (entry : TaskPool.Task challd), tasks[task]? = some entry →
    entry.origin ≤ task

structure Tenants (actions : List Action) (daemon : Daemon) (stages : ℕ → Stage) :
    Prop where
  guarded : Guarded rules daemon.tasks stages
  books : Books (Took actions) daemon.world (originOf daemon.tasks) stages
  outside : ∀ task, daemon.tasks.length ≤ task → stages task = .done
  earlier : Earlier daemon.tasks
  past : ∀ origin slot, Took actions origin slot → origin < daemon.tasks.length
  placed : ∀ container ∈ daemon.world.containers, container.origin < daemon.tasks.length

variable {panics : DoublePanic} {int : Interface} {daemon next : Daemon}

theorem tenants_initial : Tenants [] initial fun _ => .done where
  guarded _ _ hat := by simp [initial] at hat
  books :=
    { slots :=
        { covered := fun _ h => by simp [initial, initialWorld] at h
          present := fun _ _ h => by cases h
          exclusive := fun _ _ _ h => by cases h }
      taker := fun _ _ h => by cases h
      running := fun _ _ _ h => by simp [initial, initialWorld] at h
      created := fun _ _ _ h => by cases h
      alone := fun _ _ h => by cases h
      history := fun _ _ _ _ _ h => by cases h
      connected := fun _ h => by cases h }
  outside _ _ := rfl
  earlier _ _ hat := by simp [initial] at hat
  past := by
    rintro origin slot ⟨action, hmem, -⟩
    cases hmem
  placed _ hmem := by simp [initial, initialWorld] at hmem

/-- The main task goes on, and a container may exit by itself. -/
theorem Tenants.main (htenants : Tenants actions daemon stages)
    (htasks : next.tasks = daemon.tasks) (htakes : takes action = none)
    (hbooks : Books (Took actions) next.world (originOf daemon.tasks) stages)
    (hplaced : ∀ container ∈ next.world.containers,
      ∃ before ∈ daemon.world.containers, before.origin = container.origin) :
    Tenants (actions ++ [action]) next stages where
  guarded := by
    rw [htasks]
    exact htenants.guarded
  books := by
    rw [htasks]
    exact hbooks.forget fun _ _ => took_of_snoc htakes
  outside := by
    rw [htasks]
    exact htenants.outside
  earlier := by
    rw [htasks]
    exact htenants.earlier
  past origin slot htook := by
    rw [htasks]
    exact htenants.past origin slot (took_of_snoc htakes htook)
  placed container hmem := by
    obtain ⟨before, hbefore, hsame⟩ := hplaced container hmem
    rw [htasks, ← hsame]
    exact htenants.placed before hbefore

/-- An active task is in the list, and works for an earlier connection. -/
theorem Tenants.origin_le (htenants : Tenants actions daemon stages)
    (hactive : (stages task).active = true) :
    task < daemon.tasks.length ∧ originOf daemon.tasks task ≤ task := by
  have hlt : task < daemon.tasks.length := by
    by_contra hout
    rw [htenants.outside task (Nat.le_of_not_lt hout)] at hactive
    cases hactive
  have hat : daemon.tasks[task]? = some daemon.tasks[task] := List.getElem?_eq_getElem hlt
  rw [originOf_eq hat]
  exact ⟨hlt, htenants.earlier task _ hat⟩

theorem Tenants.accept (htenants : Tenants actions daemon stages) :
    Tenants (actions ++ [.accept])
      { daemon with
        tasks := daemon.tasks ++ [⟨.connection, daemon.tasks.length, connection int⟩] }
      (update stages daemon.tasks.length .connected) where
  guarded := htenants.guarded.concat (wp_connection int)
  books := by
    have hfresh := htenants.outside daemon.tasks.length le_rfl
    rw [originOf_concat]
    apply Books.arrive _ hfresh
    · exact update_self ..
    · intro task hactive
      obtain ⟨hlt, hle⟩ := htenants.origin_le hactive
      rw [update_of_ne (Nat.ne_of_lt hlt)]
      omega
    · intro slot htook
      exact absurd (htenants.past _ slot (took_of_snoc rfl htook)) (Nat.lt_irrefl _)
    · exact fun container hmem => Nat.ne_of_lt (htenants.placed container hmem)
    · apply Books.forget _ fun _ _ => took_of_snoc rfl
      exact htenants.books.recount hfresh
  outside task hout := by
    simp only [List.length_append, List.length_singleton] at hout
    rw [update_of_ne (by omega)]
    exact htenants.outside task (by omega)
  earlier task entry hat := by
    rcases at_concat hat with ⟨rfl, rfl⟩ | ⟨-, hold⟩
    · exact le_rfl
    · exact htenants.earlier task entry hold
  past origin slot htook := by
    have hlt := htenants.past origin slot (took_of_snoc rfl htook)
    simp only [List.length_append, List.length_singleton]
    omega
  placed container hmem := by
    have hlt := htenants.placed container hmem
    simp only [List.length_append, List.length_singleton]
    omega

/-- A task that goes on keeps its place and its connection. -/
theorem earlier_set {tasks : Tasks challd} {old new : TaskPool.Task challd}
    (hearlier : Earlier tasks) (hat : tasks[task]? = some old)
    (horigin : new.origin = old.origin) : Earlier (tasks.set task new) := by
  intro other entry hother
  rcases at_set hat hother with ⟨rfl, rfl⟩ | ⟨-, hold⟩
  · rw [horigin]
    exact hearlier other old hat
  · exact hearlier other entry hold

theorem Tenants.answer {role : Role} {call : Call} {rest : Answer call → Prog TaskResult}
    {answer : Answer call} {choice : Choice} (htenants : Tenants actions daemon stages)
    (hat : daemon.tasks[task]? = some ⟨role, origin, .call (S := challd) call rest⟩)
    (hexec : exec daemon.world origin call answer choice = some world)
    (hstopped : ¬ StopFails daemon.world call answer choice) :
    Tenants (actions ++ [.task (.answer task call answer choice)])
      { daemon with
        world := world
        tasks := daemon.tasks.set task ⟨role, origin, rest answer⟩ }
      (update stages task (after call answer (stages task))) where
  guarded := htenants.guarded.answer hat rfl
  books := by
    show Books _ world (originOf (daemon.tasks.set task ⟨role, origin, rest answer⟩)) _
    rw [originOf_set hat]
    · exact htenants.books.answer (htenants.guarded.pre hat) (exec_originOf hat hexec) hstopped
    · rfl
  outside other hout := by
    rw [List.length_set] at hout
    have hlt := (List.getElem?_eq_some_iff.mp hat).1
    rw [update_of_ne (by omega)]
    exact htenants.outside other hout
  earlier := earlier_set htenants.earlier hat rfl
  past other slot htook := by
    rw [List.length_set]
    rcases took_snoc htook with hold | hnew
    · exact htenants.past other slot hold
    · have hlt := (List.getElem?_eq_some_iff.mp hat).1
      cases call with
      | fetchOr taken =>
          cases answer with
          | true => cases hnew
          | false =>
              cases hnew
              exact hlt
      | _ => cases hnew
  placed container hmem := by
    rw [List.length_set]
    rcases exec_origins hexec hmem with ⟨before, hbefore, hsame⟩ | hown
    · rw [← hsame]
      exact htenants.placed before hbefore
    · rw [hown]
      exact Nat.lt_of_le_of_lt (htenants.earlier task _ hat)
        (List.getElem?_eq_some_iff.mp hat).1

theorem stage_of_awaiting {awaited : ℕ} (hwaits : rules.awaiting stage = some awaited) :
    stage = .waiting awaited := by
  cases stage with
  | waiting task => rw [Option.some.inj hwaits]
  | _ => cases hwaits

theorem Tenants.join {role : Role} {awaited : ℕ}
    {rest : Option TaskResult → Prog TaskResult} {outcome : Option TaskResult}
    (htenants : Tenants actions daemon stages)
    (hat : daemon.tasks[task]? = some ⟨role, origin, .join (S := challd) awaited rest⟩) :
    Tenants (actions ++ [.task (.join task)])
      { daemon with tasks := daemon.tasks.set task ⟨role, origin, rest outcome⟩ }
      (update stages task .done) where
  guarded := htenants.guarded.join outcome hat
  books := by
    show Books _ daemon.world (originOf (daemon.tasks.set task ⟨role, origin, rest outcome⟩)) _
    have hstage := stage_of_awaiting (htenants.guarded.awaiting hat)
    rw [originOf_set hat]
    · apply Books.forget _ fun _ _ => took_of_snoc rfl
      apply htenants.books.restage
      · rw [hstage]
        rfl
      · intro hactive
        cases hactive
      · intro slot id hup
        cases hstage.symm.trans hup
      · intro slot id hup
        cases hup
      · intro hconnected
        cases hconnected
    · rfl
  outside other hout := by
    rw [List.length_set] at hout
    have hlt := (List.getElem?_eq_some_iff.mp hat).1
    rw [update_of_ne (by omega)]
    exact htenants.outside other hout
  earlier := earlier_set htenants.earlier hat rfl
  past other slot htook := by
    rw [List.length_set]
    exact htenants.past other slot (took_of_snoc rfl htook)
  placed container hmem := by
    rw [List.length_set]
    exact htenants.placed container hmem

/-- What a spawned task gets and what its parent is left with. -/
theorem Books.spawn {fresh : ℕ} {role : Role} (hbooks : Books took world origins stages)
    (hfresh : stages fresh = .done) (horigin : origins fresh = origins task)
    (hspawnable : rules.spawnable role (stages task)) :
    Books took world origins
      (update (update stages task (rules.keep role (stages task) fresh)) fresh
        (rules.give role (stages task))) := by
  cases role with
  | connection => exact hspawnable.elim
  | request =>
      rcases hspawnable with hstage | ⟨slot, hstage⟩
      · rw [hstage]
        apply hbooks.handOver hfresh horigin <;> simp [hstage, Stage.active, Stage.slot]
      · rw [hstage]
        apply hbooks.handOver hfresh horigin <;> simp [hstage, Stage.active, Stage.slot]
  | teardown =>
      obtain ⟨slot, id, hstage⟩ := hspawnable
      rw [hstage]
      apply hbooks.handOver hfresh horigin <;> simp [hstage, Stage.active, Stage.slot]
  | writer =>
      have hnothing : update stages fresh .done = stages := by
        rw [← hfresh]
        exact update_eq_self ..
      rw [update_eq_self]
      exact hnothing.symm ▸ hbooks

theorem Tenants.spawn {role childRole : Role} {child : Prog TaskResult}
    {rest : ℕ → Prog TaskResult} (htenants : Tenants actions daemon stages)
    (hat : daemon.tasks[task]? =
      some ⟨role, origin, .spawn (S := challd) childRole child rest⟩) :
    Tenants (actions ++ [.task (.spawn task)])
      { daemon with
        tasks := daemon.tasks.set task ⟨role, origin, rest daemon.tasks.length⟩ ++
          [⟨childRole, origin, child⟩] }
      (update
        (update stages task (rules.keep childRole (stages task) daemon.tasks.length))
        daemon.tasks.length (rules.give childRole (stages task))) where
  guarded := htenants.guarded.spawn hat
  books := by
    have hfresh := htenants.outside daemon.tasks.length le_rfl
    have hlt := (List.getElem?_eq_some_iff.mp hat).1
    have horigins : originOf
        (daemon.tasks.set task ⟨role, origin, rest daemon.tasks.length⟩ ++
          [⟨childRole, origin, child⟩]) =
        update (originOf daemon.tasks) daemon.tasks.length (originOf daemon.tasks task) := by
      rw [originOf_concat, originOf_set hat, List.length_set, originOf_eq hat]
      rfl
    show Books _ daemon.world (originOf (_ ++ _)) _
    rw [horigins]
    apply Books.forget _ fun _ _ => took_of_snoc rfl
    apply (htenants.books.recount hfresh).spawn hfresh
    · rw [update_self, update_of_ne (Nat.ne_of_lt hlt)]
    · exact (htenants.guarded task _ hat).1
  outside other hout := by
    have hlt := (List.getElem?_eq_some_iff.mp hat).1
    rw [List.length_append, List.length_set, List.length_singleton] at hout
    rw [update_of_ne (by omega), update_of_ne (by omega)]
    exact htenants.outside other (by omega)
  earlier := by
    have hset : Earlier (daemon.tasks.set task ⟨role, origin, rest daemon.tasks.length⟩) :=
      earlier_set htenants.earlier hat rfl
    have hparent : origin ≤ task := htenants.earlier task _ hat
    have hlt := (List.getElem?_eq_some_iff.mp hat).1
    intro other entry hother
    rcases at_concat hother with ⟨rfl, rfl⟩ | ⟨-, hold⟩
    · rw [List.length_set]
      exact hparent.trans hlt.le
    · exact hset other entry hold
  past other slot htook := by
    have hlt := htenants.past other slot (took_of_snoc rfl htook)
    rw [List.length_append, List.length_set]
    omega
  placed container hmem := by
    have hlt := htenants.placed container hmem
    rw [List.length_append, List.length_set]
    omega

theorem Tenants.step (htenants : Tenants actions daemon stages)
    (hstep : Step panics int daemon action next) (hstopped : ¬ StopFailed daemon action) :
    ∃ stages', Tenants (actions ++ [action]) next stages' := by
  have hsame : ∀ container ∈ daemon.world.containers,
      ∃ before ∈ daemon.world.containers, before.origin = container.origin :=
    fun container hmem => ⟨container, hmem, rfl⟩
  cases hstep with
  | accept hphase => exact ⟨_, htenants.accept⟩
  | signal hphase => exact ⟨stages, htenants.main rfl rfl htenants.books hsame⟩
  | cancel hphase =>
      exact ⟨stages, htenants.main rfl rfl (htenants.books.frame rfl rfl rfl) hsame⟩
  | close hphase => exact ⟨stages, htenants.main rfl rfl htenants.books hsame⟩
  | wait hphase hempty => exact ⟨stages, htenants.main rfl rfl htenants.books hsame⟩
  | leave hphase => exact ⟨stages, htenants.main rfl rfl htenants.books hsame⟩
  | abort hphase hpanics hat => exact ⟨stages, htenants.main rfl rfl htenants.books hsame⟩
  | containerExit hphase hrunning =>
      refine ⟨stages, htenants.main rfl rfl htenants.books.exit fun container hmem => ?_⟩
      exact setContainer_origins hmem fun _ => rfl
  | task hphase hpanics hpool =>
      cases hpool with
      | answer hat hexec => exact ⟨_, htenants.answer hat hexec hstopped⟩
      | spawn hat => exact ⟨_, htenants.spawn hat⟩
      | join hat hother hended => exact ⟨_, htenants.join hat⟩

theorem tenants_of_run
    (hrun : Run (restrict (Step panics int) fun before action => ¬ StopFailed before action)
      initial actions daemon) : ∃ stages, Tenants actions daemon stages := by
  apply Run.history (fun actions daemon => ∃ stages, Tenants actions daemon stages) _ _ hrun
  · exact ⟨_, tenants_initial⟩
  · rintro actions before action after ⟨stages, htenants⟩ hstep
    exact htenants.step hstep.1 hstep.2

/-! ## Addresses are kept -/

variable {id : ContainerId}

/-- The task of a running container has the address it was started for. -/
theorem Tenants.tenant (htenants : Tenants actions daemon stages)
    (hoccupies : Occupies actions daemon.world id slot) :
    ∃ task held, stages task = .up held id ∧ (stages task).slot = some slot ∧
      ∀ container, daemon.world.containers[id]? = some container →
        originOf daemon.tasks task = container.origin := by
  obtain ⟨container, hat, hrunning, htook⟩ := hoccupies
  obtain ⟨task, held, hup, horigin⟩ :=
    htenants.books.running id container slot hat hrunning htook
  refine ⟨task, held, hup, ?_, ?_⟩
  · apply htenants.books.history container.origin slot htook task horigin
    rw [hup]
    rfl
  · intro other hother
    obtain rfl : container = other := Option.some.inj (hat.symm.trans hother)
    exact horigin

/-- In every run in which Docker stops the containers of guests that it is told to
stop: an address is given back only when no container started for it runs; at most
`maxInstances` guest containers run; and no container runs on an address that
has been given back or reissued. -/
theorem addresses_kept
    (hrun : Run (restrict (Step panics int) fun before action => ¬ StopFailed before action)
      initial actions daemon) : AddressesKept panics int actions daemon := by
  obtain ⟨stages, htenants⟩ := tenants_of_run hrun
  constructor
  · intro task slot choice next hstep id hoccupies
    obtain ⟨tenant, held, hup, hslot, -⟩ := htenants.tenant hoccupies
    cases hstep with
    | task hphase hpanics hpool =>
        cases hpool with
        | answer hat hexec =>
            have hdown : stages task = .down (some slot) := htenants.guarded.pre hat
            have hholds : (stages task).slot = some slot := by rw [hdown]; rfl
            obtain rfl := htenants.books.slots.exclusive tenant task slot hslot hholds
            cases hdown.symm.trans hup
  · intro ids hids
    have : Nonempty Slot := ⟨⟨0, by decide⟩⟩
    choose! slotOf hslotOf using hids
    calc ids.card
        ≤ (Finset.univ : Finset Slot).card := by
          apply Finset.card_le_card_of_injOn slotOf (fun _ _ => Finset.mem_univ _)
          intro left hleft right hright hsame
          obtain ⟨task, held, hup, hslot, -⟩ := htenants.tenant (hslotOf left hleft)
          obtain ⟨task', held', hup', hslot', -⟩ := htenants.tenant (hslotOf right hright)
          rw [← hsame] at hslot'
          obtain rfl := htenants.books.slots.exclusive task task' _ hslot hslot'
          cases hup.symm.trans hup'
          rfl
      _ = maxInstances := by simp
  · intro id slot hoccupies
    obtain ⟨task, held, -, hslot, horigin⟩ := htenants.tenant hoccupies
    refine ⟨htenants.books.slots.present task slot hslot, ?_⟩
    intro container hat
    exact (htenants.books.taker task slot hslot).trans (horigin container hat)

theorem failed_of_stopFailed (hstopped : StopFailed daemon action) :
    failedAction action = true := by
  cases action with
  | task event =>
      cases event with
      | answer task request answer choice =>
          cases request with
          | stopContainer id => exact decide_eq_true hstopped.1
          | _ => exact hstopped.elim
      | _ => exact hstopped.elim
  | _ => exact hstopped.elim

/-- The guest's container is stopped, its address is given back and goes to the
next guest. -/
theorem addresses_kept_nextGuest : ∃ actions daemon,
    Run (restrict (Step .abortsProcess ⟨""⟩) fun before action => ¬ StopFailed before action)
      initial actions daemon ∧ daemon.world.taker firstSlot = 4 ∧
        AddressesKept .abortsProcess ⟨""⟩ actions daemon := by
  have hcheck : ∀ before action, (!failedAction action) = true →
      ¬ StopFailed before action := by
    intro before action hsucceeded hstopped
    rw [failed_of_stopFailed hstopped] at hsucceeded
    cases hsucceeded
  obtain ⟨actions, daemon, hrun, htaker⟩ := exists_restricted_run .abortsProcess ⟨""⟩
    (fun _ action => !failedAction action)
    (Script.guest {} 0 0 ++ Script.teardown {} 0 ++ Script.connect {} 0 4)
    (fun daemon => decide (daemon.world.taker firstSlot = 4)) hcheck (by decide +kernel)
  exact ⟨actions, daemon, hrun, of_decide_eq_true htaker, addresses_kept hrun⟩

/-- The same, but Docker answers the stop call with an error and the container
goes on running. -/
def unstoppedGuest : List Move :=
  Script.guest {} 0 0 ++ Script.teardown { stop := .error } 0 ++ Script.connect {} 0 4

/-- The first guest's container runs on the address that the next guest has got. -/
def reissued (actions : List Action) (daemon : Daemon) : Bool :=
  actions.any (fun action => decide (takes action = some (0, firstSlot))) &&
    daemon.world.containers.map DockerContainer.origin == [0] &&
      daemon.world.isRunning 0 && decide (daemon.world.taker firstSlot = 4)

theorem reissued_while_running :
    ¬ ∀ int actions daemon, Runs .abortsProcess int actions daemon →
      AddressesKept .abortsProcess int actions daemon := by
  intro hclaim
  obtain ⟨actions, daemon, hrun, htest⟩ :=
    exists_history .abortsProcess ⟨""⟩ unstoppedGuest reissued (by decide +kernel)
  simp only [reissued, Bool.and_eq_true, decide_eq_true_eq, beq_iff_eq] at htest
  obtain ⟨⟨⟨htakes, horigins⟩, hrunning⟩, htaker⟩ := htest
  obtain ⟨action, hmem, htakes⟩ := List.any_eq_true.mp htakes
  obtain ⟨container, hcontainers, horigin⟩ := List.map_eq_singleton_iff.mp horigins
  have hat : daemon.world.containers[0]? = some container := by rw [hcontainers]; rfl
  have hstatus : container.status = .running := by
    simpa [World.isRunning, hat] using hrunning
  have htook : Took actions container.origin firstSlot := by
    rw [horigin]
    exact ⟨action, hmem, of_decide_eq_true htakes⟩
  obtain ⟨-, hbound⟩ := (hclaim ⟨""⟩ actions daemon hrun).bound 0 firstSlot
    ⟨container, hat, hstatus, htook⟩
  have hsame := hbound container hat
  rw [htaker, horigin] at hsame
  cases hsame

end ScdtServer.Occupancy
