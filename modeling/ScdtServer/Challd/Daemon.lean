import ScdtServer.Core.Transition
import ScdtServer.Challd.Main

/-!
# The daemon as a transition system

The main task accepts connections until a signal arrives; it then cancels the
token, closes the tracker, waits until no tracked task runs, drops the listener
and returns.  Any number of other tasks run meanwhile, and containers may exit
on their own.  When `main` has returned the process is over: there are no
further steps.  The same is true once a task has aborted the process.
-/

namespace ScdtServer.Daemon

open ScdtServer.Interaction ScdtServer.Interaction.Program
open ScdtServer.Host ScdtServer.TaskPool ScdtServer.Transition
open ScdtServer.Interface ScdtServer.Main

/-- How far the main task has come, unless the process has been aborted. -/
inductive Phase
  | accepting
  | interrupted
  | cancelled
  | closed
  | waited
  | returned
  | aborted
  deriving DecidableEq

/-- There is no process any more. -/
def Phase.isOver : Phase → Bool
  | .returned => true
  | .aborted => true
  | _ => false

structure Daemon where
  phase : Phase
  world : World
  tasks : Tasks challd

inductive Action
  | accept
  | signal
  | cancel
  | close
  | wait
  | leave
  | abort
  | containerExit (id : ContainerId)
  | task (event : Event challd Choice)

/-- What becomes of a panic that meets another one while it unwinds.  Rust aborts the
process.  The other kind of daemon is one in which every panic ends its own task and
nothing else. -/
inductive DoublePanic
  | abortsProcess
  | endsTask
  deriving DecidableEq

def isAbort : Event challd Choice → Bool
  | .answer _ .abort _ _ => true
  | _ => false

/-- The event concerns one task only. -/
def DoublePanic.admits : DoublePanic → Event challd Choice → Bool
  | .abortsProcess, event => !isAbort event
  | .endsTask, _ => true

/-- The clean host on which the daemon starts. -/
def initialWorld : World where
  slots _ := false
  taker _ := 0
  eth42 := []
  nat := []
  peers := []
  containers := []
  cancelled := false

def initial : Daemon where
  phase := .accepting
  world := initialWorld
  tasks := []

/-- `TaskTracker::wait` returns when no tracked task is running. -/
def trackerEmpty (tasks : Tasks challd) : Bool :=
  tasks.all fun task => decide (task.role ≠ .request) || task.program.isEnded

inductive Step (panics : DoublePanic) (int : Interface) : Daemon → Action → Daemon → Prop
  | accept {daemon : Daemon} (hphase : daemon.phase = .accepting) :
      Step panics int daemon .accept
        { daemon with
          tasks := daemon.tasks ++ [⟨.connection, daemon.tasks.length, connection int⟩] }
  | signal {daemon : Daemon} (hphase : daemon.phase = .accepting) :
      Step panics int daemon .signal { daemon with phase := .interrupted }
  | cancel {daemon : Daemon} (hphase : daemon.phase = .interrupted) :
      Step panics int daemon .cancel
        { daemon with
          phase := .cancelled
          world := { daemon.world with cancelled := true } }
  | close {daemon : Daemon} (hphase : daemon.phase = .cancelled) :
      Step panics int daemon .close { daemon with phase := .closed }
  | wait {daemon : Daemon} (hphase : daemon.phase = .closed)
      (hempty : trackerEmpty daemon.tasks = true) :
      Step panics int daemon .wait { daemon with phase := .waited }
  | leave {daemon : Daemon} (hphase : daemon.phase = .waited) :
      Step panics int daemon .leave { daemon with phase := .returned }
  | abort {daemon : Daemon} {task origin : ℕ} {role : Role} {rest : Unit → Prog TaskResult}
      (hphase : daemon.phase.isOver = false) (hpanics : panics = .abortsProcess)
      (hat : daemon.tasks[task]? = some ⟨role, origin, .call (S := challd) .abort rest⟩) :
      Step panics int daemon .abort { daemon with phase := .aborted }
  | containerExit {daemon : Daemon} {id : ContainerId}
      (hphase : daemon.phase.isOver = false) (hrunning : daemon.world.isRunning id = true) :
      Step panics int daemon (.containerExit id)
        { daemon with world := daemon.world.setContainer id DockerContainer.exit }
  | task {daemon : Daemon} {event : Event challd Choice} {world : World}
      {tasks : Tasks challd} (hphase : daemon.phase.isOver = false)
      (hpanics : panics.admits event = true)
      (hstep : TaskPool.Step exec (daemon.world, daemon.tasks) event (world, tasks)) :
      Step panics int daemon (.task event) { daemon with world := world, tasks := tasks }

/-- Nothing happens any more once the process has returned or has been aborted. -/
theorem not_step_of_over {panics : DoublePanic} {int : Interface} {daemon next : Daemon}
    {action : Action} (hover : daemon.phase.isOver = true) :
    ¬ Step panics int daemon action next := by
  intro hstep
  cases hstep with
  | abort hphase | containerExit hphase | task hphase => cases hphase.symm.trans hover
  | _ hphase =>
      rw [hphase] at hover
      cases hover

/-- A run of the daemon from its start. -/
abbrev Runs (panics : DoublePanic) (int : Interface) (actions : List Action)
    (daemon : Daemon) : Prop :=
  Run (Step panics int) initial actions daemon

/-! ## Executing a schedule -/

inductive Move
  | accept
  | signal
  | cancel
  | close
  | wait
  | leave
  | abort (task : ℕ)
  | containerExit (id : ContainerId)
  | task (task : ℕ) (oracle : Oracle challd Choice)

def advance (panics : DoublePanic) (int : Interface) (move : Move) (daemon : Daemon) :
    Option (Action × Daemon) :=
  match move with
  | .accept =>
      if daemon.phase = .accepting then
        some (.accept,
          { daemon with
            tasks := daemon.tasks ++
              [⟨.connection, daemon.tasks.length, connection int⟩] })
      else none
  | .signal =>
      if daemon.phase = .accepting then
        some (.signal, { daemon with phase := .interrupted })
      else none
  | .cancel =>
      if daemon.phase = .interrupted then
        some (.cancel,
          { daemon with
            phase := .cancelled
            world := { daemon.world with cancelled := true } })
      else none
  | .close =>
      if daemon.phase = .cancelled then some (.close, { daemon with phase := .closed })
      else none
  | .wait =>
      if daemon.phase = .closed ∧ trackerEmpty daemon.tasks = true then
        some (.wait, { daemon with phase := .waited })
      else none
  | .leave =>
      if daemon.phase = .waited then some (.leave, { daemon with phase := .returned })
      else none
  | .abort task =>
      match daemon.tasks[task]? with
      | some ⟨_, _, .call .abort _⟩ =>
          if daemon.phase.isOver = false ∧ panics = .abortsProcess then
            some (.abort, { daemon with phase := .aborted })
          else none
      | _ => none
  | .containerExit id =>
      if daemon.phase.isOver = false ∧ daemon.world.isRunning id = true then
        some (.containerExit id,
          { daemon with world := daemon.world.setContainer id DockerContainer.exit })
      else none
  | .task task oracle =>
      if daemon.phase.isOver = false then
        match TaskPool.advance exec task oracle (daemon.world, daemon.tasks) with
        | some (event, world, tasks) =>
            if panics.admits event = true then
              some (.task event, { daemon with world := world, tasks := tasks })
            else none
        | none => none
      else none

variable {panics : DoublePanic} {int : Interface}

theorem step_of_advance {move : Move} {daemon next : Daemon} {action : Action}
    (hadvance : advance panics int move daemon = some (action, next)) :
    Step panics int daemon action next := by
  cases move with
  | task task oracle =>
      simp only [advance] at hadvance
      split at hadvance
      · rename_i hphase
        split at hadvance
        · rename_i event world tasks hpool
          split at hadvance
          · rename_i hpanics
            cases hadvance
            exact .task hphase hpanics (TaskPool.step_of_advance hpool)
          · cases hadvance
        · cases hadvance
      · cases hadvance
  | abort task =>
      simp only [advance] at hadvance
      split at hadvance
      · rename_i hat
        split at hadvance
        · rename_i hguard
          cases hadvance
          exact .abort hguard.1 hguard.2 hat
        · cases hadvance
      · cases hadvance
  | _ =>
      simp only [advance] at hadvance
      split at hadvance
      · rename_i hguard
        cases hadvance
        first
          | exact .accept hguard
          | exact .signal hguard
          | exact .cancel hguard
          | exact .close hguard
          | exact .wait hguard.1 hguard.2
          | exact .leave hguard
          | exact .containerExit hguard.1 hguard.2
      · cases hadvance

theorem exists_history (panics : DoublePanic) (int : Interface) (moves : List Move)
    (test : List Action → Daemon → Bool)
    (htest : (follow (advance panics int) moves initial).any
      (fun reached => test reached.1 reached.2) = true) :
    ∃ actions daemon, Runs panics int actions daemon ∧ test actions daemon = true :=
  exists_history_of_follow initial moves test (fun _ _ _ _ => step_of_advance) htest

theorem exists_run (panics : DoublePanic) (int : Interface) (moves : List Move)
    (test : Daemon → Bool)
    (htest : (follow (advance panics int) moves initial).any
      (fun reached => test reached.2) = true) :
    ∃ actions daemon, Runs panics int actions daemon ∧ test daemon = true :=
  exists_run_of_follow initial moves test (fun _ _ _ _ => step_of_advance) htest

theorem exists_restricted_run (panics : DoublePanic) (int : Interface)
    {condition : Daemon → Action → Prop} (check : Daemon → Action → Bool)
    (moves : List Move) (test : Daemon → Bool)
    (hcheck : ∀ daemon action, check daemon action = true → condition daemon action)
    (htest : (follow (checked check (advance panics int)) moves initial).any
      (fun reached => test reached.2) = true) :
    ∃ actions daemon, Run (restrict (Step panics int) condition) initial actions daemon ∧
      test daemon = true :=
  exists_run_of_follow initial moves test
    (restrict_of_checked hcheck fun _ _ _ _ => step_of_advance) htest

/-- Answers for the calls of a schedule in which nothing fails: what is read,
whether a slot is found in use, the id and the bridge address of the container,
the keys, and how the teardown is triggered and finds the container. -/
structure Script where
  byte : UInt8 := 0
  inUse : Bool := false
  container : ContainerId := 0
  bridge : BridgeAddr := ""
  keypair : Keypair := ⟨[1], [10]⟩
  trigger : Trigger := .sleep
  stop : StopResult := .ok

def Script.answer (script : Script) : Oracle challd Choice := fun call =>
  let choice : Choice := { bridge := script.bridge, stopped := false, watchBroken := false }
  match call with
  | .read count => some (some (List.replicate count script.byte), choice)
  | .write _ => some (true, choice)
  | .shutdownStream => some (true, choice)
  | .fetchOr _ => some (script.inUse, choice)
  | .store _ => some ((), choice)
  | .connectWithUnixDefaults => some (true, choice)
  | .connectWithUnix _ _ => some (true, choice)
  | .ipAddrAdd _ => some (true, choice)
  | .ipAddrDel _ => some (true, choice)
  | .createContainer _ => some (some script.container, choice)
  | .startContainer _ => some (true, choice)
  | .inspectContainer _ =>
      some (some ⟨some ⟨some [("bridge", ⟨some script.bridge⟩)]⟩⟩, choice)
  | .stopContainer _ => some (script.stop, choice)
  | .iptablesAppend _ => some (true, choice)
  | .iptablesDelete _ => some (true, choice)
  | .genKeypair => some (script.keypair, choice)
  | .configurePeer _ => some (true, choice)
  | .removePeer _ => some (true, choice)
  | .select _ _ => some (script.trigger, choice)
  | .abort => none

/-- Let a task take several steps, all its calls succeeding. -/
def Script.steps (script : Script) (count task : ℕ) : List Move :=
  List.replicate count (.task task script.answer)

/-- A guest connects as task `task`, passes over `occupied` slots, takes the
next one and hands it to its request, task `task + 1`. -/
def Script.connect (script : Script) (occupied task : ℕ) : List Move :=
  .accept :: script.steps 5 task ++ { script with inUse := true }.steps occupied task ++
    script.steps 2 task

/-- The request of a guest goes on until its peer is configured and its teardown
and its writer are spawned, as tasks `task + 2` and `task + 3`. -/
def Script.guest (script : Script) (occupied task : ℕ) : List Move :=
  script.connect occupied task ++ script.steps 10 (task + 1)

/-- The teardown of that guest, up to the store to its slot. -/
def Script.teardown (script : Script) (task : ℕ) : List Move :=
  script.steps 7 (task + 2)

end ScdtServer.Daemon
