import ScdtServer.Core.Liveness
import ScdtServer.Challd.Shutdown
import ScdtServer.Challd.Records

/-!
# The daemon finishes what it has begun

Only new connections keep the daemon busy: between two of them it takes finitely
many steps, whatever its calls are answered.  A request waits only for the
teardown it has spawned, so that as long as some task has not ended some task can
go on.  Hence the process ends once the signal has come, and without new
connections every task ends.  A shutdown that does not reach Docker aborts the
process; otherwise `main` returns.  When no call fails, everything that was
acquired has been given back by then.

Every call that is pending is answered in the end, in one way or another.  A client
that neither sends nor hangs up keeps its connection task from ending for as long
as it stays, and nobody else.
-/

namespace ScdtServer.Completion

open Function Relation
open ScdtServer.Interaction ScdtServer.Interaction.Program
open ScdtServer.TaskPool ScdtServer.Transition ScdtServer.Liveness
open ScdtServer.Host ScdtServer.Interface ScdtServer.Main ScdtServer.Daemon
open ScdtServer.Holdings ScdtServer.TaskSpecs ScdtServer.Invariant ScdtServer.Accounting
open ScdtServer.Soundness ScdtServer.Leaks ScdtServer.Shutdown
open ScdtServer.Records (Filed filed_of_run)

variable {panics : DoublePanic} {int : Interface} {actions : List Action}
variable {daemon next : Daemon} {action : Action} {ghosts : ℕ → Held}

/-! ## Steps run out -/

/-- The steps that `main` has still to take. -/
def remaining : Phase → ℕ
  | .accepting => 5
  | .interrupted => 4
  | .cancelled => 3
  | .closed => 2
  | .waited => 1
  | .returned => 0
  | .aborted => 0

def isUp (container : DockerContainer) : Bool := decide (container.status = .running)

/-- What is left to do: by the tasks, then by `main`, then by the containers. -/
def weight (daemon : Daemon) : Multiset (Prog TaskResult) × ℕ × ℕ :=
  (programs daemon.tasks, remaining daemon.phase, daemon.world.containers.countP isUp)

abbrev Lighter :
    Multiset (Prog TaskResult) × ℕ × ℕ → Multiset (Prog TaskResult) × ℕ × ℕ → Prop :=
  Prod.Lex (CutExpand (@Unfolds challd)) (Prod.Lex (· < ·) (· < ·))

theorem wellFounded_lighter : WellFounded Lighter :=
  WellFounded.prod_lex wellFounded_unfolds.cutExpand
    (WellFounded.prod_lex wellFounded_lt wellFounded_lt)

theorem countP_modify_exit {containers : List DockerContainer} {id : ContainerId}
    {container : DockerContainer} (hat : containers[id]? = some container)
    (hup : isUp container = true) :
    (containers.modify id DockerContainer.exit).countP isUp < containers.countP isUp := by
  induction containers generalizing id with
  | nil => cases hat
  | cons first rest ih =>
      cases id with
      | zero =>
          obtain rfl : first = container := by simpa using hat
          have hdown : isUp first.exit = false := rfl
          simp [hup, hdown]
      | succ id =>
          have hrest : rest[id]? = some container := by simpa using hat
          rw [List.modify_succ_cons, List.countP_cons, List.countP_cons]
          exact Nat.add_lt_add_right (ih hrest) _

/-- A container that exits is one container less that runs. -/
theorem countP_containerExit {world : World} {id : ContainerId}
    (hrunning : world.isRunning id = true) :
    (world.setContainer id DockerContainer.exit).containers.countP isUp <
      world.containers.countP isUp := by
  unfold World.isRunning at hrunning
  split at hrunning
  · rename_i container hat
    exact countP_modify_exit hat hrunning
  · cases hrunning

/-- Whoever is not done has steps of `main` left. -/
theorem remaining_pos {phase : Phase} (hphase : phase.isOver = false) : 0 < remaining phase := by
  cases phase with
  | returned => cases hphase
  | aborted => cases hphase
  | _ => decide

theorem lighter_of_step (hstep : Daemon.Step panics int daemon action next)
    (haction : action ≠ .accept) : Lighter (weight next) (weight daemon) := by
  have hmain : ∀ {phase : Phase} {cancelled : Bool}, remaining phase < remaining daemon.phase →
      Lighter
        (weight
          { daemon with
            phase := phase
            world := { daemon.world with cancelled := cancelled } })
        (weight daemon) :=
    fun hphase => .right _ (.left _ _ hphase)
  cases hstep with
  | accept hphase => exact absurd rfl haction
  | signal hphase => exact hmain (by rw [hphase]; decide)
  | cancel hphase => exact hmain (by rw [hphase]; decide)
  | close hphase => exact hmain (by rw [hphase]; decide)
  | wait hphase hempty => exact hmain (by rw [hphase]; decide)
  | leave hphase => exact hmain (by rw [hphase]; decide)
  | abort hphase hpanics hat => exact .right _ (.left _ _ (remaining_pos hphase))
  | containerExit hphase hrunning => exact .right _ (.right _ (countP_containerExit hrunning))
  | task hphase hpanics hpool => exact .left _ _ (cutExpand_of_step hpool)

/-- Without new connections the daemon comes to a halt. -/
theorem wellFounded_step :
    WellFounded fun after before => ∃ action, action ≠ .accept ∧
      Daemon.Step panics int before action after := by
  apply Subrelation.wf _ (InvImage.wf weight wellFounded_lighter)
  rintro after before ⟨action, haction, hstep⟩
  exact lighter_of_step hstep haction

/-! ## Somebody can go on -/

theorem exists_after (call : Call) (answer : Answer call) (held : Held) :
    ∃ held', after call answer held held' := by
  have hlost : Failed held { held with lost := true } := .inl rfl
  cases call with
  | stopContainer id => exact ⟨_, .inl rfl⟩
  | connectWithUnix addr timeout =>
      cases answer with
      | true => exact ⟨_, rfl⟩
      | false => exact ⟨_, .inl rfl⟩
  | read _ | write _ | shutdownStream | store _ | genKeypair | select _ _ | abort =>
      exact ⟨_, rfl⟩
  | _ =>
      simp only [after]
      split
      · exact ⟨_, rfl⟩
      · first
          | exact ⟨_, rfl⟩
          | exact ⟨_, hlost⟩

theorem waitsForSpawned : WaitsForSpawned rules where
  answered call answer held _ := by
    obtain ⟨held', hafter⟩ := exists_after call answer held
    exact ⟨held', hafter, (after_frame hafter).2⟩
  given role held hspawnable := by
    cases role <;> rfl
  kept role held task awaited hspawnable hwaits := by
    cases role with
    | connection => cases hspawnable
    | request => cases hwaits
    | teardown => exact .inl (Option.some.inj hwaits).symm
    | writer => exact .inr hwaits
  joined _ := rfl

/-- In every run each waiting task waits for a later one. -/
theorem orderly_of_run (hrun : Runs panics int actions daemon) :
    ∃ ghosts, Orderly rules daemon.tasks ghosts := by
  apply Run.invariant (fun daemon => ∃ ghosts, Orderly rules daemon.tasks ghosts) _ _ hrun
  · refine ⟨fun _ => .bare .connection, ?_, ?_⟩
    · intro task entry hat
      cases hat
    · intro task awaited hlt
      cases hlt
  · rintro before action after ⟨ghosts, horderly⟩ hstep
    cases hstep with
    | accept hphase => exact ⟨_, horderly.concat (wp_connection int) rfl⟩
    | task hphase hpanics hpool => exact horderly.step waitsForSpawned hpool
    | _ => exact ⟨ghosts, horderly⟩

/-- Every call can be answered somehow: commands can fail, but Docker can be reached to
shut down, and time passes. -/
theorem exists_answer (world : World) (origin : ℕ) (call : Call) :
    ∃ answer choice world', (severs call && failed call answer) = false ∧
      exec world origin call answer choice = some world' := by
  let choice : Choice := { bridge := "", stopped := false, watchBroken := false }
  cases call with
  | read _ | createContainer _ | inspectContainer _ => exact ⟨none, choice, world, rfl, rfl⟩
  | fetchOr slot =>
      refine ⟨world.slots slot, choice, ?_⟩
      simp [exec, severs]
  | store slot => exact ⟨(), choice, _, rfl, rfl⟩
  | genKeypair => exact ⟨⟨[], []⟩, choice, world, rfl, rfl⟩
  | stopContainer id => exact ⟨.ok, choice, _, rfl, rfl⟩
  | select duration watched => exact ⟨.sleep, choice, world, rfl, rfl⟩
  | connectWithUnix addr timeout => exact ⟨true, choice, world, rfl, rfl⟩
  | abort => exact ⟨(), choice, world, rfl, rfl⟩
  | _ => exact ⟨false, choice, world, rfl, rfl⟩

theorem not_abort_of_ne {call : Call} {answer : Answer call} {choice : Choice} {task : ℕ}
    (hcall : call ≠ .abort) : isAbort (.answer task call answer choice) = false := by
  cases call with
  | abort => exact absurd rfl hcall
  | _ => rfl

/-- Other answers than those to `abort` are given in either kind of daemon. -/
theorem admits_of_not_abort {event : Event challd Choice} (hevent : isAbort event = false) :
    panics.admits event = true := by
  cases panics with
  | endsTask => rfl
  | abortsProcess => rw [DoublePanic.admits, hevent, Bool.not_false]

/-- As long as a task has not ended, one can go on, without a shutdown that does not
reach Docker, or abort the process. -/
theorem exists_taskStep (hrun : Runs panics int actions daemon)
    (hphase : daemon.phase.isOver = false)
    (hactive : ∃ entry ∈ daemon.tasks, entry.program.isEnded = false) :
    (∃ next, Daemon.Step panics int daemon .abort next) ∨
      ∃ event next, severedAction (.task event) = false ∧
        Daemon.Step panics int daemon (.task event) next := by
  obtain ⟨ghosts, horderly⟩ := orderly_of_run hrun
  obtain ⟨task, ⟨role, origin, program⟩, hready⟩ := horderly.exists_ready hactive
  by_cases haborts : panics = .abortsProcess ∧
      ∃ rest, program = .call (S := challd) .abort rest
  · obtain ⟨hpanics, rest, rfl⟩ := haborts
    exact .inl ⟨_, .abort hphase hpanics hready.at_task⟩
  · right
    have hstep : ∃ event after,
        (severedAction (.task event) = false ∧ panics.admits event = true) ∧
          TaskPool.Step exec (daemon.world, daemon.tasks) event after := by
      apply hready.step fun event =>
        severedAction (.task event) = false ∧ panics.admits event = true
      · exact ⟨rfl, admits_of_not_abort rfl⟩
      · exact ⟨rfl, admits_of_not_abort rfl⟩
      · intro call rest hcall
        obtain ⟨answer, choice, world', hreached, hexec⟩ :=
          exists_answer daemon.world origin call
        refine ⟨answer, choice, world', ⟨hreached, ?_⟩, hexec⟩
        cases panics with
        | endsTask => rfl
        | abortsProcess =>
            apply admits_of_not_abort
            apply not_abort_of_ne
            rintro rfl
            exact haborts ⟨rfl, rest, hcall⟩
    obtain ⟨event, ⟨world, tasks⟩, ⟨hreached, hpanics⟩, hstep⟩ := hstep
    exact ⟨event, _, hreached, .task hphase hpanics hstep⟩

/-- `main` can go on, or it waits for tasks that can. -/
theorem exists_step (hrun : Runs panics int actions daemon)
    (hphase : daemon.phase.isOver = false) :
    (∃ next, Daemon.Step panics int daemon .abort next) ∨
      ∃ action next, severedAction action = false ∧
        Daemon.Step panics int daemon action next := by
  cases hcase : daemon.phase with
  | accepting => exact .inr ⟨_, _, rfl, .signal hcase⟩
  | interrupted => exact .inr ⟨_, _, rfl, .cancel hcase⟩
  | cancelled => exact .inr ⟨_, _, rfl, .close hcase⟩
  | closed =>
      by_cases hempty : trackerEmpty daemon.tasks = true
      · exact .inr ⟨_, _, rfl, .wait hcase hempty⟩
      · have hactive : ∃ entry ∈ daemon.tasks, entry.program.isEnded = false := by
          simp only [trackerEmpty, List.all_eq_true, not_forall] at hempty
          obtain ⟨entry, hmem, hentry⟩ := hempty
          refine ⟨entry, hmem, ?_⟩
          simp only [Bool.or_eq_true, not_or] at hentry
          exact Bool.eq_false_of_not_eq_true hentry.2
        rcases exists_taskStep hrun hphase hactive with haborts | ⟨event, next, hreached, hstep⟩
        · exact .inl haborts
        · exact .inr ⟨_, next, hreached, hstep⟩
  | waited => exact .inr ⟨_, _, rfl, .leave hcase⟩
  | returned => simp [hcase, Phase.isOver] at hphase
  | aborted => simp [hcase, Phase.isOver] at hphase

/-! ## The ends -/

/-- Once the signal has come nobody is accepted any more. -/
theorem not_accepting_step (hphase : daemon.phase ≠ .accepting)
    (hstep : Daemon.Step panics int daemon action next) :
    action ≠ .accept ∧ next.phase ≠ .accepting := by
  cases hstep with
  | accept haccepting => exact absurd haccepting hphase
  | signal haccepting => exact absurd haccepting hphase
  | task _ _ => exact ⟨by simp, hphase⟩
  | containerExit _ _ => exact ⟨by simp, hphase⟩
  | _ => exact ⟨by simp, by simp⟩

theorem not_accepting_of_signal (hrun : Runs panics int actions daemon)
    (hsignal : .signal ∈ actions) : daemon.phase ≠ .accepting := by
  revert hsignal
  apply Run.history (fun actions daemon => .signal ∈ actions → daemon.phase ≠ .accepting) _ _ hrun
  · intro hsignal
    cases hsignal
  · intro labels before label after hbefore hstep hsignal
    rcases List.mem_append.mp hsignal with hold | hnew
    · exact (not_accepting_step (hbefore hold) hstep).2
    · obtain rfl := List.mem_singleton.mp hnew
      cases hstep with
      | signal hphase => simp

/-- As long as shutdowns reach Docker nobody aborts the process. -/
theorem not_abort_step (hsound : Sound daemon ghosts) (hunsevered : Unsevered ghosts) :
    ¬ Daemon.Step panics int daemon .abort next := by
  intro hstep
  cases hstep with
  | @abort task _ _ _ hphase hpanics hat =>
      have hsevered : (ghosts task).severed = true := hsound.guarded.pre hat
      rw [hunsevered task] at hsevered
      cases hsevered

theorem not_aborted_step (hsound : Sound daemon ghosts) (hunsevered : Unsevered ghosts)
    (hphase : daemon.phase ≠ .aborted) (hstep : Daemon.Step panics int daemon action next) :
    next.phase ≠ .aborted := by
  cases hstep with
  | abort hgoing hpanics hat =>
      have habort : Daemon.Step panics int daemon .abort { daemon with phase := .aborted } :=
        .abort hgoing hpanics hat
      exact absurd habort (not_abort_step hsound hunsevered)
  | accept hgoing => exact hphase
  | containerExit hgoing hrunning => exact hphase
  | task hgoing hpanics hpool => exact hphase
  | _ => exact nofun

theorem unsevered_of_run
    (hrun : Run (restrict (Daemon.Step panics int) fun _ action => severedAction action = false)
      initial actions daemon) :
    daemon.phase ≠ .aborted ∧ ∃ ghosts, Sound daemon ghosts ∧ Unsevered ghosts := by
  apply Run.invariant (fun daemon : Daemon => daemon.phase ≠ .aborted ∧
    ∃ ghosts, Sound daemon ghosts ∧ Unsevered ghosts) _ _ hrun
  · exact ⟨nofun, _, sound_initial, fun _ => rfl⟩
  · rintro before action after ⟨hphase, ghosts, hsound, hunsevered⟩ ⟨hstep, hreached⟩
    obtain ⟨ghosts', hnext⟩ := hsound.step hstep
    exact ⟨not_aborted_step hsound hunsevered hphase hstep, ghosts', hnext.sound,
      hnext.unsevered hreached hunsevered⟩

theorem isOver_eq_false (hreturned : daemon.phase ≠ .returned)
    (haborted : daemon.phase ≠ .aborted) : daemon.phase.isOver = false := by
  cases hcase : daemon.phase with
  | returned => exact absurd hcase hreturned
  | aborted => exact absurd hcase haborted
  | _ => rfl

/-- Once the signal has come the process ends. -/
theorem process_ends (hrun : Runs panics int actions daemon) (hsignal : .signal ∈ actions) :
    Inevitable (Daemon.Step panics int)
      (fun daemon => daemon.phase = .returned ∨ daemon.phase = .aborted) daemon := by
  apply inevitable_of_wellFounded fun daemon : Daemon =>
    daemon.phase ≠ .accepting ∧ ∃ actions, Runs panics int actions daemon
  · rintro before label after ⟨hphase, labels, hbefore⟩ hstep
    exact ⟨(not_accepting_step hphase hstep).2, _, hbefore.snoc hstep⟩
  · apply Subrelation.wf _ (@wellFounded_step panics int)
    rintro after before ⟨⟨hphase, -⟩, label, hstep⟩
    exact ⟨label, (not_accepting_step hphase hstep).1, hstep⟩
  · rintro state ⟨-, labels, hstate⟩ hgoing
    rw [not_or] at hgoing
    rcases exists_step hstate (isOver_eq_false hgoing.1 hgoing.2) with
      ⟨next, hstep⟩ | ⟨label, next, -, hstep⟩
    · exact ⟨_, next, hstep⟩
    · exact ⟨label, next, hstep⟩
  · exact ⟨not_accepting_of_signal hrun hsignal, actions, hrun⟩

/-- Once the signal has come the process ends, whatever fails and whoever is served
meanwhile; and as long as shutdowns reach Docker, it is `main` that returns. -/
theorem main_returns (hrun : Runs panics int actions daemon) (hsignal : .signal ∈ actions) :
    Inevitable (Daemon.Step panics int)
        (fun daemon => daemon.phase = .returned ∨ daemon.phase = .aborted) daemon ∧
      ((∀ action ∈ actions, severedAction action = false) →
        Inevitable
          (restrict (Daemon.Step panics int) fun _ action => severedAction action = false)
          (fun daemon => daemon.phase = .returned) daemon) := by
  refine ⟨process_ends hrun hsignal, fun hreached => ?_⟩
  apply inevitable_of_wellFounded fun daemon : Daemon => daemon.phase ≠ .accepting ∧
    ∃ actions, Run (restrict (Daemon.Step panics int) fun _ action =>
      severedAction action = false) initial actions daemon
  · rintro before label after ⟨hphase, labels, hbefore⟩ hstep
    exact ⟨(not_accepting_step hphase hstep.1).2, _, hbefore.snoc hstep⟩
  · apply Subrelation.wf _ (@wellFounded_step panics int)
    rintro after before ⟨⟨hphase, -⟩, label, hstep⟩
    exact ⟨label, (not_accepting_step hphase hstep.1).1, hstep.1⟩
  · rintro state ⟨-, labels, hstate⟩ hreturned
    obtain ⟨haborted, ghosts, hsound, hunsevered⟩ := unsevered_of_run hstate
    rcases exists_step hstate.unrestrict (isOver_eq_false hreturned haborted) with
      ⟨next, hstep⟩ | ⟨label, next, hlabel, hstep⟩
    · exact absurd hstep (not_abort_step hsound hunsevered)
    · exact ⟨label, next, hstep, hlabel⟩
  · exact ⟨not_accepting_of_signal hrun hsignal, actions, hrun.restrict_labels hreached⟩

/-- A guest is up when the signal arrives. -/
def guestThenSignal : List Move := Script.guest {} 0 0 ++ [.signal]

def isSignal : Action → Bool
  | .signal => true
  | _ => false

theorem signal_mem (hsignal : actions.any isSignal = true) : .signal ∈ actions := by
  obtain ⟨action, hmem, hsignal⟩ := List.any_eq_true.mp hsignal
  cases action with
  | signal => exact hmem
  | _ => cases hsignal

theorem main_returns_guestThenSignal : ∃ actions daemon,
    Runs .abortsProcess ⟨""⟩ actions daemon ∧ daemon.world.isRunning 0 = true ∧
      Inevitable
        (restrict (Daemon.Step .abortsProcess ⟨""⟩) fun _ action =>
          severedAction action = false)
        (fun daemon => daemon.phase = .returned) daemon := by
  rcases exists_history .abortsProcess ⟨""⟩ guestThenSignal
    (fun actions daemon => (actions.any isSignal &&
      actions.all fun action => !severedAction action) && daemon.world.isRunning 0)
    (by rfl) with ⟨actions, daemon, hrun, htest⟩
  simp only [Bool.and_eq_true, List.all_eq_true, Bool.not_eq_true'] at htest
  obtain ⟨⟨hsignal, hreached⟩, hrunning⟩ := htest
  exact ⟨actions, daemon, hrun, hrunning, (main_returns hrun (signal_mem hsignal)).2 hreached⟩

/-- Two guests are up when the signal arrives.  The teardown of the first removes its
peer and does not reach Docker. -/
def socketMissing : List Move :=
  Script.guest {} 0 0 ++
    Script.guest { container := 1, bridge := "172.17.0.3", keypair := ⟨[2], [20]⟩ } 1 4 ++
    [.signal, .cancel] ++ Script.steps { trigger := .cancelled } 2 2 ++
    [.task 2 (fun call =>
      match call with
      | .connectWithUnix _ _ => some (false, ⟨"", false, false⟩)
      | _ => none), .abort 2]

/-- That aborts the process for good, with the container of the other guest running. -/
theorem aborted_while_running : ∃ actions daemon,
    Runs .abortsProcess ⟨""⟩ actions daemon ∧ .signal ∈ actions ∧
      daemon.world.isRunning 1 = true ∧ daemon.phase = .aborted ∧
        ∀ action next, ¬ Daemon.Step .abortsProcess ⟨""⟩ daemon action next := by
  rcases exists_history .abortsProcess ⟨""⟩ socketMissing
    (fun actions daemon => actions.any isSignal &&
      (decide (daemon.phase = .aborted) && daemon.world.isRunning 1)) (by rfl) with
    ⟨actions, daemon, hrun, htest⟩
  simp only [Bool.and_eq_true, decide_eq_true_eq] at htest
  obtain ⟨hsignal, haborted, hrunning⟩ := htest
  exact ⟨actions, daemon, hrun, signal_mem hsignal, hrunning, haborted, fun action next =>
    not_step_of_over (by rw [haborted]; rfl)⟩

/-- Without new connections every task ends, unless `main` returns or the process is
aborted first. -/
theorem tasks_end (hrun : Runs panics int actions daemon) :
    Inevitable (restrict (Daemon.Step panics int) fun _ action => action ≠ .accept)
      (fun daemon => daemon.phase = .returned ∨ daemon.phase = .aborted ∨
        ∀ entry ∈ daemon.tasks, entry.program.isEnded = true) daemon := by
  apply inevitable_of_wellFounded fun daemon => ∃ actions, Runs panics int actions daemon
  · rintro before label after ⟨labels, hbefore⟩ hstep
    exact ⟨_, hbefore.snoc hstep.1⟩
  · apply Subrelation.wf _ (@wellFounded_step panics int)
    rintro after before ⟨-, label, hstep⟩
    exact ⟨label, hstep.2, hstep.1⟩
  · rintro state ⟨labels, hstate⟩ hgoing
    rw [not_or, not_or] at hgoing
    obtain ⟨hreturned, haborted, hgoing⟩ := hgoing
    have hactive : ∃ entry ∈ state.tasks, entry.program.isEnded = false := by
      simpa using hgoing
    rcases exists_taskStep hstate (isOver_eq_false hreturned haborted) hactive with
      ⟨next, hstep⟩ | ⟨event, next, -, hstep⟩
    · exact ⟨_, next, hstep, by simp⟩
    · exact ⟨_, next, hstep, by simp⟩
  · exact ⟨actions, hrun⟩

theorem tasks_end_guest : ∃ actions daemon,
    Runs .abortsProcess ⟨""⟩ actions daemon ∧ daemon.world.isRunning 0 = true ∧
      Inevitable (restrict (Daemon.Step .abortsProcess ⟨""⟩) fun _ action => action ≠ .accept)
        (fun daemon => daemon.phase = .returned ∨ daemon.phase = .aborted ∨
          ∀ entry ∈ daemon.tasks, entry.program.isEnded = true) daemon := by
  rcases exists_run .abortsProcess ⟨""⟩ (Script.guest {} 0 0)
    (fun daemon => daemon.world.isRunning 0) (by rfl) with ⟨actions, daemon, hrun, htest⟩
  exact ⟨actions, daemon, hrun, htest, tasks_end hrun⟩

/-! ## Everything is given back -/

variable {errands : ℕ → Errands.Errand} {task origin : ℕ} {role : Role}

/-- Whatever a task is about to do can succeed. -/
theorem exists_success {call : Call} {rest : Answer call → Prog TaskResult}
    (hsound : Sound daemon ghosts) (hunsevered : Unsevered ghosts)
    (hfiled : Filed int actions daemon errands)
    (hat : daemon.tasks[task]? = some ⟨role, origin, .call (S := challd) call rest⟩) :
    call ≠ .abort ∧ ∃ answer choice world, failed call answer = false ∧
      exec daemon.world origin call answer choice = some world := by
  have hcall : call ≠ .abort := by
    rintro rfl
    have hsevered : (ghosts task).severed = true := hsound.guarded.pre hat
    rw [hunsevered task] at hsevered
    cases hsevered
  refine ⟨hcall, ?_⟩
  let choice : Choice := { bridge := "", stopped := false, watchBroken := false }
  have hpre : pre call (ghosts task) := hsound.guarded.pre hat
  have herrand : Errands.pre int call (errands task) := hfiled.guarded.pre hat
  cases call with
  | read _ | write _ | shutdownStream | fetchOr _ | store _ | genKeypair | select _ _ =>
      obtain ⟨answer, choice, world, -, hexec⟩ := exists_answer daemon.world origin _
      exact ⟨answer, choice, world, rfl, hexec⟩
  | abort => exact absurd rfl hcall
  | connectWithUnixDefaults | connectWithUnix _ _ | iptablesAppend _ | configurePeer _
  | removePeer _ =>
      exact ⟨true, choice, _, rfl, rfl⟩
  | stopContainer id => exact ⟨.ok, choice, _, rfl, rfl⟩
  | createContainer body =>
      exact ⟨some daemon.world.containers.length, choice, _, rfl, if_pos rfl⟩
  | ipAddrAdd addr =>
      have habsent : addr ∉ daemon.world.eth42 := by
        intro hpresent
        obtain ⟨holder, heth, haddr⟩ := holder_of_eth hsound.inv hpresent
        obtain rfl : holder = task := hsound.inv.same_task haddr hpre.2.2
        cases hpre.2.1.symm.trans heth
      refine ⟨true, choice, { daemon.world with eth42 := addr :: daemon.world.eth42 }, rfl, ?_⟩
      rw [exec, if_pos rfl, if_neg habsent]
  | ipAddrDel addr =>
      refine ⟨true, choice,
        { daemon.world with eth42 := daemon.world.eth42.erase addr }, rfl, ?_⟩
      rw [exec, if_pos rfl, if_pos (hsound.inv.eth.present task addr hpre.1)]
  | iptablesDelete rule =>
      refine ⟨true, choice, { daemon.world with nat := daemon.world.nat.erase rule }, rfl, ?_⟩
      rw [exec, if_pos rfl, if_pos (hsound.inv.nat.present task rule hpre.1)]
  | startContainer id =>
      obtain ⟨hsilent, hid, hstarted⟩ := herrand
      obtain ⟨container, hcontainer, -, hstatus, -⟩ :=
        (hfiled.agrees task hsilent.pen).container id hid
      refine ⟨true, choice, daemon.world.setContainer id fun container =>
        { container with status := .running, bridge := some "" }, rfl, ?_⟩
      simp only [exec, if_true, hcontainer, if_pos (hstatus.mpr hstarted), choice]
  | inspectContainer id =>
      obtain ⟨hpen, hid, hstarted⟩ := herrand
      obtain ⟨container, hcontainer, -, -, hbridge, -⟩ :=
        (hfiled.agrees task hpen).container id hid
      obtain ⟨bridge, hbridge⟩ := Option.isSome_iff_exists.mp (hbridge hstarted)
      refine ⟨some ⟨some ⟨some [("bridge", ⟨some bridge⟩)]⟩⟩, choice, daemon.world, rfl, ?_⟩
      have hfound : (⟨some ⟨some [("bridge", ⟨some bridge⟩)]⟩⟩ :
          ContainerInspectResponse).bridgeAddr = container.bridge := by
        rw [hbridge]
        rfl
      simp only [exec, hcontainer]
      exact if_pos (.inr hfound)

theorem sound_of_success
    (hrun : Run (restrict (Daemon.Step panics int) fun _ action => failedAction action = false)
      initial actions daemon) :
    daemon.phase ≠ .aborted ∧
      ∃ ghosts, Sound daemon ghosts ∧ Unlost ghosts ∧ Awake ghosts ∧ Unsevered ghosts := by
  apply Run.invariant (fun daemon : Daemon => daemon.phase ≠ .aborted ∧
    ∃ ghosts, Sound daemon ghosts ∧ Unlost ghosts ∧ Awake ghosts ∧ Unsevered ghosts) _ _ hrun
  · exact ⟨nofun, _, sound_initial, fun _ => rfl, fun _ => rfl, fun _ => rfl⟩
  · rintro before action after ⟨hphase, ghosts, hsound, hunlost, hawake, hunsevered⟩
      ⟨hstep, hsucceeded⟩
    obtain ⟨ghosts', hnext⟩ := hsound.step hstep
    have hharmless : ¬ HarmfulAction before action := by
      intro hharmful
      rw [failed_of_harmful hharmful] at hsucceeded
      cases hsucceeded
    exact ⟨not_aborted_step hsound hunsevered hphase hstep, ghosts', hnext.sound,
      hnext.unlost hharmless hunlost, hnext.awake hsucceeded hawake,
      hnext.unsevered (severed_of_succeeded hsucceeded) hunsevered⟩

/-- All tasks have ended, and the host is as it was, but for the containers that
are down. -/
structure AtRest (daemon : Daemon) : Prop where
  ended : ∀ entry ∈ daemon.tasks, entry.program.isEnded = true
  slots : ∀ slot, daemon.world.slots slot = false
  host : Complete daemon.world

theorem atRest_of_ended (hsound : Sound daemon ghosts) (hunlost : Unlost ghosts)
    (hawake : Awake ghosts) (hended : ∀ entry ∈ daemon.tasks, entry.program.isEnded = true) :
    AtRest daemon where
  ended := hended
  slots slot := by
    by_contra hused
    obtain ⟨task, entry, hat, -, -, hactive⟩ :=
      (noLeak_of_sound hsound hunlost).slots slot (by simpa using hused)
    rw [hended entry (List.mem_of_getElem? hat)] at hactive
    cases hactive
  host := by
    apply complete_of_quiet hsound hunlost hawake
    exact fun task entry hat _ => hended entry (List.mem_of_getElem? hat)

/-- As long as no call fails and no new connections come, everything that has been
acquired is given back, unless `main` returns first.  Each pending call is answered in
the end: a client that falls silent in the middle of its request is waited for. -/
theorem everything_given_back
    (hrun : Run (restrict (Daemon.Step panics int) fun _ action => failedAction action = false)
      initial actions daemon) :
    Inevitable
      (restrict (Daemon.Step panics int) fun _ action =>
        action ≠ .accept ∧ failedAction action = false)
      (fun daemon => daemon.phase = .returned ∨ AtRest daemon) daemon := by
  apply inevitable_of_wellFounded fun daemon => ∃ actions,
    Run (restrict (Daemon.Step panics int) fun _ action => failedAction action = false)
      initial actions daemon
  · rintro before label after ⟨labels, hbefore⟩ hstep
    exact ⟨_, hbefore.snoc ⟨hstep.1, hstep.2.2⟩⟩
  · apply Subrelation.wf _ (@wellFounded_step panics int)
    rintro after before ⟨-, label, hstep⟩
    exact ⟨label, hstep.2.1, hstep.1⟩
  · rintro state ⟨labels, hstate⟩ hgoing
    rw [not_or] at hgoing
    obtain ⟨haborted, ghosts, hsound, hunlost, hawake, hunsevered⟩ :=
      sound_of_success hstate
    obtain ⟨errands, hfiled⟩ := filed_of_run hstate.unrestrict
    obtain ⟨waits, horderly⟩ := orderly_of_run hstate.unrestrict
    have hactive : ∃ entry ∈ state.tasks, entry.program.isEnded = false := by
      by_contra hnone
      apply hgoing.2 (atRest_of_ended hsound hunlost hawake _)
      intro entry hmem
      by_contra hentry
      exact hnone ⟨entry, hmem, by simpa using hentry⟩
    obtain ⟨task, ⟨role, origin, program⟩, hready⟩ := horderly.exists_ready hactive
    have hstep : ∃ event after,
        (failedAction (.task event) = false ∧ isAbort event = false) ∧
          TaskPool.Step exec (state.world, state.tasks) event after := by
      apply hready.step fun event =>
        failedAction (.task event) = false ∧ isAbort event = false
      · exact ⟨rfl, rfl⟩
      · exact ⟨rfl, rfl⟩
      · rintro call next hcall
        have hat := hready.at_task
        obtain rfl : program = .call call next := hcall
        obtain ⟨hother, answer, choice, world, hsucceeded, hexec⟩ :=
          exists_success hsound hunsevered hfiled hat
        exact ⟨answer, choice, world, ⟨hsucceeded, not_abort_of_ne hother⟩, hexec⟩
    obtain ⟨event, ⟨world, tasks⟩, ⟨hsucceeded, hevent⟩, hstep⟩ := hstep
    exact ⟨_, _, .task (isOver_eq_false hgoing.1 haborted) (admits_of_not_abort hevent) hstep,
      by simp, hsucceeded⟩
  · exact ⟨actions, hrun⟩

theorem everything_given_back_guest : ∃ actions daemon,
    Runs .abortsProcess ⟨""⟩ actions daemon ∧ daemon.world.isRunning 0 = true ∧
      Inevitable
        (restrict (Daemon.Step .abortsProcess ⟨""⟩) fun _ action =>
          action ≠ .accept ∧ failedAction action = false)
        (fun daemon => daemon.phase = .returned ∨ AtRest daemon) daemon := by
  rcases exists_restricted_run .abortsProcess ⟨""⟩ (fun _ action => !failedAction action)
    (Script.guest {} 0 0) (fun daemon => daemon.world.isRunning 0)
    (fun _ action hcheck => by simpa using hcheck) (by rfl) with ⟨actions, daemon, hrun, htest⟩
  exact ⟨actions, daemon, hrun.unrestrict, htest, everything_given_back hrun⟩

end ScdtServer.Completion
