import ScdtServer.Challd.Leaks

/-!
# Graceful shutdown

`main` waits for the tracked request tasks before it returns.  A connection
task is not tracked: a request that it spawns only after that wait can leave a
container behind.  Everything is gone when the wait is over, and unless such a late
request changes the host, also when `main` returns.
-/

namespace ScdtServer.Shutdown

open ScdtServer.Interaction ScdtServer.Interaction.Program
open ScdtServer.TaskPool ScdtServer.Transition
open ScdtServer.Host ScdtServer.Interface ScdtServer.Daemon
open ScdtServer.Holdings ScdtServer.Invariant ScdtServer.Accounting ScdtServer.Soundness
open ScdtServer.Leaks

/-- Nothing that a request brought about is left on the host. -/
structure Complete (world : World) : Prop where
  containers : ∀ (id : ContainerId) (container : DockerContainer),
    world.containers[id]? = some container →
      container.status = .exited ∨ container.status = .stopped
  peers : world.peers = []
  nat : world.nat = []
  eth : world.eth42 = []

/-- The calls by which a request puts something on the host. -/
def adds : Host.Call → Bool
  | .ipAddrAdd _ | .createContainer _ | .startContainer _ | .iptablesAppend _
  | .configurePeer _ => true
  | _ => false

/-- Between the end of the wait and the return of `main`, a request puts something
on the host. -/
def LateRequest (daemon : Daemon) : Action → Prop
  | .task (.answer _ request _ _) => daemon.phase = .waited ∧ adds request = true
  | _ => False

/-- No request and no teardown is active. -/
def Quiet (daemon : Daemon) : Prop :=
  ∀ (task : ℕ) (entry : TaskPool.Task challd), daemon.tasks[task]? = some entry →
    entry.role = .request ∨ entry.role = .teardown → entry.program.isEnded = true

/-- Once the wait is over, nothing is left on the host. -/
def CompleteOnceWaited (daemon : Daemon) : Prop :=
  daemon.phase = .waited ∨ daemon.phase = .returned → Complete daemon.world

variable {panics : DoublePanic} {int : Interface} {actions : List Action}
variable {daemon next : Daemon} {action : Action} {ghosts : ℕ → Held}
variable {world world' : World} {origin : ℕ} {request : Host.Call} {choice : Choice}

/-! ## The end of the wait -/

/-- The wait for the requests is a wait for the teardowns too. -/
theorem quiet_of_trackerEmpty (hsound : Sound daemon ghosts)
    (hempty : trackerEmpty daemon.tasks = true) : Quiet daemon := by
  intro task entry hat hrole
  by_contra hended
  have hactive : entry.program.isEnded = false := by simpa using hended
  rcases alive_request hsound hat hactive hrole with
    ⟨request, requestEntry, hrequest, -, hrequestRole, hrequestActive⟩
  have hall := List.all_eq_true.mp hempty requestEntry (List.mem_of_getElem? hrequest)
  simp only [List.mem_singleton] at hrequestRole
  simp [hrequestRole, hrequestActive] at hall

/-- A task that is quiet, and everybody else, holds nothing. -/
theorem released_of_quiet {task : ℕ} (hsound : Sound daemon ghosts)
    (hunlost : Unlost ghosts) (hawake : Awake ghosts) (hquiet : Quiet daemon) :
    (ghosts task).eth = none ∧ (ghosts task).rule = none ∧ (ghosts task).peer = none ∧
      (ghosts task).container = none := by
  by_cases hbare : ghosts task = .bare .connection
  · rw [hbare]
    exact ⟨rfl, rfl, rfl, rfl⟩
  · rcases exists_entry hsound hbare with ⟨entry, hat⟩
    have hrole := hsound.roles task entry hat
    have hended : entry.role = .request ∨ entry.role = .teardown →
        (ghosts task).eth = none ∧ (ghosts task).rule = none ∧ (ghosts task).peer = none ∧
          (ghosts task).container = none := by
      intro hkind
      have hended := hquiet task entry hat hkind
      rcases (hsound.guarded.ended hat hended).2 with hlost | hreleased
      · rw [hunlost task] at hlost
        cases hlost
      · refine ⟨hreleased.eth, hreleased.rule, hreleased.peer, ?_⟩
        rcases hreleased.container with hnone | hdormant
        · exact hnone
        · rw [hawake task] at hdormant
          cases hdormant
    cases hcase : entry.role with
    | connection => exact (hsound.inv.linked task).idle (.inl (hrole.trans hcase))
    | request => exact hended (.inl hcase)
    | teardown => exact hended (.inr hcase)
    | writer => exact (hsound.inv.linked task).idle (.inr (hrole.trans hcase))

theorem complete_of_quiet (hsound : Sound daemon ghosts) (hunlost : Unlost ghosts)
    (hawake : Awake ghosts) (hquiet : Quiet daemon) : Complete daemon.world := by
  have hreleased : ∀ task, (ghosts task).eth = none ∧ (ghosts task).rule = none ∧
      (ghosts task).peer = none ∧ (ghosts task).container = none := fun task =>
    released_of_quiet hsound hunlost hawake hquiet
  refine ⟨fun id container hat => ?_, ?_, ?_, ?_⟩
  · by_contra hstatus
    have hlive : Live daemon.world id := by
      refine ⟨container, hat, ?_⟩
      cases hcase : container.status <;> simp [hcase] at hstatus ⊢
    rcases hsound.inv.live id hlive with ⟨task, hholds⟩
    cases hholds.symm.trans (hreleased task).2.2.2
  · apply List.eq_nil_iff_forall_not_mem.mpr
    intro peer hpeer
    rcases hsound.inv.peers peer hpeer with ⟨task, hholds⟩
    cases hholds.symm.trans (hreleased task).2.2.1
  · apply List.eq_nil_iff_forall_not_mem.mpr
    intro rule hrule
    rcases hsound.inv.nat.covered rule hrule with ⟨task, hholds⟩
    cases hholds.symm.trans (hreleased task).2.1
  · apply List.eq_nil_iff_forall_not_mem.mpr
    intro addr haddr
    rcases hsound.inv.eth.covered addr haddr with ⟨task, hholds⟩
    cases hholds.symm.trans (hreleased task).1

/-! ## After the wait -/

theorem Complete.not_running (hcomplete : Complete world) (id : ContainerId) :
    world.isRunning id = false := by
  unfold World.isRunning
  split
  · rename_i container hat
    rcases hcomplete.containers id container hat with hdown | hdown <;> simp [hdown]
  · rfl

/-- Telling a container to stop does not bring one up. -/
theorem Complete.stop (hcomplete : Complete world) (id : ContainerId) :
    Complete (world.setContainer id DockerContainer.stop) where
  containers other container hat := by
    by_cases hother : other = id
    · subst other
      rw [setContainer_same] at hat
      rcases Option.map_eq_some_iff.mp hat with ⟨before, hbefore, rfl⟩
      have hdown := hcomplete.containers id before hbefore
      unfold DockerContainer.stop
      split
      · exact .inr rfl
      · exact hdown
    · rw [setContainer_other hother] at hat
      exact hcomplete.containers other container hat
  peers := hcomplete.peers
  nat := hcomplete.nat
  eth := hcomplete.eth

/-- The calls that put nothing on the host leave it complete. -/
theorem Complete.exec {answer : Answer request} (hcomplete : Complete world)
    (hadds : adds request = false)
    (hexec : Host.exec world origin request answer choice = some world') : Complete world' := by
  by_cases hstop : ∃ id, request = .stopContainer id
  · obtain ⟨id, rfl⟩ := hstop
    obtain rfl | ⟨rfl, -⟩ := exec_stopContainer hexec
    · exact hcomplete.stop id
    · exact hcomplete
  by_cases hfailed : failed request answer = true
  · obtain rfl := exec_of_failed hfailed (fun id heq => hstop ⟨id, heq⟩) hexec
    exact hcomplete
  have hsucceeded := Bool.eq_false_of_not_eq_true hfailed
  cases request with
  | ipAddrAdd | createContainer | startContainer | iptablesAppend | configurePeer =>
      cases hadds
  | stopContainer id => exact absurd ⟨id, rfl⟩ hstop
  | fetchOr slot =>
      obtain ⟨-, rfl⟩ := exec_fetchOr hexec
      exact { hcomplete with }
  | store slot =>
      obtain rfl := exec_store hexec
      exact { hcomplete with }
  | ipAddrDel addr =>
      cases answer with
      | false => cases hsucceeded
      | true =>
          obtain rfl := exec_ipAddrDel hexec
          exact { hcomplete with eth := by simp [hcomplete.eth] }
  | iptablesDelete rule =>
      cases answer with
      | false => cases hsucceeded
      | true =>
          obtain rfl := exec_iptablesDelete hexec
          exact { hcomplete with nat := by simp [hcomplete.nat] }
  | removePeer publicKey =>
      cases answer with
      | false => cases hsucceeded
      | true =>
          obtain rfl := exec_removePeer hexec
          exact { hcomplete with peers := by simp [hcomplete.peers] }
  | read count =>
      obtain rfl := exec_read hexec
      exact hcomplete
  | inspectContainer id =>
      cases answer with
      | none => cases hsucceeded
      | some response =>
          obtain rfl := (exec_inspectContainer hexec).2
          exact hcomplete
  | select duration watched =>
      obtain rfl := exec_select hexec
      exact hcomplete
  | write | shutdownStream | connectWithUnixDefaults | connectWithUnix | genKeypair | abort =>
      obtain rfl := Option.some.inj hexec
      exact hcomplete

theorem completeOnceWaited_step (hsound : Sound daemon ghosts) (hunlost : Unlost ghosts)
    (hawake : Awake ghosts) (hstep : Daemon.Step panics int daemon action next)
    (htimely : ¬ LateRequest daemon action) (hcomplete : CompleteOnceWaited daemon) :
    CompleteOnceWaited next := by
  cases hstep with
  | accept hphase =>
      intro hlate
      rcases hlate with hlate | hlate <;> cases hphase.symm.trans hlate
  | signal | cancel | close | abort => rintro (hlate | hlate) <;> cases hlate
  | wait hphase hempty =>
      have hquiet : Quiet daemon := quiet_of_trackerEmpty hsound hempty
      have hcomplete : Complete daemon.world := complete_of_quiet hsound hunlost hawake hquiet
      exact fun _ => hcomplete
  | leave hphase => exact fun _ => hcomplete (.inl hphase)
  | containerExit hphase hrunning =>
      intro hlate
      cases hrunning.symm.trans ((hcomplete hlate).not_running _)
  | task hphase hpanics hpool =>
      rintro (hwaited | hreturned)
      · cases hpool with
        | answer hat hexec =>
            apply (hcomplete (.inl hwaited)).exec _ hexec
            by_contra hadds
            exact htimely ⟨hwaited, by simpa using hadds⟩
        | spawn hat => exact hcomplete (.inl hwaited)
        | join hat hother hended => exact hcomplete (.inl hwaited)
      · rw [hreturned] at hphase
        cases hphase

/-- If all external calls succeed and no late request changes the host, then nothing
is left when `main` returns. -/
theorem shutdown_complete
    (hrun : Run (restrict (Daemon.Step panics int) fun before action =>
      failedAction action = false ∧ ¬ LateRequest before action) initial actions daemon)
    (hreturned : daemon.phase = .returned) : Complete daemon.world := by
  have hall : ∃ ghosts, Sound daemon ghosts ∧ Unlost ghosts ∧ Awake ghosts ∧
      CompleteOnceWaited daemon := by
    apply Run.invariant (fun daemon => ∃ ghosts, Sound daemon ghosts ∧ Unlost ghosts ∧
      Awake ghosts ∧ CompleteOnceWaited daemon) _ _ hrun
    · refine ⟨_, sound_initial, fun _ => rfl, fun _ => rfl, ?_⟩
      rintro (hphase | hphase) <;> cases hphase
    · intro before action after hbefore hstep
      rcases hbefore with ⟨ghosts, hsound, hunlost, hawake, hcomplete⟩
      rcases hstep with ⟨hstep, hsucceeded, htimely⟩
      rcases hsound.step hstep with ⟨ghosts', hnext⟩
      have hharmless : ¬ HarmfulAction before action := by
        intro hharmful
        rw [failed_of_harmful hharmful] at hsucceeded
        cases hsucceeded
      exact ⟨ghosts', hnext.sound, hnext.unlost hharmless hunlost,
        hnext.awake hsucceeded hawake,
        completeOnceWaited_step hsound hunlost hawake hstep htimely hcomplete⟩
  rcases hall with ⟨ghosts, -, -, -, hcomplete⟩
  exact hcomplete (.inr hreturned)

/-! ## Schedules -/

/-- A guest is up when the signal arrives, and torn down before `main` returns.  A demo
is asked for after the wait, and does not get as far as its container. -/
def guestAtSignal : List Move :=
  Script.guest {} 0 0 ++ [.accept, .signal, .cancel] ++
    Script.teardown { trigger := .cancelled } 0 ++ Script.steps {} 1 1 ++ [.close, .wait] ++
    Script.steps { byte := 1 } 1 4 ++ Script.steps {} 4 4 ++ Script.steps {} 1 5 ++ [.leave]

/-- Everything succeeds, and nothing is put on the host after the wait. -/
def timelyCheck (daemon : Daemon) : Action → Bool
  | .task (.answer _ request answer _) =>
      !failed request answer && !(decide (daemon.phase = .waited) && adds request)
  | _ => true

theorem timely_of_check (daemon : Daemon) (action : Action)
    (hcheck : timelyCheck daemon action = true) :
    failedAction action = false ∧ ¬ LateRequest daemon action := by
  cases action with
  | task event =>
      cases event with
      | answer task request answer choice =>
          rw [timelyCheck, Bool.and_eq_true] at hcheck
          refine ⟨by simpa [failedAction] using hcheck.1, ?_⟩
          rintro ⟨hwaited, hadds⟩
          simp [hwaited, hadds] at hcheck
      | _ => exact ⟨rfl, fun hlate => hlate⟩
  | _ => exact ⟨rfl, fun hlate => hlate⟩

theorem shutdown_complete_guestAtSignal : ∃ actions daemon,
    Run (restrict (Daemon.Step .abortsProcess ⟨""⟩) fun before action =>
      failedAction action = false ∧ ¬ LateRequest before action) initial actions daemon ∧
      (daemon.world.containers.length = 1 ∧ daemon.tasks.length = 6) ∧
        Complete daemon.world := by
  rcases exists_restricted_run .abortsProcess ⟨""⟩ timelyCheck guestAtSignal
    (fun daemon => decide (daemon.phase = .returned) &&
      decide (daemon.world.containers.length = 1 ∧ daemon.tasks.length = 6))
    timely_of_check (by decide +kernel) with ⟨actions, daemon, hrun, htest⟩
  rw [Bool.and_eq_true] at htest
  exact ⟨actions, daemon, hrun, of_decide_eq_true htest.2,
    shutdown_complete hrun (of_decide_eq_true htest.1)⟩

/-- A connection is still reading its request when the signal arrives, and the
demo it asks for is started after the wait. -/
def lateDemo : List Move :=
  [.accept, .signal, .cancel, .close, .wait] ++ Script.steps { byte := 1 } 1 0 ++
    Script.steps {} 4 0 ++ Script.steps {} 3 1 ++ [.leave]

/-- All calls succeed, and the demo's container runs when `main` returns. -/
theorem shutdown_incomplete :
    ¬ ∀ (int : Interface) (actions : List Action) (daemon : Daemon),
      Run (restrict (Daemon.Step .abortsProcess int) fun _ action =>
        failedAction action = false) initial actions daemon →
        daemon.phase = .returned → Complete daemon.world := by
  intro hclaim
  rcases exists_restricted_run .abortsProcess ⟨""⟩ (fun _ action => !failedAction action) lateDemo
    (fun daemon => decide (daemon.phase = .returned) && daemon.world.isRunning 0)
    (fun _ action hcheck => by simpa using hcheck) (by decide +kernel) with
    ⟨actions, daemon, hrun, htest⟩
  rw [Bool.and_eq_true] at htest
  have hcomplete := hclaim ⟨""⟩ actions daemon hrun (of_decide_eq_true htest.1)
  have hrunning := htest.2
  unfold World.isRunning at hrunning
  split at hrunning
  · rename_i container hat
    have hstatus := of_decide_eq_true hrunning
    rcases hcomplete.containers 0 container hat with hdown | hdown <;>
      cases hstatus.symm.trans hdown
  · cases hrunning

end ScdtServer.Shutdown
