import ScdtServer.Challd.Invariant

/-!
# Accounting for every call and every hand-over

A call that fails is harmless when its connection has neither a slot nor a
running container.  `call_outcome` takes the host and the holdings through one
call, `handOver` through the spawning of a task.
-/

namespace ScdtServer.Accounting

open Function
open ScdtServer.Ownership
open ScdtServer.Host ScdtServer.Holdings ScdtServer.Invariant

/-- A call to `ip`, `iptables`, Docker or WireGuard that failed.  A response
without a bridge address counts as a failure: the daemon unwraps it. -/
def failed : (call : Call) → Answer call → Bool
  | .connectWithUnixDefaults, ok => !ok
  | .connectWithUnix _ _, ok => !ok
  | .ipAddrAdd _, ok => !ok
  | .ipAddrDel _, ok => !ok
  | .createContainer _, id => Option.isNone id
  | .startContainer _, ok => !ok
  | .inspectContainer _, answer =>
      (Option.bind answer ContainerInspectResponse.bridgeAddr).isNone
  | .stopContainer _, result => decide (result = StopResult.error)
  | .iptablesAppend _, ok => !ok
  | .iptablesDelete _, ok => !ok
  | .configurePeer _, ok => !ok
  | .removePeer _, ok => !ok
  | _, _ => false

/-- The calls whose failure is remembered by the mark `severed`. -/
def severs : Call → Bool
  | .connectWithUnix _ _ => true
  | _ => false

/-- The connection has a slot in use or a running container. -/
def Burdened (world : World) (origin : ℕ) : Prop :=
  (∃ slot, world.slots slot = true ∧ world.taker slot = origin) ∨
    ∃ (id : ContainerId) (container : DockerContainer),
      world.containers[id]? = some container ∧
        container.origin = origin ∧ container.status = .running

/-- A failure that costs the connection what it has.  A failing stop does so
only if the container still runs afterwards. -/
def Harmful (world : World) (origin : ℕ) :
    (call : Call) → Answer call → Choice → Prop
  | .stopContainer id, result, choice =>
      result = StopResult.error ∧ choice.stopped = false ∧ world.isRunning id = true
  | other, answer, _ => failed other answer = true ∧ Burdened world origin

variable {world world' : World} {origins : ℕ → ℕ} {ghosts : ℕ → Held} {task : ℕ}

/-- What one answered call does to the task that issued it. -/
structure Outcome (world world' : World) (origins : ℕ → ℕ) (ghosts : ℕ → Held)
    (task : ℕ) (call : Call) (answer : Answer call) (choice : Choice) (held' : Held) :
    Prop where
  after : after call answer (ghosts task) held'
  inv : Inv world' origins (update ghosts task held')
  lost : held'.lost = true →
    (ghosts task).lost = true ∨ Harmful world (origins task) call answer choice
  dormant : held'.dormant = true →
    (ghosts task).dormant = true ∨ failed call answer = true
  severed : held'.severed = true →
    (ghosts task).severed = true ∨ (severs call && failed call answer) = true

/-! ## Calls that fail -/

/-- A failure other than that of a stop leaves the host as it is. -/
theorem exec_of_failed {origin : ℕ} {call : Call} {answer : Answer call} {choice : Choice}
    (hfailed : failed call answer = true) (hstop : ∀ id, call ≠ .stopContainer id)
    (hexec : exec world origin call answer choice = some world') : world' = world := by
  cases call with
  | stopContainer id => exact absurd rfl (hstop id)
  | createContainer body =>
      cases answer with
      | none => exact (Option.some.inj hexec).symm
      | some id => cases hfailed
  | inspectContainer id =>
      cases answer with
      | none => exact (Option.some.inj hexec).symm
      | some response => exact (exec_inspectContainer hexec).2
  | connectWithUnixDefaults => exact exec_connectWithUnixDefaults hexec
  | connectWithUnix path timeout => exact exec_connectWithUnix hexec
  | ipAddrAdd _ | ipAddrDel _ | startContainer _ | iptablesAppend _ | iptablesDelete _
  | configurePeer _ | removePeer _ =>
      cases answer with
      | false => exact (Option.some.inj hexec).symm
      | true => cases hfailed
  | _ => cases hfailed

theorem after_of_failed {call : Call} {answer : Answer call} {held held' : Held}
    (hfailed : failed call answer = true) (hstop : ∀ id, call ≠ .stopContainer id)
    (hheld : Failed { held with severed := severs call || held.severed } held') :
    after call answer held held' := by
  cases call with
  | stopContainer id => exact absurd rfl (hstop id)
  | createContainer body =>
      cases answer with
      | none => exact hheld
      | some id => cases hfailed
  | inspectContainer id =>
      have hnone := Option.isNone_iff_eq_none.mp hfailed
      simp only [after, hnone]
      exact hheld
  | connectWithUnixDefaults | connectWithUnix _ _ | ipAddrAdd _ | ipAddrDel _ | startContainer _
  | iptablesAppend _ | iptablesDelete _ | configurePeer _ | removePeer _ =>
      cases answer with
      | false => exact hheld
      | true => cases hfailed
  | _ => cases hfailed

theorem harmful_of_failed {call : Call} {answer : Answer call} {choice : Choice} {origin : ℕ}
    (hfailed : failed call answer = true) (hstop : ∀ id, call ≠ .stopContainer id)
    (hburdened : Burdened world origin) : Harmful world origin call answer choice := by
  cases call with
  | stopContainer id => exact absurd rfl (hstop id)
  | _ => exact ⟨hfailed, hburdened⟩

/-- A failing call that leaves the host as it is. -/
theorem failedCall_outcome {call : Call} {answer : Answer call} {choice : Choice}
    (hinv : Inv world origins ghosts) (hfailed : failed call answer = true)
    (hstop : ∀ id, call ≠ .stopContainer id) :
    ∃ held', Outcome world world origins ghosts task call answer choice held' := by
  have hsevered : (severs call || (ghosts task).severed) = true →
      (ghosts task).severed = true ∨ (severs call && failed call answer) = true := by
    rw [Bool.or_eq_true, hfailed, Bool.and_true]
    exact Or.symm
  by_cases hburdened : Burdened world (origins task)
  · refine ⟨{ ghosts task with lost := true, severed := severs call || (ghosts task).severed },
      after_of_failed hfailed hstop (.inl rfl), ?_, ?_, fun h => .inl h, hsevered⟩
    · refine hinv.relabel rfl rfl rfl rfl rfl ?_
      exact { hinv.linked task with }
    · exact fun _ => .inr (harmful_of_failed hfailed hstop hburdened)
  · have hslot : (ghosts task).slot = none := by
      cases hheld : (ghosts task).slot with
      | none => rfl
      | some slot =>
          have hused := hinv.slots.present task slot hheld
          exact absurd (Or.inl ⟨slot, hused, (hinv.linked task).slot slot hheld⟩) hburdened
    refine ⟨{ ghosts task with dormant := true, severed := severs call || (ghosts task).severed },
      after_of_failed hfailed hstop (.inr ⟨hslot, rfl⟩), ?_, fun h => .inl h,
      fun _ => .inr hfailed, hsevered⟩
    refine hinv.relabel rfl rfl rfl rfl rfl ?_
    exact
      { hinv.linked task with
        container := by
          intro id hid
          rcases (hinv.linked task).container id hid with ⟨container, hat, hold⟩
          refine ⟨container, hat, hold.origin, hold.status, hold.started, hold.bridge, ?_,
            hold.fresh⟩
          exact fun _ hrunning =>
            hburdened (Or.inr ⟨id, container, hat, hold.origin, hrunning⟩) }

/-! ## Calls that succeed -/

/-- A stop that leaves the container down lets go of it; otherwise it must have
failed. -/
theorem stopContainer_outcome {id : ContainerId} {result : StopResult} {choice : Choice}
    (hinv : Inv world origins ghosts) (hpre : pre (.stopContainer id) (ghosts task))
    (hexec : exec world (origins task) (.stopContainer id) result choice = some world') :
    ∃ held', Outcome world world' origins ghosts task (.stopContainer id) result choice
      held' := by
  rcases (hinv.linked task).container id hpre.1 with ⟨container, hat, hold⟩
  have hstopped : ¬ Live (world.setContainer id DockerContainer.stop) id := by
    rintro ⟨after, hafter, hstatus⟩
    rw [setContainer_same, hat, Option.map_some] at hafter
    obtain rfl := Option.some.inj hafter
    have hcreated := hold.started hpre.2.1
    unfold DockerContainer.stop at hstatus
    split at hstatus <;> simp_all
  have hsame : world.setContainer id (fun container => container) = world := by
    exact congrArg (fun containers => { world with containers := containers })
      (List.modify_id id world.containers)
  have hdown : world.isRunning id = false →
      Inv world origins (update ghosts task { ghosts task with container := none }) := by
    intro hrunning
    rw [← hsame]
    apply hinv.letGo hpre
    rw [hsame]
    rintro ⟨other, hother, hstatus⟩
    obtain rfl : container = other := Option.some.inj (hat.symm.trans hother)
    have hcreated := hold.started hpre.2.1
    simp [World.isRunning, hat] at hrunning
    simp_all
  obtain rfl | ⟨rfl, hnot⟩ := exec_stopContainer hexec
  · exact ⟨_, .inl rfl, hinv.letGo hpre hstopped, .inl, .inl, .inl⟩
  · by_cases hrunning : world'.isRunning id = true
    · obtain hidle | ⟨rfl, hchoice⟩ := hnot
      · rw [hrunning] at hidle
        cases hidle
      · refine ⟨_, .inr ⟨rfl, rfl⟩, ?_, ?_, .inl, .inl⟩
        · refine hinv.relabel rfl rfl rfl rfl rfl ?_
          exact { hinv.linked task with }
        · exact fun _ => .inr ⟨rfl, hchoice, hrunning⟩
    · exact ⟨_, .inl rfl, hdown (Bool.eq_false_of_not_eq_true hrunning), .inl, .inl, .inl⟩

/-- Every call that can be answered takes the task to holdings that its rules
allow and that account for what is now on the host. -/
theorem call_outcome {call : Call} {answer : Answer call} {choice : Choice}
    (hinv : Inv world origins ghosts) (hpre : pre call (ghosts task))
    (hexec : exec world (origins task) call answer choice = some world') :
    ∃ held', Outcome world world' origins ghosts task call answer choice held' := by
  by_cases hstop : ∃ id, call = .stopContainer id
  · obtain ⟨id, rfl⟩ := hstop
    exact stopContainer_outcome hinv hpre hexec
  by_cases hfailed : failed call answer = true
  · have hother : ∀ id, call ≠ .stopContainer id := fun id heq => hstop ⟨id, heq⟩
    obtain rfl := exec_of_failed hfailed hother hexec
    exact failedCall_outcome hinv hfailed hother
  have hsucceeded := Bool.eq_false_of_not_eq_true hfailed
  cases call with
  | read count =>
      obtain rfl := exec_read hexec
      exact ⟨_, rfl, hinv.unchanged, .inl, .inl, .inl⟩
  | write | shutdownStream | genKeypair | abort =>
      obtain rfl := Option.some.inj hexec
      exact ⟨_, rfl, hinv.unchanged, .inl, .inl, .inl⟩
  | select duration watched =>
      obtain rfl := exec_select hexec
      exact ⟨_, rfl, hinv.unchanged, .inl, .inl, .inl⟩
  | fetchOr slot =>
      obtain ⟨hslot, rfl⟩ := exec_fetchOr hexec
      cases answer with
      | false => exact ⟨_, rfl, hinv.takeSlot hpre hslot.symm, .inl, .inl, .inl⟩
      | true =>
          refine ⟨_, rfl, ?_, .inl, .inl, .inl⟩
          rw [update_eq_self]
          exact hinv.slotInUse hslot.symm
  | store slot =>
      obtain rfl := exec_store hexec
      exact ⟨_, rfl, hinv.store hpre, .inl, .inl, .inl⟩
  | connectWithUnixDefaults =>
      cases answer with
      | false => cases hsucceeded
      | true =>
          obtain rfl := exec_connectWithUnixDefaults hexec
          exact ⟨_, rfl, hinv.unchanged, .inl, .inl, .inl⟩
  | connectWithUnix path timeout =>
      cases answer with
      | false => cases hsucceeded
      | true =>
          obtain rfl := exec_connectWithUnix hexec
          exact ⟨_, rfl, hinv.unchanged, .inl, .inl, .inl⟩
  | ipAddrAdd addr =>
      cases answer with
      | false => cases hsucceeded
      | true =>
          obtain ⟨habsent, rfl⟩ := exec_ipAddrAdd hexec
          exact ⟨_, rfl, hinv.addEth hpre habsent, .inl, .inl, .inl⟩
  | ipAddrDel addr =>
      cases answer with
      | false => cases hsucceeded
      | true =>
          obtain rfl := exec_ipAddrDel hexec
          exact ⟨_, rfl, hinv.delEth hpre, .inl, .inl, .inl⟩
  | createContainer body =>
      cases answer with
      | none => cases hsucceeded
      | some id =>
          obtain ⟨rfl, rfl⟩ := exec_createContainer hexec
          exact ⟨_, rfl, hinv.create hpre, .inl, .inl, .inl⟩
  | startContainer id =>
      cases answer with
      | false => cases hsucceeded
      | true =>
          obtain ⟨container, hat, hstatus, rfl⟩ := exec_startContainer hexec
          exact ⟨_, rfl, hinv.start hpre hat hstatus, .inl, .inl, .inl⟩
  | inspectContainer id =>
      cases answer with
      | none => cases hsucceeded
      | some response =>
          obtain ⟨⟨container, hat, haddr⟩, rfl⟩ := exec_inspectContainer hexec
          cases hbridge : response.bridgeAddr with
          | none => simp [failed, hbridge] at hsucceeded
          | some bridge =>
              have hrecord : container.bridge = some bridge := by simp_all
              refine ⟨_, ?_, hinv.inspect hpre hat hrecord, .inl, .inl, .inl⟩
              simp [after, hbridge]
  | stopContainer id => exact absurd ⟨id, rfl⟩ hstop
  | iptablesAppend rule =>
      cases answer with
      | false => cases hsucceeded
      | true =>
          obtain rfl := exec_iptablesAppend hexec
          exact ⟨_, rfl, hinv.appendRule hpre, .inl, .inl, .inl⟩
  | iptablesDelete rule =>
      cases answer with
      | false => cases hsucceeded
      | true =>
          obtain rfl := exec_iptablesDelete hexec
          exact ⟨_, rfl, hinv.deleteRule hpre, .inl, .inl, .inl⟩
  | configurePeer peer =>
      cases answer with
      | false => cases hsucceeded
      | true =>
          obtain rfl := exec_configurePeer hexec
          exact ⟨_, rfl, hinv.configure hpre, .inl, .inl, .inl⟩
  | removePeer publicKey =>
      cases answer with
      | false => cases hsucceeded
      | true =>
          obtain rfl := exec_removePeer hexec
          exact ⟨_, rfl, hinv.remove hpre, .inl, .inl, .inl⟩

/-! ## Handing over -/

/-- Whoever holds nothing may be counted to any connection. -/
theorem recount {fresh origin : ℕ} {role : Role} (hinv : Inv world origins ghosts)
    (hfresh : ghosts fresh = .bare role) :
    Inv world (update origins fresh origin) ghosts :=
  { hinv with
    linked := by
      intro other
      by_cases hother : other = fresh
      · rw [hother, hfresh]
        exact linked_bare
      · rw [update_of_ne hother]
        exact hinv.linked other }

/-- A task that is spawned takes over everything its parent holds. -/
theorem handOver {fresh : ℕ} {role : Role} {child : Option ℕ}
    (hinv : Inv world origins ghosts) (hfresh : ghosts fresh = .bare .connection)
    (horigin : origins fresh = origins task) (hconnection : role ≠ .connection)
    (hwriter : role ≠ .writer) :
    Inv world origins
      (update (update ghosts task { Held.bare (ghosts task).role with child := child })
        fresh { ghosts task with role := role, child := none }) where
  slots := by
    rw [component_update, component_update]
    exact hinv.slots.transfer (by simp [hfresh, Held.bare])
  eth := by
    rw [component_update, component_update]
    exact hinv.eth.transfer (by simp [hfresh, Held.bare])
  nat := by
    rw [component_update, component_update]
    exact hinv.nat.transfer (by simp [hfresh, Held.bare])
  peers := by
    rw [component_update, component_update]
    exact hinv.peers.transfer (by simp [hfresh, Held.bare])
  live := by
    rw [component_update, component_update]
    exact hinv.live.transfer (by simp [hfresh, Held.bare])
  keeper := by
    rw [component_update, component_update]
    exact hinv.keeper.transfer
  ethNodup := hinv.ethNodup
  natNodup := hinv.natNodup
  peersNodup := hinv.peersNodup
  linked := by
    apply linked_update
    · rw [horigin]
      exact
        { hinv.linked task with
          idle := by simp [hconnection, hwriter]
          writer := by simp [hwriter] }
    · intro other _
      apply linked_update _ fun other _ => hinv.linked other
      exact { @linked_bare world (origins task) (ghosts task).role with }

end ScdtServer.Accounting
