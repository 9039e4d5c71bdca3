import ScdtServer.Challd.Soundness

/-!
# Isolation of guests

A guest's packets reach whatever container has the bridge address in its NAT
rule.  When a container exits on its own, Docker may give its bridge address to
another one before the teardown has removed the peer; then the packets go
astray.  Short of that, they reach only the container of the guest's own
request.
-/

namespace ScdtServer.Isolation

open ScdtServer.Interaction ScdtServer.Interaction.Program
open ScdtServer.TaskPool ScdtServer.Transition
open ScdtServer.Host ScdtServer.AddressManager ScdtServer.Interface ScdtServer.Daemon
open ScdtServer.Holdings ScdtServer.Invariant ScdtServer.Accounting ScdtServer.Soundness

/-- No container of another request runs where the packets of a configured peer
are sent. -/
def Isolated (world : World) : Prop :=
  ∀ peer ∈ world.peers, ∀ rule ∈ world.nat, rule.source = peer.allowedIp →
    ∀ (id : ContainerId) (container : DockerContainer),
      world.containers[id]? = some container → container.status = .running →
        container.bridge = some rule.toDestination →
          ∀ slot, addrOf slot = rule.source → container.origin = world.taker slot

/-- Running containers have distinct bridge addresses. -/
def Distinct (world : World) : Prop :=
  ∀ (left right : ContainerId) (container container' : DockerContainer),
    world.containers[left]? = some container → container.status = .running →
      world.containers[right]? = some container' → container'.status = .running →
        container.bridge = container'.bridge → left = right

/-- No running container has the bridge address. -/
def FreshBridge (world : World) (bridge : BridgeAddr) : Prop :=
  ∀ (id : ContainerId) (container : DockerContainer),
    world.containers[id]? = some container → container.status = .running →
      container.bridge ≠ some bridge

/-- No container that exited by itself had the bridge address, as long as its
guest has a peer. -/
def SafeBridge (world : World) (bridge : BridgeAddr) : Prop :=
  ∀ (id : ContainerId) (container : DockerContainer),
    world.containers[id]? = some container → container.status = .exited →
      container.bridge = some bridge →
        ∀ peer ∈ world.peers, ∀ slot, addrOf slot = peer.allowedIp →
          world.taker slot ≠ container.origin

/-- If a container of the connection has exited by itself, nobody else has got
its bridge address. -/
def SafePeer (world : World) (origin : ℕ) : Prop :=
  ∀ (id : ContainerId) (container : DockerContainer),
    world.containers[id]? = some container → container.status = .exited →
      container.origin = origin →
        ∀ (other : ContainerId) (container' : DockerContainer),
          world.containers[other]? = some container' → container'.status = .running →
            container'.bridge ≠ container.bridge

/-- Docker gives a container that starts an address that no running one has. -/
def DockerAnswer (world : World) : (call : Call) → Answer call → Choice → Prop
  | .startContainer _, ok, choice => ok = true → FreshBridge world choice.bridge
  | _, _, _ => True

/-- No bridge address goes from the exited container of a guest with a peer to
another container, and no guest gets a peer after its has gone that way. -/
def SafeAnswer (world : World) (origin : ℕ) : (call : Call) → Answer call → Choice → Prop
  | .startContainer _, ok, choice => ok = true → SafeBridge world choice.bridge
  | .configurePeer _, ok, _ => ok = true → SafePeer world origin
  | _, _, _ => True

def DockerAction (daemon : Daemon) : Action → Prop
  | .task (.answer _ request answer choice) => DockerAnswer daemon.world request answer choice
  | _ => True

def SafeAction (daemon : Daemon) : Action → Prop
  | .task (.answer task request answer choice) =>
      SafeAnswer daemon.world (originOf daemon.tasks task) request answer choice
  | _ => True

/-! ## Steps that only take away -/

/-- What could break isolation only becomes less. -/
structure Shrinks (world world' : World) : Prop where
  peers : ∀ peer ∈ world'.peers, peer ∈ world.peers
  nat : ∀ rule ∈ world'.nat, rule ∈ world.nat
  running : ∀ (id : ContainerId) (container : DockerContainer),
    world'.containers[id]? = some container → container.status = .running →
      world.containers[id]? = some container
  taker : ∀ slot, world.slots slot = true → world'.taker slot = world.taker slot

variable {world world' : World} {origins : ℕ → ℕ} {ghosts : ℕ → Held} {task : ℕ}

theorem shrinks_refl : Shrinks world world where
  peers _ h := h
  nat _ h := h
  running _ _ h _ := h
  taker _ _ := rfl

/-- A container whose record changes does not start to run. -/
theorem shrinks_setContainer {id : ContainerId} {change : DockerContainer → DockerContainer}
    (hchange : ∀ container, (change container).status = .running →
      change container = container) :
    Shrinks world (world.setContainer id change) where
  peers _ h := h
  nat _ h := h
  running other container hat hrunning := by
    by_cases hother : other = id
    · subst other
      rw [setContainer_same] at hat
      rcases Option.map_eq_some_iff.mp hat with ⟨before, hbefore, rfl⟩
      rw [hbefore, hchange before hrunning]
    · rw [setContainer_other hother] at hat
      exact hat
  taker _ _ := rfl

theorem stop_running {container : DockerContainer}
    (hrunning : container.stop.status = .running) : container.stop = container := by
  unfold DockerContainer.stop at hrunning ⊢
  split
  · rename_i hbefore
    rw [if_pos hbefore] at hrunning
    cases hrunning
  · rfl

/-- Whoever takes a slot takes a free one. -/
theorem shrinks_fetchOr {slot : Slot} {inUse : Bool} {origin : ℕ}
    (hslot : inUse = world.slots slot) :
    Shrinks world
      { world with
        slots := Function.update world.slots slot true
        taker := if inUse = true then world.taker
          else Function.update world.taker slot origin } where
  peers _ h := h
  nat _ h := h
  running _ _ h _ := h
  taker other hused := by
    cases inUse with
    | true => rfl
    | false =>
        have hne : other ≠ slot := by
          rintro rfl
          rw [← hslot] at hused
          cases hused
        exact Function.update_of_ne hne ..

/-- A new container does not run yet. -/
theorem shrinks_append {added : DockerContainer} (hcreated : added.status = .created) :
    Shrinks world { world with containers := world.containers ++ [added] } where
  peers _ h := h
  nat _ h := h
  running other container hat hrunning := by
    rcases Nat.lt_or_ge other world.containers.length with hlt | hge
    · rw [List.getElem?_append_left hlt] at hat
      exact hat
    · rw [List.getElem?_append_right hge, List.getElem?_singleton] at hat
      split at hat
      · obtain rfl := Option.some.inj hat
        rw [hcreated] at hrunning
        cases hrunning
      · cases hat
  taker _ _ := rfl

/-- All calls but three only take away. -/
theorem shrinks_of_exec {origin : ℕ} {call : Call} {answer : Answer call} {choice : Choice}
    (hexec : exec world origin call answer choice = some world')
    (hstart : ∀ id, call ≠ .startContainer id) (happend : ∀ rule, call ≠ .iptablesAppend rule)
    (hconfigure : ∀ peer, call ≠ .configurePeer peer) : Shrinks world world' := by
  by_cases hstop : ∃ id, call = .stopContainer id
  · obtain ⟨id, rfl⟩ := hstop
    obtain rfl | ⟨rfl, -⟩ := exec_stopContainer hexec
    · exact shrinks_setContainer fun _ => stop_running
    · exact shrinks_refl
  by_cases hfailed : failed call answer = true
  · obtain rfl := exec_of_failed hfailed (fun id heq => hstop ⟨id, heq⟩) hexec
    exact shrinks_refl
  have hsucceeded := Bool.eq_false_of_not_eq_true hfailed
  cases call with
  | startContainer id => exact absurd rfl (hstart id)
  | iptablesAppend rule => exact absurd rfl (happend rule)
  | configurePeer peer => exact absurd rfl (hconfigure peer)
  | stopContainer id => exact absurd ⟨id, rfl⟩ hstop
  | fetchOr slot =>
      obtain ⟨hslot, rfl⟩ := exec_fetchOr hexec
      exact shrinks_fetchOr hslot
  | createContainer body =>
      cases answer with
      | none => cases hsucceeded
      | some id =>
          obtain ⟨-, rfl⟩ := exec_createContainer hexec
          exact shrinks_append rfl
  | iptablesDelete rule =>
      cases answer with
      | false => cases hsucceeded
      | true =>
          obtain rfl := exec_iptablesDelete hexec
          exact { @shrinks_refl world with nat := fun _ h => List.mem_of_mem_erase h }
  | removePeer publicKey =>
      cases answer with
      | false => cases hsucceeded
      | true =>
          obtain rfl := exec_removePeer hexec
          exact { @shrinks_refl world with peers := fun _ h => List.mem_of_mem_filter h }
  | store slot =>
      obtain rfl := exec_store hexec
      exact { @shrinks_refl world with }
  | ipAddrAdd addr =>
      cases answer with
      | false => cases hsucceeded
      | true =>
          obtain ⟨-, rfl⟩ := exec_ipAddrAdd hexec
          exact { @shrinks_refl world with }
  | ipAddrDel addr =>
      cases answer with
      | false => cases hsucceeded
      | true =>
          obtain rfl := exec_ipAddrDel hexec
          exact { @shrinks_refl world with }
  | read count =>
      obtain rfl := exec_read hexec
      exact shrinks_refl
  | inspectContainer id =>
      cases answer with
      | none => cases hsucceeded
      | some response =>
          obtain rfl := (exec_inspectContainer hexec).2
          exact shrinks_refl
  | select duration watched =>
      obtain rfl := exec_select hexec
      exact shrinks_refl
  | write | shutdownStream | connectWithUnixDefaults | connectWithUnix | genKeypair | abort =>
      obtain rfl := Option.some.inj hexec
      exact shrinks_refl

theorem Isolated.shrink (hisolated : Isolated world) (hinv : Inv world origins ghosts)
    (hshrinks : Shrinks world world') : Isolated world' := by
  intro peer hpeer rule hrule hsource id container hat hrunning hbridge slot hslot
  have hrule' := hshrinks.nat rule hrule
  rcases holder_of_rule hinv hrule' with ⟨task, -, haddr⟩
  rcases inUse_of_addr hinv haddr with ⟨used, hused, hinUse⟩
  obtain rfl : used = slot := addrOf_injective (hused.trans hslot.symm)
  rw [hshrinks.taker used hinUse]
  exact hisolated peer (hshrinks.peers peer hpeer) rule hrule' hsource id container
    (hshrinks.running id container hat hrunning) hrunning hbridge used hslot

theorem Distinct.shrink (hdistinct : Distinct world) (hshrinks : Shrinks world world') :
    Distinct world' := by
  intro left right container container' hleft hrunning hright hrunning' hbridge
  exact hdistinct left right container container'
    (hshrinks.running left container hleft hrunning) hrunning
    (hshrinks.running right container' hright hrunning') hrunning' hbridge

/-! ## The three calls that matter -/

/-- A guest with a peer and a rule holds the container that the rule leads to,
and that container has been started. -/
theorem container_of_rule {peer : Peer} {rule : NatRule} (hinv : Inv world origins ghosts)
    (hpeer : peer ∈ world.peers) (hrule : rule ∈ world.nat)
    (hsource : rule.source = peer.allowedIp) :
    ∃ task slot id container, (ghosts task).slot = some slot ∧ addrOf slot = rule.source ∧
      (ghosts task).container = some id ∧ world.containers[id]? = some container ∧
      container.origin = origins task ∧ container.bridge = some rule.toDestination ∧
      (container.status = .running ∨ container.status = .exited) := by
  rcases holder_of_rule hinv hrule with ⟨task, hheld, haddr⟩
  rcases holder_of_peer hinv hpeer with ⟨other, hpeer, haddr'⟩
  rw [← hsource] at haddr'
  obtain rfl : task = other := hinv.same_task haddr haddr'
  have hlinked := hinv.linked task
  rcases Option.map_eq_some_iff.mp haddr with ⟨slot, hslot, hsame⟩
  rcases Option.isSome_iff_exists.mp (hlinked.peer peer hpeer).2.2 with ⟨id, hid⟩
  rcases hlinked.container id hid with ⟨container, hat, hkept⟩
  have hbridge := hkept.bridge _ (hlinked.rule rule hheld).2
  refine ⟨task, slot, id, container, hslot, hsame, hid, hat, hkept.origin, hbridge, ?_⟩
  cases hstatus : container.status with
  | created =>
      rw [hkept.fresh hstatus] at hbridge
      cases hbridge
  | running => exact .inl rfl
  | exited => exact .inr rfl
  | stopped => exact absurd hstatus hkept.status

theorem isolated_start {id : ContainerId} {bridge : BridgeAddr}
    (hinv : Inv world origins ghosts) (hisolated : Isolated world)
    (hfresh : FreshBridge world bridge) (hsafe : SafeBridge world bridge) :
    Isolated (world.setContainer id fun container =>
      { container with status := .running, bridge := some bridge }) := by
  intro peer hpeer rule hrule hsource other container hat hrunning hbridge slot hslot
  by_cases hother : other = id
  · subst other
    rw [setContainer_same] at hat
    rcases Option.map_eq_some_iff.mp hat with ⟨before, -, rfl⟩
    obtain rfl : bridge = rule.toDestination := Option.some.inj hbridge
    rcases container_of_rule hinv hpeer hrule hsource with
      ⟨task, used, own, container, hused, hsame, -, hown, horigin, hgiven, hstatus⟩
    rcases hstatus with hup | hexited
    · exact absurd hgiven (hfresh own container hown hup)
    · have htaker := (hinv.linked task).slot used hused
      exact absurd (htaker.trans horigin.symm)
        (hsafe own container hown hexited hgiven peer hpeer used (hsame.trans hsource))
  · rw [setContainer_other hother] at hat
    exact hisolated peer hpeer rule hrule hsource other container hat hrunning hbridge slot
      hslot

theorem distinct_start {id : ContainerId} {bridge : BridgeAddr} (hdistinct : Distinct world)
    (hfresh : FreshBridge world bridge) :
    Distinct (world.setContainer id fun container =>
      { container with status := .running, bridge := some bridge }) := by
  intro left right container container' hleft hrunning hright hrunning' hbridge
  by_cases hl : left = id <;> by_cases hr : right = id
  · rw [hl, hr]
  · rw [hl, setContainer_same] at hleft
    rw [setContainer_other hr] at hright
    rcases Option.map_eq_some_iff.mp hleft with ⟨before, -, rfl⟩
    exact absurd hbridge.symm (hfresh right container' hright hrunning')
  · rw [setContainer_other hl] at hleft
    rw [hr, setContainer_same] at hright
    rcases Option.map_eq_some_iff.mp hright with ⟨before, -, rfl⟩
    exact absurd hbridge (hfresh left container hleft hrunning)
  · rw [setContainer_other hl] at hleft
    rw [setContainer_other hr] at hright
    exact hdistinct left right container container' hleft hrunning hright hrunning' hbridge

/-- Whoever adds a rule has no peer yet. -/
theorem isolated_append {rule : NatRule} (hinv : Inv world origins ghosts)
    (hpre : pre (.iptablesAppend rule) (ghosts task)) (hisolated : Isolated world) :
    Isolated { world with nat := world.nat ++ [rule] } := by
  intro peer hpeer other hother hsource id container hat hrunning hbridge slot hslot
  rcases List.mem_append.mp hother with hold | hnew
  · exact hisolated peer hpeer other hold hsource id container hat hrunning hbridge slot hslot
  · obtain rfl : other = rule := List.mem_singleton.mp hnew
    rcases holder_of_peer hinv hpeer with ⟨holder, hheld, haddr⟩
    rw [← hsource] at haddr
    obtain rfl : holder = task := hinv.same_task haddr hpre.2.2.1
    have hrule := ((hinv.linked holder).peer peer hheld).2.1
    rw [hpre.2.1] at hrule
    cases hrule

theorem isolated_configure {peer : Peer} (hinv : Inv world origins ghosts)
    (hpre : pre (.configurePeer peer) (ghosts task)) (hisolated : Isolated world)
    (hdistinct : Distinct world) (hsafe : SafePeer world (origins task)) :
    Isolated
      { world with
        peers := peer :: world.peers.filter fun other =>
          decide (other.publicKey ≠ peer.publicKey) } := by
  intro other hother rule hrule hsource id container hat hrunning hbridge slot hslot
  rcases List.mem_cons.mp hother with rfl | hold
  · rcases holder_of_rule hinv hrule with ⟨holder, hheld, haddr⟩
    rw [hsource] at haddr
    obtain rfl : holder = task := hinv.same_task haddr hpre.2.2.1
    have hlinked := hinv.linked holder
    rcases Option.map_eq_some_iff.mp haddr with ⟨used, hused, hsame⟩
    obtain rfl : used = slot := addrOf_injective (hsame.trans (hsource.symm.trans hslot.symm))
    rcases Option.isSome_iff_exists.mp hpre.2.2.2.2 with ⟨own, hown⟩
    rcases hlinked.container own hown with ⟨record, hrecord, hkept⟩
    have hgiven := hkept.bridge _ (hlinked.rule rule hheld).2
    rw [hlinked.slot used hused, ← hkept.origin]
    cases hstatus : record.status with
    | created =>
        rw [hkept.fresh hstatus] at hgiven
        cases hgiven
    | running =>
        have hid := hdistinct id own container record hat hrunning hrecord hstatus
          (hbridge.trans hgiven.symm)
        rw [hid] at hat
        rw [Option.some.inj (hat.symm.trans hrecord)]
    | exited =>
        exact absurd (hbridge.trans hgiven.symm)
          (hsafe own record hrecord hstatus hkept.origin id container hat hrunning)
    | stopped => exact absurd hstatus hkept.status
  · exact hisolated other (List.mem_of_mem_filter hold) rule hrule hsource id container hat
      hrunning hbridge slot hslot

/-! ## Steps and runs -/

theorem isolated_call {call : Call} {answer : Answer call} {choice : Choice}
    (hinv : Inv world origins ghosts) (hpre : pre call (ghosts task))
    (hexec : exec world (origins task) call answer choice = some world')
    (hdocker : DockerAnswer world call answer choice)
    (hsafe : SafeAnswer world (origins task) call answer choice)
    (hisolated : Isolated world) (hdistinct : Distinct world) :
    Isolated world' ∧ Distinct world' := by
  have hshrunk : Shrinks world world' → Isolated world' ∧ Distinct world' :=
    fun hshrinks => ⟨hisolated.shrink hinv hshrinks, hdistinct.shrink hshrinks⟩
  cases call with
  | startContainer id =>
      cases answer with
      | false =>
          obtain rfl := Option.some.inj hexec
          exact hshrunk shrinks_refl
      | true =>
          obtain ⟨container, hat, hstatus, rfl⟩ := exec_startContainer hexec
          exact ⟨isolated_start hinv hisolated (hdocker rfl) (hsafe rfl),
            distinct_start hdistinct (hdocker rfl)⟩
  | iptablesAppend rule =>
      cases answer with
      | false =>
          obtain rfl := Option.some.inj hexec
          exact hshrunk shrinks_refl
      | true =>
          obtain rfl := exec_iptablesAppend hexec
          exact ⟨isolated_append hinv hpre hisolated, hdistinct⟩
  | configurePeer peer =>
      cases answer with
      | false =>
          obtain rfl := Option.some.inj hexec
          exact hshrunk shrinks_refl
      | true =>
          obtain rfl := exec_configurePeer hexec
          exact ⟨isolated_configure hinv hpre hisolated hdistinct (hsafe rfl), hdistinct⟩
  | _ => exact hshrunk (shrinks_of_exec hexec (by simp) (by simp) (by simp))

variable {panics : DoublePanic} {int : Interface} {actions : List Action}
variable {daemon next : Daemon} {action : Action}

theorem isolated_step (hsound : Sound daemon ghosts)
    (hstep : Daemon.Step panics int daemon action next)
    (hdocker : DockerAction daemon action) (hsafe : SafeAction daemon action)
    (hisolated : Isolated daemon.world) (hdistinct : Distinct daemon.world) :
    Isolated next.world ∧ Distinct next.world := by
  have hshrunk : ∀ world', Shrinks daemon.world world' → Isolated world' ∧ Distinct world' :=
    fun world' hshrinks => ⟨hisolated.shrink hsound.inv hshrinks, hdistinct.shrink hshrinks⟩
  cases hstep with
  | containerExit hphase hrunning =>
      apply hshrunk
      apply shrinks_setContainer
      intro container hstatus
      cases hstatus
  | cancel hphase => exact hshrunk _ { @shrinks_refl daemon.world with }
  | task hphase hpanics hpool =>
      cases hpool with
      | answer hat hexec =>
          exact isolated_call hsound.inv (hsound.guarded.pre hat) (exec_originOf hat hexec)
            hdocker hsafe hisolated hdistinct
      | spawn hat => exact ⟨hisolated, hdistinct⟩
      | join hat hother hended => exact ⟨hisolated, hdistinct⟩
  | _ => exact ⟨hisolated, hdistinct⟩

/-- Guests are isolated in every run in which no bridge address goes from the
exited container of a guest with a peer to another container, and no guest gets
a peer after its has. -/
theorem guests_isolated
    (hrun : Run (restrict (Daemon.Step panics int) fun before action =>
      DockerAction before action ∧ SafeAction before action) initial actions daemon) :
    Isolated daemon.world := by
  have hall : ∃ ghosts, Sound daemon ghosts ∧ Isolated daemon.world ∧
      Distinct daemon.world := by
    apply Run.invariant
      (fun daemon => ∃ ghosts, Sound daemon ghosts ∧ Isolated daemon.world ∧
        Distinct daemon.world) _ _ hrun
    · refine ⟨_, sound_initial, ?_, ?_⟩
      · intro peer hpeer
        cases hpeer
      · intro left right container container' hleft
        simp [initial, initialWorld] at hleft
    · intro before action after hbefore hstep
      rcases hbefore with ⟨ghosts, hsound, hisolated, hdistinct⟩
      rcases hsound.step hstep.1 with ⟨ghosts', hnext⟩
      exact ⟨ghosts', hnext.sound, isolated_step hsound hstep.1 hstep.2.1 hstep.2.2
        hisolated hdistinct⟩
  exact hall.choose_spec.2.1

/-! ## Schedules -/

def dockerCheck (daemon : Daemon) : Action → Bool
  | .task (.answer _ (.startContainer _) _ choice) =>
      daemon.world.containers.all fun container =>
        decide (container.status = .running → container.bridge ≠ some choice.bridge)
  | _ => true

theorem dockerAction_of_check (daemon : Daemon) (action : Action)
    (hcheck : dockerCheck daemon action = true) : DockerAction daemon action := by
  cases action with
  | task event =>
      cases event with
      | answer task request answer choice =>
          cases request with
          | startContainer id =>
              intro _ other container hat hrunning
              have hall := List.all_eq_true.mp hcheck container (List.mem_of_getElem? hat)
              exact of_decide_eq_true hall hrunning
          | _ => trivial
      | _ => trivial
  | _ => trivial

/-- As long as no container has exited by itself, every step is safe. -/
theorem safeAction_of_none_exited (daemon : Daemon) (action : Action)
    (hnone : (daemon.world.containers.all fun container =>
      decide (container.status ≠ .exited)) = true) : SafeAction daemon action := by
  have hall : ∀ (id : ContainerId) (container : DockerContainer),
      daemon.world.containers[id]? = some container → container.status ≠ .exited :=
    fun id container hat =>
      of_decide_eq_true (List.all_eq_true.mp hnone container (List.mem_of_getElem? hat))
  cases action with
  | task event =>
      cases event with
      | answer task request answer choice =>
          cases request with
          | startContainer id =>
              exact fun _ other container hat hexited => absurd hexited (hall other _ hat)
          | configurePeer peer =>
              exact fun _ other container hat hexited => absurd hexited (hall other _ hat)
          | _ => trivial
      | _ => trivial
  | _ => trivial

def firstScript : Script where
  container := 0
  bridge := "172.17.0.2"

/-- Two guests are up, and the first is torn down. -/
def twoGuests : List Move :=
  firstScript.guest 0 0 ++
    Script.guest { container := 1, bridge := "172.17.0.3", keypair := ⟨[2], [20]⟩ } 1 4 ++
    firstScript.teardown 0

theorem guests_isolated_twoGuests : ∃ actions daemon,
    Run (restrict (Daemon.Step .abortsProcess ⟨""⟩) fun before action =>
      DockerAction before action ∧ SafeAction before action) initial actions daemon ∧
      daemon.world.nat = [⟨2, "172.17.0.3"⟩] ∧ Isolated daemon.world := by
  have hcheck : ∀ daemon action, (dockerCheck daemon action &&
      daemon.world.containers.all fun container => decide (container.status ≠ .exited)) =
        true → DockerAction daemon action ∧ SafeAction daemon action := by
    intro daemon action hcheck
    rw [Bool.and_eq_true] at hcheck
    exact ⟨dockerAction_of_check daemon action hcheck.1,
      safeAction_of_none_exited daemon action hcheck.2⟩
  rcases exists_restricted_run .abortsProcess ⟨""⟩ _ twoGuests
    (fun daemon => decide (daemon.world.nat = [⟨2, "172.17.0.3"⟩])) hcheck (by rfl) with
    ⟨actions, daemon, hrun, htest⟩
  exact ⟨actions, daemon, hrun, of_decide_eq_true htest, guests_isolated hrun⟩

/-- The first guest's container exits by itself, and Docker gives its bridge
address to the container of the second guest before the teardown of the first
has removed its peer. -/
def reusedBridge : List Move :=
  firstScript.guest 0 0 ++ [.containerExit 0] ++
    Script.connect { firstScript with container := 1 } 1 4 ++
    Script.steps { firstScript with container := 1 } 4 5

def reusedTest (daemon : Daemon) : Bool :=
  decide (daemon.world.peers = [⟨[1], 1⟩]) &&
    decide (daemon.world.nat = [⟨1, "172.17.0.2"⟩]) &&
    decide (daemon.world.taker firstSlot = 0) &&
    daemon.world.containers[1]?.any fun container => decide (container.origin = 4 ∧
      container.status = .running ∧ container.bridge = some "172.17.0.2")

/-- All calls succeed, Docker keeps its promise, and the first guest's packets
reach the second guest's container. -/
theorem guests_not_isolated :
    ¬ ∀ (int : Interface) (actions : List Action) (daemon : Daemon),
      Run (restrict (Daemon.Step .abortsProcess int) fun before action =>
        DockerAction before action ∧ failedAction action = false) initial actions daemon →
        Isolated daemon.world := by
  intro hclaim
  have hcheck : ∀ daemon action, (dockerCheck daemon action && !failedAction action) = true →
      DockerAction daemon action ∧ failedAction action = false := by
    intro daemon action hcheck
    rw [Bool.and_eq_true] at hcheck
    exact ⟨dockerAction_of_check daemon action hcheck.1, by simpa using hcheck.2⟩
  rcases exists_restricted_run .abortsProcess ⟨""⟩ _ reusedBridge reusedTest hcheck (by rfl) with
    ⟨actions, daemon, hrun, htest⟩
  simp only [reusedTest, Bool.and_eq_true, decide_eq_true_eq] at htest
  rcases htest with ⟨⟨⟨hpeers, hnat⟩, htaker⟩, hcontainer⟩
  obtain ⟨container, hat, hreused⟩ := (Option.any_eq_true _ _).mp hcontainer
  rcases of_decide_eq_true hreused with ⟨horigin, hrunning, hbridge⟩
  have hsame := hclaim ⟨""⟩ actions daemon hrun ⟨[1], 1⟩ (by simp [hpeers])
    ⟨1, "172.17.0.2"⟩ (by simp [hnat]) rfl 1 container hat hrunning hbridge
    firstSlot (by decide)
  rw [horigin, htaker] at hsame
  cases hsame

end ScdtServer.Isolation
