import ScdtServer.Challd.Daemon

/-!
# Who has the address of a connection

The tasks of a connection hand its address on from one to the next, together
with the container once that has been created.  The stage of a task says what
it has of both.  The store to the slot comes after the call that stops the
container: a task whose stop call has been answered has no container any more.
-/

namespace ScdtServer.Tenancy

open ScdtServer.Interaction ScdtServer.Interaction.Program
open ScdtServer.ByteReader ScdtServer.Ports ScdtServer.RequestReader
open ScdtServer.Host ScdtServer.AddressManager ScdtServer.Interface ScdtServer.Main

/-- The slot is missing in the stages of a demo. -/
inductive Stage
  | connected
  | reserved (slot : Option Slot)
  | up (slot : Option Slot) (id : ContainerId)
  | down (slot : Option Slot)
  | waiting (task : ℕ)
  | done

def Stage.slot : Stage → Option Slot
  | .reserved slot => slot
  | .up slot _ => slot
  | .down slot => slot
  | _ => none

/-- The task acts for its connection; the others have handed over or are done. -/
def Stage.active : Stage → Bool
  | .waiting _ => false
  | .done => false
  | _ => true

def pre : Call → Stage → Prop
  | .fetchOr _, stage => stage = .connected
  | .store slot, stage => stage = .down (some slot)
  | .createContainer _, stage => ∃ slot, stage = .reserved slot
  | .startContainer id, stage => ∃ slot, stage = .up slot id
  | .stopContainer id, stage => ∃ slot, stage = .up slot id
  | _, _ => True

def after : (call : Call) → Answer call → Stage → Stage
  | .fetchOr slot, inUse, stage => if inUse = true then stage else .reserved (some slot)
  | .store _, _, _ => .done
  | .createContainer _, created, stage =>
      match (created : Option ContainerId) with
      | some id => .up stage.slot id
      | none => stage
  | .stopContainer _, _, stage => .down stage.slot
  | _, _, stage => stage

/-- The request task gets the address from the connection task, the teardown
gets it from the request task with the container, and the writer gets nothing. -/
abbrev rules : Rules challd Stage where
  pre := pre
  after call answer stage stage' := stage' = after call answer stage
  spawnable role stage :=
    match role with
    | .connection => False
    | .request => stage = .connected ∨ ∃ slot, stage = .reserved (some slot)
    | .teardown => ∃ slot id, stage = .up slot id
    | .writer => True
  give role stage :=
    match role, stage with
    | .request, .connected => .reserved none
    | .writer, _ => .done
    | _, stage => stage
  keep role stage task :=
    match role with
    | .writer => stage
    | .teardown => .waiting task
    | _ => .done
  awaiting stage :=
    match stage with
    | .waiting task => some task
    | _ => none
  joined _ := .done
  ended _ := True

variable {A : Type} {stage : Stage} {slot : Option Slot} {id : ContainerId}

theorem wp_ask {call : Call} {post : Answer call → Stage → Prop} (hpre : pre call stage)
    (hpost : ∀ answer, post answer (after call answer stage)) :
    wp rules (.call (S := challd) call .ret) post stage := by
  refine ⟨hpre, fun answer stage' hafter => ?_⟩
  rw [show stage' = after call answer stage from hafter]
  exact hpost answer

/-- A panic leaves the stage to the task that panicked. -/
theorem wp_assert {condition : Bool} {post : Unit → Stage → Prop} (hpost : post () stage) :
    wp rules (assert condition) post stage := by
  cases condition with
  | true => exact hpost
  | false => trivial

theorem wp_unwrap {value : Option A} {post : A → Stage → Prop}
    (hpost : ∀ inner, value = some inner → post inner stage) :
    wp rules (unwrap value) post stage := by
  cases value with
  | some inner => exact hpost inner rfl
  | none => trivial

/-- A task that aborts the process is done, whatever its stage. -/
theorem wp_abort {post : A → Stage → Prop} : wp rules abort post stage :=
  ⟨trivial, fun _ _ _ => trivial⟩

theorem wp_receive {reader : Reader A} {post : A → Stage → Prop}
    (hpost : ∀ value, post value stage) : wp rules (receive reader) post stage := by
  induction reader with
  | done value => exact hpost value
  | await count next ih =>
      refine ⟨trivial, fun bytes stage' hafter => ?_⟩
      rw [show stage' = stage from hafter]
      exact ih bytes

/-! ## The address -/

theorem wp_takeNextAddrFrom {post : Option UInt8 → Stage → Prop} (slots : List Slot)
    (hsome : ∀ slot, post (some (addrOf slot)) (.reserved (some slot)))
    (hnone : post none .connected) :
    wp rules (takeNextAddrFrom slots) post .connected := by
  induction slots with
  | nil => exact hnone
  | cons slot slots ih =>
      rw [takeNextAddrFrom, wp_bind]
      refine wp_ask rfl fun inUse => ?_
      cases inUse with
      | true => exact ih
      | false => exact hsome slot

theorem wp_giveBack {maybeSlot : Option Slot} {post : Unit → Stage → Prop}
    (hpost : ∀ stage, post () stage) :
    wp rules (match maybeSlot.map addrOf with
      | some addr => relinquishAddr addr
      | none => return ()) post (.down maybeSlot) := by
  cases maybeSlot with
  | none => exact hpost _
  | some slot =>
      simp only [Option.map_some, relinquishAddr_addrOf]
      exact wp_ask rfl fun _ => hpost _

/-! ## The container -/

theorem wp_addHostAddr {maybeAddr : Option UInt8} {post : Unit → Stage → Prop}
    (hpost : post () stage) : wp rules (Container.addHostAddr maybeAddr) post stage := by
  cases maybeAddr with
  | none => exact hpost
  | some addr =>
      rw [Container.addHostAddr, wp_bind]
      exact wp_ask trivial fun added => wp_assert hpost

theorem wp_addVpnInfo {maybeAddr : Option UInt8}
    {post : Option Container.VpnInfo → Stage → Prop} (hpost : ∀ vpnInfo, post vpnInfo stage) :
    wp rules (Container.addVpnInfo id maybeAddr) post stage := by
  cases maybeAddr with
  | none => exact hpost none
  | some addr =>
      rw [Container.addVpnInfo, wp_bind]
      refine wp_ask trivial fun inspected => ?_
      rw [wp_bind]
      apply wp_unwrap
      intro response _
      rw [wp_bind]
      apply wp_unwrap
      intro bridgeAddr _
      rw [wp_bind]
      refine wp_ask trivial fun appended => ?_
      rw [wp_bind]
      exact wp_assert (hpost _)

/-- A container that is returned has been created for the connection. -/
theorem wp_create {imageName : String} {maybeAddr : Option UInt8} {ports : PortMappings}
    {post : Except Container.Error Container.Container → Stage → Prop}
    (hok : ∀ id vpnInfo, post (.ok ⟨some id, vpnInfo⟩) (.up slot id))
    (herror : ∀ error, post (.error error) (.reserved slot)) :
    wp rules (Container.create imageName maybeAddr ports) post (.reserved slot) := by
  rw [Container.create, wp_bind]
  apply wp_assert
  rw [wp_bind]
  refine wp_ask trivial fun connected => ?_
  cases connected with
  | false => exact herror _
  | true =>
      rw [if_neg (by decide), wp_bind]
      apply wp_addHostAddr
      rw [wp_bind]
      refine wp_ask ⟨slot, rfl⟩ fun created => ?_
      rw [wp_bind]
      apply wp_unwrap
      rintro id rfl
      rw [wp_bind]
      refine wp_ask ⟨slot, rfl⟩ fun started => ?_
      rw [wp_bind]
      apply wp_assert
      rw [wp_bind]
      apply wp_addVpnInfo
      exact fun vpnInfo => hok id vpnInfo

theorem wp_removeVpnInfo {vpnInfo : Option Container.VpnInfo} {post : Unit → Stage → Prop}
    (hpost : post () stage) : wp rules (Container.removeVpnInfo vpnInfo) post stage := by
  cases vpnInfo with
  | none => exact hpost
  | some vpn =>
      rw [Container.removeVpnInfo, wp_bind]
      refine wp_ask trivial fun deleted => ?_
      rw [wp_bind]
      apply wp_assert
      rw [wp_bind]
      exact wp_ask trivial fun deleted => wp_assert hpost

/-- `shutdown` returns only after its stop call has been answered. -/
theorem wp_shutdown {vpnInfo : Option Container.VpnInfo} {post : Unit → Stage → Prop}
    (hpost : post () (.down slot)) :
    wp rules (Container.shutdown ⟨some id, vpnInfo⟩) post (.up slot id) := by
  rw [Container.shutdown, wp_bind]
  refine wp_ask trivial fun connected => ?_
  cases connected with
  | false =>
      rw [if_pos rfl, Container.unwind_drop]
      exact wp_abort
  | true =>
      rw [if_neg (by decide), unwrap_some, ret_bind, wp_bind]
      refine wp_ask ⟨slot, rfl⟩ fun result => ?_
      exact wp_removeVpnInfo hpost

/-! ## The tasks -/

theorem wp_cleanup {vpnInfo : Option Container.VpnInfo} {post : Unit → Stage → Prop}
    (hpost : ∀ stage, post () stage) :
    wp rules (cleanup ⟨some id, vpnInfo⟩ (slot.map addrOf)).poll post (.up slot id) := by
  simp only [cleanup, wp_bind]
  exact wp_shutdown (wp_giveBack hpost)

theorem wp_removePeerTask {vpnInfo : Option Container.VpnInfo} {publicKey : PublicKey}
    {deadline : Deadline} :
    wp rules (removePeerTask publicKey (cleanup ⟨some id, vpnInfo⟩ (slot.map addrOf)) deadline)
      (fun _ => rules.ended) (.up slot id) := by
  rw [removePeerTask, wp_bind]
  refine wp_ask trivial fun trigger => ?_
  rw [wp_bind]
  refine wp_ask trivial fun removed => ?_
  cases removed with
  | false => trivial
  | true =>
      rw [if_neg (by decide), wp_bind]
      exact wp_cleanup fun _ => trivial

theorem wp_demoTask {vpnInfo : Option Container.VpnInfo} {deadline : Deadline} :
    wp rules (demoTask (cleanup ⟨some id, vpnInfo⟩ (slot.map addrOf)) deadline)
      (fun _ => rules.ended) (.up slot id) := by
  rw [demoTask, wp_bind]
  refine wp_ask trivial fun trigger => ?_
  rw [wp_bind]
  exact wp_cleanup fun _ => trivial

/-- The request is left with a teardown to wait for. -/
theorem wp_spawnTeardown {int : Interface} {vpnInfo : Option Container.VpnInfo}
    {post : ℕ × Option WgConfig.WgConfig → Stage → Prop}
    (hpost : ∀ handle maybeCfg, post (handle, maybeCfg) (.waiting handle)) :
    wp rules (spawnTeardown int ⟨some id, vpnInfo⟩ (slot.map addrOf)) post (.up slot id) := by
  rw [spawnTeardown, unwrap_some, ret_bind]
  cases slot with
  | none =>
      refine ⟨⟨none, id, rfl⟩, @wp_demoTask none id .., fun handle => ?_⟩
      exact hpost handle none
  | some slot =>
      simp only [Option.map_some, addTempPeer, addrInRange_addrOf, Bool.true_eq_false,
        if_false, wp_bind]
      refine wp_ask trivial fun keypair => ?_
      rw [wp_bind]
      refine wp_ask trivial fun configured => ?_
      cases configured with
      | false => trivial
      | true =>
          rw [if_neg (by decide)]
          refine ⟨⟨some slot, id, rfl⟩, @wp_removePeerTask (some slot) id .., fun handle => ?_⟩
          exact hpost handle _

theorem wp_respond {maybeCfg : Option WgConfig.WgConfig} :
    wp rules (respond maybeCfg) (fun _ => rules.ended) stage := by
  have hshutdown : wp rules (do assert (← shutdownStream); return (.ok () : TaskResult))
      (fun _ => rules.ended) stage := by
    rw [wp_bind]
    refine wp_ask trivial fun closed => ?_
    rw [wp_bind]
    exact wp_assert trivial
  rw [respond, wp_bind]
  refine wp_ask trivial fun written => ?_
  cases maybeCfg with
  | none => exact hshutdown
  | some cfg =>
      rw [wp_bind, writeMaybeConfig, writeConfig, wp_bind]
      -- a panic is as good as an answer here, so whether the length fits does not matter
      generalize decide ((utf8Bytes cfg.serialize).length < 65536) = fits
      apply wp_assert
      rw [wp_bind]
      refine wp_ask trivial fun written => ?_
      rw [wp_bind]
      apply wp_assert
      rw [wp_bind]
      exact wp_ask trivial fun written => wp_assert hshutdown

theorem wp_requestTask {int : Interface} {request : Request} :
    wp rules (requestTask int request (slot.map addrOf)) (fun _ => rules.ended)
      (.reserved slot) := by
  rw [requestTask, wp_bind]
  apply wp_create
  · intro id vpnInfo
    rw [unwrapOk, pure_eq_ret, ret_bind, wp_bind]
    apply wp_spawnTeardown
    intro handle maybeCfg
    refine ⟨trivial, wp_respond, fun writer => ?_⟩
    refine ⟨rfl, fun outcome => ?_⟩
    match outcome with
    | none => trivial
    | some (.error error) => trivial
    | some (.ok ()) => trivial
  · intro error
    trivial

theorem wp_refuse {code : UInt8} :
    wp rules (refuse code) (fun _ => rules.ended) stage := by
  rw [refuse, wp_bind]
  exact wp_ask trivial fun _ => trivial

/-- Every connection task meets its obligations. -/
theorem wp_connection (int : Interface) :
    wp rules (connection int) (fun _ => rules.ended) .connected := by
  rw [connection, wp_bind]
  apply wp_receive
  intro result
  cases result with
  | error code => exact wp_refuse
  | ok request =>
      cases hmode : request.mode with
      | guestRequest code =>
          simp only [serve, hmode, wp_bind]
          apply wp_takeNextAddrFrom
          · intro slot
            exact ⟨.inr ⟨slot, rfl⟩, @wp_requestTask (some slot) int request, fun _ => trivial⟩
          · exact wp_refuse
      | demo =>
          simp only [serve, hmode]
          exact ⟨.inl rfl, @wp_requestTask none int request, fun _ => trivial⟩

end ScdtServer.Tenancy
