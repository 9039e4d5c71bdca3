import ScdtServer.Challd.Daemon

/-!
# What a task of the daemon holds

The ghost state of a task lists what it has acquired and not yet given back:
its slot, the address on `eth42`, the container, the NAT rule and the peer.
The rules say what must be held for a call to be issued.  They are strict where
the order of the teardown matters: a slot may only be stored to when everything
else has been given back, and a container may only be stopped once its peer is
gone.

Three marks record failures.  `lost` is set when a failing call leaves something
behind with a task that will not clean it up; `dormant` is set instead when the
task holds no slot and its container does not run.  `severed` is set besides when a
shutdown has not reached Docker: only then may a task abort the process.
-/

namespace ScdtServer.Holdings

open ScdtServer.Interaction ScdtServer.Interaction.Program
open ScdtServer.ByteReader ScdtServer.Ports ScdtServer.RequestReader
open ScdtServer.Host ScdtServer.AddressManager ScdtServer.Interface ScdtServer.Main

structure Held where
  role : Role
  slot : Option Slot
  eth : Option UInt8
  container : Option ContainerId
  started : Bool
  bridge : Option BridgeAddr
  rule : Option NatRule
  peer : Option Peer
  child : Option ℕ
  dormant : Bool
  lost : Bool
  severed : Bool

/-- A task that holds nothing. -/
def Held.bare (role : Role) : Held where
  role := role
  slot := none
  eth := none
  container := none
  started := false
  bridge := none
  rule := none
  peer := none
  child := none
  dormant := false
  lost := false
  severed := false

/-- The address of the slot that is held. -/
def Held.addr (held : Held) : Option UInt8 := held.slot.map addrOf

/-- Nothing that a later request could trip over is held. -/
structure Held.Released (held : Held) : Prop where
  slot : held.slot = none
  eth : held.eth = none
  rule : held.rule = none
  peer : held.peer = none
  container : held.container = none ∨ held.dormant = true

/-- A failing call either costs the task what it holds, or finds it without a
slot and without a running container. -/
def Failed (held held' : Held) : Prop :=
  held' = { held with lost := true } ∨
    (held.slot = none ∧ held' = { held with dormant := true })

def pre : Call → Held → Prop
  | .fetchOr _, held => held.role = .connection ∧ held.slot = none
  | .store slot, held =>
      held.slot = some slot ∧ held.eth = none ∧ held.rule = none ∧ held.peer = none ∧
        (held.container = none ∨ held.lost = true)
  | .ipAddrAdd addr, held =>
      held.role = .request ∧ held.eth = none ∧ held.addr = some addr
  | .ipAddrDel addr, held => held.eth = some addr ∧ held.rule = none
  | .createContainer _, held =>
      held.role = .request ∧ held.container = none ∧ held.rule = none ∧
        held.dormant = false
  | .startContainer id, held =>
      held.container = some id ∧ held.bridge = none ∧ held.dormant = false
  | .inspectContainer id, held => held.container = some id ∧ held.rule = none
  | .stopContainer id, held =>
      held.container = some id ∧ held.started = true ∧ held.peer = none
  | .iptablesAppend rule, held =>
      held.role = .request ∧ held.rule = none ∧ held.addr = some rule.source ∧
        held.bridge = some rule.toDestination
  | .iptablesDelete rule, held => held.rule = some rule ∧ held.peer = none
  | .configurePeer peer, held =>
      held.role = .request ∧ held.peer = none ∧ held.addr = some peer.allowedIp ∧
        held.rule.isSome = true ∧ held.container.isSome = true
  | .removePeer publicKey, held => held.peer.map Peer.publicKey = some publicKey
  | .abort, held => held.severed = true
  | _, _ => True

def after : (call : Call) → Answer call → Held → Held → Prop
  | .fetchOr slot, inUse, held, held' =>
      if inUse = true then held' = held else held' = { held with slot := some slot }
  | .store _, _, held, held' => held' = { held with slot := none }
  | .connectWithUnixDefaults, ok, held, held' =>
      if ok = true then held' = held else Failed held held'
  | .connectWithUnix _ _, ok, held, held' =>
      if ok = true then held' = held else Failed { held with severed := true } held'
  | .ipAddrAdd addr, ok, held, held' =>
      if ok = true then held' = { held with eth := some addr } else Failed held held'
  | .ipAddrDel _, ok, held, held' =>
      if ok = true then held' = { held with eth := none } else Failed held held'
  | .createContainer _, id, held, held' =>
      match (id : Option ContainerId) with
      | some id =>
          held' = { held with container := some id, started := false, bridge := none }
      | none => Failed held held'
  | .startContainer _, ok, held, held' =>
      if ok = true then held' = { held with started := true } else Failed held held'
  | .inspectContainer _, answer, held, held' =>
      match (answer : Option ContainerInspectResponse).bind
        ContainerInspectResponse.bridgeAddr with
      | some bridge => held' = { held with bridge := some bridge }
      | none => Failed held held'
  | .stopContainer _, answer, held, held' =>
      held' = { held with container := none } ∨
        ((answer : StopResult) = .error ∧ held' = { held with lost := true })
  | .iptablesAppend rule, ok, held, held' =>
      if ok = true then held' = { held with rule := some rule } else Failed held held'
  | .iptablesDelete _, ok, held, held' =>
      if ok = true then held' = { held with rule := none } else Failed held held'
  | .configurePeer peer, ok, held, held' =>
      if ok = true then held' = { held with peer := some peer } else Failed held held'
  | .removePeer _, ok, held, held' =>
      if ok = true then held' = { held with peer := none } else Failed held held'
  | .read _, _, held, held' => held' = held
  | .write _, _, held, held' => held' = held
  | .shutdownStream, _, held, held' => held' = held
  | .genKeypair, _, held, held' => held' = held
  | .select _ _, _, held, held' => held' = held
  | .abort, _, held, held' => held' = held

/-- No answer changes what kind of task it is or whom it waits for. -/
theorem after_frame {call : Call} {answer : Answer call} {held held' : Held}
    (hafter : after call answer held held') :
    held'.role = held.role ∧ held'.child = held.child := by
  have hfailed : ∀ before, Failed before held' → before.role = held.role →
      before.child = held.child → held'.role = held.role ∧ held'.child = held.child := by
    rintro before (rfl | ⟨-, rfl⟩) hrole hchild <;> exact ⟨hrole, hchild⟩
  cases call with
  | stopContainer id =>
      rcases hafter with rfl | ⟨-, rfl⟩ <;> exact ⟨rfl, rfl⟩
  | _ =>
      simp only [after] at hafter
      first
        | subst hafter
          exact ⟨rfl, rfl⟩
        | split at hafter
          · subst hafter
            exact ⟨rfl, rfl⟩
          · first
              | exact hfailed _ hafter rfl rfl
              | subst hafter
                exact ⟨rfl, rfl⟩

/-- A connection hands its slot to the request, the request everything to the
teardown it then waits for, and nobody anything to the writer. -/
abbrev rules : Rules challd Held where
  pre := pre
  after := after
  spawnable role held :=
    match role with
    | .connection => False
    | .request => held.role = .connection ∧ held.child = none
    | .teardown => held.role = .request ∧ held.child = none
    | .writer => True
  give role held :=
    match role with
    | .writer => .bare .writer
    | role => { held with role := role, child := none }
  keep role held task :=
    match role with
    | .writer => held
    | .teardown => { Held.bare held.role with child := some task }
    | _ => .bare held.role
  awaiting := Held.child
  joined held := { held with child := none }
  ended held := held.child = none ∧ (held.lost = true ∨ held.Released)

/-! ## The calls -/

variable {held : Held}

/-- A task that panics on a failing call has ended properly: it is marked, or
it held nothing to begin with. -/
theorem Failed.ended {held' : Held} (hfailed : Failed held held')
    (hchild : held.child = none)
    (hbare : held.slot = none → held.eth = none ∧ held.rule = none ∧ held.peer = none) :
    rules.ended held' := by
  rcases hfailed with rfl | ⟨hslot, rfl⟩
  · exact ⟨hchild, .inl rfl⟩
  · rcases hbare hslot with ⟨heth, hrule, hpeer⟩
    exact ⟨hchild, .inr ⟨hslot, heth, hrule, hpeer, .inr rfl⟩⟩

theorem wp_receive {A : Type} {reader : Reader A} {post : A → Held → Prop}
    (hpost : ∀ value, post value held) : wp rules (receive reader) post held := by
  induction reader with
  | done value => exact hpost value
  | await count next ih =>
      refine ⟨trivial, fun bytes held' hafter => ?_⟩
      rw [show held' = held from hafter]
      exact ih bytes

theorem wp_write {bytes : List UInt8} {post : Bool → Held → Prop}
    (hpost : ∀ ok, post ok held) : wp rules (write bytes) post held := by
  refine ⟨trivial, fun ok held' hafter => ?_⟩
  rw [show held' = held from hafter]
  exact hpost ok

theorem wp_shutdownStream {post : Bool → Held → Prop} (hpost : ∀ ok, post ok held) :
    wp rules shutdownStream post held := by
  refine ⟨trivial, fun ok held' hafter => ?_⟩
  rw [show held' = held from hafter]
  exact hpost ok

theorem wp_genKeypair {post : Keypair → Held → Prop}
    (hpost : ∀ keypair, post keypair held) : wp rules genKeypair post held := by
  refine ⟨trivial, fun keypair held' hafter => ?_⟩
  rw [show held' = held from hafter]
  exact hpost keypair

theorem wp_select {duration : ℕ} {watched : ContainerId} {post : Trigger → Held → Prop}
    (hpost : ∀ trigger, post trigger held) :
    wp rules (select duration watched) post held := by
  refine ⟨trivial, fun trigger held' hafter => ?_⟩
  rw [show held' = held from hafter]
  exact hpost trigger

theorem wp_fetchOr {slot : Slot} {post : Bool → Held → Prop}
    (hrole : held.role = .connection) (hslot : held.slot = none)
    (hused : post true held) (hfree : post false { held with slot := some slot }) :
    wp rules (fetchOr slot) post held := by
  refine ⟨⟨hrole, hslot⟩, fun inUse held' hafter => ?_⟩
  cases inUse with
  | true =>
      rw [show held' = held from hafter]
      exact hused
  | false =>
      rw [show held' = { held with slot := some slot } from hafter]
      exact hfree

theorem wp_store {slot : Slot} {post : Unit → Held → Prop}
    (hpre : pre (.store slot) held) (hpost : post () { held with slot := none }) :
    wp rules (store slot) post held := by
  refine ⟨hpre, fun _ held' hafter => ?_⟩
  rw [show held' = { held with slot := none } from hafter]
  exact hpost

/-- Commands share one shape: success changes the holdings in one way, failure
is `Failed`. -/
theorem command_outcome {ok : Bool} {changed held' : Held} {post : Bool → Held → Prop}
    (hafter : if ok = true then held' = changed else Failed held held')
    (hok : post true changed) (hfail : ∀ held', Failed held held' → post false held') :
    post ok held' := by
  cases ok with
  | true =>
      rw [show held' = changed from hafter]
      exact hok
  | false => exact hfail held' hafter

theorem wp_connectWithUnixDefaults {post : Bool → Held → Prop} (hok : post true held)
    (hfail : ∀ held', Failed held held' → post false held') :
    wp rules connectWithUnixDefaults post held := by
  refine ⟨trivial, fun ok held' hafter => ?_⟩
  exact command_outcome hafter hok hfail

theorem wp_connectWithUnix {addr : String} {timeout : ℕ} {post : Bool → Held → Prop}
    (hok : post true held)
    (hfail : ∀ held', Failed { held with severed := true } held' → post false held') :
    wp rules (connectWithUnix addr timeout) post held := by
  refine ⟨trivial, fun ok held' hafter => ?_⟩
  cases ok with
  | true =>
      rw [show held' = held from hafter]
      exact hok
  | false => exact hfail held' hafter

/-- A failure leaves the other marks as they are. -/
theorem Failed.severed {held' : Held} (hfailed : Failed held held') :
    held'.severed = held.severed := by
  rcases hfailed with rfl | ⟨-, rfl⟩ <;> rfl

/-- The process may be aborted by a task that may end. -/
theorem wp_abort {A : Type} {post : A → Held → Prop} (hsevered : held.severed = true)
    (hended : rules.ended held) : wp rules abort post held := by
  refine ⟨hsevered, fun _ held' hafter => ?_⟩
  rw [show held' = held from hafter]
  exact hended

theorem wp_ipAddrAdd {addr : UInt8} {post : Bool → Held → Prop}
    (hpre : pre (.ipAddrAdd addr) held) (hok : post true { held with eth := some addr })
    (hfail : ∀ held', Failed held held' → post false held') :
    wp rules (ipAddrAdd addr) post held := by
  refine ⟨hpre, fun ok held' hafter => ?_⟩
  exact command_outcome hafter hok hfail

theorem wp_ipAddrDel {addr : UInt8} {post : Bool → Held → Prop}
    (hpre : pre (.ipAddrDel addr) held) (hok : post true { held with eth := none })
    (hfail : ∀ held', Failed held held' → post false held') :
    wp rules (ipAddrDel addr) post held := by
  refine ⟨hpre, fun ok held' hafter => ?_⟩
  exact command_outcome hafter hok hfail

theorem wp_createContainer {body : ContainerCreateBody}
    {post : Option ContainerId → Held → Prop} (hpre : pre (.createContainer body) held)
    (hok : ∀ id, post (some id)
      { held with container := some id, started := false, bridge := none })
    (hfail : ∀ held', Failed held held' → post none held') :
    wp rules (createContainer body) post held := by
  refine ⟨hpre, fun id held' hafter => ?_⟩
  cases id with
  | some id =>
      rw [show held' = { held with container := some id, started := false, bridge := none }
        from hafter]
      exact hok id
  | none => exact hfail held' hafter

theorem wp_startContainer {id : ContainerId} {post : Bool → Held → Prop}
    (hpre : pre (.startContainer id) held)
    (hok : post true { held with started := true })
    (hfail : ∀ held', Failed held held' → post false held') :
    wp rules (startContainer id) post held := by
  refine ⟨hpre, fun ok held' hafter => ?_⟩
  exact command_outcome hafter hok hfail

/-- Looking up the bridge address, up to the `unwrap`s on the response. -/
theorem wp_inspectContainer {id : ContainerId}
    {post : Option ContainerInspectResponse → Held → Prop}
    (hpre : pre (.inspectContainer id) held)
    (hok : ∀ response bridge, response.bridgeAddr = some bridge →
      post (some response) { held with bridge := some bridge })
    (hfail : ∀ answer held',
      (answer : Option _).bind ContainerInspectResponse.bridgeAddr = none →
        Failed held held' → post answer held') :
    wp rules (inspectContainer id) post held := by
  refine ⟨hpre, fun answer held' hafter => ?_⟩
  cases hbridge : answer.bind ContainerInspectResponse.bridgeAddr with
  | some bridge =>
      simp only [after, hbridge] at hafter
      rw [hafter]
      rcases Option.bind_eq_some_iff.mp hbridge with ⟨response, rfl, hresponse⟩
      exact hok response bridge hresponse
  | none =>
      simp only [after, hbridge] at hafter
      exact hfail answer held' hbridge hafter

theorem wp_stopContainer {id : ContainerId} {post : StopResult → Held → Prop}
    (hpre : pre (.stopContainer id) held)
    (hdown : ∀ result, post result { held with container := none })
    (hfail : post .error { held with lost := true }) :
    wp rules (stopContainer id) post held := by
  refine ⟨hpre, fun result held' hafter => ?_⟩
  rcases hafter with rfl | ⟨rfl, rfl⟩
  · exact hdown result
  · exact hfail

theorem wp_iptablesAppend {rule : NatRule} {post : Bool → Held → Prop}
    (hpre : pre (.iptablesAppend rule) held)
    (hok : post true { held with rule := some rule })
    (hfail : ∀ held', Failed held held' → post false held') :
    wp rules (iptablesAppend rule) post held := by
  refine ⟨hpre, fun ok held' hafter => ?_⟩
  exact command_outcome hafter hok hfail

theorem wp_iptablesDelete {rule : NatRule} {post : Bool → Held → Prop}
    (hpre : pre (.iptablesDelete rule) held)
    (hok : post true { held with rule := none })
    (hfail : ∀ held', Failed held held' → post false held') :
    wp rules (iptablesDelete rule) post held := by
  refine ⟨hpre, fun ok held' hafter => ?_⟩
  exact command_outcome hafter hok hfail

theorem wp_configurePeer {peer : Peer} {post : Bool → Held → Prop}
    (hpre : pre (.configurePeer peer) held)
    (hok : post true { held with peer := some peer })
    (hfail : ∀ held', Failed held held' → post false held') :
    wp rules (configurePeer peer) post held := by
  refine ⟨hpre, fun ok held' hafter => ?_⟩
  exact command_outcome hafter hok hfail

theorem wp_removePeer {publicKey : PublicKey} {post : Bool → Held → Prop}
    (hpre : pre (.removePeer publicKey) held)
    (hok : post true { held with peer := none })
    (hfail : ∀ held', Failed held held' → post false held') :
    wp rules (removePeer publicKey) post held := by
  refine ⟨hpre, fun ok held' hafter => ?_⟩
  exact command_outcome hafter hok hfail

end ScdtServer.Holdings
