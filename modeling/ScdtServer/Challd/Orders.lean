import ScdtServer.Challd.Accounting
import ScdtServer.Challd.Errands
import ScdtServer.Challd.Bindings

/-!
# What Docker is asked for

`Describes` and `Publishes` say what a container should be like; the body that
`Container::create` sends says just that.  As long as no call fails and there is a
free slot, a connection whose request is decoded comes to ask for the container,
and then to spawn the task that answers.
-/

namespace ScdtServer.Orders

open ScdtServer.Interaction ScdtServer.Interaction.Program
open ScdtServer.Ports ScdtServer.RequestReader ScdtServer.Bindings ScdtServer.Collect
open ScdtServer.Host ScdtServer.AddressManager ScdtServer.WgConfig
open ScdtServer.Interface ScdtServer.Main
open ScdtServer.Accounting (failed)

/-! ## What a container should be like -/

/-- The name that Docker has for a port. -/
def portName (port : UInt16) : PortType → String
  | .tcp => s!"{port}/tcp"
  | .udp => s!"{port}/udp"

/-- The host's side of the ports of a container. -/
def hostAddress : Option UInt8 → String
  | some addr => s!"10.4.2.{addr}"
  | none => "0.0.0.0"

/-- Each container port of the mappings is bound, to the host port of its last
mapping, and no other port is. -/
def Publishes (mappings : PortMappings) (maybeAddr : Option UInt8)
    (bindings : HashMap String (Option (List PortBinding))) : Prop :=
  ∀ key, bindings.lookup key =
    (mappings.reverse.find? fun mapping =>
        portName mapping.fromPort mapping.portType = key).map fun mapping =>
      some [⟨some (hostAddress maybeAddr), some (portName mapping.toPort mapping.portType)⟩]

/-- The body of a container of the image with some bindings: it is removed when it has
stopped, for which it has ten seconds; it may use 100 MiB of memory, nothing of the
swap, a fifth of a processor and 150 processes. -/
structure Describes (imageName : String)
    (bindings : HashMap String (Option (List PortBinding))) (body : ContainerCreateBody) :
    Prop where
  image : body.image = some imageName
  stopTimeout : body.stopTimeout = some 10
  hostConfig : body.hostConfig = some
    { autoRemove := some true
      memory := some 104857600
      memorySwap := some 104857600
      nanoCpus := some 200000000
      pidsLimit := some 150
      portBindings := some bindings }

/-! ## What `create` sends -/

variable {imageName : String} {maybeAddr : Option UInt8} {mappings : PortMappings}
variable {body : ContainerCreateBody}

theorem portName_eq (port : UInt16) (portType : PortType) :
    portType.asString port = portName port portType := by
  cases portType <;> rfl

theorem hostIp_eq (maybeAddr : Option UInt8) : hostIp maybeAddr = hostAddress maybeAddr := by
  cases maybeAddr <;> rfl

theorem publishes_intoHashmap : Publishes mappings maybeAddr (intoHashmap mappings maybeAddr) := by
  intro key
  rw [intoHashmap_eq, lookup_collect]
  simp only [containerPort, binding, hostIp_eq, portName_eq]

theorem describes_createBody : Describes imageName (intoHashmap mappings maybeAddr)
    (Container.createBody imageName maybeAddr mappings) := ⟨rfl, rfl, rfl⟩

section

variable {path : List (Σ request : Call, Answer request)}

theorem path_addHostAddr {next : Option ContainerId → Prog Unit} :
    ¬ Path (Container.addHostAddr maybeAddr) path
      (.call (S := challd) (.createContainer body) next) := by
  intro hpath
  cases maybeAddr with
  | none => cases hpath
  | some addr =>
      rcases hpath.of_bind with ⟨_, _, hadd⟩ | ⟨_, _, hassert⟩
      · cases hadd.of_ask
      · exact Path.of_assert hassert

theorem path_addVpnInfo {id : ContainerId}
    {next : Option ContainerId → Prog (Option Container.VpnInfo)} :
    ¬ Path (Container.addVpnInfo id maybeAddr) path
      (.call (S := challd) (.createContainer body) next) := by
  intro hpath
  cases maybeAddr with
  | none => cases hpath
  | some addr =>
      rcases hpath.of_bind with ⟨_, _, hinspect⟩ | ⟨_, _, hpath⟩
      · cases hinspect.of_ask
      rcases hpath.of_bind with ⟨_, _, hunwrap⟩ | ⟨_, _, hpath⟩
      · exact Path.of_unwrap hunwrap
      rcases hpath.of_bind with ⟨_, _, hunwrap⟩ | ⟨_, _, hpath⟩
      · exact Path.of_unwrap hunwrap
      rcases hpath.of_bind with ⟨_, _, happend⟩ | ⟨_, _, hpath⟩
      · cases happend.of_ask
      rcases hpath.of_bind with ⟨_, _, hassert⟩ | ⟨_, _, hpath⟩
      · exact Path.of_assert hassert
      · cases hpath

theorem path_create {next : Option ContainerId → Prog (Except Container.Error Container.Container)}
    (hpath : Path (Container.create imageName maybeAddr mappings) path
      (.call (S := challd) (.createContainer body) next)) :
    body = Container.createBody imageName maybeAddr mappings := by
  rw [Container.create] at hpath
  rcases hpath.of_bind with ⟨_, _, hassert⟩ | ⟨_, _, hpath⟩
  · exact absurd hassert Path.of_assert
  rcases hpath.of_bind with ⟨_, _, hconnect⟩ | ⟨connected, _, hpath⟩
  · cases hconnect.of_ask
  cases connected with
  | false => cases hpath
  | true =>
      rw [if_neg (by decide)] at hpath
      rcases hpath.of_bind with ⟨_, _, hadd⟩ | ⟨_, _, hpath⟩
      · exact absurd hadd path_addHostAddr
      rcases hpath.of_bind with ⟨_, _, hcreate⟩ | ⟨_, _, hpath⟩
      · cases hcreate.of_ask
        rfl
      rcases hpath.of_bind with ⟨_, _, hunwrap⟩ | ⟨_, _, hpath⟩
      · exact absurd hunwrap Path.of_unwrap
      rcases hpath.of_bind with ⟨_, _, hstart⟩ | ⟨_, _, hpath⟩
      · cases hstart.of_ask
      rcases hpath.of_bind with ⟨_, _, hassert⟩ | ⟨_, _, hpath⟩
      · exact absurd hassert Path.of_assert
      rcases hpath.of_bind with ⟨_, _, hvpn⟩ | ⟨_, _, hpath⟩
      · exact absurd hvpn path_addVpnInfo
      · cases hpath

theorem path_unwind {A : Type} {drop : Prog Unit} {next : Option ContainerId → Prog A} :
    ¬ Path (unwind drop) path (.call (S := challd) (.createContainer body) next) := by
  intro hpath
  cases drop with
  | ret value => cases hpath
  | _ =>
      cases hpath with
      | cons hrest => cases hrest

theorem path_addTempPeer {int : Interface} {cleanup : Future} {deadline : Deadline}
    {addr : UInt8}
    {next : Option ContainerId → Prog (Except RemovePeerError (ℕ × WgConfig))}
    (hdrop : ∀ path next, ¬ Path cleanup.drop path
      (.call (S := challd) (.createContainer body) next)) :
    ¬ Path (addTempPeer int cleanup deadline addr) path
      (.call (S := challd) (.createContainer body) next) := by
  intro hpath
  rw [addTempPeer] at hpath
  split at hpath
  · exact path_unwind hpath
  rcases hpath.of_bind with ⟨_, _, hgenerate⟩ | ⟨keypair, _, hpath⟩
  · cases hgenerate.of_ask
  rcases hpath.of_bind with ⟨_, _, hconfigure⟩ | ⟨configured, _, hpath⟩
  · cases hconfigure.of_ask
  split at hpath
  · rcases hpath.of_bind with ⟨_, _, hdropped⟩ | ⟨_, _, hpath⟩
    · exact hdrop _ _ hdropped
    · cases hpath
  · cases hpath

theorem path_spawnTeardown {int : Interface} {container : Container.Container}
    {next : Option ContainerId → Prog (ℕ × Option WgConfig)} :
    ¬ Path (spawnTeardown int container maybeAddr) path
      (.call (S := challd) (.createContainer body) next) := by
  intro hpath
  rw [spawnTeardown] at hpath
  rcases hpath.of_bind with ⟨_, _, hunwrap⟩ | ⟨watched, _, hpath⟩
  · exact Path.of_unwrap hunwrap
  cases maybeAddr with
  | none => cases hpath
  | some addr =>
      rcases hpath.of_bind with ⟨_, _, hpeer⟩ | ⟨added, _, hpath⟩
      · apply path_addTempPeer _ hpeer
        exact fun _ _ hdrop => Path.of_assert hdrop
      · rcases hpath.of_bind with ⟨_, _, hunwrap⟩ | ⟨_, _, hpath⟩
        · cases added <;> cases hunwrap
        · cases hpath

/-- A request task asks for no other container than that of its request. -/
theorem path_requestTask {int : Interface} {request : Request}
    {next : Option ContainerId → Prog TaskResult}
    (hpath : Path (requestTask int request maybeAddr) path
      (.call (S := challd) (.createContainer body) next)) :
    body = Container.createBody request.imageName maybeAddr request.ports := by
  rw [requestTask] at hpath
  rcases hpath.of_bind with ⟨_, _, hcreate⟩ | ⟨created, _, hpath⟩
  · exact path_create hcreate
  rcases hpath.of_bind with ⟨_, _, hunwrap⟩ | ⟨container, _, hpath⟩
  · cases created <;> cases hunwrap
  rcases hpath.of_bind with ⟨_, _, hspawn⟩ | ⟨answer, _, hpath⟩
  · exact absurd hspawn path_spawnTeardown
  · cases hpath

end

/-! ## When nothing fails -/

/-- The call is answered, and has not failed. -/
def Succeeds (call : Call) (answer : Answer call) : Prop := failed call answer = false

/-- The slot is free when it is looked at. -/
def FindsFree (slot : Slot) : (call : Call) → Answer call → Prop
  | .fetchOr other, inUse => other = slot → inUse = false
  | _, _ => True

theorem comesTo_takeNextAddrFrom {slots : List Slot} {slot : Slot} (hmem : slot ∈ slots) :
    (takeNextAddrFrom slots).ComesTo (FindsFree slot) fun left =>
      ∃ taken, left = .ret (some (addrOf taken)) := by
  induction slots with
  | nil => cases hmem
  | cons first rest ih =>
      refine .ask fun inUse hfree => ?_
      cases inUse with
      | false => exact .reached ⟨first, rfl⟩
      | true =>
          rcases List.mem_cons.mp hmem with rfl | hrest
          · cases hfree rfl
          · exact ih hrest

/-- The connection task spawns its request as long as there is a free slot; a demo
needs none. -/
theorem comesTo_serve {int : Interface} {request : Request} (slot : Slot) :
    (serve int request).ComesTo (FindsFree slot) fun left =>
      ∃ (maybeSlot : Option Slot) (next : ℕ → Prog TaskResult),
        left = .spawn (S := challd) .request
            (requestTask int request (maybeSlot.map addrOf)) next ∧
          maybeSlot.isSome = Errands.isGuest request.mode := by
  cases hmode : request.mode with
  | demo =>
      simp only [serve, hmode]
      exact .reached ⟨none, _, rfl, rfl⟩
  | guestRequest guestCode =>
      simp only [serve, hmode]
      apply (comesTo_takeNextAddrFrom (List.mem_finRange slot)).bind
      rintro left ⟨taken, rfl⟩
      exact .reached ⟨some taken, _, rfl, rfl⟩

theorem comesTo_addHostAddr :
    (Container.addHostAddr maybeAddr).ComesTo Succeeds (fun left => left = .ret ()) := by
  cases maybeAddr with
  | none => exact .reached rfl
  | some addr =>
      refine .ask fun added hadded => ?_
      cases added with
      | true => exact .reached rfl
      | false => cases hadded

/-- `create` comes to what it does from its call to `create_container` on. -/
theorem comesTo_of_createContainer
    {post : Prog (Except Container.Error Container.Container) → Prop}
    (hrange : maybeAddr.all addrInRange = true)
    (hrest : (do
      let id ← unwrap
        (← createContainer (Container.createBody imageName maybeAddr mappings))
      assert (← startContainer id)
      let vpnInfo ← Container.addVpnInfo id maybeAddr
      return .ok ⟨some id, vpnInfo⟩ : Prog _).ComesTo Succeeds post) :
    (Container.create imageName maybeAddr mappings).ComesTo Succeeds post := by
  rw [Container.create, hrange, assert_true, ret_bind]
  refine .ask fun connected hconnected => ?_
  cases connected with
  | false => cases hconnected
  | true =>
      rw [if_neg (by decide)]
      apply comesTo_addHostAddr.bind
      rintro left rfl
      exact hrest

theorem comesTo_create (hrange : maybeAddr.all addrInRange = true) :
    (Container.create imageName maybeAddr mappings).ComesTo Succeeds fun left =>
      ∃ next, left = .call (S := challd)
        (.createContainer (Container.createBody imageName maybeAddr mappings)) next :=
  comesTo_of_createContainer hrange (.reached ⟨_, rfl⟩)

/-- A request task asks for its container. -/
theorem comesTo_requestTask {int : Interface} {request : Request}
    (hrange : maybeAddr.all addrInRange = true) :
    (requestTask int request maybeAddr).ComesTo Succeeds fun left =>
      ∃ next, left = .call (S := challd)
        (.createContainer (Container.createBody request.imageName maybeAddr request.ports))
          next := by
  rw [requestTask]
  apply (comesTo_create hrange).bind
  rintro left ⟨next, rfl⟩
  exact .reached ⟨_, rfl⟩

theorem comesTo_addVpnInfo {id : ContainerId} :
    (Container.addVpnInfo id maybeAddr).ComesTo Succeeds fun left =>
      ∃ vpnInfo, left = .ret vpnInfo := by
  cases maybeAddr with
  | none => exact .reached ⟨_, rfl⟩
  | some addr =>
      refine .ask fun inspected hinspected => ?_
      have hfound : (inspected.bind ContainerInspectResponse.bridgeAddr).isSome = true := by
        simpa [Succeeds, failed] using hinspected
      obtain ⟨bridgeAddr, hbridge⟩ := Option.isSome_iff_exists.mp hfound
      obtain ⟨response, rfl, hresponse⟩ := Option.bind_eq_some_iff.mp hbridge
      rw [unwrap_some, ret_bind, hresponse, unwrap_some, ret_bind]
      refine .ask fun appended happended => ?_
      cases appended with
      | true => exact .reached ⟨_, rfl⟩
      | false => cases happended

/-- `create` up to its end. -/
theorem comesTo_created (hrange : maybeAddr.all addrInRange = true) :
    (Container.create imageName maybeAddr mappings).ComesTo Succeeds fun left =>
      ∃ id vpnInfo, left = .ret (.ok ⟨some id, vpnInfo⟩) := by
  apply comesTo_of_createContainer hrange
  refine .ask fun created hcreated => ?_
  cases created with
  | none => cases hcreated
  | some id =>
      refine .ask fun started hstarted => ?_
      cases started with
      | false => cases hstarted
      | true =>
          apply comesTo_addVpnInfo.bind
          rintro left ⟨vpnInfo, rfl⟩
          exact .reached ⟨id, vpnInfo, rfl⟩

theorem comesTo_spawnTeardown {int : Interface} {id : ContainerId}
    {vpnInfo : Option Container.VpnInfo} (hrange : maybeAddr.all addrInRange = true) :
    (spawnTeardown int ⟨some id, vpnInfo⟩ maybeAddr).ComesTo Succeeds fun left =>
      ∃ handle maybeCfg, left = .ret (handle, maybeCfg) ∧
        maybeCfg.isSome = maybeAddr.isSome := by
  rw [spawnTeardown, unwrap_some, ret_bind]
  cases maybeAddr with
  | none => exact .spawned fun handle => .reached ⟨handle, none, rfl, rfl⟩
  | some addr =>
      have hinRange : addrInRange addr = true := hrange
      simp only [addTempPeer, hinRange, Bool.true_eq_false, if_false]
      refine .answered fun keypair _ => .answered fun configured hconfigured => ?_
      cases configured with
      | false => cases hconfigured
      | true => exact .spawned fun handle => .reached ⟨handle, some _, rfl, rfl⟩

/-- A request task spawns the task that answers, which has a configuration for a guest. -/
theorem comesTo_respond {int : Interface} {request : Request}
    (hrange : maybeAddr.all addrInRange = true) :
    (requestTask int request maybeAddr).ComesTo Succeeds fun left =>
      ∃ maybeCfg next, left = .spawn (S := challd) .writer (respond maybeCfg) next ∧
        maybeCfg.isSome = maybeAddr.isSome := by
  rw [requestTask]
  apply (comesTo_created hrange).bind
  rintro left ⟨id, vpnInfo, rfl⟩
  rw [ret_bind, unwrapOk, pure_eq_ret, ret_bind]
  apply (comesTo_spawnTeardown hrange).bind
  rintro left ⟨handle, maybeCfg, rfl, hsome⟩
  exact .reached ⟨maybeCfg, _, rfl, hsome⟩

end ScdtServer.Orders
