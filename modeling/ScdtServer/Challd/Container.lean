import ScdtServer.Challd.AddressManager

/-!
# Containers

`Container::create` acquires, in this order, the host address, the container
and the NAT rule; `Container::shutdown` gives them back.  A `Container` value
must not be dropped before it has been shut down: its `Drop` asserts that, also
when it is dropped by a panic.
-/

namespace ScdtServer.Container

open ScdtServer.Interaction ScdtServer.Interaction.Program
open ScdtServer.Ports ScdtServer.Host ScdtServer.AddressManager

structure VpnInfo where
  addr : UInt8
  bridgeAddr : BridgeAddr
  deriving DecidableEq

structure Container where
  id : Option ContainerId
  vpnInfo : Option VpnInfo
  deriving DecidableEq

/-- `bollard::errors::Error`, as far as `create` returns it. -/
inductive Error
  | connect
  deriving DecidableEq

def defaultSocket : String := "unix:///var/run/docker.sock"

def maxMem : ℤ := 100 * 1024 * 1024

def createBody (imageName : String) (maybeAddr : Option UInt8) (ports : PortMappings) :
    ContainerCreateBody where
  image := some imageName
  stopTimeout := some 10
  hostConfig := some
    { autoRemove := some true
      memory := some maxMem
      memorySwap := some maxMem
      nanoCpus := some (2 * 10 ^ 8)
      pidsLimit := some 150
      portBindings := some (intoHashmap ports maybeAddr) }

/-- The host address of a guest container. -/
def addHostAddr (maybeAddr : Option UInt8) : Prog Unit :=
  match maybeAddr with
  | some addr => do assert (← ipAddrAdd addr)
  | none => return ()

/-- The NAT rule of a guest container: its bridge address is looked up and the
guest's packets are sent there. -/
def addVpnInfo (id : ContainerId) (maybeAddr : Option UInt8) : Prog (Option VpnInfo) :=
  match maybeAddr with
  | some addr => do
      let response ← unwrap (← inspectContainer id)
      let bridgeAddr ← unwrap response.bridgeAddr
      assert (← iptablesAppend ⟨addr, bridgeAddr⟩)
      return some ⟨addr, bridgeAddr⟩
  | none => return none

/-- `Container::create`. -/
def create (imageName : String) (maybeAddr : Option UInt8) (ports : PortMappings) :
    Prog (Except Error Container) := do
  assert (maybeAddr.all addrInRange)
  if (← connectWithUnixDefaults) = false then return .error .connect
  else
    addHostAddr maybeAddr
    let id ← unwrap (← createContainer (createBody imageName maybeAddr ports))
    assert (← startContainer id)
    let vpnInfo ← addVpnInfo id maybeAddr
    return .ok ⟨some id, vpnInfo⟩

/-- Undo the NAT rule and the host address. -/
def removeVpnInfo (vpnInfo : Option VpnInfo) : Prog Unit :=
  match vpnInfo with
  | some vpn => do
      assert (← iptablesDelete ⟨vpn.addr, vpn.bridgeAddr⟩)
      assert (← ipAddrDel vpn.addr)
  | none => return ()

/-- `Container::drop`. -/
def drop (container : Container) : Prog Unit :=
  assert container.id.isNone

/-- A panic aborts the process while there is a container that has not been shut
down. -/
@[simp]
theorem unwind_drop {A : Type} (id : ContainerId) (vpnInfo : Option VpnInfo) :
    (unwind (drop ⟨some id, vpnInfo⟩) : Prog A) = abort := rfl

/-- `Container::shutdown`.  The connection to Docker is unwrapped while the container
still has its id, so that the panic drops a container that has not been shut down.  A
container that is already gone and a stop that fails are only logged. -/
def shutdown (container : Container) : Prog Unit := do
  if (← connectWithUnix defaultSocket (15 * 60)) = false then unwind (drop container)
  else
    let id ← unwrap container.id
    let _ ← stopContainer id
    removeVpnInfo container.vpnInfo

end ScdtServer.Container
