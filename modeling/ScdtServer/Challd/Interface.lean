import ScdtServer.Core.Base64
import ScdtServer.Challd.Container
import ScdtServer.Challd.WgConfig

/-!
# Peers and teardown

A guest's peer is configured and a teardown task is spawned that waits for the
time limit, the cancellation of the daemon or the end of the container; it
removes the peer and then runs the cleanup it was given.  A demo has no peer
and is torn down in the same way.
-/

namespace ScdtServer.Interface

open ScdtServer.Interaction ScdtServer.Interaction.Program
open ScdtServer.Host ScdtServer.AddressManager ScdtServer.WgConfig

/-- A future that has been handed over: it can be polled to its end, or dropped
without having been polled, which drops what it has captured. -/
structure Future where
  poll : Prog Unit
  drop : Prog Unit

/-- The end of a container's life, as its teardown waits for it: the watched
container and the time limit in seconds. -/
structure Deadline where
  duration : ℕ
  watched : ContainerId

/-- The daemon's own WireGuard key, in base64. -/
structure Interface where
  pubkey : String

def endpoint : String := "127.0.0.1:51820"

/-- The task spawned by `Interface::add_temp_peer`.  When the peer cannot be
removed the cleanup is dropped without having run. -/
def removePeerTask (publicKey : PublicKey) (cleanup : Future) (deadline : Deadline) :
    Prog TaskResult := do
  let _ ← select deadline.duration deadline.watched
  if (← removePeer publicKey) = false then
    cleanup.drop
    return .error .interface
  else
    cleanup.poll
    return .ok ()

/-- `Interface::add_temp_peer`.  The error path drops the cleanup, and so does the
panic of the assertion. -/
def addTempPeer (int : Interface) (cleanup : Future) (deadline : Deadline)
    (addr : UInt8) : Prog (Except RemovePeerError (ℕ × WgConfig)) := do
  if addrInRange addr = false then unwind cleanup.drop
  else
    let peerKeypair ← genKeypair
    if (← configurePeer ⟨peerKeypair.pubkey, addr⟩) = false then
      cleanup.drop
      return .error .interface
    else
      let handle ← spawn .teardown (removePeerTask peerKeypair.pubkey cleanup deadline)
      return .ok
        (handle,
          { interface :=
              { address := s!"10.4.1.{addr}/32"
                privateKey := Base64.encode peerKeypair.privkey }
            peer :=
              { publicKey := int.pubkey
                endpoint := endpoint
                allowedIps := "10.4.2.0/32" } })

/-- The task spawned by `spawn_demo`. -/
def demoTask (cleanup : Future) (deadline : Deadline) : Prog TaskResult := do
  let _ ← select deadline.duration deadline.watched
  cleanup.poll
  return .ok ()

/-- `spawn_demo`. -/
def spawnDemo (cleanup : Future) (deadline : Deadline) : Prog ℕ :=
  spawn .teardown (demoTask cleanup deadline)

end ScdtServer.Interface
