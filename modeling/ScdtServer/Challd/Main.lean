import ScdtServer.Challd.Interface

/-!
# The daemon's tasks

A connection task decodes a request and, in guest mode, takes an address; it
then spawns a tracked request task.  The request task creates the container,
configures the peer, spawns the teardown and the task that writes the answer,
and waits for the teardown to end.
-/

namespace ScdtServer.Main

open ScdtServer.Interaction ScdtServer.Interaction.Program
open ScdtServer.ByteReader ScdtServer.Ports ScdtServer.RequestReader
open ScdtServer.Host ScdtServer.AddressManager ScdtServer.WgConfig
open ScdtServer.Interface

/-- Rust's `unwrap` on a `Result`. -/
def unwrapOk {E A : Type} : Except E A → Prog A
  | .ok value => return value
  | .error _ => .panic

/-- The configuration of a guest, preceded by its length in two bytes; a length
that does not fit panics. -/
def writeConfig (cfg : WgConfig) : Prog Unit := do
  let bytes := utf8Bytes cfg.serialize
  assert (decide (bytes.length < 65536))
  assert (← write (leBytes 2 bytes.length))
  assert (← write bytes)

def writeMaybeConfig : Option WgConfig → Prog Unit
  | some cfg => writeConfig cfg
  | none => return ()

/-- The task that answers a request whose container is up. -/
def respond (maybeCfg : Option WgConfig) : Prog TaskResult := do
  let _ ← write [resultOk]
  writeMaybeConfig maybeCfg
  assert (← shutdownStream)
  return .ok ()

/-- The `cleanup` future: shut the container down, then give the address
back. -/
def cleanup (container : Container.Container) (maybeAddr : Option UInt8) : Future where
  poll := do
    Container.shutdown container
    match maybeAddr with
    | some addr => relinquishAddr addr
    | none => return ()
  drop := Container.drop container

def guestDuration : ℕ := 4 * 60 * 60
def demoDuration : ℕ := 6 * 60 * 60

/-- Hand the container over to its teardown task. -/
def spawnTeardown (int : Interface) (container : Container.Container)
    (maybeAddr : Option UInt8) : Prog (ℕ × Option WgConfig) := do
  let watched ← unwrap container.id
  match maybeAddr with
  | some addr => do
      let (handle, cfg) ← unwrapOk
        (← addTempPeer int (cleanup container maybeAddr) ⟨guestDuration, watched⟩ addr)
      return (handle, some cfg)
  | none => do
      let handle ← spawnDemo (cleanup container maybeAddr) ⟨demoDuration, watched⟩
      return (handle, none)

/-- `handle.await.unwrap().unwrap()`. -/
def awaitTeardown (handle : ℕ) : Prog Unit := do
  let outcome ← unwrap (← await handle)
  unwrapOk outcome

/-- The task spawned through the tracker. -/
def requestTask (int : Interface) (request : Request) (maybeAddr : Option UInt8) :
    Prog TaskResult := do
  let container ← unwrapOk
    (← Container.create request.imageName maybeAddr request.ports)
  let (handle, maybeCfg) ← spawnTeardown int container maybeAddr
  let _ ← spawn .writer (respond maybeCfg)
  awaitTeardown handle
  return .ok ()

/-- Answer a connection with an error code and drop it. -/
def refuse (code : UInt8) : Prog TaskResult := do
  let _ ← write [code]
  return .ok ()

/-- What the connection task does once its request is decoded. -/
def serve (int : Interface) (request : Request) : Prog TaskResult :=
  match request.mode with
  | .guestRequest _ => do
      match ← takeNextAddr with
      | some addr => do
          let _ ← spawn .request (requestTask int request (some addr))
          return .ok ()
      | none => refuse resultBusy
  | .demo => do
      let _ ← spawn .request (requestTask int request none)
      return .ok ()

/-- The task spawned for each accepted connection. -/
def connection (int : Interface) : Prog TaskResult := do
  match ← receive readRequest with
  | .ok request => serve int request
  | .error code => refuse code

end ScdtServer.Main
