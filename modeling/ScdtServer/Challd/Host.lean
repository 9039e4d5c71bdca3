import ScdtServer.Core.TaskPool
import ScdtServer.Challd.RequestReader

/-!
# The host that challd works on

The daemon's code reaches the outside world through a fixed set of calls: the
client's stream, the atomic slots of the address table, Docker, `ip`,
`iptables` and WireGuard.  `exec` says which answers each call can get in which
state and what it changes; a call that fails changes nothing, except that a
failing stop may still have stopped the container.
-/

namespace ScdtServer.Host

open Function
open ScdtServer.Interaction
open ScdtServer.Ports

def maxInstances : ℕ := 6

/-- An index into `AddressManager::used_addresses`. -/
abbrev Slot := Fin maxInstances

abbrev BridgeAddr := String

/-- Docker's ids; each container gets a new one. -/
abbrev ContainerId := ℕ

abbrev PublicKey := List UInt8

structure Keypair where
  pubkey : PublicKey
  privkey : List UInt8
  deriving DecidableEq

/-- A WireGuard peer of `wg42`, with the one address 10.4.1.a it may use. -/
structure Peer where
  publicKey : PublicKey
  allowedIp : UInt8
  deriving DecidableEq

/-- `-s 10.4.1.a/32 -d 10.4.2.0 -j DNAT --to-destination bridge`. -/
structure NatRule where
  source : UInt8
  toDestination : BridgeAddr
  deriving DecidableEq

structure HostConfig where
  autoRemove : Option Bool
  memory : Option ℤ
  memorySwap : Option ℤ
  nanoCpus : Option ℤ
  pidsLimit : Option ℤ
  portBindings : Option (HashMap String (Option (List PortBinding)))

structure ContainerCreateBody where
  image : Option String
  stopTimeout : Option ℤ
  hostConfig : Option HostConfig

structure EndpointSettings where
  ipAddress : Option BridgeAddr

structure NetworkSettings where
  networks : Option (List (String × EndpointSettings))

structure ContainerInspectResponse where
  networkSettings : Option NetworkSettings

/-- The address on the network called `bridge`, if the response has it. -/
def ContainerInspectResponse.bridgeAddr (response : ContainerInspectResponse) :
    Option BridgeAddr := do
  let settings ← response.networkSettings
  let networks ← settings.networks
  let bridge ← networks.lookup "bridge"
  bridge.ipAddress

inductive StopResult
  | ok
  | notFound
  | error
  deriving DecidableEq

/-- Which arm of the teardown's `select!` completes. -/
inductive Trigger
  | sleep
  | cancelled
  | shutdownSignal
  deriving DecidableEq

inductive RemovePeerError
  | interface
  deriving DecidableEq

/-- Commands (`ip`, `iptables`, WireGuard, Docker's connects and start) are
answered by whether they succeeded.  `abort` is what Rust does when a value that is
dropped by a panic panics itself. -/
inductive Call
  | read (count : ℕ)
  | write (bytes : List UInt8)
  | shutdownStream
  | fetchOr (slot : Slot)
  | store (slot : Slot)
  | connectWithUnixDefaults
  | connectWithUnix (addr : String) (timeout : ℕ)
  | ipAddrAdd (addr : UInt8)
  | ipAddrDel (addr : UInt8)
  | createContainer (body : ContainerCreateBody)
  | startContainer (id : ContainerId)
  | inspectContainer (id : ContainerId)
  | stopContainer (id : ContainerId)
  | iptablesAppend (rule : NatRule)
  | iptablesDelete (rule : NatRule)
  | genKeypair
  | configurePeer (peer : Peer)
  | removePeer (publicKey : PublicKey)
  | select (duration : ℕ) (watched : ContainerId)
  | abort

abbrev Answer : Call → Type
  | .read _ => Option (List UInt8)
  | .write _ => Bool
  | .shutdownStream => Bool
  | .fetchOr _ => Bool
  | .store _ => Unit
  | .connectWithUnixDefaults => Bool
  | .connectWithUnix _ _ => Bool
  | .ipAddrAdd _ => Bool
  | .ipAddrDel _ => Bool
  | .createContainer _ => Option ContainerId
  | .startContainer _ => Bool
  | .inspectContainer _ => Option ContainerInspectResponse
  | .stopContainer _ => StopResult
  | .iptablesAppend _ => Bool
  | .iptablesDelete _ => Bool
  | .genKeypair => Keypair
  | .configurePeer _ => Bool
  | .removePeer _ => Bool
  | .select _ _ => Trigger
  | .abort => Unit

/-- The kinds of tokio tasks of the daemon.  Only `request` tasks are spawned
through the task tracker. -/
inductive Role
  | connection
  | request
  | teardown
  | writer
  deriving DecidableEq

abbrev TaskResult := Except RemovePeerError Unit

abbrev challd : Signature where
  Call := Call
  Answer := Answer
  Role := Role
  Result := TaskResult

abbrev Prog := Program challd

inductive Status
  | created
  | running
  | exited
  | stopped
  deriving DecidableEq

/-- A container Docker has been asked for; `origin` is the connection whose
request asked for it. -/
structure DockerContainer where
  origin : ℕ
  body : ContainerCreateBody
  status : Status
  bridge : Option BridgeAddr

/-- The address table, the host's network configuration, Docker's containers
and the cancellation token.  `taker` remembers, for each slot, the connection
that took it last. -/
structure World where
  slots : Slot → Bool
  taker : Slot → ℕ
  eth42 : List UInt8
  nat : List NatRule
  peers : List Peer
  containers : List DockerContainer
  cancelled : Bool

/-- What the surroundings decide besides an answer: the bridge address of a
container that starts, whether a failing stop stopped the container all the
same, and whether watching the container broke down. -/
structure Choice where
  bridge : BridgeAddr
  stopped : Bool
  watchBroken : Bool
  deriving DecidableEq

def World.isRunning (world : World) (id : ContainerId) : Bool :=
  match world.containers[id]? with
  | some container => decide (container.status = .running)
  | none => false

/-- Overwrite the record of one container. -/
def World.setContainer (world : World) (id : ContainerId)
    (change : DockerContainer → DockerContainer) : World :=
  { world with containers := world.containers.modify id change }

/-- A container that is told to stop no longer runs; nothing happens to one
that does not run. -/
def DockerContainer.stop (container : DockerContainer) : DockerContainer :=
  if container.status = .running then { container with status := .stopped }
  else container

def DockerContainer.exit (container : DockerContainer) : DockerContainer :=
  { container with status := .exited }

def exec (world : World) (origin : ℕ) : (call : Call) → Answer call → Choice → Option World
  | .read count, answer, _ =>
      match (answer : Option (List UInt8)) with
      | some bytes => if bytes.length = count then some world else none
      | none => some world
  | .write _, _, _ => some world
  | .shutdownStream, _, _ => some world
  | .fetchOr slot, inUse, _ =>
      if inUse = world.slots slot then
        some
          { world with
            slots := update world.slots slot true
            taker := if inUse = true then world.taker else update world.taker slot origin }
      else none
  | .store slot, _, _ => some { world with slots := update world.slots slot false }
  | .connectWithUnixDefaults, _, _ => some world
  | .connectWithUnix _ _, _, _ => some world
  | .ipAddrAdd addr, ok, _ =>
      if ok = true then
        if addr ∈ world.eth42 then none
        else some { world with eth42 := addr :: world.eth42 }
      else some world
  | .ipAddrDel addr, ok, _ =>
      if ok = true then
        if addr ∈ world.eth42 then some { world with eth42 := world.eth42.erase addr }
        else none
      else some world
  | .createContainer body, answer, _ =>
      match (answer : Option ContainerId) with
      | some id =>
          if id = world.containers.length then
            some
              { world with
                containers := world.containers ++ [⟨origin, body, .created, none⟩] }
          else none
      | none => some world
  | .startContainer id, ok, choice =>
      if ok = true then
        match world.containers[id]? with
        | some container =>
            if container.status = .created then
              some (world.setContainer id fun container =>
                { container with status := .running, bridge := some choice.bridge })
            else none
        | none => none
      else some world
  | .inspectContainer id, answer, _ =>
      match (answer : Option ContainerInspectResponse) with
      | some response =>
          match world.containers[id]? with
          | some container =>
              if response.bridgeAddr = none ∨ response.bridgeAddr = container.bridge then
                some world
              else none
          | none => none
      | none => some world
  | .stopContainer id, answer, choice =>
      match (answer : StopResult) with
      | .ok => some (world.setContainer id DockerContainer.stop)
      | .notFound => if world.isRunning id = true then none else some world
      | .error =>
          if choice.stopped = true then some (world.setContainer id DockerContainer.stop)
          else some world
  | .iptablesAppend rule, ok, _ =>
      if ok = true then some { world with nat := world.nat ++ [rule] } else some world
  | .iptablesDelete rule, ok, _ =>
      if ok = true then
        if rule ∈ world.nat then some { world with nat := world.nat.erase rule } else none
      else some world
  | .genKeypair, _, _ => some world
  | .configurePeer peer, ok, _ =>
      if ok = true then
        some
          { world with
            peers := peer :: world.peers.filter fun other =>
              decide (other.publicKey ≠ peer.publicKey) }
      else some world
  | .removePeer publicKey, ok, _ =>
      if ok = true then
        some
          { world with
            peers := world.peers.filter fun other => decide (other.publicKey ≠ publicKey) }
      else some world
  | .select _ watched, answer, choice =>
      match (answer : Trigger) with
      | .sleep => some world
      | .cancelled => if world.cancelled = true then some world else none
      | .shutdownSignal =>
          if choice.watchBroken = true ∨ world.isRunning watched = false then some world
          else none
  | .abort, _, _ => some world

/-! ## What an answered call has done -/

section Answered

variable {world world' : World} {origin : ℕ} {choice : Choice} {slot : Slot}
variable {addr : UInt8} {id : ContainerId} {rule : NatRule}

theorem exec_connectWithUnixDefaults {connected : Bool}
    (hexec : exec world origin .connectWithUnixDefaults connected choice = some world') :
    world' = world := (Option.some.inj hexec).symm

theorem exec_connectWithUnix {path : String} {timeout : ℕ} {connected : Bool}
    (hexec : exec world origin (.connectWithUnix path timeout) connected choice =
      some world') : world' = world := (Option.some.inj hexec).symm

theorem exec_read {count : ℕ} {bytes : Option (List UInt8)}
    (hexec : exec world origin (.read count) bytes choice = some world') :
    world' = world := by
  cases bytes with
  | none => exact (Option.some.inj hexec).symm
  | some bytes =>
      have hlength := Option.ite_none_right_eq_some.mp hexec
      exact (Option.some.inj hlength.2).symm

theorem exec_fetchOr {inUse : Bool}
    (hexec : exec world origin (.fetchOr slot) inUse choice = some world') :
    inUse = world.slots slot ∧
      world' =
        { world with
          slots := update world.slots slot true
          taker := if inUse = true then world.taker else update world.taker slot origin } := by
  have hslot := Option.ite_none_right_eq_some.mp hexec
  exact ⟨hslot.1, (Option.some.inj hslot.2).symm⟩

theorem exec_store (hexec : exec world origin (.store slot) () choice = some world') :
    world' = { world with slots := update world.slots slot false } :=
  (Option.some.inj hexec).symm

theorem exec_ipAddrAdd
    (hexec : exec world origin (.ipAddrAdd addr) (true : Bool) choice = some world') :
    addr ∉ world.eth42 ∧ world' = { world with eth42 := addr :: world.eth42 } := by
  have hadded : (if addr ∈ world.eth42 then none
      else some { world with eth42 := addr :: world.eth42 }) = some world' := hexec
  have habsent := Option.ite_none_left_eq_some.mp hadded
  exact ⟨habsent.1, (Option.some.inj habsent.2).symm⟩

theorem exec_ipAddrDel
    (hexec : exec world origin (.ipAddrDel addr) (true : Bool) choice = some world') :
    world' = { world with eth42 := world.eth42.erase addr } := by
  have hdeleted : (if addr ∈ world.eth42 then
      some { world with eth42 := world.eth42.erase addr } else none) = some world' := hexec
  exact (Option.some.inj (Option.ite_none_right_eq_some.mp hdeleted).2).symm

theorem exec_createContainer {body : ContainerCreateBody}
    (hexec : exec world origin (.createContainer body) (some id) choice = some world') :
    id = world.containers.length ∧
      world' =
        { world with containers := world.containers ++ [⟨origin, body, .created, none⟩] } := by
  have hid := Option.ite_none_right_eq_some.mp hexec
  exact ⟨hid.1, (Option.some.inj hid.2).symm⟩

theorem exec_startContainer
    (hexec : exec world origin (.startContainer id) (true : Bool) choice = some world') :
    ∃ container, world.containers[id]? = some container ∧ container.status = .created ∧
      world' = world.setContainer id fun container =>
        { container with status := .running, bridge := some choice.bridge } := by
  simp only [exec, if_true] at hexec
  split at hexec
  · rename_i container hat
    split at hexec
    · rename_i hstatus
      exact ⟨container, hat, hstatus, (Option.some.inj hexec).symm⟩
    · cases hexec
  · cases hexec

theorem exec_inspectContainer {response : ContainerInspectResponse}
    (hexec : exec world origin (.inspectContainer id) (some response) choice = some world') :
    (∃ container, world.containers[id]? = some container ∧
      (response.bridgeAddr = none ∨ response.bridgeAddr = container.bridge)) ∧
      world' = world := by
  simp only [exec] at hexec
  split at hexec
  · rename_i container hat
    split at hexec
    · rename_i haddr
      exact ⟨⟨container, hat, haddr⟩, (Option.some.inj hexec).symm⟩
    · cases hexec
  · cases hexec

/-- The container is stopped, or the host is as it was: then the container did
not run, or the stop failed. -/
theorem exec_stopContainer {result : StopResult}
    (hexec : exec world origin (.stopContainer id) result choice = some world') :
    world' = world.setContainer id DockerContainer.stop ∨
      world' = world ∧
        (world.isRunning id = false ∨ result = .error ∧ choice.stopped = false) := by
  cases result with
  | ok => exact .inl (Option.some.inj hexec).symm
  | notFound =>
      have hrunning := Option.ite_none_left_eq_some.mp hexec
      exact .inr ⟨(Option.some.inj hrunning.2).symm,
        .inl (Bool.eq_false_of_not_eq_true hrunning.1)⟩
  | error =>
      by_cases hstopped : choice.stopped = true
      · exact .inl (Option.some.inj ((if_pos hstopped).symm.trans hexec)).symm
      · exact .inr ⟨(Option.some.inj ((if_neg hstopped).symm.trans hexec)).symm,
          .inr ⟨rfl, Bool.eq_false_of_not_eq_true hstopped⟩⟩

theorem exec_iptablesAppend
    (hexec : exec world origin (.iptablesAppend rule) (true : Bool) choice = some world') :
    world' = { world with nat := world.nat ++ [rule] } :=
  (Option.some.inj hexec).symm

theorem exec_iptablesDelete
    (hexec : exec world origin (.iptablesDelete rule) (true : Bool) choice = some world') :
    world' = { world with nat := world.nat.erase rule } := by
  have hdeleted : (if rule ∈ world.nat then
      some { world with nat := world.nat.erase rule } else none) = some world' := hexec
  exact (Option.some.inj (Option.ite_none_right_eq_some.mp hdeleted).2).symm

theorem exec_configurePeer {peer : Peer}
    (hexec : exec world origin (.configurePeer peer) (true : Bool) choice = some world') :
    world' =
      { world with
        peers := peer :: world.peers.filter fun other =>
          decide (other.publicKey ≠ peer.publicKey) } :=
  (Option.some.inj hexec).symm

theorem exec_removePeer {publicKey : PublicKey}
    (hexec : exec world origin (.removePeer publicKey) (true : Bool) choice = some world') :
    world' =
      { world with
        peers := world.peers.filter fun other => decide (other.publicKey ≠ publicKey) } :=
  (Option.some.inj hexec).symm

theorem exec_select {duration : ℕ} {watched : ContainerId} {trigger : Trigger}
    (hexec : exec world origin (.select duration watched) trigger choice = some world') :
    world' = world := by
  cases trigger with
  | sleep => exact (Option.some.inj hexec).symm
  | cancelled | shutdownSignal =>
      have htriggered := Option.ite_none_right_eq_some.mp hexec
      exact (Option.some.inj htriggered.2).symm

end Answered

/-! ## The calls as programs -/

/-- The bytes a reader asks for are read from the connection. -/
def receive {A : Type} : ByteReader.Reader A → Prog A
  | .done value => .ret value
  | .await count next =>
      .call (S := challd) (.read count) fun bytes => receive (next bytes)

def write (bytes : List UInt8) : Prog Bool := .call (S := challd) (.write bytes) .ret
def shutdownStream : Prog Bool := .call (S := challd) .shutdownStream .ret
def fetchOr (slot : Slot) : Prog Bool := .call (S := challd) (.fetchOr slot) .ret
def store (slot : Slot) : Prog Unit := .call (S := challd) (.store slot) .ret
def connectWithUnixDefaults : Prog Bool := .call (S := challd) .connectWithUnixDefaults .ret
def connectWithUnix (addr : String) (timeout : ℕ) : Prog Bool :=
  .call (S := challd) (.connectWithUnix addr timeout) .ret
def ipAddrAdd (addr : UInt8) : Prog Bool := .call (S := challd) (.ipAddrAdd addr) .ret
def ipAddrDel (addr : UInt8) : Prog Bool := .call (S := challd) (.ipAddrDel addr) .ret
def createContainer (body : ContainerCreateBody) : Prog (Option ContainerId) :=
  .call (S := challd) (.createContainer body) .ret
def startContainer (id : ContainerId) : Prog Bool :=
  .call (S := challd) (.startContainer id) .ret
def inspectContainer (id : ContainerId) : Prog (Option ContainerInspectResponse) :=
  .call (S := challd) (.inspectContainer id) .ret
def stopContainer (id : ContainerId) : Prog StopResult :=
  .call (S := challd) (.stopContainer id) .ret
def iptablesAppend (rule : NatRule) : Prog Bool :=
  .call (S := challd) (.iptablesAppend rule) .ret
def iptablesDelete (rule : NatRule) : Prog Bool :=
  .call (S := challd) (.iptablesDelete rule) .ret
def genKeypair : Prog Keypair := .call (S := challd) .genKeypair .ret
def configurePeer (peer : Peer) : Prog Bool := .call (S := challd) (.configurePeer peer) .ret
def removePeer (publicKey : PublicKey) : Prog Bool :=
  .call (S := challd) (.removePeer publicKey) .ret
def select (duration : ℕ) (watched : ContainerId) : Prog Trigger :=
  .call (S := challd) (.select duration watched) .ret
def spawn (role : Role) (child : Prog TaskResult) : Prog ℕ :=
  .spawn (S := challd) role child .ret
def await (task : ℕ) : Prog (Option TaskResult) := .join (S := challd) task .ret

def abort {A : Type} : Prog A := .call (S := challd) .abort fun _ => .panic

/-- A panic whose unwinding drops values: if dropping them panics as well, the
process is aborted. -/
def unwind {A : Type} (drop : Prog Unit) : Prog A :=
  match drop with
  | .ret _ => .panic
  | _ => abort

end ScdtServer.Host
