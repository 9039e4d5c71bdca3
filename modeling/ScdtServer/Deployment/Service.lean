import ScdtServer.Challd.Replies
import ScdtServer.Deployment.Answers

/-!
# Every call is answered

When nothing that a call depends on fails, the archive reads a whole answer, and it
is the right one: a refusal is for too many ports or, to a guest, for want of an
address, and otherwise the container of the call is up.
-/

namespace ScdtServer.Deployment

open Function
open ScdtServer.Transition ScdtServer.ByteReader
open ScdtServer.Ports ScdtServer.RequestReader
open ScdtServer.Host ScdtServer.AddressManager ScdtServer.WgConfig
open ScdtServer.Interface ScdtServer.Main ScdtServer.Daemon ScdtServer.Records
open ScdtServer.Errands (config configBytes)
open ScdtServer.Replies
open ScdtServer.Http ScdtServer.Models ScdtServer.Challenges ScdtServer.ChalldClient
open ScdtServer.Api (Server Exchange)
open ScdtServer.Connection
open ScdtServer.Sessions

/-- All that the answer to a call depends on has been granted, the connection has
stayed, and its tasks have ended or wait. -/
structure Attended (machine : Machine) (origin position : ℕ) (exchange : Exchange)
    (sent : ContainerRequest) : Prop where
  opened : machine.opened origin = some position
  calls : Calls machine.events position exchange sent
  granted : Granted true machine.origins origin machine.actions
  settled : ∀ entry ∈ machine.challd.tasks, entry.origin = origin →
    isSettled entry.program = true
  keys : ∀ keypair, Generated machine.actions machine.origins origin keypair →
    keypair.privkey.length ≤ 32

/-- What becomes of a call, by the count of its ports as it is sent. -/
inductive Outcome (int : Interface) (machine : Machine) (origin : ℕ) (sent : ContainerRequest) :
    Except ChalldError String → Prop
  | invalid (hports : 10 ≤ sent.portMappings.length % 256)
      (hunserviced : Unserviced machine.challd origin) :
      Outcome int machine origin sent (.error (.responseCode resultInvalidPort))
  | busy (hports : sent.portMappings.length % 256 < 10)
      (hguest : sent.startMode.isGuest = true) (hunserviced : Unserviced machine.challd origin) :
      Outcome int machine origin sent (.error (.responseCode resultBusy))
  | demo (hports : sent.portMappings.length % 256 < 10) (hmode : sent.startMode = .demo)
      (hstarted : Started machine.challd origin) : Outcome int machine origin sent (.ok "")
  | guest {code : GuestCode} {slot : Slot} {keypair : Keypair}
      (hports : sent.portMappings.length % 256 < 10) (hmode : sent.startMode = .guest code)
      (hstarted : Started machine.challd origin)
      (hslot : TookFor machine.actions machine.origins origin slot)
      (hgenerated : Generated machine.actions machine.origins origin keypair)
      (hconfigured : Configured machine.actions machine.origins origin
        ⟨keypair.pubkey, addrOf slot⟩) :
      Outcome int machine origin sent (.ok (config int slot keypair).serialize)

variable {server : Server} {panics : DoublePanic} {int : Interface} {now : Time}
variable {database : Tables.Database}
variable {labels : List Label} {machine : Machine} {origin position : ℕ} {exchange : Exchange}
variable {sent : ContainerRequest}

/-! ## The configuration fits -/

theorem length_address (slot : Slot) : (s!"10.4.1.{addrOf slot}/32").length ≤ 16 := by
  revert slot
  decide +kernel

/-- The configuration of keys of the usual length can be sent. -/
theorem config_fits {slot : Slot} {keypair : Keypair} {hostKey : List UInt8}
    (hpubkey : int.pubkey = Base64.encode hostKey) (hhost : hostKey.length ≤ 32)
    (hkey : keypair.privkey.length ≤ 32) :
    (utf8Bytes (config int slot keypair).serialize).length < 65536 := by
  have hprivate := Base64.length_encode_le keypair.privkey
  have hpublic := Base64.length_encode_le hostKey
  have haddress := length_address slot
  have hserialize := length_serialize_le (config int slot keypair)
  have hbytes := length_utf8Bytes_le (config int slot keypair).serialize
  have hpublicKey : (config int slot keypair).peer.publicKey.length ≤ 128 := by
    show int.pubkey.length ≤ 128
    rw [hpubkey]
    omega
  have hprivateKey : (config int slot keypair).interface.privateKey.length ≤ 128 := by
    show (Base64.encode keypair.privkey).length ≤ 128
    omega
  have hendpoint : (config int slot keypair).peer.endpoint.length ≤ 16 := by
    show endpoint.length ≤ 16
    decide
  have hallowed : (config int slot keypair).peer.allowedIps.length ≤ 16 := by
    show "10.4.2.0/32".length ≤ 16
    decide
  have haddr : (config int slot keypair).interface.address.length ≤ 16 := haddress
  omega

/-! ## What challd makes of the message -/

theorem length_understood :
    (understood sent).ports.length = sent.portMappings.length % 256 := by
  rw [understood, requestOf, List.length_map, List.length_take]
  exact Nat.min_eq_left (Nat.mod_le _ _)

/-- The message begins with the request that challd makes of it. -/
theorem message_begins (sent : ContainerRequest) :
    ∃ rest, sent.message = (understood sent).bytes ++ rest := by
  have hcount : UInt8.ofNat sent.portMappings.length =
      UInt8.ofNat (sent.portMappings.length % 256) := by
    apply UInt8.toNat_inj.mp
    rw [UInt8.toNat_ofNat', UInt8.toNat_ofNat', Nat.mod_mod]
  have hmappings : sent.portMappings.map mappingOf =
      (understood sent).ports ++
        (sent.portMappings.drop (sent.portMappings.length % 256)).map mappingOf := by
    rw [understood, requestOf, ← List.map_append, List.take_append_drop]
  refine ⟨((sent.portMappings.drop (sent.portMappings.length % 256)).map mappingOf).flatMap
    PortMapping.bytes, ?_⟩
  calc
    sent.message =
        headerBytes (modeOf sent.startMode) sent.imageName ++
          portSection (sent.portMappings.map mappingOf) := message_eq ..
    _ = headerBytes (modeOf sent.startMode) sent.imageName ++
          (portSection (understood sent).ports ++
            ((sent.portMappings.drop (sent.portMappings.length % 256)).map mappingOf).flatMap
              PortMapping.bytes) := by
      rw [portSection, portSection, List.length_map, length_understood, hcount, hmappings,
        List.flatMap_append, List.cons_append]
    _ = (understood sent).bytes ++ _ := (List.append_assoc ..).symm

theorem encodable_understood (hname : (utf8Bytes sent.imageName).length < 256)
    (hports : sent.portMappings.length % 256 < 10) : (understood sent).Encodable :=
  ⟨hname, length_understood.trans_lt hports⟩

/-- A complaint about a message is for its ports, when these are many. -/
theorem complaint_of_reads {input unread : List UInt8} {code : UInt8}
    (hname : (utf8Bytes sent.imageName).length < 256) (hmessage : input ++ unread = sent.message)
    (hreads : Reads readRequest input (.error code)) :
    code = resultInvalidPort ∧ 10 ≤ sent.portMappings.length % 256 := by
  obtain ⟨rest, hbegins⟩ := message_begins sent
  have hrun := hreads unread true
  rw [hmessage, hbegins] at hrun
  constructor
  · rcases readRequest_eq_error hrun with ⟨-, hheader⟩ | ⟨hcode, -⟩
    · refine absurd ?_ hheader
      exact ⟨_, _, portSection (understood sent).ports ++ rest, hname, List.append_assoc ..⟩
    · exact hcode
  · by_contra hfew
    have hrequest := reads_request (encodable_understood hname (Nat.lt_of_not_le hfew)) rest true
    cases hrun.symm.trans hrequest

/-! ## The connection of a call -/

/-- A connection that is opened has been accepted. -/
theorem origin_of_opened (hrun : Deploys server panics int now database labels machine)
    (hopened : machine.opened origin = some position) :
    origin < machine.challd.tasks.length ∧ machine.origins origin = origin := by
  apply hrun.invariant (fun machine => ∀ origin position,
    machine.opened origin = some position →
      origin < machine.challd.tasks.length ∧ machine.origins origin = origin) _ _ origin position
    hopened
  · intro origin position hopened
    cases hopened
  · intro before label after hbefore ⟨hstep, _⟩ origin position hopened
    have hkept : ∀ {action challd}, Daemon.Step panics int before.challd action challd →
        before.opened origin = some position →
          origin < challd.tasks.length ∧ Soundness.originOf challd.tasks origin = origin := by
      intro action challd hstep hold
      obtain ⟨hlt, horigin⟩ := hbefore origin position hold
      have hgrows := grows_of_step hstep
      exact ⟨hlt.trans_le hgrows.length_le, (hgrows.kept origin hlt).trans horigin⟩
    cases hstep with
    | archive hstep => exact hbefore origin position hopened
    | challd haction hstep hdelivers => exact hkept hstep hopened
    | connect hcalls hfirst hstep =>
        by_cases hnew : origin = before.challd.tasks.length
        · cases hstep with
          | accept hphase =>
              rw [hnew]
              constructor
              · show _ < (_ ++ _ : List _).length
                rw [List.length_append]
                exact Nat.lt_succ_self _
              · show Soundness.originOf (_ ++ _) _ = _
                rw [Soundness.originOf_concat, update_self]
        · refine hkept hstep ?_
          have hupdated : update before.opened before.challd.tasks.length _ origin =
            some position := hopened
          rwa [update_of_ne hnew] at hupdated

theorem Attended.answered (hrun : Deploys server panics int now database labels machine)
    (hattended : Attended machine origin position exchange sent) :
    Answered int true machine.actions machine.challd origin
      (stream bytesWritten machine.origins origin machine.actions) := by
  obtain ⟨hlt, horigin⟩ := origin_of_opened hrun hattended.opened
  have hat := List.getElem?_eq_getElem hlt
  apply answered_in_full (wired_of_run hrun).challd _ hattended.granted hattended.settled
  exact ⟨_, List.mem_of_getElem? hat, (Soundness.originOf_eq hat).symm.trans horigin⟩

/-- A call that has got a container has few ports. -/
theorem ports_of_started (hwired : Wired server panics int now database machine)
    (hopened : machine.opened origin = some position)
    (hcalls : Calls machine.events position exchange sent)
    (hstarted : Started machine.challd origin) : sent.portMappings.length % 256 < 10 := by
  obtain ⟨id, container, hat, rfl, -⟩ := hstarted
  obtain ⟨maybeSlot, -, hasked⟩ := hwired.asked hat hopened hcalls
  exact length_understood.symm.trans_lt hasked.encodable.ports_lt

/-- The writer of the guest's connection has closed it. -/
def attendingGuest : List Move := answeringGuest ++ Script.steps {} 1 3

def hasShortKey : Action → Bool
  | .task (.answer _ .genKeypair keypair _) => decide (keypair.privkey.length ≤ 32)
  | _ => true

/-- The guest's call has been attended to. -/
def isAttended (machine : Machine) : Bool :=
  match (machine.events[9]? : Option Api.Event) with
  | some (.exchange exchange) =>
      decide (machine.opened 0 = some 9 ∧ exchange.sent = some guestRequest) &&
        isServed 0 machine.actions machine.challd && machine.actions.all hasShortKey
  | _ => false

end ScdtServer.Deployment
