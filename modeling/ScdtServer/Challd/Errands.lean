import ScdtServer.Challd.Daemon

/-!
# What a connection has asked for and is told

The tasks of a connection share one stream, which they hand on together with a
file: what has been read, the slot, the container, the peer and what has been
written.  Whoever holds the pen reads, writes and acts on the request; the others
only tear down or wait.
-/

namespace ScdtServer.Errands

open ScdtServer.Interaction ScdtServer.Interaction.Program
open ScdtServer.ByteReader ScdtServer.Ports ScdtServer.RequestReader
open ScdtServer.Host ScdtServer.AddressManager ScdtServer.WgConfig
open ScdtServer.Interface ScdtServer.Main

structure File where
  input : List UInt8
  slot : Option Slot
  container : Option ContainerId
  started : Bool
  keypair : Option Keypair
  configured : Bool
  output : List UInt8

structure Errand where
  pen : Bool
  file : File
  child : Option ℕ

def File.blank : File where
  input := []
  slot := none
  container := none
  started := false
  keypair := none
  configured := false
  output := []

/-- The errand of a new connection. -/
def Errand.fresh : Errand where
  pen := true
  file := .blank
  child := none

/-- A task without a pen. -/
def Errand.idle : Errand where
  pen := false
  file := .blank
  child := none

def isGuest : Mode → Bool
  | .guestRequest _ => true
  | .demo => false

/-- The bytes read are those of the request, and a slot goes with a guest. -/
structure Decoded (file : File) (request : Request) : Prop where
  encodable : request.Encodable
  input : file.input = request.bytes
  slot : file.slot.isSome = isGuest request.mode

/-- The container that the file asks for. -/
def Asked (file : File) (body : ContainerCreateBody) : Prop :=
  ∃ request, Decoded file request ∧
    body = Container.createBody request.imageName (file.slot.map addrOf) request.ports

/-- What a file asks for is a matter of what was read and of the slot. -/
theorem Asked.congr {file file' : File} {body : ContainerCreateBody} (hasked : Asked file body)
    (hinput : file'.input = file.input) (hslot : file'.slot = file.slot) : Asked file' body := by
  obtain ⟨request, hdecoded, hbody⟩ := hasked
  refine ⟨request, ⟨hdecoded.encodable, hinput.trans hdecoded.input, ?_⟩, ?_⟩
  · rw [hslot]
    exact hdecoded.slot
  · rw [hslot]
    exact hbody

/-- The configuration of the peer that has the slot's address and the key. -/
def config (int : Interface) (slot : Slot) (keypair : Keypair) : WgConfig where
  interface :=
    { address := s!"10.4.1.{addrOf slot}/32"
      privateKey := Base64.encode keypair.privkey }
  peer :=
    { publicKey := int.pubkey
      endpoint := endpoint
      allowedIps := "10.4.2.0/32" }

/-- The configuration as it is written; one whose length does not fit is not. -/
def configBytes (cfg : WgConfig) : List UInt8 :=
  if (utf8Bytes cfg.serialize).length < 65536 then
    leBytes 2 (utf8Bytes cfg.serialize).length ++ utf8Bytes cfg.serialize
  else []

/-- What the file entitles its connection to be answered. -/
inductive Response (int : Interface) (file : File) : List UInt8 → Prop
  | invalid {code : UInt8} (hslot : file.slot = none) (hcontainer : file.container = none)
      (hcode : code = resultMalformedRequest ∨ code = resultInvalidPort) :
      Response int file [code]
  | busy {request : Request} (hslot : file.slot = none) (hcontainer : file.container = none)
      (hencodable : request.Encodable) (hinput : file.input = request.bytes)
      (hguest : isGuest request.mode = true) : Response int file [resultBusy]
  | demo (hslot : file.slot = none) (hstarted : file.started = true) :
      Response int file [resultOk]
  | guest {slot : Slot} {keypair : Keypair} (hslot : file.slot = some slot)
      (hstarted : file.started = true) (hkeypair : file.keypair = some keypair)
      (hconfigured : file.configured = true) :
      Response int file (resultOk :: configBytes (config int slot keypair))

/-- The pen is held, and nothing has been written with it. -/
structure Silent (errand : Errand) : Prop where
  pen : errand.pen = true
  output : errand.file.output = []
  child : errand.child = none

/-- Nothing has been done about the request yet. -/
structure Unserved (errand : Errand) : Prop extends Silent errand where
  slot : errand.file.slot = none
  container : errand.file.container = none
  started : errand.file.started = false
  configured : errand.file.configured = false

def pre (int : Interface) : Call → Errand → Prop
  | .read _, errand => Unserved errand
  | .fetchOr _, errand =>
      Unserved errand ∧ ∃ request : Request, request.Encodable ∧
        errand.file.input = request.bytes ∧ isGuest request.mode = true
  | .createContainer body, errand =>
      Silent errand ∧ errand.file.container = none ∧ Asked errand.file body
  | .startContainer id, errand =>
      Silent errand ∧ errand.file.container = some id ∧ errand.file.started = false
  | .inspectContainer id, errand =>
      errand.pen = true ∧ errand.file.container = some id ∧ errand.file.started = true
  | .genKeypair, errand => Silent errand ∧ errand.file.configured = false
  | .configurePeer peer, errand =>
      Silent errand ∧ errand.file.started = true ∧ errand.file.configured = false ∧
        ∃ slot keypair, errand.file.slot = some slot ∧ errand.file.keypair = some keypair ∧
          peer = ⟨keypair.pubkey, addrOf slot⟩
  | .write bytes, errand =>
      errand.pen = true ∧ ∃ response, Response int errand.file response ∧
        errand.file.output ++ bytes <+: response
  | _, _ => True

/-- What a call's answer adds to the file. -/
def noted : (call : Call) → Answer call → File → File
  | .read _, bytes, file =>
      match (bytes : Option (List UInt8)) with
      | some bytes => { file with input := file.input ++ bytes }
      | none => file
  | .fetchOr slot, inUse, file => if inUse = true then file else { file with slot := some slot }
  | .createContainer _, created, file =>
      match (created : Option ContainerId) with
      | some id => { file with container := some id }
      | none => file
  | .startContainer _, ok, file => if ok = true then { file with started := true } else file
  | .genKeypair, keypair, file => { file with keypair := some keypair }
  | .configurePeer _, ok, file => if ok = true then { file with configured := true } else file
  | .write bytes, _, file => { file with output := file.output ++ bytes }
  | _, _, file => file

/-- As many bytes are read as have been asked for. -/
def Full : (call : Call) → Answer call → Prop
  | .read count, bytes => ∀ read, (bytes : Option (List UInt8)) = some read → read.length = count
  | _, _ => True

/-- The pen goes from the connection to its request and from there to the
writer. -/
abbrev rules (int : Interface) : Rules challd Errand where
  pre := pre int
  after call answer errand errand' :=
    Full call answer ∧ errand' = { errand with file := noted call answer errand.file }
  spawnable role errand :=
    match role with
    | .connection => False
    | .request => Silent errand
    | .teardown => errand.child = none
    | .writer => errand.pen = true
  give role errand :=
    match role with
    | .teardown => { errand with pen := false, child := none }
    | _ => { errand with child := none }
  keep role errand task :=
    match role with
    | .teardown => { errand with child := some task }
    | _ => { errand with pen := false }
  awaiting := Errand.child
  joined errand := { errand with child := none }
  ended _ := True

/-! ## Rules that keep the files -/

/-- What an answer depends on: what is asked for is done, the bytes are written and,
when the connection stays, those that are waited for arrive. -/
def granted (stays : Bool) : (call : Call) → Answer call → Bool
  | .read _, bytes => !stays || Option.isSome bytes
  | .write _, ok => ok
  | .connectWithUnixDefaults, ok => ok
  | .ipAddrAdd _, ok => ok
  | .createContainer _, created => Option.isSome created
  | .startContainer _, ok => ok
  | .inspectContainer _, inspected =>
      (Option.bind inspected ContainerInspectResponse.bridgeAddr).isSome
  | .iptablesAppend _, ok => ok
  | .configurePeer _, ok => ok
  | _, _ => true

/-- A complaint in the file is what the reader makes of the bytes in it. -/
def Justified (file : File) : Prop :=
  ∀ code, file.output = [code] → code ≠ resultOk → code ≠ resultBusy →
    Reads readRequest file.input (.error code)

/-- Whoever has the pen has answered. -/
def Replied (int : Interface) (stays : Bool) (errand : Errand) : Prop :=
  errand.pen = true → Response int errand.file errand.file.output ∧
    (stays = true → Justified errand.file)

/-- Calls that are only made without the pen. -/
def waits : Call → Bool
  | .select _ _ => true
  | .abort => true
  | _ => false

/-- Rules by which the files are kept as above, and a task owes nothing when it has
answered, when it has no pen and when it was not granted what it asked for. -/
structure Keeps (int : Interface) (stays : Bool) (R : Rules challd Errand) : Prop where
  pre : ∀ call errand, waits call = false → pre int call errand → R.pre call errand
  after : ∀ call answer errand errand', R.after call answer errand errand' →
    (rules int).after call answer errand errand'
  refused : ∀ call answer errand errand', R.after call answer errand errand' →
    granted stays call answer = false → ∀ other, R.ended other
  spawnable : R.spawnable = (rules int).spawnable
  give : R.give = (rules int).give
  keep : R.keep = (rules int).keep
  penless : ∀ (program : Prog TaskResult) errand, errand.pen = false →
    wp (rules int) program (fun _ _ => True) errand → wp R program (fun _ => R.ended) errand
  replied : ∀ errand, Replied int stays errand → R.ended errand

theorem keeps_rules (int : Interface) (stays : Bool) : Keeps int stays (rules int) where
  pre _ _ _ hpre := hpre
  after _ _ _ _ hafter := hafter
  refused _ _ _ _ _ _ _ := trivial
  spawnable := rfl
  give := rfl
  keep := rfl
  penless _ _ _ hwp := hwp
  replied _ _ := trivial

variable {int : Interface} {stays : Bool} {R : Rules challd Errand} {A : Type} {errand : Errand}

theorem replied_penless (hpen : errand.pen = false) : Replied int stays errand := by
  intro hpresent
  cases hpen.symm.trans hpresent

/-! ## Teardown -/

theorem wp_ask {call : Call} {post : Answer call → Errand → Prop} (hpre : pre int call errand)
    (hpost : ∀ answer, post answer { errand with file := noted call answer errand.file }) :
    wp (rules int) (.call (S := challd) call .ret) post errand := by
  refine ⟨hpre, fun answer errand' hafter => ?_⟩
  obtain ⟨-, rfl⟩ := hafter
  exact hpost answer

/-- A task that panics leaves the file as it is. -/
theorem wp_assert {condition : Bool} {post : Unit → Errand → Prop} (hpost : post () errand) :
    wp (rules int) (assert condition) post errand := by
  cases condition with
  | true => exact hpost
  | false => trivial

theorem wp_unwrap {value : Option A} {post : A → Errand → Prop}
    (hpost : ∀ inner, post inner errand) : wp (rules int) (unwrap value) post errand := by
  cases value with
  | some inner => exact hpost inner
  | none => trivial

/-- So does one that takes the process with it. -/
theorem wp_unwind {drop : Prog Unit} {post : A → Errand → Prop} :
    wp (rules int) (unwind drop) post errand := by
  cases drop with
  | ret value => trivial
  | _ => exact ⟨trivial, fun _ _ _ => trivial⟩

theorem wp_removeVpnInfo {vpnInfo : Option Container.VpnInfo} {post : Unit → Errand → Prop}
    (hpost : post () errand) : wp (rules int) (Container.removeVpnInfo vpnInfo) post errand := by
  cases vpnInfo with
  | none => exact hpost
  | some vpn =>
      rw [Container.removeVpnInfo, wp_bind]
      refine wp_ask trivial fun deleted => ?_
      rw [wp_bind]
      apply wp_assert
      rw [wp_bind]
      exact wp_ask trivial fun deleted => wp_assert hpost

theorem wp_relinquishAddr {addr : UInt8} {post : Unit → Errand → Prop} (hpost : post () errand) :
    wp (rules int) (relinquishAddr addr) post errand := by
  rw [relinquishAddr, wp_bind]
  apply wp_assert
  split
  · exact wp_ask trivial fun _ => hpost
  · trivial

/-- The teardown needs no pen. -/
theorem wp_cleanup {container : Container.Container} {maybeAddr : Option UInt8}
    {post : Unit → Errand → Prop} (hpost : post () errand) :
    wp (rules int) (cleanup container maybeAddr).poll post errand := by
  simp only [cleanup, wp_bind]
  rw [Container.shutdown, wp_bind]
  refine wp_ask trivial fun connected => ?_
  cases connected with
  | false =>
      rw [if_pos rfl]
      exact wp_unwind
  | true =>
      rw [if_neg (by decide), wp_bind]
      apply wp_unwrap
      intro id
      rw [wp_bind]
      refine wp_ask trivial fun stopped => ?_
      apply wp_removeVpnInfo
      cases maybeAddr with
      | none => exact hpost
      | some addr => exact wp_relinquishAddr hpost

theorem wp_removePeerTask {publicKey : PublicKey} {container : Container.Container}
    {maybeAddr : Option UInt8} {deadline : Deadline} :
    wp (rules int) (removePeerTask publicKey (cleanup container maybeAddr) deadline)
      (fun _ _ => True) errand := by
  rw [removePeerTask, wp_bind]
  refine wp_ask trivial fun trigger => ?_
  rw [wp_bind]
  refine wp_ask trivial fun removed => ?_
  cases removed with
  | false =>
      rw [if_pos rfl, wp_bind]
      exact wp_assert trivial
  | true =>
      rw [if_neg (by decide), wp_bind]
      exact wp_cleanup trivial

theorem wp_demoTask {container : Container.Container} {maybeAddr : Option UInt8}
    {deadline : Deadline} :
    wp (rules int) (demoTask (cleanup container maybeAddr) deadline) (fun _ _ => True) errand := by
  rw [demoTask, wp_bind]
  refine wp_ask trivial fun trigger => ?_
  rw [wp_bind]
  exact wp_cleanup trivial

theorem wp_awaitTeardown {handle : ℕ} (hchild : errand.child = some handle) :
    wp (rules int) (do awaitTeardown handle; return (.ok () : TaskResult)) (fun _ _ => True)
      errand := by
  rw [wp_bind]
  refine ⟨hchild, fun outcome => ?_⟩
  match outcome with
  | none => trivial
  | some (.error error) => trivial
  | some (.ok ()) => trivial

/-! ## Reading the request -/

/-- The errand with other bytes read. -/
def Errand.having (errand : Errand) (input : List UInt8) : Errand :=
  { errand with file := { errand.file with input := input } }

theorem Unserved.having (hunserved : Unserved errand) (input : List UInt8) :
    Unserved (errand.having input) :=
  ⟨⟨hunserved.pen, hunserved.output, hunserved.child⟩, hunserved.slot, hunserved.container,
    hunserved.started, hunserved.configured⟩

theorem noted_read {count : ℕ} {bytes : Answer (.read count)} :
    ({ errand with file := noted (.read count) bytes errand.file } : Errand) =
      errand.having (errand.file.input ++ bytes.getD []) := by
  cases bytes with
  | none => simp [noted, Errand.having]
  | some bytes => rfl

/-- A command that must succeed. -/
theorem wp_must {ok : Bool} {post : Unit → Errand → Prop}
    (hrefused : ok = false → ∀ other, R.ended other) (hpost : ok = true → post () errand) :
    wp R (assert ok) post errand := by
  cases ok with
  | true => exact hpost rfl
  | false => exact hrefused rfl errand

section Holder

variable (hkeeps : Keeps int stays R)

include hkeeps

theorem Keeps.ask {call : Call} {post : Answer call → Errand → Prop}
    (hwaits : waits call = false) (hpre : Errands.pre int call errand)
    (hpost : ∀ answer, Full call answer →
      (granted stays call answer = false → ∀ other, R.ended other) →
        post answer { errand with file := noted call answer errand.file }) :
    wp R (.call (S := challd) call .ret) post errand := by
  refine ⟨hkeeps.pre call errand hwaits hpre, fun answer errand' hafter => ?_⟩
  obtain ⟨hfull, rfl⟩ := hkeeps.after call answer errand errand' hafter
  exact hpost answer hfull (hkeeps.refused call answer errand _ hafter)

/-- Another task takes over a part. -/
theorem Keeps.spawn {role : Role} {child : Prog TaskResult} {post : ℕ → Errand → Prop}
    (hspawnable : (rules int).spawnable role errand)
    (hchild : wp R child (fun _ => R.ended) ((rules int).give role errand))
    (hpost : ∀ task, post task ((rules int).keep role errand task)) :
    wp R (Host.spawn role child) post errand := by
  rw [Host.spawn, wp_spawn, hkeeps.spawnable, hkeeps.give, hkeeps.keep]
  exact ⟨hspawnable, hchild, hpost⟩

theorem Keeps.receive_of_yields {reader : Reader A} {good : A → Prop} {post : A → Errand → Prop}
    (hunserved : Unserved errand) (hyields : reader.Yields good)
    (hpost : ∀ value input, good value → post value (errand.having input)) :
    wp R (receive reader) post errand := by
  induction reader generalizing errand with
  | done value => exact hpost value errand.file.input hyields
  | await count next ih =>
      refine ⟨hkeeps.pre (.read count) errand rfl hunserved, fun bytes errand' hafter => ?_⟩
      obtain ⟨-, rfl⟩ := hkeeps.after (.read count) bytes errand errand' hafter
      rw [noted_read]
      exact ih bytes (hunserved.having _) (hyields bytes) fun value input => hpost value input

/-- A reader reads the bytes that arrive, or it is met by the end of the stream; in
the end it has come to a value. -/
theorem Keeps.receive {reader : Reader A} {good bad : A → Prop} {post : A → Errand → Prop}
    (hunserved : Unserved errand) (hyields : reader.Yields good) (hgivesUp : reader.GivesUp bad)
    (hread : ∀ value bytes, good value → Reads reader bytes value →
      post value (errand.having (errand.file.input ++ bytes)))
    (hend : (stays = true → ∀ other, R.ended other) → ∀ value input, good value → bad value →
      post value (errand.having input)) :
    wp R (receive reader) post errand := by
  induction reader generalizing errand with
  | done value =>
      have hdone := hread value [] hyields fun _ _ => rfl
      rwa [List.append_nil] at hdone
  | await count next ih =>
      refine ⟨hkeeps.pre (.read count) errand rfl hunserved, fun bytes errand' hafter => ?_⟩
      have hrefused := hkeeps.refused (.read count) bytes errand errand' hafter
      obtain ⟨hfull, rfl⟩ := hkeeps.after (.read count) bytes errand errand' hafter
      rw [noted_read]
      cases bytes with
      | none =>
          have hcut : stays = true → ∀ other, R.ended other := by
            intro hstays
            apply hrefused
            rw [hstays]
            rfl
          have hboth := (hyields none).and hgivesUp.2
          apply hkeeps.receive_of_yields (hunserved.having _) hboth
          exact fun value input hvalue => hend hcut value input hvalue.1 hvalue.2
      | some bytes =>
          apply ih (some bytes) (hunserved.having _) (hyields _) (hgivesUp.1 bytes)
          · intro value rest hgood hreads
            have hpost := hread value (bytes ++ rest) hgood (Reads.await (hfull bytes rfl) hreads)
            rwa [← List.append_assoc] at hpost
          · exact fun hcut value input => hend hcut value input

end Holder

/-! ## The address -/

/-- The errand with a slot taken. -/
def Errand.taking (errand : Errand) (slot : Slot) : Errand :=
  { errand with file := { errand.file with slot := some slot } }

/-! ## The container -/

/-- The errand with a container created, and then started. -/
def Errand.creating (errand : Errand) (id : ContainerId) (started : Bool) : Errand :=
  { errand with file := { errand.file with container := some id, started := started } }

/-- The errand with the peer of a key configured. -/
def Errand.configuring (errand : Errand) (keypair : Keypair) : Errand :=
  { errand with file := { errand.file with keypair := some keypair, configured := true } }

section Holder

variable (hkeeps : Keeps int stays R)

include hkeeps

theorem Keeps.takeNextAddrFrom {post : Option UInt8 → Errand → Prop} {slot : Slot}
    (slots : List Slot) (hpre : Errands.pre int (.fetchOr slot) errand)
    (hsome : ∀ slot, post (some (addrOf slot)) (errand.taking slot))
    (hnone : post none errand) :
    wp R (AddressManager.takeNextAddrFrom slots) post errand := by
  induction slots with
  | nil => exact hnone
  | cons next slots ih =>
      rw [AddressManager.takeNextAddrFrom, wp_bind]
      refine hkeeps.ask rfl hpre fun inUse _ _ => ?_
      cases inUse with
      | true => exact ih
      | false => exact hsome next

theorem Keeps.addHostAddr {maybeAddr : Option UInt8} {post : Unit → Errand → Prop}
    (hpost : post () errand) : wp R (Container.addHostAddr maybeAddr) post errand := by
  cases maybeAddr with
  | none => exact hpost
  | some addr =>
      rw [Container.addHostAddr, wp_bind]
      refine hkeeps.ask rfl trivial fun added _ hrefused => ?_
      exact wp_must hrefused fun _ => hpost

theorem Keeps.addVpnInfo {id : ContainerId} {maybeAddr : Option UInt8}
    {post : Option Container.VpnInfo → Errand → Prop}
    (hpre : Errands.pre int (.inspectContainer id) errand)
    (hpost : ∀ vpnInfo, post vpnInfo errand) :
    wp R (Container.addVpnInfo id maybeAddr) post errand := by
  cases maybeAddr with
  | none => exact hpost none
  | some addr =>
      rw [Container.addVpnInfo, wp_bind]
      refine hkeeps.ask rfl hpre fun inspected _ hrefused => ?_
      cases inspected with
      | none => exact hrefused rfl errand
      | some response =>
          rw [unwrap_some, ret_bind]
          cases hbridge : response.bridgeAddr with
          | none =>
              apply hrefused
              simp [granted, hbridge]
          | some bridgeAddr =>
              rw [unwrap_some, ret_bind, wp_bind]
              refine hkeeps.ask rfl trivial fun appended _ hrefused => ?_
              rw [wp_bind]
              exact wp_must hrefused fun _ => hpost _

/-- A container that is returned has been created as the file asks, and started. -/
theorem Keeps.create {imageName : String} {ports : PortMappings}
    {post : Except Container.Error Container.Container → Errand → Prop}
    (hsilent : Silent errand) (hcontainer : errand.file.container = none)
    (hstarted : errand.file.started = false)
    (hasked : Asked errand.file
      (Container.createBody imageName (errand.file.slot.map addrOf) ports))
    (hok : ∀ id vpnInfo, post (.ok ⟨some id, vpnInfo⟩) (errand.creating id true))
    (herror : (∀ other, R.ended other) → ∀ error, post (.error error) errand) :
    wp R (Container.create imageName (errand.file.slot.map addrOf) ports) post errand := by
  rw [Container.create, all_addrInRange errand.file.slot, assert_true, ret_bind, wp_bind]
  refine hkeeps.ask rfl trivial fun connected _ hrefused => ?_
  cases connected with
  | false => exact herror (hrefused rfl) _
  | true =>
      rw [if_neg (by decide), wp_bind]
      apply hkeeps.addHostAddr
      rw [wp_bind]
      refine hkeeps.ask rfl ⟨hsilent, hcontainer, hasked⟩ fun created _ hrefused => ?_
      cases created with
      | none => exact hrefused rfl errand
      | some id =>
          rw [unwrap_some, ret_bind, wp_bind]
          refine hkeeps.ask rfl ⟨⟨hsilent.pen, hsilent.output, hsilent.child⟩, rfl, hstarted⟩
            fun ok _ hrefused => ?_
          rw [wp_bind]
          apply wp_must hrefused
          rintro rfl
          rw [wp_bind]
          apply hkeeps.addVpnInfo
          · exact ⟨hsilent.pen, rfl, rfl⟩
          · exact fun vpnInfo => hok id vpnInfo

/-- The request is left with the pen, a teardown to wait for and, for a guest, the
configuration of its peer. -/
theorem Keeps.spawnTeardown {container : Container.Container} {id : ContainerId}
    {post : ℕ × Option WgConfig → Errand → Prop} (hsilent : Silent errand)
    (hid : container.id = some id) (hstarted : errand.file.started = true)
    (hconfigured : errand.file.configured = false)
    (hdemo : ∀ handle, errand.file.slot = none →
      post (handle, none) { errand with child := some handle })
    (hguest : ∀ handle slot keypair, errand.file.slot = some slot →
      post (handle, some (config int slot keypair))
        { errand.configuring keypair with child := some handle }) :
    wp R (Main.spawnTeardown int container (errand.file.slot.map addrOf)) post errand := by
  rw [Main.spawnTeardown, hid, unwrap_some, ret_bind]
  cases hslot : errand.file.slot with
  | none =>
      rw [Option.map_none]
      dsimp only
      rw [spawnDemo, wp_bind]
      apply hkeeps.spawn hsilent.child
      · exact hkeeps.penless _ _ rfl wp_demoTask
      · exact fun handle => hdemo handle hslot
  | some slot =>
      simp only [Option.map_some, addTempPeer, addrInRange_addrOf, Bool.true_eq_false, if_false,
        wp_bind]
      refine hkeeps.ask rfl ⟨hsilent, hconfigured⟩ fun keypair _ _ => ?_
      rw [wp_bind]
      have hpeer : Errands.pre int (.configurePeer ⟨keypair.pubkey, addrOf slot⟩)
          { errand with file := noted .genKeypair keypair errand.file } :=
        ⟨⟨hsilent.pen, hsilent.output, hsilent.child⟩, hstarted, hconfigured, slot, keypair,
          hslot, rfl, rfl⟩
      refine hkeeps.ask rfl hpeer fun configured _ hrefused => ?_
      cases configured with
      | false =>
          rw [if_pos rfl, wp_bind]
          exact wp_must (fun _ => hrefused rfl) fun _ => hrefused rfl _
      | true =>
          rw [if_neg (by decide), wp_bind]
          apply hkeeps.spawn hsilent.child
          · exact hkeeps.penless _ _ rfl wp_removePeerTask
          · exact fun handle => hguest handle slot keypair hslot

end Holder

/-! ## The answer -/

/-- Whether the file entitles to an answer does not depend on what has been
written. -/
theorem Response.rewritten {file : File} {response output : List UInt8}
    (hresponse : Response int file response) :
    Response int { file with output := output } response := by
  cases hresponse with
  | invalid hslot hcontainer hcode => exact .invalid hslot hcontainer hcode
  | busy hslot hcontainer hencodable hinput hguest =>
      exact .busy hslot hcontainer hencodable hinput hguest
  | demo hslot hstarted => exact .demo hslot hstarted
  | guest hslot hstarted hkeypair hconfigured => exact .guest hslot hstarted hkeypair hconfigured

/-- The errand with some more written. -/
def Errand.writing (errand : Errand) (bytes : List UInt8) : Errand :=
  { errand with file := { errand.file with output := errand.file.output ++ bytes } }

theorem Errand.pen_writing {bytes : List UInt8} : (errand.writing bytes).pen = errand.pen := rfl

theorem Response.writing {response bytes : List UInt8}
    (hresponse : Response int errand.file response) :
    Response int (errand.writing bytes).file response :=
  hresponse.rewritten

/-- The rest of the answer, after the OK. -/
def answerBytes : Option WgConfig → List UInt8
  | some cfg => configBytes cfg
  | none => []

/-- An OK that is written in full. -/
theorem replied_ok {rest : List UInt8} (houtput : errand.file.output = resultOk :: rest)
    (hresponse : Response int errand.file (resultOk :: rest)) : Replied int stays errand := by
  intro _
  constructor
  · rwa [houtput]
  · intro _ code hcode hok
    rw [houtput] at hcode
    exact absurd (List.cons.inj hcode).1.symm hok

section Holder

variable (hkeeps : Keeps int stays R)

include hkeeps

theorem Keeps.write {bytes response : List UInt8} {post : Bool → Errand → Prop}
    (hpen : errand.pen = true) (hresponse : Response int errand.file response)
    (hbegins : errand.file.output ++ bytes <+: response)
    (hpost : ∀ ok, (ok = false → ∀ other, R.ended other) → post ok (errand.writing bytes)) :
    wp R (Host.write bytes) post errand :=
  hkeeps.ask rfl ⟨hpen, response, hresponse, hbegins⟩ fun ok _ hrefused => hpost ok hrefused

/-- A configuration that is too long for its length is not written. -/
theorem Keeps.writeMaybeConfig {maybeCfg : Option WgConfig} {post : Unit → Errand → Prop}
    (hpen : errand.pen = true) (houtput : errand.file.output = [resultOk])
    (hresponse : Response int errand.file (resultOk :: answerBytes maybeCfg))
    (hpost : ∀ errand : Errand, errand.file.output = resultOk :: answerBytes maybeCfg →
      Response int errand.file (resultOk :: answerBytes maybeCfg) → post () errand) :
    wp R (Main.writeMaybeConfig maybeCfg) post errand := by
  cases maybeCfg with
  | none => exact hpost errand houtput hresponse
  | some cfg =>
      rw [Main.writeMaybeConfig, writeConfig, wp_bind]
      have hcases : ∀ fits : Bool, fits = decide ((utf8Bytes cfg.serialize).length < 65536) →
          answerBytes (some cfg) =
            if fits = true then
              leBytes 2 (utf8Bytes cfg.serialize).length ++ utf8Bytes cfg.serialize
            else [] := by
        rintro fits rfl
        simp only [answerBytes, configBytes, decide_eq_true_eq]
      generalize hfits : decide ((utf8Bytes cfg.serialize).length < 65536) = fits
      rw [hcases fits hfits.symm] at hresponse hpost
      cases fits with
      | false => exact hkeeps.replied _ (replied_ok houtput hresponse)
      | true =>
          rw [if_pos rfl] at hresponse hpost
          rw [assert_true, wp_ret, wp_bind]
          apply hkeeps.write hpen hresponse
          · rw [houtput]
            exact List.cons_prefix_cons.mpr ⟨rfl, List.prefix_append _ _⟩
          intro ok hrefused
          rw [wp_bind]
          apply wp_must hrefused
          intro _
          rw [wp_bind]
          have hwhole : [resultOk] ++ leBytes 2 (utf8Bytes cfg.serialize).length ++
              utf8Bytes cfg.serialize =
                resultOk :: (leBytes 2 (utf8Bytes cfg.serialize).length ++
                  utf8Bytes cfg.serialize) := List.append_assoc ..
          rw [← houtput] at hwhole
          apply hkeeps.write (Errand.pen_writing.trans hpen) hresponse.writing
          · exact hwhole ▸ List.prefix_rfl
          intro ok hrefused
          exact wp_must hrefused fun _ => hpost _ hwhole hresponse.writing.writing

theorem Keeps.respond {maybeCfg : Option WgConfig} (hpen : errand.pen = true)
    (houtput : errand.file.output = [])
    (hresponse : Response int errand.file (resultOk :: answerBytes maybeCfg)) :
    wp R (Main.respond maybeCfg) (fun _ => R.ended) errand := by
  rw [Main.respond, wp_bind]
  apply hkeeps.write hpen hresponse
  · rw [houtput]
    exact List.cons_prefix_cons.mpr ⟨rfl, List.nil_prefix⟩
  intro ok _
  rw [wp_bind]
  apply hkeeps.writeMaybeConfig (Errand.pen_writing.trans hpen) (by simp [Errand.writing, houtput])
    hresponse.writing
  intro last hwhole hlast
  have hended : R.ended last := hkeeps.replied last (replied_ok hwhole hlast)
  rw [wp_bind]
  refine hkeeps.ask rfl trivial fun closed _ _ => ?_
  cases closed <;> exact hended

theorem Keeps.refuse {code : UInt8} (hsilent : Silent errand)
    (hresponse : Response int errand.file [code])
    (hjustified : (stays = true → ∀ other, R.ended other) ∨
      (code ≠ resultBusy → Reads readRequest errand.file.input (.error code))) :
    wp R (Main.refuse code) (fun _ => R.ended) errand := by
  have hwhole : (errand.writing [code]).file.output = [code] := by
    simp [Errand.writing, hsilent.output]
  rw [Main.refuse, wp_bind]
  apply hkeeps.write hsilent.pen hresponse
  · rw [hsilent.output]
    exact List.prefix_rfl
  intro ok _
  have hanswered :
      Response int (errand.writing [code]).file (errand.writing [code]).file.output := by
    rw [hwhole]
    exact hresponse.writing
  rcases hjustified with hended | hreads
  · cases stays with
    | true => exact hended rfl _
    | false => exact hkeeps.replied _ fun _ => ⟨hanswered, nofun⟩
  · refine hkeeps.replied _ fun _ => ⟨hanswered, fun _ other hother _ hbusy => ?_⟩
    rw [hwhole] at hother
    obtain rfl := (List.cons.inj hother).1
    exact hreads hbusy

/-! ## The tasks -/

/-- The request creates the container, and its writer answers with what became of
it. -/
theorem Keeps.requestTask {request : Request} (hsilent : Silent errand)
    (hcontainer : errand.file.container = none) (hstarted : errand.file.started = false)
    (hconfigured : errand.file.configured = false) (hdecoded : Decoded errand.file request) :
    wp R (Main.requestTask int request (errand.file.slot.map addrOf)) (fun _ => R.ended)
      errand := by
  rw [Main.requestTask, wp_bind]
  apply hkeeps.create hsilent hcontainer hstarted ⟨request, hdecoded, rfl⟩
  · intro id vpnInfo
    rw [unwrapOk, pure_eq_ret, ret_bind, wp_bind]
    apply @Keeps.spawnTeardown int stays R (errand.creating id true) hkeeps _ id
    · exact ⟨hsilent.pen, hsilent.output, hsilent.child⟩
    · rfl
    · rfl
    · exact hconfigured
    · intro handle hslot
      rw [wp_bind]
      apply hkeeps.spawn
      · exact hsilent.pen
      · exact hkeeps.respond hsilent.pen hsilent.output (.demo hslot rfl)
      · exact fun writer => hkeeps.penless _ _ rfl (wp_awaitTeardown rfl)
    · intro handle slot keypair hslot
      rw [wp_bind]
      apply hkeeps.spawn
      · exact hsilent.pen
      · exact hkeeps.respond hsilent.pen hsilent.output (.guest hslot rfl rfl rfl)
      · exact fun writer => hkeeps.penless _ _ rfl (wp_awaitTeardown rfl)
  · exact fun hended error => hended errand

theorem Keeps.serve {request : Request} (hunserved : Unserved errand)
    (hencodable : request.Encodable) (hinput : errand.file.input = request.bytes) :
    wp R (Main.serve int request) (fun _ => R.ended) errand := by
  have hsilent := hunserved.toSilent
  have hdone : ∀ {last : Errand}, last.pen = false → R.ended last :=
    fun hpen => hkeeps.replied _ (replied_penless hpen)
  cases hmode : request.mode with
  | guestRequest code =>
      have hguest : isGuest request.mode = true := by rw [hmode]; rfl
      simp only [Main.serve, hmode, wp_bind]
      apply @Keeps.takeNextAddrFrom int stays R errand hkeeps _ firstSlot
      · exact ⟨hunserved, request, hencodable, hinput, hguest⟩
      · intro slot
        have hdecoded : Decoded (errand.taking slot).file request :=
          ⟨hencodable, hinput, hguest.symm⟩
        rw [wp_bind]
        apply hkeeps.spawn
        · exact ⟨hsilent.pen, hsilent.output, hsilent.child⟩
        · exact @Keeps.requestTask int stays R { errand.taking slot with child := none } hkeeps
            request ⟨hsilent.pen, hsilent.output, rfl⟩ hunserved.container hunserved.started
            hunserved.configured hdecoded
        · exact fun task => hdone rfl
      · exact hkeeps.refuse hsilent
          (.busy hunserved.slot hunserved.container hencodable hinput hguest)
          (.inr fun hbusy => absurd rfl hbusy)
  | demo =>
      have hdecoded : Decoded errand.file request := by
        refine ⟨hencodable, hinput, ?_⟩
        rw [hunserved.slot, hmode]
        rfl
      have hrequest := @Keeps.requestTask int stays R { errand with child := none } hkeeps request
        ⟨hsilent.pen, hsilent.output, rfl⟩ hunserved.container hunserved.started
        hunserved.configured hdecoded
      simp only [hunserved.slot, Option.map_none] at hrequest
      simp only [Main.serve, hmode, wp_bind]
      apply hkeeps.spawn hsilent
      · exact hrequest
      · exact fun task => hdone rfl

/-- Every connection task meets its obligations. -/
theorem Keeps.connection : wp R (Main.connection int) (fun _ => R.ended) .fresh := by
  have hunserved : Unserved .fresh := ⟨⟨rfl, rfl, rfl⟩, rfl, rfl, rfl, rfl⟩
  rw [Main.connection, wp_bind]
  apply hkeeps.receive hunserved yields_readRequest givesUp_readRequest
  · intro answer bytes hcomplaint hreads
    have hread := hunserved.having bytes
    cases answer with
    | ok request =>
        obtain ⟨hencodable, hinput⟩ := readRequest_eq_ok (hreads [] true)
        rw [List.append_nil, List.append_nil] at hinput
        exact hkeeps.serve hread hencodable hinput
    | error code =>
        exact hkeeps.refuse hread.toSilent (.invalid rfl rfl (hcomplaint code rfl))
          (.inr fun _ => hreads)
  · rintro hcut answer input hcomplaint ⟨code, rfl⟩
    have hread := hunserved.having input
    exact hkeeps.refuse hread.toSilent (.invalid rfl rfl (hcomplaint code rfl)) (.inl hcut)

end Holder

theorem wp_connection (int : Interface) :
    wp (rules int) (connection int) (fun _ => (rules int).ended) .fresh :=
  (keeps_rules int false).connection

end ScdtServer.Errands
