import ScdtServer.Challd.Orders
import ScdtServer.CtfArchive.ChalldClient

/-!
# One connection, from the client's message to its answer

`feed` lets a connection task read what the client has sent; `sent` is what a
task writes back.
-/

namespace ScdtServer.Connection

open ScdtServer.Interaction ScdtServer.Interaction.Program
open ScdtServer.ByteReader ScdtServer.Ports ScdtServer.RequestReader
open ScdtServer.Host ScdtServer.AddressManager ScdtServer.WgConfig
open ScdtServer.Interface ScdtServer.Main
open ScdtServer.Orders
open ScdtServer.Models ScdtServer.ChalldClient

/-- Answer the reads of a task from the bytes that have arrived, until it does
something else or wants more than there is on a stream that is still open. -/
def feed {A : Type} : Prog A → List UInt8 → Bool → Prog A × List UInt8
  | .call (.read count) next, input, closed =>
      if count ≤ input.length then
        feed (next (some (input.take count))) (input.drop count) closed
      else if closed then feed (next none) [] closed
      else (.call (S := challd) (.read count) next, input)
  | program, input, _ => (program, input)

/-- What a task writes to its stream when the writes succeed, up to the first
call that is not about the stream. -/
def sent {A : Type} : Prog A → List UInt8
  | .call (.write bytes) next => bytes ++ sent (next true)
  | .call .shutdownStream next => sent (next true)
  | _ => []

variable {A B : Type} {input rest : List UInt8} {closed : Bool}

/-- A reader that is fed finishes and hands over to what comes after it, or it waits and
has issued no other call. -/
theorem feed_receive_cases (reader : Reader A) (next : A → Prog B) (input : List UInt8)
    (closed : Bool) :
    (∃ value rest, reader.run input closed = .finished value rest ∧
      feed (receive reader >>= next) input closed = feed (next value) rest closed) ∨
    reader.run input closed = .waiting ∧
      ∃ count more remaining, feed (receive reader >>= next) input closed =
        (.call (S := challd) (.read count) more, remaining) := by
  induction reader generalizing input with
  | done value => exact .inl ⟨value, input, rfl, rfl⟩
  | await count more ih =>
      rw [Reader.run, receive, call_bind, feed]
      by_cases hle : count ≤ input.length
      · rw [if_pos hle, if_pos hle]
        exact ih _ _
      · rw [if_neg hle, if_neg hle]
        by_cases hclosed : closed = true
        · rw [if_pos hclosed, if_pos hclosed]
          exact ih _ _
        · rw [if_neg hclosed, if_neg hclosed]
          exact .inr ⟨rfl, _, _, _, rfl⟩

theorem feed_receive {reader : Reader A} {value : A} (next : A → Prog B)
    (hrun : reader.run input closed = .finished value rest) :
    feed (receive reader >>= next) input closed = feed (next value) rest closed := by
  cases feed_receive_cases reader next input closed with
  | inl hfinished =>
      obtain ⟨value', rest', hrun', hfeed⟩ := hfinished
      obtain ⟨rfl, rfl⟩ := Reader.Progress.finished.inj (hrun'.symm.trans hrun)
      exact hfeed
  | inr hwaiting => cases hwaiting.1.symm.trans hrun

theorem feed_waiting {reader : Reader A} (next : A → Prog B)
    (hrun : reader.run input closed = .waiting) :
    ∃ count more remaining, feed (receive reader >>= next) input closed =
      (.call (S := challd) (.read count) more, remaining) := by
  cases feed_receive_cases reader next input closed with
  | inl hfinished =>
      obtain ⟨value, rest, hrun', _⟩ := hfinished
      cases hrun'.symm.trans hrun
  | inr hwaiting => exact hwaiting.2

/-! ## The two sides' names for the same things -/

def modeOf : StartMode → Mode
  | .guest guestCode => .guestRequest guestCode.code
  | .demo => .demo

def startModeOf : Mode → StartMode
  | .guestRequest guestCode => .guest ⟨guestCode⟩
  | .demo => .demo

def portTypeOf : Models.PortType → Ports.PortType
  | .tcp => .tcp
  | .udp => .udp

def clientTypeOf : Ports.PortType → Models.PortType
  | .tcp => .tcp
  | .udp => .udp

def mappingOf (mapping : UInt16 × UInt16 × Models.PortType) : PortMapping :=
  ⟨mapping.1, mapping.2.1, portTypeOf mapping.2.2⟩

def tupleOf (mapping : PortMapping) : UInt16 × UInt16 × Models.PortType :=
  (mapping.fromPort, mapping.toPort, clientTypeOf mapping.portType)

/-- The request that a call of `start_container` is about. -/
def requestOf (imageName : String) (portMappings : List (UInt16 × UInt16 × Models.PortType))
    (startMode : StartMode) : Request where
  mode := modeOf startMode
  imageName := imageName
  ports := portMappings.map mappingOf

@[simp]
theorem startModeOf_modeOf (startMode : StartMode) :
    startModeOf (modeOf startMode) = startMode := by
  cases startMode <;> rfl

@[simp]
theorem modeOf_startModeOf (mode : Mode) : modeOf (startModeOf mode) = mode := by
  cases mode <;> rfl

@[simp]
theorem mappingOf_tupleOf (mapping : PortMapping) : mappingOf (tupleOf mapping) = mapping := by
  cases mapping with
  | mk fromPort toPort portType => cases portType <;> rfl

theorem bytes_mappingOf (mapping : UInt16 × UInt16 × Models.PortType) :
    (mappingOf mapping).bytes = portMappingBytes mapping := by
  rcases mapping with ⟨fromPort, toPort, portType⟩
  cases portType <;> rfl

/-- The client's message is the encoding of the request. -/
theorem message_eq (imageName : String)
    (portMappings : List (UInt16 × UInt16 × Models.PortType)) (startMode : StartMode) :
    message imageName portMappings startMode =
      (requestOf imageName portMappings startMode).bytes := by
  have hports : (portMappings.map mappingOf).flatMap PortMapping.bytes =
      portMappings.flatMap portMappingBytes := by
    rw [List.flatMap_map]
    congr 1
    funext mapping
    exact bytes_mappingOf mapping
  cases startMode <;>
    simp [message, requestOf, Request.bytes, headerBytes, Mode.bytes, modeOf, imageNameBytes,
      portSection, hports, guestCodeBytes, StartMode.modeId, modeGuest, modeDemo]

theorem requestOf_decoded (request : Request) :
    requestOf request.imageName (request.ports.map tupleOf) (startModeOf request.mode) =
      request := by
  cases request with
  | mk mode imageName ports => simp [requestOf, Function.comp_def]

/-! ## Which answer the daemon's tasks give -/

theorem spawns_takeNextAddrFrom {child : Role → Prog TaskResult → Prop}
    {post : Option UInt8 → Prop} (slots : List Slot) (hpost : ∀ answer, post answer) :
    (takeNextAddrFrom slots).Spawns child post := by
  induction slots with
  | nil => exact hpost none
  | cons slot slots ih =>
      intro inUse
      cases inUse with
      | false => exact hpost _
      | true => exact ih

/-- `create` spawns nothing. -/
theorem spawns_create {child : Role → Prog TaskResult → Prop} {imageName : String}
    {maybeAddr : Option UInt8} {ports : PortMappings} :
    (Container.create imageName maybeAddr ports).Spawns child fun _ => True := by
  have hvpn : ∀ id, (Container.addVpnInfo id maybeAddr).Spawns child fun _ => True := by
    intro id
    cases maybeAddr with
    | none => trivial
    | some addr =>
        refine Spawns.bind (fun _ => trivial) ?_
        intro response
        apply Spawns.bind (spawns_unwrap fun _ _ => trivial)
        intro response
        apply Spawns.bind (spawns_unwrap fun _ _ => trivial)
        intro bridgeAddr
        refine Spawns.bind (fun _ => trivial) ?_
        intro ok
        exact Spawns.bind (spawns_assert trivial) fun _ => trivial
  have hhost : (Container.addHostAddr maybeAddr).Spawns child fun _ => True := by
    cases maybeAddr with
    | none => trivial
    | some addr => exact fun ok => spawns_assert trivial
  apply Spawns.bind (spawns_assert trivial)
  intro _
  refine Spawns.bind (fun _ => trivial) ?_
  intro connected
  split
  · trivial
  · apply Spawns.bind hhost
    intro _
    refine Spawns.bind (fun _ => trivial) ?_
    intro id
    apply Spawns.bind (spawns_unwrap fun _ _ => trivial)
    intro id
    refine Spawns.bind (fun _ => trivial) ?_
    intro started
    apply Spawns.bind (spawns_assert trivial)
    intro _
    exact Spawns.bind (hvpn id) fun _ => trivial

theorem spawns_unwind {child : Role → Prog TaskResult → Prop} {drop : Prog Unit}
    {post : A → Prop} : (unwind drop).Spawns child post := by
  cases drop with
  | ret value => trivial
  | _ => exact fun _ => trivial

/-- The writer of a request gets a configuration if and only if there is an
address. -/
def Answers (maybeAddr : Option UInt8) (role : Role) (child : Prog TaskResult) : Prop :=
  role = .writer → ∃ maybeCfg : Option WgConfig, child = respond maybeCfg ∧
    maybeCfg.isSome = maybeAddr.isSome

theorem spawns_spawnTeardown {int : Interface} {container : Container.Container}
    {maybeAddr : Option UInt8} :
    (spawnTeardown int container maybeAddr).Spawns (Answers maybeAddr)
      fun answer => answer.2.isSome = maybeAddr.isSome := by
  apply Spawns.bind (spawns_unwrap fun _ _ => trivial)
  intro watched
  cases maybeAddr with
  | none => exact ⟨(fun hrole => by cases hrole), fun handle => rfl⟩
  | some addr =>
      apply Spawns.bind
      · rw [addTempPeer]
        split
        · exact spawns_unwind
        refine Spawns.bind (fun _ => trivial) ?_
        intro keypair
        refine Spawns.bind (fun _ => trivial) ?_
        intro configured
        split
        · exact Spawns.bind (spawns_assert trivial) fun _ => trivial
        · exact ⟨(fun hrole => by cases hrole), fun handle => trivial⟩
      · intro outcome
        cases outcome with
        | error error => trivial
        | ok value => rfl

theorem spawns_awaitTeardown {child : Role → Prog TaskResult → Prop} {handle : ℕ} :
    (awaitTeardown handle).Spawns child fun _ => True := by
  refine Spawns.bind (fun _ => trivial) ?_
  intro outcome
  apply Spawns.bind (spawns_unwrap fun _ _ => trivial)
  intro result
  cases result <;> trivial

theorem spawns_requestTask {int : Interface} {request : Request} {maybeAddr : Option UInt8} :
    (requestTask int request maybeAddr).Spawns (Answers maybeAddr) fun _ => True := by
  apply Spawns.bind spawns_create
  intro created
  apply Spawns.bind (by cases created <;> trivial)
  intro container
  rw [spawns_bind]
  refine Spawns.mono spawns_spawnTeardown fun answer hanswer => ?_
  refine ⟨fun _ => ⟨answer.2, rfl, hanswer⟩, fun writer => ?_⟩
  show (do awaitTeardown answer.1; pure (.ok ()) : Prog TaskResult).Spawns _ _
  exact Spawns.bind spawns_awaitTeardown fun _ => trivial

/-- The connection task spawns only the request, with an address in guest mode
and without one in demo mode. -/
theorem spawns_serve {int : Interface} {request : Request} :
    (serve int request).Spawns
      (fun role child => role = Role.request ∧ ∃ maybeAddr : Option UInt8,
        maybeAddr.isSome = (startModeOf request.mode).isGuest ∧
        child = requestTask int request maybeAddr) fun _ => True := by
  cases hmode : request.mode with
  | guestRequest guestCode =>
      rw [serve, hmode]
      apply Spawns.bind (spawns_takeNextAddrFrom _ fun _ => trivial)
      intro taken
      cases taken with
      | none => exact fun _ => trivial
      | some addr => exact ⟨⟨rfl, some addr, rfl, rfl⟩, fun _ => trivial⟩
  | demo =>
      rw [serve, hmode]
      exact ⟨⟨rfl, none, rfl, rfl⟩, fun _ => trivial⟩

/-! ## What the daemon writes -/

theorem sent_refuse (code : UInt8) : sent (refuse code) = [code] := rfl

theorem sent_respond_demo : sent (respond none) = [responseOk] := rfl

theorem sent_respond_guest {cfg : WgConfig} (hlength : (utf8Bytes cfg.serialize).length < 65536) :
    sent (respond (some cfg)) =
      responseOk :: leBytes 2 (utf8Bytes cfg.serialize).length ++ utf8Bytes cfg.serialize := by
  simp [respond, writeMaybeConfig, writeConfig, Host.write, Host.shutdownStream, hlength, sent,
    resultOk, responseOk]

/-! ## The whole exchange -/

section Message

variable {int : Interface} {imageName : String}
variable {portMappings : List (UInt16 × UInt16 × Models.PortType)} {startMode : StartMode}

theorem encodable_requestOf (hname : (utf8Bytes imageName).length ≤ 255)
    (hports : portMappings.length ≤ 9) :
    (requestOf imageName portMappings startMode).Encodable := by
  refine ⟨Nat.lt_succ_of_le hname, ?_⟩
  rw [requestOf, List.length_map]
  omega

/-- The daemon decodes what the client encodes. -/
theorem run_message (hname : (utf8Bytes imageName).length ≤ 255)
    (hports : portMappings.length ≤ 9) (closed : Bool) :
    readRequest.run (message imageName portMappings startMode) closed =
      .finished (.ok (requestOf imageName portMappings startMode)) [] := by
  have hreads := reads_request
    (@encodable_requestOf _ _ startMode hname hports) [] closed
  rwa [List.append_nil, ← message_eq] at hreads

theorem feed_message (hname : (utf8Bytes imageName).length ≤ 255)
    (hports : portMappings.length ≤ 9) (closed : Bool) :
    feed (connection int) (message imageName portMappings startMode) closed =
      (serve int (requestOf imageName portMappings startMode), []) := by
  rw [connection, feed_receive _ (run_message hname hports closed)]
  cases startMode <;> rfl

theorem spawns_requestOf :
    (serve int (requestOf imageName portMappings startMode)).Spawns
      (fun role child => role = Role.request ∧ ∃ maybeAddr : Option UInt8,
        maybeAddr.isSome = startMode.isGuest ∧
        child = requestTask int (requestOf imageName portMappings startMode) maybeAddr)
      fun _ => True := by
  have hserve := @spawns_serve int (requestOf imageName portMappings startMode)
  rwa [requestOf, startModeOf_modeOf] at hserve

theorem comesTo_requestOf (slot : Slot) :
    (serve int (requestOf imageName portMappings startMode)).ComesTo (FindsFree slot)
      fun left => ∃ (maybeSlot : Option Slot) (next : ℕ → Prog TaskResult),
        left = .spawn (S := challd) .request
            (requestTask int (requestOf imageName portMappings startMode)
              (maybeSlot.map addrOf)) next ∧
          maybeSlot.isSome = startMode.isGuest := by
  have hserve := @comesTo_serve int (requestOf imageName portMappings startMode) slot
  cases startMode <;> exact hserve

end Message

/-- What the two sides of a connection make of each other. -/
structure Agreement (int : Interface) (imageName : String)
    (portMappings : List (UInt16 × UInt16 × Models.PortType)) (startMode : StartMode) :
    Prop where
  /-- The daemon decodes the message, consuming all of it and wanting no more. -/
  decoded : ∀ closed,
    readRequest.run (message imageName portMappings startMode) closed =
      .finished (.ok (requestOf imageName portMappings startMode)) []
  /-- That is all that the connection task reads before it serves the request. -/
  served : ∀ closed,
    feed (connection int) (message imageName portMappings startMode) closed =
      (serve int (requestOf imageName portMappings startMode), [])
  /-- A guest's request has an address, a demo's has none. -/
  requests : (serve int (requestOf imageName portMappings startMode)).Spawns
    (fun role child => role = Role.request ∧ ∃ maybeAddr : Option UInt8,
      maybeAddr.isSome = startMode.isGuest ∧
      child = requestTask int (requestOf imageName portMappings startMode) maybeAddr)
    fun _ => True
  /-- It is spawned as soon as a slot is found free, and for a demo in any case. -/
  spawned : ∀ slot, (serve int (requestOf imageName portMappings startMode)).ComesTo
    (FindsFree slot) fun left => ∃ (maybeSlot : Option Slot) (next : ℕ → Prog TaskResult),
      left = .spawn (S := challd) .request
          (requestTask int (requestOf imageName portMappings startMode)
            (maybeSlot.map addrOf)) next ∧
        maybeSlot.isSome = startMode.isGuest
  /-- A request with an address is answered with a configuration. -/
  writers : ∀ maybeAddr : Option UInt8, maybeAddr.isSome = startMode.isGuest →
    (requestTask int (requestOf imageName portMappings startMode) maybeAddr).Spawns
      (fun role child => role = Role.writer → ∃ maybeCfg : Option WgConfig,
        child = respond maybeCfg ∧ maybeCfg.isSome = startMode.isGuest) fun _ => True
  /-- It is answered, unless one of its calls fails. -/
  responds : ∀ maybeSlot : Option Slot, maybeSlot.isSome = startMode.isGuest →
    (requestTask int (requestOf imageName portMappings startMode)
      (maybeSlot.map addrOf)).ComesTo Succeeds fun left =>
        ∃ (maybeCfg : Option WgConfig) (next : ℕ → Prog TaskResult),
          left = .spawn (S := challd) .writer (respond maybeCfg) next ∧
            maybeCfg.isSome = startMode.isGuest
  /-- The client makes of an OK the configuration that was written, without
  waiting for the end of the stream. -/
  answered : ∀ maybeCfg : Option WgConfig, maybeCfg.isSome = startMode.isGuest →
    (∀ cfg, maybeCfg = some cfg → (utf8Bytes cfg.serialize).length < 65536) →
      ∀ closed, (readResponse startMode).run (sent (respond maybeCfg)) closed =
        .finished (some (.ok (maybeCfg.elim "" WgConfig.serialize))) []
  refused : ∀ code, code ≠ responseOk → ∀ closed,
    (readResponse startMode).run (sent (refuse code)) closed =
      .finished (some (.error (.responseCode code))) []
  unanswered : (readResponse startMode).run [] true = .finished (some (.error .io)) []

/-- Client and daemon agree on every exchange about an image name of at most 255
bytes and at most nine port mappings. -/
theorem client_daemon_agree (int : Interface) (imageName : String)
    (portMappings : List (UInt16 × UInt16 × Models.PortType)) (startMode : StartMode)
    (hname : (utf8Bytes imageName).length ≤ 255) (hports : portMappings.length ≤ 9) :
    Agreement int imageName portMappings startMode := by
  refine ⟨run_message hname hports, feed_message hname hports, spawns_requestOf,
    comesTo_requestOf, ?_, ?_, ?_, ?_, run_closed_unanswered startMode⟩
  · intro maybeAddr hmode
    have hrequest :=
      @spawns_requestTask int (requestOf imageName portMappings startMode) maybeAddr
    unfold Answers at hrequest
    rwa [hmode] at hrequest
  · intro maybeSlot hmode
    have hrequest :=
      @comesTo_respond (maybeSlot.map addrOf) int (requestOf imageName portMappings startMode)
        (all_addrInRange maybeSlot)
    rwa [Option.isSome_map, hmode] at hrequest
  · intro maybeCfg hmode hlength closed
    cases maybeCfg with
    | none =>
        rw [sent_respond_demo]
        exact reads_demoOk hmode.symm [] closed
    | some cfg =>
        have hreads := reads_guestOk hmode.symm (hlength cfg rfl) [] closed
        rw [sent_respond_guest (hlength cfg rfl)]
        rwa [List.append_nil] at hreads
  · intro code hcode closed
    rw [sent_refuse]
    exact reads_code hcode [] closed

/-- A guest's exchange about an image with one port. -/
theorem client_daemon_agree_guest :
    Agreement ⟨""⟩ "ctf" [(80, 80, .tcp)] (.guest ⟨7⟩) :=
  client_daemon_agree ⟨""⟩ "ctf" [(80, 80, .tcp)] (.guest ⟨7⟩) (by decide) (by decide)

/-! ## The parser -/

/-- A scan that leads to a write has come to its end before it. -/
theorem path_takeNextAddrFrom {A : Type} {slots : List Slot} {next : Option UInt8 → Prog A}
    {path : List (Σ request : Call, Answer request)} {bytes : List UInt8}
    {last : Bool → Prog A}
    (hpath : Path (takeNextAddrFrom slots >>= next) path
      (.call (S := challd) (.write bytes) last)) :
    ∃ answer before after, Path (takeNextAddrFrom slots) before (.ret answer) ∧
      path = before ++ after ∧
      Path (next answer) after (.call (S := challd) (.write bytes) last) := by
  induction slots generalizing path with
  | nil => exact ⟨none, [], path, .nil, rfl, hpath⟩
  | cons slot slots ih =>
      cases hpath with
      | @cons _ _ inUse path _ hrest =>
          cases inUse with
          | false => exact ⟨some (addrOf slot), [_], path, .cons .nil, rfl, hrest⟩
          | true =>
              rcases ih hrest with ⟨answer, before, after, hbefore, hsplit, hafter⟩
              have hscan : Path (takeNextAddrFrom (slot :: slots))
                  (⟨.fetchOr slot, true⟩ :: before) (.ret answer) := by
                apply Path.cons
                exact hbefore
              exact ⟨answer, _, after, hscan, by rw [hsplit]; rfl, hafter⟩

/-- The daemon answers BUSY only to a guest, when it has found no free slot. -/
theorem busy_path {int : Interface} {request : Request}
    {path : List (Σ request : Call, Answer request)} {last : Bool → Prog TaskResult}
    (hpath : Path (serve int request) path
      (.call (S := challd) (.write [resultBusy]) last)) :
    (startModeOf request.mode).isGuest = true ∧ Path takeNextAddr path (.ret none) := by
  cases hmode : request.mode with
  | demo =>
      rw [serve, hmode] at hpath
      cases hpath
  | guestRequest guestCode =>
      rw [serve, hmode] at hpath
      rcases path_takeNextAddrFrom hpath with
        ⟨answer, before, after, hbefore, hsplit, hafter⟩
      cases answer with
      | some addr => cases hafter
      | none =>
          cases hafter with
          | nil =>
              rw [List.append_nil] at hsplit
              rw [hsplit]
              exact ⟨rfl, hbefore⟩
          | cons hend => cases hend

/-- What a connection task makes of the bytes it receives. -/
structure Parses (int : Interface) (input : List UInt8) : Prop where
  /-- It accepts exactly the encodings, and consumes no more than those. -/
  accepts : ∀ closed (request : Request) rest,
    readRequest.run input closed = .finished (.ok request) rest ↔
      request.Encodable ∧ input = request.bytes ++ rest
  unique : ∀ (request request' : Request) rest rest', request.Encodable → request'.Encodable →
    input = request.bytes ++ rest → input = request'.bytes ++ rest' →
      request = request' ∧ rest = rest'
  /-- The client would have sent exactly these bytes. -/
  canonical : ∀ (request : Request) rest, input = request.bytes ++ rest →
    input = message request.imageName (request.ports.map tupleOf)
      (startModeOf request.mode) ++ rest
  serves : ∀ closed (request : Request) rest, request.Encodable → input = request.bytes ++ rest →
    feed (connection int) input closed = (serve int request, rest)
  /-- Anything else is answered with an error code and nothing but reads before
  it, at the latest when the stream ends; before that the task waits only for the rest
  of a frame. -/
  refuses : ∀ closed, (¬ ∃ (request : Request) (rest : List UInt8),
      request.Encodable ∧ input = request.bytes ++ rest) →
    (∃ code rest, feed (connection int) input closed =
        (.call (S := challd) (.write [code]) fun _ => .ret (.ok ()), rest) ∧
        ((code = resultMalformedRequest ∧ ¬ HasHeader input) ∨
          (code = resultInvalidPort ∧ HasHeader input))) ∨
      (closed = false ∧ Incomplete input ∧
        ∃ count more rest, feed (connection int) input closed =
          (.call (S := challd) (.read count) more, rest))
  /-- BUSY is answered only to a guest, when no address was free. -/
  busy : ∀ request path last,
    Path (serve int request) path (.call (S := challd) (.write [resultBusy]) last) →
      (startModeOf request.mode).isGuest = true ∧ Path takeNextAddr path (.ret none)

theorem feed_accepted {int : Interface} {request : Request}
    (hrun : readRequest.run input closed = .finished (.ok request) rest) :
    feed (connection int) input closed = (serve int request, rest) := by
  rw [connection, feed_receive _ hrun]
  cases hmode : request.mode <;> simp only [serve, hmode] <;> rfl

/-- The request parser accepts exactly its grammar, canonically, and rejects
without side effects, whatever bytes arrive. -/
theorem parser_exact (int : Interface) (input : List UInt8) : Parses int input := by
  have haccepts : ∀ closed (request : Request) rest,
      readRequest.run input closed = .finished (.ok request) rest ↔
        request.Encodable ∧ input = request.bytes ++ rest := by
    intro closed request rest
    constructor
    · exact readRequest_eq_ok
    · rintro ⟨hencodable, hinput⟩
      rw [hinput]
      exact reads_request hencodable rest closed
  refine ⟨haccepts, ?_, ?_, ?_, ?_, fun _ _ _ => busy_path⟩
  · intro request request' rest rest' hencodable hencodable' hinput hinput'
    have hfirst := (haccepts true request rest).mpr ⟨hencodable, hinput⟩
    have hsecond := (haccepts true request' rest').mpr ⟨hencodable', hinput'⟩
    rw [hfirst] at hsecond
    cases hsecond
    exact ⟨rfl, rfl⟩
  · intro request rest hinput
    rw [message_eq, requestOf_decoded]
    exact hinput
  · intro closed request rest hencodable hinput
    exact feed_accepted ((haccepts closed request rest).mpr ⟨hencodable, hinput⟩)
  · intro closed hnone
    cases hrun : readRequest.run input closed with
    | waiting =>
        cases closed with
        | false => exact .inr ⟨rfl, incomplete_of_waits hrun, feed_waiting _ hrun⟩
        | true =>
            rcases readRequest.run_closed input with ⟨value, rest, hfinished⟩
            rw [hrun] at hfinished
            cases hfinished
    | finished answer rest =>
        cases answer with
        | ok request =>
            exact absurd ⟨request, rest, (haccepts closed request rest).mp hrun⟩ hnone
        | error code =>
            refine .inl ⟨code, rest, ?_, readRequest_eq_error hrun⟩
            rw [connection, feed_receive _ hrun]
            rfl

end ScdtServer.Connection
