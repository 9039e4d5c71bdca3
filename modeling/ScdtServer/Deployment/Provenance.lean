import ScdtServer.Deployment.System
import ScdtServer.CtfArchive.Configurations
import ScdtServer.CtfArchive.Delivery

/-!
# Who stands behind a container

A container is created for one call of the archive, and that call is made for a
guest who was invited or an administrator who may host demos, about an image that
an administrator has configured.  All of them have signed in.
-/

namespace ScdtServer.Deployment

open ScdtServer.Transition ScdtServer.ByteReader
open ScdtServer.Ports ScdtServer.RequestReader
open ScdtServer.Host ScdtServer.AddressManager ScdtServer.Interface ScdtServer.Main
open ScdtServer.Daemon ScdtServer.Records
open ScdtServer.Http ScdtServer.Models ScdtServer.Jwt
open ScdtServer.Tables ScdtServer.Challenges ScdtServer.ChalldClient
open ScdtServer.Api (Server State Environment Exchange sent_cases)
open ScdtServer.Connection
open ScdtServer.Sessions ScdtServer.Configurations ScdtServer.Authority

/-! ## What challd makes of a message -/

/-- The request that challd makes of a call: the count of the mappings is cut to a
byte. -/
def understood (sent : ContainerRequest) : Request :=
  requestOf sent.imageName (sent.portMappings.take (sent.portMappings.length % 256))
    sent.startMode

theorem isGuest_modeOf (startMode : StartMode) :
    Errands.isGuest (modeOf startMode) = startMode.isGuest := by
  cases startMode <;> rfl

theorem prefix_header {mode mode' : Mode} {imageName imageName' : String}
    {rest rest' : List UInt8} (hname : (utf8Bytes imageName).length < 256)
    (hname' : (utf8Bytes imageName').length < 256)
    (hsame : headerBytes mode imageName ++ rest = headerBytes mode' imageName' ++ rest') :
    mode = mode' ∧ imageName = imageName' ∧ rest = rest' := by
  have hleft := reads_header mode hname rest true
  have hright := reads_header mode' hname' rest' true
  rw [hsame, hright] at hleft
  cases hleft
  exact ⟨rfl, rfl, rfl⟩

/-- Mappings that begin other mappings. -/
theorem prefix_mappings {mappings mappings' : PortMappings} {rest : List UInt8}
    (hlength : mappings.length ≤ mappings'.length)
    (hsame : mappings.flatMap PortMapping.bytes ++ rest = mappings'.flatMap PortMapping.bytes) :
    mappings = mappings'.take mappings.length := by
  have hleft := reads_mappings [] mappings rest true
  have hright := reads_mappings [] (mappings'.take mappings.length)
    ((mappings'.drop mappings.length).flatMap PortMapping.bytes) true
  rw [List.length_take, Nat.min_eq_left hlength, ← List.flatMap_append,
    List.take_append_drop, ← hsame, hleft] at hright
  injection hright with hvalue
  injection hvalue

/-- An encoding at the beginning of a message is that of the request it is about. -/
theorem eq_understood {request : Request} {rest : List UInt8} {sent : ContainerRequest}
    (hencodable : request.Encodable) (hname : (utf8Bytes sent.imageName).length < 256)
    (hmessage : request.bytes ++ rest = sent.message) :
    request = understood sent := by
  rw [ContainerRequest.message, message_eq, Request.bytes, Request.bytes, List.append_assoc]
    at hmessage
  obtain ⟨hmode, himage, hports⟩ := prefix_header hencodable.name_lt hname hmessage
  obtain ⟨hcount, hmappings⟩ := List.cons.inj hports
  have hlength : request.ports.length = sent.portMappings.length % 256 := by
    have hvalue := congrArg UInt8.toNat hcount
    rw [UInt8.toNat_ofNat', UInt8.toNat_ofNat', requestOf, List.length_map] at hvalue
    have hlt := hencodable.ports_lt
    omega
  have hle : request.ports.length ≤ (sent.portMappings.map mappingOf).length := by
    rw [hlength, List.length_map]
    exact Nat.mod_le _ _
  have hbegins := prefix_mappings hle hmappings
  rw [hlength, ← List.map_take] at hbegins
  cases request with
  | mk mode imageName ports =>
      obtain rfl : mode = modeOf sent.startMode := hmode
      obtain rfl : imageName = sent.imageName := himage
      rw [understood, requestOf]
      exact congrArg _ hbegins

/-! ## Whose call it is -/

/-- Why a call is made: an administrator who may host demos is at work, or a guest
whose code was handed out and traded is. -/
inductive Permitted (server : Server) (now tolerance : Time) (events : List Api.Event)
    (position : ℕ) (exchange : Exchange) (challengeId : ℤ) : StartMode → Prop
  | demo {admin : JWTAdmin} (hrequest : exchange.request = .hostDemo challengeId)
      (hworks : Works server now tolerance events position exchange admin)
      (hpermitted : admin.canHostDemo = true) :
      Permitted server now tolerance events position exchange challengeId .demo
  | guest {initiate finish generation redemption : ℕ} {admin : JWTAdmin} {code : GuestCode}
      {token : Token} (hrequest : exchange.request = .start challengeId)
      (hinvites : Invites server now tolerance (events.take position) initiate finish generation
        redemption admin code token)
      (hpresented : presented JWTUser exchange.headers = some token.text)
      (hlive : instant now events position ≤
        instant now events redemption + fromHours 6 + tolerance) :
      Permitted server now tolerance events position exchange challengeId (.guest code)

/-- The first ports of a map. -/
def firstPorts (portMap : ExposePorts) (count : ℕ) : ExposePorts where
  ports := portMap.ports.take count
  nodup := by
    rw [List.map_take]
    exact portMap.nodup.sublist (List.take_sublist _ _)

/-- The call at a position stands behind a container.  Of its ports challd sees as
many as the count in one byte says. -/
structure Warrants (server : Server) (now tolerance : Time) (past : List Process)
    (machine : Machine) (container : DockerContainer) (position : ℕ) (exchange : Exchange)
    (sent : ContainerRequest) (challengeId : ℤ) (portMap : ExposePorts)
    (maybeSlot : Option Slot) : Prop where
  opened : machine.opened container.origin = some position
  calls : Calls machine.events position exchange sent
  permitted : Permitted server now tolerance machine.events position exchange challengeId
    sent.startMode
  configured : ConfiguredIn tolerance
    (past ++ [⟨server, now, machine.events.take position⟩]) challengeId sent.imageName portMap
  ports : sent.portMappings = portMap.ports.map fun entry => (entry.1, entry.1, entry.2.portType)
  mode : maybeSlot.isSome = sent.startMode.isGuest
  slot : ∀ slot, maybeSlot = some slot ↔
    TookFor machine.actions machine.origins container.origin slot
  body : Delivery.Ordered sent.imageName (firstPorts portMap (portMap.ports.length % 256))
    (maybeSlot.map fun slot => UInt8.ofNat slot.val + 1) container.body

variable {server : Server} {panics : DoublePanic} {int : Interface} {now tolerance : Time}
variable {past : List Process}
variable {database : Database} {events : List Api.Event} {state : State} {exchange : Exchange}
variable {sent : ContainerRequest} {position : ℕ} {challengeId : ℤ}
variable {labels : List Label} {machine : Machine}

/-- A row with an image can be named in one byte. -/
theorem name_lt {row : ChallengeRow} (hrow : database.challenges.find challengeId = some row)
    (himage : row.dockerImage = some sent.imageName) :
    (utf8Bytes sent.imageName).length < 256 := by
  have hadmits := Sql.Table.admits_of_find hrow
  rw [admits_challenge] at hadmits
  simp only [challengeSchema, himage, Bool.and_eq_true] at hadmits
  have himage : fitsVarchar 63 sent.imageName = true := hadmits.1.2
  have hchars := (fitsVarchar_iff.mp himage).2
  have hbytes := length_utf8Bytes_le sent.imageName
  omega

/-- What is sent is about a row with an image. -/
theorem name_of_calls (hrun : Run (Api.Step server) (.start now database) events state)
    (hcalls : Calls events position exchange sent) : (utf8Bytes sent.imageName).length < 256 := by
  obtain ⟨middle, next, -, hstep⟩ := hrun.step_at hcalls.event
  generalize hevent : Api.Event.exchange exchange = event at hstep
  cases hstep with
  | expire => cases hevent
  | elapse => cases hevent
  | exchange =>
      obtain rfl := Api.Event.exchange.inj hevent
      rcases sent_cases hcalls.sent with
        ⟨_, _, _, _, hrequest⟩ | ⟨_, _, _, _, _, hrequest⟩ <;>
      · obtain ⟨row, hrow, himage, -⟩ := containerRequest_eq_ok hrequest
        exact name_lt hrow himage

/-- The container of a connection is what its call asks for. -/
theorem Wired.asked {id : ContainerId} {container : DockerContainer}
    (hwired : Wired server panics int now database machine)
    (hat : machine.challd.world.containers[id]? = some container)
    (hopened : machine.opened container.origin = some position)
    (hcalls : Calls machine.events position exchange sent) :
    ∃ maybeSlot, maybeSlot.isSome = sent.startMode.isGuest ∧
      AskedFor machine.actions machine.challd container (understood sent) maybeSlot := by
  obtain ⟨errands, hfiled⟩ := filed_of_run hwired.challd
  obtain ⟨request, maybeSlot, hasked⟩ := hfiled.askedFor hat
  have hmessage := hwired.carried hopened hcalls
  rw [hasked.input] at hmessage
  obtain rfl := eq_understood hasked.encodable
    (name_of_calls hwired.archive.unrestrict hcalls) hmessage
  exact ⟨maybeSlot, hasked.mode.trans (isGuest_modeOf sent.startMode), hasked⟩

/-- The ports that challd sees of a call. -/
theorem ports_understood {portMap : ExposePorts}
    (hports : sent.portMappings =
      portMap.ports.map fun entry => (entry.1, entry.1, entry.2.portType)) :
    (understood sent).ports =
      Delivery.daemonPorts (firstPorts portMap (portMap.ports.length % 256)) := by
  rw [understood, requestOf, Delivery.daemonPorts, firstPorts, hports, List.length_map,
    ← List.map_take]

/-- What a call rests on. -/
structure Founded (server : Server) (now tolerance : Time) (past : List Process)
    (events : List Api.Event) (position : ℕ) (exchange : Exchange) (sent : ContainerRequest)
    (challengeId : ℤ) (portMap : ExposePorts) : Prop where
  permitted : Permitted server now tolerance events position exchange challengeId sent.startMode
  configured : ConfiguredIn tolerance (past ++ [⟨server, now, events.take position⟩]) challengeId
    sent.imageName portMap
  ports : sent.portMappings = portMap.ports.map fun entry => (entry.1, entry.1, entry.2.portType)

theorem length_take_of_at {event : Api.Event} (hat : events[position]? = some event) :
    (events.take position).length = position :=
  List.length_take_of_le (le_length_of_at hat)

theorem eq_take_of_at {event : Api.Event} (hat : events[position]? = some event) :
    events.take position ++ [event] ++ events.drop (position + 1) = events := by
  obtain ⟨hlt, hevent⟩ := List.getElem?_eq_some_iff.mp hat
  calc
    events.take position ++ [event] ++ events.drop (position + 1) =
        events.take position ++ (event :: events.drop (position + 1)) := by
      rw [List.append_assoc, List.singleton_append]
    _ = events.take position ++ events.drop position := by
      rw [List.drop_eq_getElem_cons hlt, hevent]
    _ = events := List.take_append_drop position events

theorem founded_of_calls (hpast : History tolerance past database)
    (hexpiring : Expiring server.signer.jwt tolerance)
    (hrun : Run (restrict (Api.Step server) (Trusted server)) (.start now database) events state)
    (hcalls : Calls events position exchange sent) :
    ∃ challengeId portMap,
      Founded server now tolerance past events position exchange sent challengeId portMap := by
  obtain ⟨middle, next, hbefore, ⟨hstep, htrusted⟩, hnow⟩ := reached_at hrun hcalls.event
  have hunforged : Run (restrict (Api.Step server) (Unforged server)) (.start now database)
      (events.take position) middle := hbefore.mono fun _ _ _ hstep => ⟨hstep.1, hstep.2.1⟩
  have hcontainer : ∀ {service challengeId startMode},
      (containerRequest service middle.database challengeId startMode).1 = .ok sent →
        Permitted server now tolerance events position exchange challengeId startMode →
          ∃ portMap, Founded server now tolerance past events position exchange sent challengeId
            portMap := by
    intro service challengeId startMode hrequest hpermitted
    obtain ⟨row, hrow, himage, hmappings, rfl, -⟩ := containerRequest_eq_ok hrequest
    obtain ⟨portMap, hconfigured, hcolumns⟩ := configured_after hexpiring
      (configured_of_history hpast) hunforged hrow himage
    obtain ⟨hnumbers, htypes⟩ := Prod.mk.inj (Prod.mk.inj hcolumns).2
    refine ⟨portMap, hpermitted, hconfigured, ?_⟩
    rw [hmappings, hnumbers, htypes, Delivery.mappings_configured]
  generalize hevent : Api.Event.exchange exchange = event at hstep
  cases hstep with
  | expire => cases hevent
  | elapse => cases hevent
  | @exchange headers environment _ request =>
      obtain rfl := Api.Event.exchange.inj hevent
      rcases sent_cases hcalls.sent with
        ⟨challengeId, user, rfl, hextracted, hrequest⟩ |
          ⟨challengeId, admin, rfl, hextracted, hhosts, hrequest⟩
      · obtain ⟨redemption, token, htrades, hpresented, hlive⟩ :=
          trades_of_extracted hexpiring (past_of_run hexpiring hunforged) htrusted.1 hextracted
        obtain ⟨initiate, finish, generation, admin, hinvites⟩ :=
          invites_of_trades hexpiring hbefore htrades
        obtain ⟨_, hredeemed, _⟩ := htrades.exchange
        have hlt := (at_of_take hredeemed).1
        rw [hnow, instant_take hlt.le] at hlive
        exact ⟨challengeId, hcontainer hrequest (.guest rfl hinvites hpresented hlive)⟩
      · have hworks := (works_of_extracted hexpiring hunforged htrusted.1 hextracted).append
          (events.drop (position + 1))
        rw [eq_take_of_at hcalls.event, length_take_of_at hcalls.event] at hworks
        exact ⟨challengeId, hcontainer hrequest (.demo rfl hworks hhosts)⟩

/-- An administrator sets up a challenge, and a guest starts it. -/
def visits : List (Headers × Api.Request) :=
  [(wipeHeaders, .ctfsCreate ⟨"scdt", ⟨2024, 1, 1⟩, ⟨2024, 1, 2⟩⟩),
    (wipeHeaders, .categoriesCreate ⟨"web", 1, .web⟩),
    (wipeHeaders, .challengesCreate ⟨"echo", none, 1, "", "", none⟩ .none),
    (wipeHeaders, .configureDocker 1 "web" Processes.onePort),
    (userHeaders, .start 1)]

def visited (environment : Environment) (state : State) (visit : Headers × Api.Request) : State :=
  Api.afterRequest knownServer visit.1 environment state visit.2

def visiting (environment : Environment) : State → List (Headers × Api.Request) → List Api.Event
  | _, [] => []
  | state, visit :: visits =>
      .exchange (Api.exchangeOf knownServer visit.1 environment state visit.2) ::
        visiting environment (visited environment state visit) visits

/-- Every visitor shows tokens that have been issued. -/
def allShown (environment : Environment) : State → List (Headers × Api.Request) → Bool
  | _, [] => true
  | state, visit :: visits =>
      shown visit.1 state.issued && allShown environment (visited environment state visit) visits

theorem visiting_run {environment : Environment} {visits : List (Headers × Api.Request)}
    (hshown : allShown environment state visits = true) :
    Run (restrict (Api.Step knownServer) (Trusted knownServer)) state
      (visiting environment state visits) (visits.foldl (visited environment) state) := by
  induction visits generalizing state with
  | nil => exact .nil
  | cons visit visits ih =>
      obtain ⟨hfirst, hrest⟩ := Bool.and_eq_true_iff.mp hshown
      exact (Run.snoc .nil ⟨.exchange, unforged_of_shown hfirst, prompt_exchange⟩).append
        (ih hrest)

theorem archives (hrun : Deploys server panics int now database labels machine)
    (hmore : Run (restrict (Api.Step server) (Trusted server)) machine.archive events state) :
    Deploys server panics int now database (labels ++ events.map .archive)
      { machine with archive := state, events := machine.events ++ events } := by
  induction hmore with
  | nil =>
      rw [List.map_nil, List.append_nil, List.append_nil]
      exact hrun
  | snoc _ final ih =>
      rw [List.map_append, ← List.append_assoc, ← List.append_assoc]
      refine .snoc ih ⟨.archive final.1, ?_⟩
      intro event hevent
      obtain rfl := Label.archive.inj hevent
      exact final.2

/-- What is read has been delivered. -/
def delivered (machine : Machine) : Action → Bool
  | .task (.answer task call answer choice) =>
      (bytesRead (.task (.answer task call answer choice))).isPrefixOf
        (machine.unread (machine.origins task))
  | _ => true

def advance (panics : DoublePanic) (int : Interface) (move : Move) (machine : Machine) :
    Option (Label × Machine) :=
  match Daemon.advance panics int move machine.challd with
  | some (.accept, _) => none
  | some (action, challd) =>
      if delivered machine action then
        some (.challd action, machine.afterAction action challd)
      else none
  | none => none

theorem step_of_advance {move : Move} {label : Label} {next : Machine}
    (hadvance : advance panics int move machine = some (label, next)) :
    restrict (Step server panics int) (TrustedArchive server) machine label next := by
  unfold advance at hadvance
  split at hadvance
  · cases hadvance
  · rename_i action challd haccept hstep
    split at hadvance
    · rename_i hdelivered
      cases hadvance
      refine ⟨.challd ?_ (Daemon.step_of_advance hstep) ?_, fun event hevent => by cases hevent⟩
      · rintro rfl
        exact haccept rfl
      · intro origin hacts
        cases action with
        | task event =>
            cases event with
            | answer task call answer choice =>
                rw [← of_decide_eq_true hacts]
                exact List.isPrefixOf_iff_prefix.mp hdelivered
            | _ => cases hacts
        | _ => cases hacts
    · cases hadvance
  · cases hadvance

/-- What the guest's request is read as: mode, code, image, and one port. -/
def guestReads : List (List UInt8) :=
  [[0], [7, 0, 0, 0], [3], [119, 101, 98], [1], [80, 0], [80, 0], [0]]

/-- The guest's request is read, a slot is taken and the container comes up. -/
def servingGuest : List Move :=
  guestReads.map (fun bytes => .task 0 fun call =>
    match call with
    | .read _ => some (some bytes, ⟨"", false, false⟩)
    | _ => none) ++
    Script.steps {} 2 0 ++ Script.steps {} 10 1

def guestText : String := (Errands.config ⟨""⟩ firstSlot ⟨[1], [10]⟩).serialize

/-- The environment of the guest, who gets the configuration of the first peer. -/
def guestEnvironment : Environment :=
  { knownEnvironment with challd := some (.ok guestText) }

def guestEvents : List Api.Event := inviting ++ visiting guestEnvironment known5 visits

def guestRequest : ContainerRequest := ⟨"web", [(80, 80, .tcp)], .guest ⟨7⟩⟩

/-- The archive has connected for the call of the guest. -/
def connected : Machine :=
  { Machine.initial 0 .empty with
    archive := visits.foldl (visited guestEnvironment) known5
    events := guestEvents }.afterConnect 9 guestRequest.message
    { Daemon.initial with tasks := [⟨.connection, 0, connection ⟨""⟩⟩] }

theorem connected_run : Deploys knownServer .abortsProcess ⟨""⟩ 0 .empty
    (guestEvents.map .archive ++ [.connect 9]) connected := by
  have hshown : allShown guestEnvironment known5 visits = true := by
    decide +kernel
  have hevents : Deploys knownServer .abortsProcess ⟨""⟩ 0 .empty (guestEvents.map .archive) _ :=
    archives .nil (inviting_run.append (visiting_run hshown))
  refine .snoc hevents ⟨.connect ⟨rfl, ?_⟩ ?_ (.accept rfl), fun event hevent => by cases hevent⟩
  · decide +kernel
  · exact nofun

theorem served_run {moves : List Move} {test : Machine → Bool}
    (htest : (follow (advance .abortsProcess ⟨""⟩) moves connected).any
      (fun reached => test reached.2) = true) :
    ∃ labels machine, Deploys knownServer .abortsProcess ⟨""⟩ 0 .empty labels machine ∧
      test machine = true := by
  have hsound : ∀ move machine label next,
      advance .abortsProcess ⟨""⟩ move machine = some (label, next) →
      restrict (Step knownServer .abortsProcess ⟨""⟩) (TrustedArchive knownServer) machine label
        next :=
    fun _ _ _ _ => step_of_advance
  obtain ⟨labels, machine, hrun, hpassed⟩ := exists_run_of_follow connected moves test hsound htest
  exact ⟨_, machine, connected_run.append hrun, hpassed⟩

end ScdtServer.Deployment
