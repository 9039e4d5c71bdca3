import ScdtServer.CtfArchive.Outcomes
import ScdtServer.CtfArchive.PortLimit

/-!
# From a configuration to a container

The ports of a challenge pass through two arrays of the database, the message to
challd and the map that Docker is given.
-/

namespace ScdtServer.Delivery

open ScdtServer.Interaction ScdtServer.Interaction.Program
open ScdtServer.Transition
open ScdtServer.Http
open ScdtServer.Jwt
open ScdtServer.Sql
open ScdtServer.Tables
open ScdtServer.Challenges
open ScdtServer.ChalldClient
open ScdtServer.Api
open ScdtServer.Effects
open ScdtServer.Outcomes
open ScdtServer.Processes
open ScdtServer.Orders (Describes Publishes FindsFree hostAddress portName portName_eq
  describes_createBody publishes_intoHashmap path_requestTask comesTo_requestTask)

/-! ## What Docker should be given -/

/-- The name that Docker has for a port. -/
def portKey (entry : UInt16 × ExposePortType) : String :=
  match entry.2 with
  | .tcp => s!"{entry.1}/tcp"
  | .udp => s!"{entry.1}/udp"

/-- The bindings are those of the ports, each bound once to itself. -/
structure Binds (portMap : ExposePorts) (maybeAddr : Option UInt8)
    (bindings : Ports.HashMap String (Option (List Ports.PortBinding))) : Prop where
  lookup : ∀ key binding, bindings.lookup key = some binding ↔
    key ∈ portMap.ports.map portKey ∧
      binding = some [⟨some (hostAddress maybeAddr), some key⟩]
  keys : bindings.keys.Perm (portMap.ports.map portKey)

/-- The body is that of a container of the image with the ports. -/
def Ordered (imageName : String) (portMap : ExposePorts) (maybeAddr : Option UInt8)
    (body : Host.ContainerCreateBody) : Prop :=
  ∃ bindings, Describes imageName bindings body ∧ Binds portMap maybeAddr bindings

/-- A message makes the daemon create the container of an image with some ports. -/
structure Creates (int : Interface.Interface) (message : List UInt8) (startMode : StartMode)
    (imageName : String) (portMap : ExposePorts) (request : RequestReader.Request) : Prop where
  /-- The connection task reads all of the message. -/
  read : ∀ closed, Connection.feed (Main.connection int) message closed =
    (Main.serve int request, [])
  /-- It spawns nothing but a task for the request, with an address if and only if it
  is a guest's, and does so if there is a free slot. -/
  only : (Main.serve int request).Spawns
    (fun role child => role = Host.Role.request ∧ ∃ maybeAddr : Option UInt8,
      maybeAddr.isSome = startMode.isGuest ∧ child = Main.requestTask int request maybeAddr)
    fun _ => True
  spawned : ∀ slot, (Main.serve int request).ComesTo (FindsFree slot) fun left =>
    ∃ (maybeSlot : Option Host.Slot) (next : ℕ → Host.Prog Host.TaskResult),
      left = .spawn (S := Host.challd) .request
        (Main.requestTask int request (maybeSlot.map AddressManager.addrOf)) next ∧
        maybeSlot.isSome = startMode.isGuest
  /-- The first action of that task is to create the container. -/
  creates : ∀ maybeAddr : Option UInt8, maybeAddr.isSome = startMode.isGuest →
    ∃ ports next, Main.requestTask int request maybeAddr =
        (Container.create imageName maybeAddr ports >>= next) ∧
      Binds portMap maybeAddr (Ports.intoHashmap ports maybeAddr)
  /-- It asks Docker for no other container, and for that one unless a call fails. -/
  ordered : ∀ maybeAddr : Option UInt8, maybeAddr.isSome = startMode.isGuest →
    ∀ path body next, Path (Main.requestTask int request maybeAddr) path
        (.call (S := Host.challd) (.createContainer body) next) →
      Ordered imageName portMap maybeAddr body
  asked : ∀ maybeSlot : Option Host.Slot, maybeSlot.isSome = startMode.isGuest →
    (Main.requestTask int request (maybeSlot.map AddressManager.addrOf)).ComesTo
      Orders.Succeeds fun left => ∃ body next,
        left = .call (S := Host.challd) (.createContainer body) next ∧
          Ordered imageName portMap (maybeSlot.map AddressManager.addrOf) body

/-- The daemon makes a request of the message, whatever its interface. -/
def Delivers (message : List UInt8) (startMode : StartMode) (imageName : String)
    (portMap : ExposePorts) : Prop :=
  ∃ request, ∀ int, Creates int message startMode imageName portMap request

/-! ## Ports on their way -/

variable {portMap : ExposePorts}

/-- What the arrays of a configured challenge are sent as. -/
theorem mappings_configured (portMap : ExposePorts) :
    mappings portMap.numbers portMap.types =
      portMap.ports.map fun entry => (entry.1, entry.1, entry.2.portType) := by
  have hnumbers : portMap.numbers.reduceOption =
      portMap.ports.map fun entry => entry.1.toInt16 := by
    simp [ExposePorts.numbers, List.reduceOption, List.filterMap_map]
  have htypes : portMap.types.reduceOption =
      portMap.ports.map fun entry => entry.2.portType := by
    simp [ExposePorts.types, List.reduceOption, List.filterMap_map]
  rw [mappings, hnumbers, htypes, List.zip_map', List.map_map]
  apply List.map_congr_left
  intro entry _
  simp

theorem portName_portType (entry : UInt16 × ExposePortType) :
    portName entry.1 (Connection.portTypeOf entry.2.portType) = portKey entry := by
  obtain ⟨port, portType⟩ := entry
  cases portType <;> rfl

theorem portKey_injective : Function.Injective portKey := by
  intro first second hkeys
  rw [← portName_portType, ← portName_portType, ← portName_eq, ← portName_eq] at hkeys
  obtain ⟨hport, htype⟩ := Ports.PortType.asString_inj.mp hkeys
  have htypes : first.2 = second.2 := by
    revert htype
    cases first.2 <;> cases second.2 <;> simp [Connection.portTypeOf, ExposePortType.portType]
  exact Prod.ext hport htypes

/-- The mappings of the ports on the side of the daemon. -/
def daemonPorts (portMap : ExposePorts) : Ports.PortMappings :=
  (portMap.ports.map fun entry => (entry.1, entry.1, entry.2.portType)).map
    Connection.mappingOf

theorem mem_daemonPorts {mapping : Ports.PortMapping} :
    mapping ∈ daemonPorts portMap ↔ ∃ entry ∈ portMap.ports,
      mapping = ⟨entry.1, entry.1, Connection.portTypeOf entry.2.portType⟩ := by
  simp [daemonPorts, Connection.mappingOf, eq_comm]

section

variable {maybeAddr : Option UInt8}
variable {bindings : Ports.HashMap String (Option (List Ports.PortBinding))}

theorem lookup_of_publishes (hpublishes : Publishes (daemonPorts portMap) maybeAddr bindings)
    (key : String) : bindings.lookup key =
      if key ∈ portMap.ports.map portKey then
        some (some [⟨some (hostAddress maybeAddr), some key⟩])
      else none := by
  rw [hpublishes key]
  cases hfind : (daemonPorts portMap).reverse.find? fun mapping =>
      portName mapping.fromPort mapping.portType = key with
  | none =>
      have hkey : key ∉ portMap.ports.map portKey := by
        intro hmem
        obtain ⟨entry, hentry, rfl⟩ := List.mem_map.mp hmem
        have hmapping := List.mem_reverse.mpr (mem_daemonPorts.mpr ⟨entry, hentry, rfl⟩)
        have hother := List.find?_eq_none.mp hfind _ hmapping
        exact hother (decide_eq_true (portName_portType entry))
      rw [if_neg hkey]
      rfl
  | some mapping =>
      have hname : portName mapping.fromPort mapping.portType = key := by
        simpa using List.find?_some hfind
      obtain ⟨entry, hentry, rfl⟩ :=
        mem_daemonPorts.mp (List.mem_reverse.mp (List.mem_of_find?_eq_some hfind))
      have hkey : key ∈ portMap.ports.map portKey := by
        rw [← hname, portName_portType]
        exact List.mem_map_of_mem hentry
      rw [if_pos hkey, Option.map_some]
      dsimp only at hname ⊢
      rw [hname]

theorem nodup_keys (portMap : ExposePorts) : (portMap.ports.map portKey).Nodup :=
  (List.Nodup.of_map _ portMap.nodup).map portKey_injective

theorem Binds.of_publishes (hpublishes : Publishes (daemonPorts portMap) maybeAddr bindings) :
    Binds portMap maybeAddr bindings where
  lookup := by
    intro key binding
    rw [lookup_of_publishes hpublishes]
    by_cases hkey : key ∈ portMap.ports.map portKey
    · rw [if_pos hkey, Option.some_inj]
      exact ⟨fun hbinding => ⟨hkey, hbinding.symm⟩, fun hboth => hboth.2.symm⟩
    · rw [if_neg hkey]
      exact iff_of_false nofun fun hboth => hkey hboth.1
  keys := by
    apply (List.perm_ext_iff_of_nodup (AList.keys_nodup _) (nodup_keys portMap)).mpr
    intro key
    rw [← AList.mem_keys, ← AList.lookup_isSome, lookup_of_publishes hpublishes]
    by_cases hkey : key ∈ portMap.ports.map portKey
    · rw [if_pos hkey]
      exact iff_of_true rfl hkey
    · rw [if_neg hkey]
      exact iff_of_false Bool.false_ne_true hkey

end

theorem Binds.perm {portMap' : ExposePorts} {maybeAddr : Option UInt8}
    {bindings : Ports.HashMap String (Option (List Ports.PortBinding))}
    (hperm : portMap'.ports.Perm portMap.ports) (hbinds : Binds portMap' maybeAddr bindings) :
    Binds portMap maybeAddr bindings where
  lookup := by
    intro key binding
    rw [hbinds.lookup, (hperm.map portKey).mem_iff]
  keys := hbinds.keys.trans (hperm.map portKey)

/-! ## The daemon's side -/

variable {imageName : String}

/-- What is sent for a configured challenge is delivered, in any order of its
ports. -/
theorem delivers {portMap' : ExposePorts} (startMode : StartMode)
    (hname : imageName.length ≤ 63) (hfew : portMap.ports.length ≤ 9)
    (hperm : portMap'.ports.Perm portMap.ports) :
    Delivers (ContainerRequest.message
      ⟨imageName, mappings portMap'.numbers portMap'.types, startMode⟩) startMode imageName
      portMap := by
  have hbytes : (ByteReader.utf8Bytes imageName).length ≤ 255 := by
    have hle := ByteReader.length_utf8Bytes_le imageName
    omega
  have hmappings := mappings_configured portMap'
  have hlength : (mappings portMap'.numbers portMap'.types).length ≤ 9 := by
    rw [hmappings, List.length_map, hperm.length_eq]
    exact hfew
  have hbinds : ∀ maybeAddr, Binds portMap maybeAddr (Ports.intoHashmap
      (Connection.requestOf imageName (mappings portMap'.numbers portMap'.types)
        startMode).ports maybeAddr) := by
    intro maybeAddr
    rw [Connection.requestOf, hmappings]
    exact (Binds.of_publishes publishes_intoHashmap).perm hperm
  refine ⟨Connection.requestOf imageName (mappings portMap'.numbers portMap'.types) startMode,
    ?_⟩
  intro int
  refine ⟨Connection.feed_message hbytes hlength, Connection.spawns_requestOf,
    Connection.comesTo_requestOf, ?_, ?_, ?_⟩
  · intro maybeAddr _
    exact ⟨_, _, rfl, hbinds maybeAddr⟩
  · intro maybeAddr _ path body next hpath
    rw [path_requestTask hpath]
    exact ⟨_, describes_createBody, hbinds maybeAddr⟩
  · intro maybeSlot _
    apply (comesTo_requestTask (AddressManager.all_addrInRange maybeSlot)).mono
    rintro left ⟨next, rfl⟩
    exact ⟨_, next, rfl, _, describes_createBody, hbinds _⟩

/-! ## The database's side -/

variable {id : ℤ} {before after : Database} {exchange : Exchange}

/-- The challenge has the image and the ports, in some order. -/
def Configured (database : Database) (id : ℤ) (imageName : String)
    (portMap : ExposePorts) : Prop :=
  ∃ portMap' : ExposePorts, portMap'.ports.Perm portMap.ports ∧
    (database.challenges.find id).map dockerColumns =
      some (some imageName, portMap'.numbers, portMap'.types)

/-- The challenge is not configured in another way. -/
def Keeps (id : ℤ) (imageName : String) (portMap : ExposePorts) (_ : Database)
    (exchange : Exchange) : Prop :=
  ∀ imageName' portMap', exchange.request = .configureDocker id imageName' portMap' →
    Succeeds exchange.reply → imageName' = imageName ∧ portMap'.ports.Perm portMap.ports

theorem configured_of_find (hfind : after.challenges.find id = before.challenges.find id)
    (hconfigured : Configured before id imageName portMap) :
    Configured after id imageName portMap := by
  unfold Configured at hconfigured ⊢
  rwa [hfind]

/-- A successful configuration of a challenge that exists. -/
theorem configured_of_exchange (hname : imageName.length ≤ 63)
    (hserves : Serves before exchange after)
    (hrequest : exchange.request = .configureDocker id imageName portMap)
    (hreply : Succeeds exchange.reply) (hexists : (before.challenges.find id).isSome = true) :
    Configured after id imageName portMap := by
  cases hserves with
  | @request server headers environment state request =>
      obtain rfl : request = .configureDocker id imageName portMap := hrequest
      cases configureDocker_cases server headers environment state id imageName portMap with
      | inl hfailed => exact absurd hreply hfailed.1
      | inr hchanged =>
          obtain ⟨row, hrow⟩ := Option.isSome_iff_exists.mp hexists
          refine ⟨portMap, .refl _, ?_⟩
          have hfind := hchanged.2 id
          rw [if_pos rfl, hrow, cut_of_length_le hname] at hfind
          exact congrArg (Option.map dockerColumns) hfind

theorem configured_of_serves (hname : imageName.length ≤ 63)
    (hkeeps : Keeps id imageName portMap before exchange)
    (hconfigured : Configured before id imageName portMap)
    (hserves : Serves before exchange after) : Configured after id imageName portMap := by
  obtain ⟨portMap', hperm, hcolumns⟩ := hconfigured
  obtain ⟨row, hrow, hrowColumns⟩ := Option.map_eq_some_iff.mp hcolumns
  by_cases hdocker : ∃ imageName' portMap'',
      exchange.request = .configureDocker id imageName' portMap''
  · obtain ⟨imageName', portMap'', hrequest⟩ := hdocker
    by_cases hreply : Succeeds exchange.reply
    · obtain ⟨rfl, hperm'⟩ := hkeeps imageName' portMap'' hrequest hreply
      obtain ⟨portMap₃, hperm₃, hcolumns₃⟩ := configured_of_exchange hname hserves
        hrequest hreply (Option.isSome_iff_exists.mpr ⟨row, hrow⟩)
      exact ⟨portMap₃, hperm₃.trans hperm', hcolumns₃⟩
    · have hrows := (sameRows_of_failed hserves hreply).challenges
      have hfind : after.challenges.find id = before.challenges.find id := by
        unfold Table.find
        rw [hrows]
      exact configured_of_find hfind ⟨portMap', hperm, hcolumns⟩
  · cases hserves with
    | @request server headers environment state request =>
        refine ⟨portMap', hperm, ?_⟩
        rw [← hrowColumns]
        apply dockerColumns_kept serve_writes hrow
        intro imageName' portMap'' hrequest
        exact hdocker ⟨imageName', portMap'', hrequest⟩

/-- What is asked of challd for a configured challenge. -/
theorem containerRequest_configured {database : Database} (startMode : StartMode)
    (hname : imageName.length ≤ 63) (hconfigured : Configured database id imageName portMap)
    (hfew : portMap.ports.length ≤ 9) :
    ∃ sent, (containerRequest .available database id startMode).1 = .ok sent ∧
      Delivers sent.message startMode imageName portMap := by
  obtain ⟨portMap', hperm, hcolumns⟩ := hconfigured
  obtain ⟨row, hrow, hrowColumns⟩ := Option.map_eq_some_iff.mp hcolumns
  obtain ⟨himage, hrest⟩ := Prod.mk.inj hrowColumns
  obtain ⟨hnumbers, htypes⟩ := Prod.mk.inj hrest
  have hlength : row.portNumbers.length = row.portTypes.length := by
    rw [hnumbers, htypes, ExposePorts.numbers, ExposePorts.types, List.length_map,
      List.length_map]
  have hrequest := containerRequest_of_find startMode hrow himage hlength
  rw [hnumbers, htypes] at hrequest
  exact ⟨_, hrequest, delivers startMode hname hfew hperm⟩

/-- A challenge with a configuration is started, and hosted as a demo, with exactly
that image and those ports, until it is configured in another way. -/
theorem docker_delivered {stored last : Database} {exchanges : List Exchange}
    (hname : imageName.length ≤ 63) (hserves : Serves before exchange stored)
    (hrequest : exchange.request = .configureDocker id imageName portMap)
    (hreply : Succeeds exchange.reply) (hexists : (before.challenges.find id).isSome = true)
    (hfew : portMap.ports.length ≤ 9)
    (hrun : Run (restrict Serves (Keeps id imageName portMap)) stored exchanges last)
    (server : Server) (headers : Headers) (environment : Environment) (state : State)
    (hstate : state.database = last) (havailable : environment.service = .available) :
    (∀ user, fromRequestParts server.signer JWTUser state.now headers = .ok user →
      ∃ sent, (serve server headers environment state (.start id)).sent = some sent ∧
        Delivers sent.message (.guest user.code) imageName portMap) ∧
    ∀ admin, fromRequestParts server.signer JWTAdmin state.now headers = .ok admin →
      admin.canHostDemo = true →
        ∃ sent, (serve server headers environment state (.hostDemo id)).sent = some sent ∧
          Delivers sent.message .demo imageName portMap := by
  have hconfigured : Configured state.database id imageName portMap := by
    rw [hstate]
    apply hrun.invariant (fun database => Configured database id imageName portMap)
    · exact configured_of_exchange hname hserves hrequest hreply hexists
    · intro before exchange after hbefore hstep
      exact configured_of_serves hname hstep.2 hbefore hstep.1
  constructor
  · intro user huser
    obtain ⟨sent, hsent, hdelivers⟩ :=
      containerRequest_configured (.guest user.code) hname hconfigured hfew
    refine ⟨sent, ?_, hdelivers⟩
    simp only [serve, authorized, huser, onContainer, start, havailable, hsent]
    rfl
  · intro admin hadmin hdemo
    obtain ⟨sent, hsent, hdelivers⟩ := containerRequest_configured .demo hname hconfigured hfew
    refine ⟨sent, ?_, hdelivers⟩
    have hhost : hostDemo .available state.database id admin =
        containerRequest .available state.database id .demo := by
      rw [hostDemo, hdemo]
      rfl
    simp only [serve, authorized, hadmin, onContainer, havailable, hhost, hsent]
    rfl

/-! ## One challenge with two ports -/

def twoPorts : ExposePorts where
  ports := [(80, .tcp), (40000, .udp)]
  nodup := by decide

def configureRequest : Request := .configureDocker 1 "nginx" twoPorts

/-- The challenge is configured twice and started. -/
theorem docker_delivered_twoPorts :
    ∃ sent, (serve exampleServer exampleHeaders exampleEnvironment
        (.start 0 (afterAdmin (afterAdmin oneChallenge configureRequest) configureRequest))
        (.start 1)).sent = some sent ∧
      Delivers sent.message (.guest ⟨7⟩) "nginx" twoPorts := by
  have hfirst : Serves oneChallenge (adminExchange oneChallenge configureRequest)
      (afterAdmin oneChallenge configureRequest) :=
    @Serves.request exampleServer exampleHeaders exampleEnvironment (.start 0 oneChallenge)
      configureRequest
  have hagain : Run (restrict Serves (Keeps 1 "nginx" twoPorts))
      (afterAdmin oneChallenge configureRequest)
      [adminExchange (afterAdmin oneChallenge configureRequest) configureRequest]
      (afterAdmin (afterAdmin oneChallenge configureRequest) configureRequest) := by
    refine .snoc .nil ⟨@Serves.request exampleServer exampleHeaders exampleEnvironment
      (.start 0 (afterAdmin oneChallenge configureRequest)) configureRequest, ?_⟩
    intro imageName' portMap' hrequest _
    obtain ⟨rfl, rfl⟩ : "nginx" = imageName' ∧ twoPorts = portMap' := by
      injection hrequest with _ himage hports
      exact ⟨himage, hports⟩
    exact ⟨rfl, .refl _⟩
  have huser : fromRequestParts exampleServer.signer JWTUser 0 exampleHeaders =
      .ok ⟨⟨7⟩⟩ := by
    decide
  exact (docker_delivered (by decide) hfirst rfl trivial (by decide) (by decide) hagain
    exampleServer exampleHeaders exampleEnvironment _ rfl rfl).1 ⟨⟨7⟩⟩ huser

end ScdtServer.Delivery
