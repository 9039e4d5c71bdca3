import ScdtServer.CtfArchive.Processes
import ScdtServer.Challd.Connection

/-!
# The limit on ports

The limit is written down three times: as a CHECK of the table, as the byte in
the message to challd, and in the reader of challd.  The CHECK measures the
array along a dimension that it does not have.  An image name with U+0000 in it
comes to no CHECK.
-/

namespace ScdtServer.PortLimit

open ScdtServer.Transition
open ScdtServer.Http
open ScdtServer.Jwt
open ScdtServer.Sql
open ScdtServer.Tables
open ScdtServer.Challenges
open ScdtServer.Api
open ScdtServer.Processes

/-! ## Configuring one challenge -/

variable {database : Database} {challengeId : ℤ} {row : ChallengeRow} {imageName : String}
variable {portMap : ExposePorts}

/-- No other challenge has the image. -/
def ImageFree (database : Database) (challengeId : ℤ) (imageName : String) : Prop :=
  ∀ id other, database.challenges.find id = some other → id ≠ challengeId →
    other.dockerImage ≠ some imageName

theorem fits_configured (hfits : challengeSchema.fits row = true)
    (hname : fitsVarchar 63 imageName = true) :
    challengeSchema.fits (configured imageName portMap row) = true := by
  have himage : (some imageName).all (fitsVarchar 63) = true := hname
  simp only [challengeSchema, configured, Bool.and_eq_true] at hfits ⊢
  tauto

theorem free_configured (hrow : database.challenges.find challengeId = some row)
    (hfree : ImageFree database challengeId imageName) :
    database.challenges.free challengeId (configured imageName portMap row) = true := by
  apply List.all_eq_true.mpr
  intro entry hmem
  by_cases hid : entry.1 = challengeId
  · rw [hid, beq_self_eq_true, Bool.true_or]
  · have hentry : database.challenges.find entry.1 = some entry.2 :=
      Table.find_eq_some_iff.mpr hmem
    have hclash := Table.clashes_of_find hid hentry hrow
    have himage := hfree entry.1 entry.2 hentry hid
    simp only [challengeSchema, Bool.or_eq_false_iff] at hclash
    simp only [challengeSchema, configured, hclash.2, Bool.or_false, Bool.or_eq_true,
      Bool.not_eq_true', Bool.and_eq_false_iff]
    exact .inr (.inr (beq_eq_false_iff_ne.mpr himage))

/-- An administrator who may configures the challenge, whatever the number of
ports. -/
theorem configureDocker_stores {admin : JWTAdmin} (portMap : ExposePorts)
    (hdocker : admin.canDocker = true)
    (hrow : database.challenges.find challengeId = some row)
    (hfree : ImageFree database challengeId imageName)
    (hname : fitsVarchar 63 imageName = true) :
    let outcome := configureDocker .available database admin challengeId imageName portMap
    outcome.1 = .ok .ok ∧
      outcome.2.challenges.find challengeId = some (configured imageName portMap row) := by
  have hfits : challengeSchema.fits row = true := by
    have hadmits := Table.admits_of_find hrow
    rwa [admits_challenge] at hadmits
  have hadmits : challengeSchema.admits (configured imageName portMap row) = true := by
    rw [admits_challenge]
    exact fits_configured hfits hname
  have hupdate := Table.update_of_admits hrow hadmits (free_configured hrow hfree)
  simp only [configureDocker, hdocker, Bool.not_true, Bool.false_eq_true, if_false, answer,
    execute, withValues, varchar_of_fits hname, updateChallenge, hupdate]
  refine ⟨rfl, ?_⟩
  rw [Table.find_set, if_pos rfl, hrow]
  rfl

/-- A name with U+0000 in it is an error of the server, whatever the ports. -/
theorem configureDocker_zero {admin : JWTAdmin} (hdocker : admin.canDocker = true)
    (hzero : '\x00' ∈ imageName.toList) :
    (configureDocker .available database admin challengeId imageName portMap).1 =
      .ok .internalServerError := by
  have hrefused : varchar 63 imageName = none := if_pos hzero
  simp only [configureDocker, hdocker, Bool.not_true, Bool.false_eq_true, if_false, answer,
    execute, withValues, hrefused]
  rfl

/-- What the limit asks of one call: fewer than ten ports are stored, more are
refused as a bad request. -/
def Enforced (database : Database) (admin : JWTAdmin) (challengeId : ℤ) (row : ChallengeRow)
    (imageName : String) (portMap : ExposePorts) : Prop :=
  let outcome := configureDocker .available database admin challengeId imageName portMap
  (portMap.ports.length < 10 → outcome.1 = .ok .ok ∧
    outcome.2.challenges.find challengeId = some (configured imageName portMap row)) ∧
  (¬ portMap.ports.length < 10 → outcome.1 = .ok .badRequest ∧
    outcome.2.challenges.find challengeId = some row)

theorem enforced_iff {admin : JWTAdmin} (hdocker : admin.canDocker = true)
    (hrow : database.challenges.find challengeId = some row)
    (hfree : ImageFree database challengeId imageName) (hlength : imageName.length ≤ 63) :
    Enforced database admin challengeId row imageName portMap ↔
      portMap.ports.length < 10 ∧ '\x00' ∉ imageName.toList := by
  by_cases hzero : '\x00' ∈ imageName.toList
  · -- such a call is neither stored nor a bad request
    have hfailed :
        (configureDocker .available database admin challengeId imageName portMap).1 =
          .ok .internalServerError := configureDocker_zero hdocker hzero
    apply iff_of_false _ fun hboth => hboth.2 hzero
    intro henforced
    by_cases hfew : portMap.ports.length < 10
    · cases hfailed.symm.trans (henforced.1 hfew).1
    · cases hfailed.symm.trans (henforced.2 hfew).1
  · have hname : fitsVarchar 63 imageName = true := fitsVarchar_iff.mpr ⟨hzero, hlength⟩
    have hstores := configureDocker_stores portMap hdocker hrow hfree hname
    constructor
    · intro henforced
      refine ⟨?_, hzero⟩
      by_contra hmany
      have hrefused := (henforced.2 hmany).1
      rw [hstores.1] at hrefused
      cases hrefused
    · intro hboth
      exact ⟨fun _ => hstores, fun hmany => absurd hboth.1 hmany⟩

/-! ## The databases in which the limit holds -/

/-- A request configures fewer than ten ports, if any. -/
def FewPorts (_ : Database) (request : Request) : Prop :=
  ∀ challengeId imageName portMap,
    request = .configureDocker challengeId imageName portMap → portMap.ports.length < 10

/-- Every challenge has fewer than ten ports. -/
def Limited (database : Database) : Prop :=
  ∀ id row, database.challenges.find id = some row → row.portNumbers.length < 10

theorem limited_of_writes {request : Request} {before after : Database}
    (hfew : FewPorts before request) (hlimited : Limited before)
    (hwritten : Writes request before after) : Limited after := by
  intro id row hfound
  cases rowOrigin_of_writes hwritten hfound with
  | kept hold => exact hlimited id row hold
  | created _ _ _ hrow =>
      rw [hrow]
      exact Nat.zero_lt_succ 9
  | docker hrequest _ _ hrow =>
      rw [hrow, configured, ExposePorts.numbers, List.length_map]
      exact hfew _ _ _ hrequest
  | instructions _ _ hold hrow =>
      have hfew' := hlimited id _ hold
      rwa [hrow]
  | archive _ _ hold hrow =>
      have hfew' := hlimited id _ hold
      rwa [hrow]

theorem limited_of_reached (hreached : Reached FewPorts database) : Limited database := by
  apply hreached.invariant
  · exact nofun
  · exact fun _ _ _ => limited_of_writes

/-! ## What is sent to challd -/

/-- The count of ports is not cut, and the daemon reads the request as it was
meant. -/
structure Understood (request : ContainerRequest) : Prop where
  few : request.portMappings.length < 10
  count : (UInt8.ofNat request.portMappings.length).toNat = request.portMappings.length
  read : ∀ closed, RequestReader.readRequest.run request.message closed =
    .finished (.ok (Connection.requestOf request.imageName request.portMappings
      request.startMode)) []

theorem length_mappings_le (portNums : List (Option Int16))
    (portTypes : List (Option Models.PortType)) :
    (mappings portNums portTypes).length ≤ portNums.length := by
  calc
    (mappings portNums portTypes).length =
        min portNums.reduceOption.length portTypes.reduceOption.length := by
      rw [mappings, List.length_map, List.length_zip]
    _ ≤ portNums.reduceOption.length := Nat.min_le_left _ _
    _ ≤ portNums.length := List.reduceOption_length_le portNums

/-- What is asked of a limited database is understood. -/
theorem understood_of_limited {service : Service} {startMode : ChalldClient.StartMode}
    {request : ContainerRequest} (hlimited : Limited database)
    (hrequest : (containerRequest service database challengeId startMode).1 = .ok request) :
    Understood request := by
  obtain ⟨row, hrow, himage, hmappings, _⟩ := containerRequest_eq_ok hrequest
  have hfew : request.portMappings.length < 10 := by
    rw [hmappings]
    exact (length_mappings_le _ _).trans_lt (hlimited _ _ hrow)
  have hname : (ByteReader.utf8Bytes request.imageName).length < 256 := by
    have hadmits := Table.admits_of_find hrow
    rw [admits_challenge] at hadmits
    simp only [challengeSchema, himage, Bool.and_eq_true] at hadmits
    have hfits : fitsVarchar 63 request.imageName = true := hadmits.1.2
    have hchars := (fitsVarchar_iff.mp hfits).2
    have hbytes := ByteReader.length_utf8Bytes_le request.imageName
    omega
  refine ⟨hfew, ?_, ?_⟩
  · rw [UInt8.toNat_ofNat']
    omega
  · intro closed
    have hencodable : (Connection.requestOf request.imageName request.portMappings
        request.startMode).Encodable := by
      refine ⟨hname, ?_⟩
      rw [Connection.requestOf, List.length_map]
      exact hfew
    have hreads := RequestReader.reads_request hencodable [] closed
    rwa [List.append_nil, ← Connection.message_eq] at hreads

/-! ## The limit -/

/-- The limit is enforced by those calls that do not need it and have no U+0000 in
the name of the image.  If no call needs it, it holds of every database and every
request to challd. -/
theorem port_limit (database : Database) :
    (∀ admin challengeId row imageName portMap, admin.canDocker = true →
      database.challenges.find challengeId = some row →
        ImageFree database challengeId imageName → imageName.length ≤ 63 →
          (Enforced database admin challengeId row imageName portMap ↔
            portMap.ports.length < 10 ∧ '\x00' ∉ imageName.toList)) ∧
    (Reached FewPorts database →
      Limited database ∧
      ∀ state : State, state.database = database → ∀ server headers environment request sent,
        (serve server headers environment state request).sent = some sent →
          Understood sent) := by
  constructor
  · intro admin challengeId row imageName portMap hdocker hrow hfree hlength
    exact enforced_iff hdocker hrow hfree hlength
  · intro hreached
    have hlimited := limited_of_reached hreached
    refine ⟨hlimited, ?_⟩
    rintro state rfl server headers environment request sent hsent
    cases sent_cases hsent with
    | inl hstart =>
        obtain ⟨challengeId, user, _, _, hrequest⟩ := hstart
        exact understood_of_limited hlimited hrequest
    | inr hdemo =>
        obtain ⟨challengeId, admin, _, _, _, hrequest⟩ := hdemo
        exact understood_of_limited hlimited hrequest

/-! ## Ten ports -/

def webRow : ChallengeRow where
  name := "web"
  flag := none
  categoryId := 1
  description := ""
  difficulty := ""
  archive := none
  dockerImage := none
  portNumbers := []
  portTypes := []
  connectionInstructions := none

/-- A database with one challenge. -/
def webDatabase : Database where
  ctfs := .empty
  categories := (Table.insert .empty ⟨"web", 1, "web"⟩ true).2
  challenges := (Table.insert .empty webRow true).2

def dockerAdmin : JWTAdmin := ⟨0, true, true, true, true⟩

def ports (numbers : List UInt16) (hnodup : numbers.Nodup) : ExposePorts where
  ports := numbers.map fun number => (number, .tcp)
  nodup := by
    rw [List.map_map]
    exact (List.map_id numbers).symm ▸ hnodup

def tenPorts : ExposePorts := ports [1, 2, 3, 4, 5, 6, 7, 8, 9, 10] (by decide)

theorem webDatabase_find {id : ℤ} {row : ChallengeRow}
    (hfound : webDatabase.challenges.find id = some row) : id = 1 ∧ row = webRow := by
  have hmem := Table.find_eq_some_iff.mp hfound
  have hentry : (id, row) = (1, webRow) := List.mem_singleton.mp hmem
  exact ⟨congrArg Prod.fst hentry, congrArg Prod.snd hentry⟩

theorem webDatabase_free (imageName : String) : ImageFree webDatabase 1 imageName :=
  fun _ _ hfound hne => absurd (webDatabase_find hfound).1 hne

/-- Ten ports are stored. -/
theorem ten_ports_stored :
    ¬ ∀ database admin challengeId row imageName portMap, admin.canDocker = true →
      database.challenges.find challengeId = some row →
        ImageFree database challengeId imageName → imageName.length ≤ 63 →
          Enforced database admin challengeId row imageName portMap := by
  intro hclaim
  have hrow : webDatabase.challenges.find 1 = some webRow := by decide
  have hrefused := (hclaim webDatabase dockerAdmin 1 webRow "nginx" tenPorts rfl hrow
    (webDatabase_free "nginx") (by decide)).2 (by decide)
  have hstored := configureDocker_stores tenPorts (show dockerAdmin.canDocker = true from rfl)
    hrow (webDatabase_free "nginx") (by decide)
  cases hstored.1.symm.trans hrefused.1

/-- One port is stored and belongs there. -/
theorem port_limit_onePort :
    Enforced webDatabase dockerAdmin 1 webRow "nginx" (ports [80] (by decide)) :=
  ((port_limit webDatabase).1 dockerAdmin 1 webRow "nginx" (ports [80] (by decide)) rfl
    (by decide) (webDatabase_free "nginx") (by decide)).mpr (by decide)

end ScdtServer.PortLimit
