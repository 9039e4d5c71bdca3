import ScdtServer.CtfArchive.ChalldClient
import ScdtServer.CtfArchive.Jwt
import ScdtServer.CtfArchive.Tables

/-!
# Challenges

A challenge has a docker image once one has been configured for it; only then
can it be started for a guest or hosted as a demo.
-/

namespace ScdtServer.Challenges

open ScdtServer.Http
open ScdtServer.Models
open ScdtServer.Jwt
open ScdtServer.Tables
open ScdtServer.ChalldClient

/-! ## Reading -/

def list (service : Service) (database : Database) (categoryId : ℤ) (_user : JWTUser) :
    Handler StatusCode (List ℤ) × Database :=
  let rows := getResults fun database =>
    (database.challenges.filter fun row => row.categoryId == categoryId).map Prod.fst
  answer (execute service rows database) fun result =>
    match result with
    | .ok challenges => .ok challenges
    | .error _ => Handler.fail .internalServerError

structure Challenge where
  id : ℤ
  name : String
  categoryId : ℤ
  description : String
  difficulty : String
  connectionInstructions : Option String
  hasArchive : Bool
  deriving DecidableEq

/-- What the reading handlers answer when there is no row. -/
def queryStatus : QueryError → StatusCode
  | .notFound => .notFound
  | _ => .internalServerError

/-- The category of the answer is the requested challenge's number, as in the
source. -/
def getMetadata (service : Service) (database : Database) (challengeId : ℤ)
    (_user : JWTUser) : Handler StatusCode Challenge × Database :=
  let row := getResult fun database => database.challenges.find challengeId
  answer (execute service row database) fun result =>
    match result with
    | .ok row => .ok {
        id := challengeId
        name := row.name
        categoryId := challengeId
        description := row.description
        difficulty := row.difficulty
        connectionInstructions := row.connectionInstructions
        hasArchive := row.archive.isSome }
    | .error error => Handler.fail (queryStatus error)

def getArchive (service : Service) (database : Database) (challengeId : ℤ)
    (_user : JWTUser) : Handler StatusCode (List UInt8) × Database :=
  let row := getResult fun database =>
    (database.challenges.find challengeId).map ChallengeRow.archive
  answer (execute service row database) fun result =>
    match result with
    | .ok archive => .ok (archive.getD [])
    | .error error => Handler.fail (queryStatus error)

def getFlag (service : Service) (database : Database) (challengeId : ℤ)
    (_user : JWTUser) : Handler StatusCode String × Database :=
  let row := getResult fun database =>
    (database.challenges.find challengeId).map ChallengeRow.flag
  answer (execute service row database) fun result =>
    match result with
    | .ok (some flag) => .ok flag
    | .ok none => Handler.fail .notFound
    | .error error => Handler.fail (queryStatus error)

/-! ## Archives in multipart bodies -/

/-- What `multi.next_field()` answers. -/
inductive NextField
  /-- A field with what reading its bytes yields. -/
  | field (name contentType : Option String) (bytes : Option (List UInt8))
  | none
  | error
  deriving DecidableEq

/-- The archive that the first field of a body carries. -/
def readArchive : NextField → Except StatusCode (Option (List UInt8))
  | .field name contentType bytes =>
      if name = some "zip_file" ∧ contentType = some "application/zip" then
        match bytes with
        | some bytes => .ok (some bytes)
        | none => .error .badRequest
      else .error .badRequest
  | .none => .ok none
  | .error => .error .badRequest

/-! ## Writing -/

structure CreateChallenge where
  name : String
  flag : Option String
  categoryId : ℤ
  description : String
  difficulty : String
  connectionInstructions : Option String
  deriving DecidableEq

/-- The row of a new challenge: no docker image and no ports. -/
def CreateChallenge.row (query : CreateChallenge) (archive : Option (List UInt8)) :
    ChallengeRow where
  name := query.name
  flag := query.flag
  categoryId := query.categoryId
  description := query.description
  difficulty := query.difficulty
  archive := archive
  dockerImage := none
  portNumbers := []
  portTypes := []
  connectionInstructions := query.connectionInstructions

def create (service : Service) (database : Database) (query : CreateChallenge)
    (admin : JWTAdmin) (multi : NextField) : Handler StatusCode (StatusCode × ℤ) × Database :=
  if !admin.canCreate then (Handler.fail .forbidden, database)
  else
    match readArchive multi with
    | .error status => (Handler.fail status, database)
    | .ok archive =>
        let chall := query.row archive
        answer (execute service (withValues chall.stored insertChallenge) database) fun result =>
          match result with
          | .ok id => .ok (.created, id)
          | .error (.databaseError .unique) => Handler.fail .conflict
          | .error (.databaseError .foreignKey) => Handler.fail .notFound
          | .error _ => Handler.fail .internalServerError

/-- What the updates of a column that has no constraint but its type answer. -/
def updateStatus : Except QueryError ℕ → StatusCode
  | .ok _ => .ok
  | .error .notFound => .notFound
  | .error _ => .internalServerError

/-- What `set_archive` makes of a row. -/
def archived (archive : Option (List UInt8)) (row : ChallengeRow) : ChallengeRow :=
  { row with archive := archive }

def setArchive (service : Service) (database : Database) (challengeId : ℤ)
    (admin : JWTAdmin) (multi : NextField) : Handler Empty StatusCode × Database :=
  if !admin.canCreate then (.ok .forbidden, database)
  else if service = .noConnection then (Handler.panic .poolConnection, database)
  else
    match readArchive multi with
    | .error status => (.ok status, database)
    | .ok archive =>
        let change := updateChallenge challengeId (archived archive)
        answer (execute service change database) fun result => .ok (updateStatus result)

/-- `ConnectionInstructions::from_request`, on the bytes of the body if they
could be read. -/
def connectionInstructions :
    Option (List UInt8) → Except (StatusCode × String) (Option String)
  | none => .error (.badRequest, "invalid body")
  | some bytes =>
      if bytes.isEmpty then .ok none
      else
        match ByteReader.fromUtf8 bytes with
        | some text => .ok (some text)
        | none => .error (.badRequest, "non-utf8 string")

/-- What `set_connection_instructions` makes of a row. -/
def instructed (instructions : Option String) (row : ChallengeRow) : ChallengeRow :=
  { row with connectionInstructions := instructions }

def setConnectionInstructions (service : Service) (database : Database) (admin : JWTAdmin)
    (challengeId : ℤ) (instructions : Option String) : Handler Empty StatusCode × Database :=
  if !admin.canCreate then (.ok .forbidden, database)
  else
    let change := withValues (instructions.mapM (varchar 255)) fun instructions =>
      updateChallenge challengeId (instructed instructions)
    answer (execute service change database) fun result => .ok (updateStatus result)

/-! ## Docker -/

inductive ExposePortType
  | tcp
  | udp
  deriving DecidableEq

def ExposePortType.portType : ExposePortType → PortType
  | .tcp => .tcp
  | .udp => .udp

/-- A map from ports to their types, in the order in which it is iterated. -/
structure ExposePorts where
  ports : List (UInt16 × ExposePortType)
  nodup : (ports.map Prod.fst).Nodup

/-- The arrays that `configure_docker` writes. -/
def ExposePorts.numbers (portMap : ExposePorts) : List (Option Int16) :=
  portMap.ports.map fun entry => some entry.1.toInt16

def ExposePorts.types (portMap : ExposePorts) : List (Option PortType) :=
  portMap.ports.map fun entry => some entry.2.portType

/-- What `configure_docker` makes of a row. -/
def configured (imageName : String) (portMap : ExposePorts) (row : ChallengeRow) :
    ChallengeRow :=
  { row with
    dockerImage := some imageName
    portNumbers := portMap.numbers
    portTypes := portMap.types }

def configureDocker (service : Service) (database : Database) (admin : JWTAdmin)
    (challengeId : ℤ) (imageName : String) (portMap : ExposePorts) :
    Handler Empty StatusCode × Database :=
  if !admin.canDocker then (.ok .forbidden, database)
  else
    let change := withValues (varchar 63 imageName) fun imageName =>
      updateChallenge challengeId (configured imageName portMap)
    answer (execute service change database) fun result =>
      match result with
      | .ok _ => .ok .ok
      | .error (.databaseError .unique) => .ok .conflict
      | .error (.databaseError .check) => .ok .badRequest
      | .error .notFound => .ok .notFound
      | .error _ => .ok .internalServerError

/-- The mappings of a challenge: its ports with their types, each port on both
sides. -/
def mappings (portNums : List (Option Int16)) (portTypes : List (Option PortType)) :
    List (UInt16 × UInt16 × PortType) :=
  (portNums.reduceOption.zip portTypes.reduceOption).map fun entry =>
    (entry.1.toUInt16, entry.1.toUInt16, entry.2)

/-- The text that goes with an error status. -/
inductive ErrorText
  | text (text : String)
  | challd (error : ChalldError)
  deriving DecidableEq

/-- What is asked of challd. -/
structure ContainerRequest where
  imageName : String
  portMappings : List (UInt16 × UInt16 × PortType)
  startMode : StartMode
  deriving DecidableEq

def ContainerRequest.message (request : ContainerRequest) : List UInt8 :=
  ChalldClient.message request.imageName request.portMappings request.startMode

/-- The part that `start` and `host_demo` have in common.  The second assertion
counts the entries of the arrays, not those that are present. -/
def containerRequest (service : Service) (database : Database) (challengeId : ℤ)
    (startMode : StartMode) :
    Handler (StatusCode × ErrorText) ContainerRequest × Database :=
  let row := getResult fun database =>
    (database.challenges.find challengeId).map fun row =>
      (row.dockerImage, row.portNumbers, row.portTypes)
  answer (execute service row database) fun result =>
    match result with
    | .ok (some imageName, portNums, portTypes) =>
        if portNums.length = portTypes.length ∧
            (portNums.map Option.isSome).length = (portTypes.map Option.isSome).length then
          .ok ⟨imageName, mappings portNums portTypes, startMode⟩
        else Handler.panic .portArrays
    | .ok (none, _, _) =>
        Handler.fail (.notFound,
          .text "the requested challenge is not configured to be hosted on this server")
    | .error .notFound =>
        Handler.fail (.notFound, .text "challenge with specified id does not exist")
    | .error _ =>
        Handler.fail (.internalServerError,
          .text "something went horribly wrong with the database")

/-- What the handlers make of the answer of challd. -/
def containerAnswer :
    Option (Except ChalldError String) → Handler (StatusCode × ErrorText) String
  | none => Handler.panic .configUtf8
  | some (.ok config) => .ok config
  | some (.error error) => Handler.fail (.internalServerError, .challd error)

def start (service : Service) (database : Database) (challengeId : ℤ) (user : JWTUser) :
    Handler (StatusCode × ErrorText) ContainerRequest × Database :=
  containerRequest service database challengeId (.guest user.code)

def hostDemo (service : Service) (database : Database) (challengeId : ℤ)
    (admin : JWTAdmin) : Handler (StatusCode × ErrorText) ContainerRequest × Database :=
  if !admin.canHostDemo then
    (Handler.fail (.forbidden, .text "you do not have permission to perform this action"),
      database)
  else containerRequest service database challengeId .demo

/-! ## What is asked of challd -/

/-- It is about a challenge with an image and as many types as ports. -/
theorem containerRequest_eq_ok {service : Service} {database : Database} {challengeId : ℤ}
    {startMode : StartMode} {request : ContainerRequest}
    (hrequest : (containerRequest service database challengeId startMode).1 = .ok request) :
    ∃ row, database.challenges.find challengeId = some row ∧
      row.dockerImage = some request.imageName ∧
      request.portMappings = mappings row.portNumbers row.portTypes ∧
      request.startMode = startMode ∧ row.portNumbers.length = row.portTypes.length := by
  obtain ⟨result, hresult, hnext⟩ := Handler.bind_eq_ok.mp hrequest
  cases service with
  | noConnection => cases hresult
  | failing =>
      obtain rfl := Except.ok.inj hresult
      cases hnext
  | available =>
      cases hfound : database.challenges.find challengeId with
      | none =>
          simp only [execute, getResult, hfound, Option.map_none] at hresult
          obtain rfl := Except.ok.inj hresult
          cases hnext
      | some row =>
          simp only [execute, getResult, hfound, Option.map_some] at hresult
          obtain rfl := Except.ok.inj hresult
          cases himage : row.dockerImage with
          | none =>
              rw [himage] at hnext
              cases hnext
          | some imageName =>
              rw [himage] at hnext
              dsimp only at hnext
              split at hnext
              · rename_i hasserted
                obtain rfl := Except.ok.inj hnext
                exact ⟨row, rfl, himage, rfl, rfl, hasserted.1⟩
              · cases hnext

/-- Arrays of one length pass the second assertion as well. -/
theorem containerRequest_of_find {database : Database} {challengeId : ℤ}
    {row : ChallengeRow} {imageName : String} (startMode : StartMode)
    (hrow : database.challenges.find challengeId = some row)
    (himage : row.dockerImage = some imageName)
    (hlength : row.portNumbers.length = row.portTypes.length) :
    (containerRequest .available database challengeId startMode).1 =
      .ok ⟨imageName, mappings row.portNumbers row.portTypes, startMode⟩ := by
  have hasserted : row.portNumbers.length = row.portTypes.length ∧
      (row.portNumbers.map Option.isSome).length =
        (row.portTypes.map Option.isSome).length := by
    rw [List.length_map, List.length_map]
    exact ⟨hlength, hlength⟩
  simp only [containerRequest, answer, execute, getResult, hrow, Option.map_some, himage]
  exact if_pos hasserted

theorem containerRequest_database (service : Service) (database : Database)
    (challengeId : ℤ) (startMode : StartMode) :
    (containerRequest service database challengeId startMode).2 = database :=
  execute_query (getResult_database _)

end ScdtServer.Challenges
