import ScdtServer.Core.Alignment
import ScdtServer.CtfArchive.Processes

/-!
# Ports and their types

The row of a challenge has the ports and their types in two arrays, and the
table allows NULL in both.  `start` and `host_demo` drop the NULLs of each array
by itself and pair what is left, guarded by two assertions that compare nothing
but the lengths of the arrays.
-/

namespace ScdtServer.Pairing

open ScdtServer.Http
open ScdtServer.Models
open ScdtServer.Jwt
open ScdtServer.Sql
open ScdtServer.Tables
open ScdtServer.Challenges
open ScdtServer.ChalldClient
open ScdtServer.Alignment
open ScdtServer.Processes

variable {service : Service} {database : Database} {challengeId : ℤ} {row : ChallengeRow}
variable {imageName : String} {startMode : StartMode} {request : ContainerRequest}

/-! ## What should be sent -/

/-- The port of a pair, on both sides, with its type. -/
def mappingOf (pair : Option Int16 × Option PortType) :
    Option UInt16 × Option UInt16 × Option PortType :=
  (pair.1.map Int16.toUInt16, pair.1.map Int16.toUInt16, pair.2)

/-- The mappings are those of the row: over all indices with a port or a type, the
port with the type at its own index. -/
def Pairs (row : ChallengeRow) (sent : List (UInt16 × UInt16 × PortType)) : Prop :=
  sent.map (fun mapping => (some mapping.1, some mapping.2.1, some mapping.2.2)) =
    (presentPairs row.portNumbers row.portTypes).map mappingOf

/-- Whatever `start` sends for the challenge are the mappings of its row. -/
def StartPairs (database : Database) (challengeId : ℤ) (row : ChallengeRow) : Prop :=
  ∀ service user request, (start service database challengeId user).1 = .ok request →
    Pairs row request.portMappings

/-- The same for `host_demo`. -/
def HostDemoPairs (database : Database) (challengeId : ℤ) (row : ChallengeRow) : Prop :=
  ∀ service admin request, (hostDemo service database challengeId admin).1 = .ok request →
    Pairs row request.portMappings

/-- Arrays that pass the assertions have their NULLs at the same indices. -/
def Aligned (row : ChallengeRow) : Prop :=
  row.portNumbers.length = row.portTypes.length → SameGaps row.portNumbers row.portTypes

/-! ## What is sent -/

theorem pairs_mappings (hgaps : SameGaps row.portNumbers row.portTypes) :
    Pairs row (mappings row.portNumbers row.portTypes) := by
  rw [Pairs, mappings, presentPairs_of_sameGaps hgaps, List.map_map, List.map_map]
  rfl

/-- No entry of the row is missing in what is sent for it. -/
theorem sameGaps_of_pairs {sent : List (UInt16 × UInt16 × PortType)}
    (hlength : row.portNumbers.length = row.portTypes.length) (hpairs : Pairs row sent) :
    SameGaps row.portNumbers row.portTypes := by
  apply sameGaps_of_present hlength
  intro pair hmem
  have hsent : mappingOf pair ∈ (presentPairs row.portNumbers row.portTypes).map mappingOf :=
    List.mem_map_of_mem hmem
  rw [← hpairs] at hsent
  obtain ⟨mapping, _, hmapping⟩ := List.mem_map.mp hsent
  obtain ⟨hnumber, hrest⟩ := Prod.mk.inj hmapping
  have htype := (Prod.mk.inj hrest).2
  have hpresent : (pair.1.map Int16.toUInt16).isSome = true := by
    rw [← hnumber]
    rfl
  rw [Option.isSome_map] at hpresent
  refine ⟨hpresent, ?_⟩
  rw [← htype]
  rfl

theorem pairs_of_aligned (haligned : Aligned row)
    (hrow : database.challenges.find challengeId = some row)
    (hrequest : (containerRequest service database challengeId startMode).1 = .ok request) :
    Pairs row request.portMappings := by
  obtain ⟨found, hfound, _, hmappings, _, hlength⟩ := containerRequest_eq_ok hrequest
  obtain rfl : found = row := Option.some.inj (hfound.symm.trans hrow)
  rw [hmappings]
  exact pairs_mappings (haligned hlength)

/-- What is sent for arrays of one length shows whether they are aligned. -/
theorem aligned_of_pairs (hrow : database.challenges.find challengeId = some row)
    (himage : row.dockerImage = some imageName)
    (hpairs : ∀ request,
      (containerRequest .available database challengeId startMode).1 = .ok request →
        Pairs row request.portMappings) :
    Aligned row := by
  intro hlength
  exact sameGaps_of_pairs hlength
    (hpairs _ (containerRequest_of_find startMode hrow himage hlength))

theorem startPairs_of_aligned (haligned : Aligned row)
    (hrow : database.challenges.find challengeId = some row) :
    StartPairs database challengeId row := by
  intro service user request hrequest
  exact pairs_of_aligned haligned hrow hrequest

theorem aligned_of_startPairs (hrow : database.challenges.find challengeId = some row)
    (himage : row.dockerImage = some imageName)
    (hstart : StartPairs database challengeId row) : Aligned row := by
  apply aligned_of_pairs hrow himage
  intro request hrequest
  exact hstart .available ⟨⟨0⟩⟩ request hrequest

theorem hostDemoPairs_of_aligned (haligned : Aligned row)
    (hrow : database.challenges.find challengeId = some row) :
    HostDemoPairs database challengeId row := by
  intro service admin request hrequest
  unfold hostDemo at hrequest
  split at hrequest
  · cases hrequest
  · exact pairs_of_aligned haligned hrow hrequest

theorem aligned_of_hostDemoPairs (hrow : database.challenges.find challengeId = some row)
    (himage : row.dockerImage = some imageName)
    (hdemo : HostDemoPairs database challengeId row) : Aligned row := by
  apply aligned_of_pairs hrow himage
  intro request hrequest
  exact hdemo .available exampleAdmin request hrequest

/-! ## Rows that the API writes -/

/-- The API itself stores no NULL. -/
theorem sameGaps_of_reached (hreached : Reached anyRequest database)
    (hrow : database.challenges.find challengeId = some row) :
    SameGaps row.portNumbers row.portTypes := by
  have hall : ∀ id row, database.challenges.find id = some row →
      SameGaps row.portNumbers row.portTypes := by
    apply hreached.invariant
    · exact nofun
    · intro request before after _ hbefore hwritten id row hfound
      cases rowOrigin_of_writes hwritten hfound with
      | kept hold => exact hbefore id row hold
      | created _ _ _ hnew =>
          rw [hnew]
          rfl
      | docker _ _ _ hnew =>
          rw [hnew]
          simp [SameGaps, configured, ExposePorts.numbers, ExposePorts.types]
      | instructions _ _ hold hnew | archive _ _ hold hnew =>
          have hgaps := hbefore id _ hold
          rwa [hnew]
  exact hall challengeId row hrow

/-- So whatever is started there is sent with its own types. -/
theorem pairs_of_reached (hreached : Reached anyRequest database)
    (hrow : database.challenges.find challengeId = some row) :
    StartPairs database challengeId row ∧ HostDemoPairs database challengeId row := by
  have haligned : Aligned row := fun _ => sameGaps_of_reached hreached hrow
  exact ⟨startPairs_of_aligned haligned hrow, hostDemoPairs_of_aligned haligned hrow⟩

/-! ## The assertions -/

/-- The assertions of `start` and `host_demo` are sufficient for the pairing exactly
in the rows whose arrays differ in length or have their NULLs at the same
indices. -/
theorem pairs_sent (hrow : database.challenges.find challengeId = some row)
    (himage : row.dockerImage = some imageName) :
    (StartPairs database challengeId row ↔ Aligned row) ∧
      (HostDemoPairs database challengeId row ↔ Aligned row) := by
  constructor
  · constructor
    · exact aligned_of_startPairs hrow himage
    · intro haligned
      exact startPairs_of_aligned haligned hrow
  · constructor
    · exact aligned_of_hostDemoPairs hrow himage
    · intro haligned
      exact hostDemoPairs_of_aligned haligned hrow

/-! ## NULLs at different indices -/

/-- A challenge with an image and these arrays. -/
def nginxRow (portNumbers : List (Option Int16)) (portTypes : List (Option PortType)) :
    ChallengeRow where
  name := "web"
  flag := none
  categoryId := 1
  description := ""
  difficulty := ""
  archive := none
  dockerImage := some "nginx"
  portNumbers := portNumbers
  portTypes := portTypes
  connectionInstructions := none

/-- The challenge is inserted by hand into a category of an event.  Its table admits
it. -/
def nginxDatabase (portNumbers : List (Option Int16)) (portTypes : List (Option PortType)) :
    Database :=
  (insertChallenge (nginxRow portNumbers portTypes)
    (afterAdmin (afterAdmin .empty eventRequest) webRequest)).2

/-- Two NULLs at the same index. -/
theorem pairs_sent_sameIndex :
    StartPairs (nginxDatabase [none, some 80] [none, some .tcp]) 1
      (nginxRow [none, some 80] [none, some .tcp]) :=
  (pairs_sent (by decide) rfl).1.mpr fun _ => rfl

/-- The only port of a row is sent with the type at another index. -/
theorem port_mispaired :
    ¬ ∀ database challengeId row imageName,
      database.challenges.find challengeId = some row → row.dockerImage = some imageName →
        StartPairs database challengeId row ∧ HostDemoPairs database challengeId row := by
  intro hclaim
  have hrow : (nginxDatabase [none, some 80] [some .udp, some .tcp]).challenges.find 1 =
      some (nginxRow [none, some 80] [some .udp, some .tcp]) := by
    decide
  have hstart := (hclaim _ _ _ "nginx" hrow rfl).1
  have hgaps := aligned_of_startPairs hrow rfl hstart rfl
  exact absurd hgaps (by simp [SameGaps, nginxRow])

end ScdtServer.Pairing
