import ScdtServer.CtfArchive.Effects
import ScdtServer.CtfArchive.Sessions

/-!
# Who has configured an image

The docker columns of a challenge outlive the processes of the server, the keys
and the sessions do not.  Every image in the database was configured in one of the
processes by an administrator who may do so, in a session of that process.
-/

namespace ScdtServer.Configurations

open ScdtServer.Transition
open ScdtServer.Http
open ScdtServer.Jwt
open ScdtServer.Sql
open ScdtServer.Tables
open ScdtServer.Challenges
open ScdtServer.Api
open ScdtServer.Authority
open ScdtServer.Sessions
open ScdtServer.Effects
open ScdtServer.Processes

/-- The administrator is at work at a position of a run, in a session that is still
good. -/
structure Works (server : Server) (now tolerance : Time) (events : List Event)
    (position : ℕ) (exchange : Exchange) (admin : JWTAdmin) : Prop where
  event : events[position]? = some (.exchange exchange)
  session : ∃ initiate finish token,
    SignsIn server now tolerance events initiate finish admin token ∧
      presented JWTAdmin exchange.headers = some token.text ∧ finish < position ∧
        instant now events position ≤ instant now events finish + fromMins 30 + tolerance

/-- The image and the ports of a challenge are configured, by someone who may. -/
def Configures (server : Server) (now tolerance : Time) (events : List Event)
    (position : ℕ) (id : ℤ) (imageName : String) (portMap : ExposePorts) : Prop :=
  ∃ exchange admin, Works server now tolerance events position exchange admin ∧
    admin.canDocker = true ∧ exchange.request = .configureDocker id imageName portMap ∧
      Succeeds exchange.reply

/-- One life of the server. -/
structure Process where
  server : Server
  start : Time
  events : List Event

/-- What processes have made of the migrated database, one after the other. -/
inductive History (tolerance : Time) : List Process → Database → Prop
  | migrated : History tolerance [] .empty
  | process {past : List Process} {server : Server} {now : Time} {found : Database}
      {events : List Event} {last : State} (hpast : History tolerance past found)
      (hexpiring : Expiring server.signer.jwt tolerance)
      (hrun : Run (restrict (Step server) (Unforged server)) (.start now found) events last) :
      History tolerance (past ++ [⟨server, now, events⟩]) last.database

/-- The docker columns of a challenge are set by `Configures` in one of the
processes, to an image whose name is stored as `imageName`. -/
def ConfiguredIn (tolerance : Time) (processes : List Process) (id : ℤ) (imageName : String)
    (portMap : ExposePorts) : Prop :=
  ∃ process ∈ processes, ∃ position requested, varchar 63 requested = some imageName ∧
    Configures process.server process.start tolerance process.events position id requested
      portMap

variable {server : Server} {now tolerance : Time} {database : Database}
variable {events : List Event} {state : State} {position : ℕ} {id : ℤ} {imageName : String}
variable {portMap : ExposePorts} {row : ChallengeRow}

theorem Works.append {exchange : Exchange} {admin : JWTAdmin}
    (hworks : Works server now tolerance events position exchange admin) (more : List Event) :
    Works server now tolerance (events ++ more) position exchange admin := by
  obtain ⟨initiate, finish, token, hsigns, hpresented, hlt, hlive⟩ := hworks.session
  have hle := le_length_of_at hworks.event
  refine ⟨at_append hworks.event, initiate, finish, token, hsigns.append more, hpresented, hlt,
    ?_⟩
  rw [instant_append hle, instant_append (hlt.le.trans hle)]
  exact hlive

theorem Configures.append
    (hconfigures : Configures server now tolerance events position id imageName portMap)
    (more : List Event) :
    Configures server now tolerance (events ++ more) position id imageName portMap := by
  obtain ⟨exchange, admin, hworks, hrest⟩ := hconfigures
  exact ⟨exchange, admin, hworks.append more, hrest⟩

/-- An administrator whom the extractor knows after a run is at work. -/
theorem works_of_extracted {exchange : Exchange} {admin : JWTAdmin}
    (hexpiring : Expiring server.signer.jwt tolerance)
    (hrun : Run (restrict (Step server) (Unforged server)) (.start now database) events state)
    (hunforged : Unforged server state (.exchange exchange))
    (hextracted : fromRequestParts server.signer JWTAdmin state.now exchange.headers =
      .ok admin) :
    Works server now tolerance (events ++ [.exchange exchange]) events.length exchange admin := by
  obtain ⟨initiate, finish, token, hsigns, hpresented, hlive⟩ :=
    signsIn_of_extracted hexpiring (past_of_run hexpiring hrun) hunforged hextracted
  obtain ⟨_, _, _, _, hfinish, _⟩ := hsigns.signature
  have hlt := (List.getElem?_eq_some_iff.mp hfinish).1
  have hnow : state.now = instant now events events.length := now_of_run hrun.unrestrict
  refine ⟨at_length, initiate, finish, token, hsigns.append _, hpresented, hlt, ?_⟩
  rw [instant_append le_rfl, instant_append hlt.le, ← hnow]
  exact hlive

/-! ## One process -/

/-- Where the docker columns of a row come from. -/
inductive Source (server : Server) (now tolerance : Time) (database : Database)
    (events : List Event) (id : ℤ) (row : ChallengeRow) : Prop
  | found {old : ChallengeRow} (hfound : database.challenges.find id = some old)
      (hcolumns : dockerColumns old = dockerColumns row)
  | unconfigured (himage : row.dockerImage = none)
  | configured {position : ℕ} {requested imageName : String} {portMap : ExposePorts}
      (hconfigures : Configures server now tolerance events position id requested portMap)
      (hstored : varchar 63 requested = some imageName)
      (hcolumns : dockerColumns row = (some imageName, portMap.numbers, portMap.types))

theorem Source.append (hsource : Source server now tolerance database events id row)
    (more : List Event) : Source server now tolerance database (events ++ more) id row := by
  cases hsource with
  | found hfound hcolumns => exact .found hfound hcolumns
  | unconfigured himage => exact .unconfigured himage
  | configured hconfigures hstored hcolumns =>
      exact .configured (hconfigures.append more) hstored hcolumns

theorem Source.same {row' : ChallengeRow}
    (hsource : Source server now tolerance database events id row)
    (hsame : dockerColumns row' = dockerColumns row) :
    Source server now tolerance database events id row' := by
  cases hsource with
  | found hfound hcolumns => exact .found hfound (hcolumns.trans hsame.symm)
  | unconfigured himage => exact .unconfigured ((congrArg Prod.fst hsame).trans himage)
  | configured hconfigures hstored hcolumns =>
      exact .configured hconfigures hstored (hsame.trans hcolumns)

/-- A request keeps to the columns as they are, or configures them. -/
theorem source_of_request {headers : Headers} {environment : Environment} {request : Request}
    {event : Event} (hexpiring : Expiring server.signer.jwt tolerance)
    (hrun : Run (restrict (Step server) (Unforged server)) (.start now database) events state)
    (hevent : event = .exchange (exchangeOf server headers environment state request))
    (hunforged : Unforged server state event)
    (hsources : ∀ id row, state.database.challenges.find id = some row →
      Source server now tolerance database events id row)
    (hrow : (serve server headers environment state request).database.challenges.find id =
      some row) :
    Source server now tolerance database (events ++ [event]) id row := by
  subst hevent
  have heffect : Effect server headers state request
      (serve server headers environment state request) :=
    serve_effect
  have hkept : (serve server headers environment state request).database = state.database →
      Source server now tolerance database (events ++
        [.exchange (exchangeOf server headers environment state request)]) id row := by
    intro hdatabase
    rw [hdatabase] at hrow
    exact (hsources id row hrow).append _
  cases heffect with
  | nothing hdatabase => exact hkept hdatabase
  | sends _ _ hdatabase => exact hkept hdatabase
  | invites _ _ hdatabase => exact hkept hdatabase
  | forgets _ hdatabase => exact hkept hdatabase
  | @writes admin hextracted hpermitted hwritten _ _ _ hfailed =>
      by_cases hreply : Succeeds (serve server headers environment state request).reply
      · cases rowOrigin_of_writes hwritten hrow with
        | kept hfound => exact (hsources id row hfound).append _
        | created _ _ _ hnew => exact .unconfigured (by rw [hnew]; rfl)
        | @docker requested imageName portMap old hrequest hstored _ hnew =>
            subst hrequest
            have hworks := works_of_extracted hexpiring hrun hunforged hextracted
            exact .configured ⟨_, admin, hworks, hpermitted, rfl, hreply⟩ hstored
              (by rw [hnew]; rfl)
        | instructions _ _ hfound hnew =>
            exact ((hsources id _ hfound).append _).same (by rw [hnew]; rfl)
        | archive _ _ hfound hnew =>
            exact ((hsources id _ hfound).append _).same (by rw [hnew]; rfl)
      · have hrows := (hfailed hreply).challenges
        have hfound : state.database.challenges.find id = some row := by
          rwa [Table.find, ← hrows]
        exact (hsources id row hfound).append _

theorem source_of_run (hexpiring : Expiring server.signer.jwt tolerance)
    (hrun : Run (restrict (Step server) (Unforged server)) (.start now database) events state) :
    ∀ id row, state.database.challenges.find id = some row →
      Source server now tolerance database events id row := by
  induction hrun with
  | nil => exact fun id row hrow => .found hrow rfl
  | snoc hbefore hfinal ih =>
      obtain ⟨hstep, hunforged⟩ := hfinal
      cases hstep with
      | exchange =>
          exact fun id row hrow => source_of_request hexpiring hbefore rfl hunforged ih hrow
      | expire => exact fun id row hrow => (ih id row hrow).append _
      | elapse => exact fun id row hrow => (ih id row hrow).append _

/-! ## All processes -/

theorem ConfiguredIn.append {processes : List Process}
    (hconfigured : ConfiguredIn tolerance processes id imageName portMap)
    (more : List Process) : ConfiguredIn tolerance (processes ++ more) id imageName portMap := by
  obtain ⟨process, hmem, hrest⟩ := hconfigured
  exact ⟨process, List.mem_append_left more hmem, hrest⟩

/-- An image that a process leaves was configured in it, or in one before it. -/
theorem configured_after {past : List Process} (hexpiring : Expiring server.signer.jwt tolerance)
    (hpast : ∀ id row imageName, database.challenges.find id = some row →
      row.dockerImage = some imageName → ∃ portMap,
        ConfiguredIn tolerance past id imageName portMap ∧
          dockerColumns row = (some imageName, portMap.numbers, portMap.types))
    (hrun : Run (restrict (Step server) (Unforged server)) (.start now database) events state)
    (hrow : state.database.challenges.find id = some row)
    (himage : row.dockerImage = some imageName) :
    ∃ portMap, ConfiguredIn tolerance (past ++ [⟨server, now, events⟩]) id imageName portMap ∧
      dockerColumns row = (some imageName, portMap.numbers, portMap.types) := by
  cases source_of_run hexpiring hrun id row hrow with
  | found hfound hcolumns =>
      have himage' := (congrArg Prod.fst hcolumns).trans himage
      obtain ⟨portMap, hconfigured, hrest⟩ := hpast id _ imageName hfound himage'
      exact ⟨portMap, hconfigured.append _, hcolumns.symm.trans hrest⟩
  | unconfigured hnone => cases hnone.symm.trans himage
  | @configured position requested imageName' portMap hconfigures hstored hcolumns =>
      obtain rfl : imageName' = imageName :=
        Option.some.inj ((congrArg Prod.fst hcolumns).symm.trans himage)
      have hmem : (⟨server, now, events⟩ : Process) ∈ past ++ [⟨server, now, events⟩] :=
        List.mem_append_right _ (List.mem_singleton_self _)
      exact ⟨portMap, ⟨_, hmem, position, requested, hstored, hconfigures⟩, hcolumns⟩

theorem configured_of_history {past : List Process} (hpast : History tolerance past database) :
    ∀ id row imageName, database.challenges.find id = some row →
      row.dockerImage = some imageName → ∃ portMap,
        ConfiguredIn tolerance past id imageName portMap ∧
          dockerColumns row = (some imageName, portMap.numbers, portMap.types) := by
  induction hpast with
  | migrated =>
      intro id row imageName hrow
      cases hrow
  | process _ hexpiring hrun ih =>
      intro id row imageName hrow himage
      exact configured_after hexpiring ih hrun hrow himage

end ScdtServer.Configurations
