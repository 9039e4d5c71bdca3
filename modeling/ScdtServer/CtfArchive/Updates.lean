import ScdtServer.CtfArchive.Processes

/-!
# Updates of challenges

Three handlers update a row by the number of a challenge.  Each of them answers
NOT_FOUND to an error that only the loading of a row can raise: to an update, no
row is a count of zero.
-/

namespace ScdtServer.Updates

open ScdtServer.Http
open ScdtServer.Jwt
open ScdtServer.Sql
open ScdtServer.Tables
open ScdtServer.Challenges
open ScdtServer.Api
open ScdtServer.Processes

/-- The well-formed updates. -/
inductive Update
  | docker (imageName : String) (portMap : ExposePorts)
  | instructions {instructions : Option String} (body : Option (List UInt8))
      (hbody : connectionInstructions body = .ok instructions)
  | archive {archive : Option (List UInt8)} (multi : NextField)
      (harchive : readArchive multi = .ok archive)

/-- The request for an update. -/
def Update.request (challengeId : ℤ) : Update → Request
  | .docker imageName portMap => .configureDocker challengeId imageName portMap
  | .instructions body _ => .setConnectionInstructions challengeId body
  | .archive multi _ => .setArchive challengeId multi

/-- The new values. -/
def Update.change : Update → ChallengeRow → ChallengeRow
  | .docker imageName portMap => configured imageName portMap
  | @Update.instructions text _ _ => instructed text
  | @Update.archive bytes _ _ => archived bytes

def Update.permitted (admin : JWTAdmin) : Update → Bool
  | .docker _ _ => admin.canDocker
  | .instructions _ _ => admin.canCreate
  | .archive _ _ => admin.canCreate

variable {server : Server} {headers : Headers} {environment : Environment} {state : State}
variable {admin : JWTAdmin} {update : Update} {challengeId : ℤ}

/-- The new values are no longer than their columns and have no U+0000 in them. -/
def Update.Fits : Update → Prop
  | .docker imageName _ => '\x00' ∉ imageName.toList ∧ imageName.length ≤ 63
  | @Update.instructions text _ _ =>
      ∀ value ∈ text, '\x00' ∉ value.toList ∧ value.length ≤ 255
  | .archive _ _ => True

/-- The new values violate no constraint. -/
structure Allowed (database : Database) (update : Update) (challengeId : ℤ) : Prop where
  fits : update.Fits
  admits : ∀ row, database.challenges.find challengeId = some row →
    challengeSchema.admits (update.change row) = true ∧
      database.challenges.free challengeId (update.change row) = true

/-- The request comes from an administrator who may do this, and the database can
be reached. -/
structure Permitted (server : Server) (headers : Headers) (environment : Environment)
    (state : State) (update : Update) (admin : JWTAdmin) : Prop where
  extracted : fromRequestParts server.signer JWTAdmin state.now headers = .ok admin
  permitted : update.permitted admin = true
  available : environment.service = .available

/-- An update without a violation is answered with OK, whatever it has counted. -/
theorem serve_update {count : ℕ} {challenges : Table challengeSchema}
    (hpermitted : Permitted server headers environment state update admin)
    (hfits : update.Fits) (hupdate : state.database.challenges.update challengeId update.change =
      (.ok count, challenges)) :
    (serve server headers environment state (update.request challengeId)).reply =
        .response .ok .empty ∧
      (serve server headers environment state (update.request challengeId)).database =
        { state.database with challenges := challenges } := by
  obtain ⟨hextracted, hallowed, havailable⟩ := hpermitted
  cases update with
  | docker imageName portMap =>
      simp only [Update.change] at hupdate
      simp only [Update.permitted] at hallowed
      have hstored : varchar 63 imageName = some imageName :=
        varchar_of_fits (fitsVarchar_iff.mpr hfits)
      simp only [Update.request, serve, authorized, hextracted, configureDocker, hallowed,
        havailable, execute, withValues, hstored, updateChallenge, hupdate]
      exact ⟨rfl, rfl⟩
  | @instructions instructions body hbody =>
      simp only [Update.change] at hupdate
      simp only [Update.permitted] at hallowed
      have hall : instructions.all (fitsVarchar 255) = true := by
        cases instructions with
        | none => rfl
        | some value => exact fitsVarchar_iff.mpr (hfits value rfl)
      simp only [Update.request, serve, authorized, hextracted, hbody,
        setConnectionInstructions, hallowed, havailable, execute, withValues,
        mapM_varchar_of_fits hall, updateChallenge, hupdate]
      exact ⟨rfl, rfl⟩
  | archive multi harchive =>
      simp only [Update.change] at hupdate
      simp only [Update.permitted] at hallowed
      simp only [Update.request, serve, authorized, hextracted, harchive, setArchive,
        hallowed, havailable, execute, updateChallenge, hupdate]
      exact ⟨rfl, rfl⟩

/-- What the answer to an update says about the challenge. -/
structure Reports (server : Server) (headers : Headers) (environment : Environment)
    (state : State) (update : Update) (challengeId : ℤ) : Prop where
  done :
    (serve server headers environment state (update.request challengeId)).reply =
        .response .ok .empty ↔
      ∃ row, state.database.challenges.find challengeId = some row ∧
        (serve server headers environment state
          (update.request challengeId)).database.challenges.find challengeId =
            some (update.change row)
  missing :
    (serve server headers environment state (update.request challengeId)).reply =
        .response .notFound .empty ↔
      state.database.challenges.find challengeId = none

/-- An update reports what it has done exactly when the challenge exists. -/
theorem update_reports
    (hpermitted : Permitted server headers environment state update admin)
    (hallowed : Allowed state.database update challengeId) :
    Reports server headers environment state update challengeId ↔
      (state.database.challenges.find challengeId).isSome = true := by
  cases hrow : state.database.challenges.find challengeId with
  | none =>
      have hserved := serve_update hpermitted hallowed.fits (Table.update_of_missing hrow)
      apply iff_of_false _ Bool.false_ne_true
      intro hreports
      have hmissing := hreports.missing.mpr hrow
      rw [hserved.1] at hmissing
      cases hmissing
  | some row =>
      obtain ⟨hadmits, hfree⟩ := hallowed.admits row hrow
      have hserved := serve_update hpermitted hallowed.fits
        (Table.update_of_admits hrow hadmits hfree)
      have hafter : (serve server headers environment state
          (update.request challengeId)).database.challenges.find challengeId =
            some (update.change row) := by
        rw [hserved.2]
        dsimp only
        rw [Table.find_set, if_pos rfl, hrow]
        rfl
      apply iff_of_true _ rfl
      constructor
      · exact iff_of_true hserved.1 ⟨row, hrow, hafter⟩
      · rw [hserved.1, hrow]
        exact iff_of_false nofun nofun

/-! ## A challenge that does not exist -/

def clearing : Update := .archive .none rfl

theorem clearing_permitted (database : Database) :
    Permitted exampleServer exampleHeaders exampleEnvironment (.start 0 database) clearing
      exampleAdmin :=
  ⟨exampleAdmin_extracted database, rfl, rfl⟩

/-- Clearing the archive of a challenge that does not exist is answered with OK. -/
theorem missing_challenge_updated :
    ¬ ∀ server headers environment state update admin challengeId,
      Reached anyRequest state.database →
        Permitted server headers environment state update admin →
          Allowed state.database update challengeId →
            Reports server headers environment state update challengeId := by
  intro hclaim
  have hreports := hclaim exampleServer exampleHeaders exampleEnvironment (.start 0 .empty)
    clearing exampleAdmin 1 .here (clearing_permitted .empty) ⟨trivial, nofun⟩
  have hserved := serve_update (clearing_permitted .empty) trivial
    (Table.update_of_missing (show Database.empty.challenges.find 1 = none from rfl))
  obtain ⟨row, hrow, _⟩ := hreports.done.mp hserved.1
  cases hrow

/-- A challenge gets an image and a port. -/
def hosting : Update := .docker "nginx" onePort

theorem hosting_allowed : Allowed oneChallenge hosting 1 := by
  refine ⟨⟨by decide, by decide⟩, ?_⟩
  intro row hrow
  have hfirst : oneChallenge.challenges.find 1 = some
      (CreateChallenge.row ⟨"first", none, 1, "", "", none⟩ none) := by
    decide
  obtain rfl := Option.some.inj (hfirst.symm.trans hrow)
  exact ⟨by decide, by decide⟩

/-- The only challenge there is gets the image. -/
theorem update_reports_hosting :
    Reports exampleServer exampleHeaders exampleEnvironment (.start 0 oneChallenge) hosting
      1 := by
  have hpermitted : Permitted exampleServer exampleHeaders exampleEnvironment
      (.start 0 oneChallenge) hosting exampleAdmin :=
    ⟨exampleAdmin_extracted oneChallenge, rfl, rfl⟩
  exact (update_reports hpermitted hosting_allowed).mpr (by decide)

end ScdtServer.Updates
