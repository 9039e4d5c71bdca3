import ScdtServer.CtfArchive.Processes

/-!
# Where a challenge lives

`list` selects challenges by their category.  `get_metadata` does not load the
category: it reports the number it was asked about.
-/

namespace ScdtServer.Placement

open ScdtServer.Http
open ScdtServer.Jwt
open ScdtServer.Sql
open ScdtServer.Tables
open ScdtServer.Challenges
open ScdtServer.Api
open ScdtServer.Processes

variable {database : Database} {challengeId categoryId : ℤ} {user : JWTUser}

/-- The challenge is in the list of the category. -/
def InList (database : Database) (user : JWTUser) (challengeId categoryId : ℤ) : Prop :=
  ∃ challenges, (list .available database categoryId user).1 = .ok challenges ∧
    challengeId ∈ challenges

/-- The metadata of the challenge name the category. -/
def InMetadata (database : Database) (user : JWTUser) (challengeId categoryId : ℤ) : Prop :=
  ∃ challenge, (getMetadata .available database challengeId user).1 = .ok challenge ∧
    challenge.categoryId = categoryId

/-- The two answers agree on one challenge and one category. -/
def Agree (database : Database) (user : JWTUser) (challengeId categoryId : ℤ) : Prop :=
  InList database user challengeId categoryId ↔
    InMetadata database user challengeId categoryId

theorem inList_iff :
    InList database user challengeId categoryId ↔
      ∃ row, database.challenges.find challengeId = some row ∧ row.categoryId = categoryId := by
  have hlist : (list .available database categoryId user).1 =
      .ok ((database.challenges.filter fun row => row.categoryId == categoryId).map
        Prod.fst) := rfl
  constructor
  · intro hin
    obtain ⟨challenges, hchallenges, hmem⟩ := hin
    obtain rfl := Except.ok.inj (hlist.symm.trans hchallenges)
    obtain ⟨entry, hentry, rfl⟩ := List.mem_map.mp hmem
    have hfound := Table.mem_filter_iff.mp hentry
    exact ⟨entry.2, hfound.1, eq_of_beq hfound.2⟩
  · intro hrow
    obtain ⟨row, hfound, hcategory⟩ := hrow
    refine ⟨_, hlist, List.mem_map.mpr ⟨(challengeId, row), ?_, rfl⟩⟩
    exact Table.mem_filter_iff.mpr ⟨hfound, beq_iff_eq.mpr hcategory⟩

/-- The metadata of a challenge name its own number. -/
theorem inMetadata_iff :
    InMetadata database user challengeId categoryId ↔
      (∃ row, database.challenges.find challengeId = some row) ∧
        challengeId = categoryId := by
  cases hfound : database.challenges.find challengeId with
  | none =>
      have hmissing : (getMetadata .available database challengeId user).1 =
          Handler.fail .notFound := by
        simp only [getMetadata, answer, execute, getResult, hfound]
        rfl
      constructor
      · intro hin
        obtain ⟨challenge, hok, _⟩ := hin
        cases hmissing.symm.trans hok
      · intro hrow
        obtain ⟨⟨row, hrow⟩, _⟩ := hrow
        cases hrow
  | some row =>
      have hmetadata : (getMetadata .available database challengeId user).1 = .ok {
          id := challengeId
          name := row.name
          categoryId := challengeId
          description := row.description
          difficulty := row.difficulty
          connectionInstructions := row.connectionInstructions
          hasArchive := row.archive.isSome } := by
        simp only [getMetadata, answer, execute, getResult, hfound]
        rfl
      constructor
      · intro hin
        obtain ⟨challenge, hok, hcategory⟩ := hin
        obtain rfl := Except.ok.inj (hmetadata.symm.trans hok)
        exact ⟨⟨row, rfl⟩, hcategory⟩
      · intro hrow
        exact ⟨_, hmetadata, hrow.2⟩

/-- Exactly when the answers agree. -/
theorem agree_iff :
    Agree database user challengeId categoryId ↔
      ∀ row, database.challenges.find challengeId = some row →
        (row.categoryId = categoryId ↔ challengeId = categoryId) := by
  unfold Agree
  rw [inList_iff, inMetadata_iff]
  constructor
  · intro hagree row hrow
    constructor
    · intro hcategory
      exact (hagree.mp ⟨row, hrow, hcategory⟩).2
    · intro hid
      obtain ⟨row', hrow', hcategory⟩ := hagree.mpr ⟨⟨row, hrow⟩, hid⟩
      rwa [Option.some.inj (hrow.symm.trans hrow')]
  · intro hrows
    constructor
    · intro hin
      obtain ⟨row, hrow, hcategory⟩ := hin
      exact ⟨⟨row, hrow⟩, (hrows row hrow).mp hcategory⟩
    · intro hin
      obtain ⟨⟨row, hrow⟩, hid⟩ := hin
      exact ⟨row, hrow, (hrows row hrow).mpr hid⟩

/-! ## Databases in which the answers agree -/

/-- A challenge is created in the category that has the number which the challenge
will get. -/
def InOwnCategory (database : Database) (request : Request) : Prop :=
  ∀ query multi, request = .challengesCreate query multi →
    query.categoryId = database.challenges.sequence + 1

/-- Every challenge has the number of its category. -/
def OwnNumbers (database : Database) : Prop :=
  ∀ id row, database.challenges.find id = some row → row.categoryId = id

theorem ownNumbers_of_writes {request : Request} {before after : Database}
    (hown : InOwnCategory before request) (hnumbers : OwnNumbers before)
    (hwritten : Writes request before after) : OwnNumbers after := by
  intro id row hfound
  cases rowOrigin_of_writes hwritten hfound with
  | kept hold => exact hnumbers id row hold
  | created hrequest _ hid hrow =>
      rw [hrow, hid]
      have hsame := hown _ _ hrequest
      exact hsame
  | docker _ _ hold hrow =>
      have hsame := hnumbers id _ hold
      rwa [hrow]
  | instructions _ _ hold hrow =>
      have hsame := hnumbers id _ hold
      rwa [hrow]
  | archive _ _ hold hrow =>
      have hsame := hnumbers id _ hold
      rwa [hrow]

/-- The answers agree on a challenge and a category exactly when they must not
differ; they agree on all of them if every challenge is created in the category
with its own number. -/
theorem placement (database : Database) :
    (∀ user challengeId categoryId, Agree database user challengeId categoryId ↔
      ∀ row, database.challenges.find challengeId = some row →
        (row.categoryId = categoryId ↔ challengeId = categoryId)) ∧
    (Reached InOwnCategory database →
      ∀ user challengeId categoryId, Agree database user challengeId categoryId) := by
  constructor
  · intro user challengeId categoryId
    exact agree_iff
  · intro hreached user challengeId categoryId
    have hnumbers : OwnNumbers database := by
      apply hreached.invariant
      · exact nofun
      · exact fun _ _ _ => ownNumbers_of_writes
    apply agree_iff.mpr
    intro row hrow
    rw [hnumbers challengeId row hrow]

/-! ## Two challenges in one category -/

def twoChallenges : Database := afterAdmin oneChallenge (challengeRequest "second")

theorem twoChallenges_reached : Reached anyRequest twoChallenges :=
  (((Leads.here.admin trivial).admin trivial).admin trivial).admin trivial

/-- The second challenge is in the list of the first category, but says that it is
in the second. -/
theorem second_challenge_misplaced :
    ¬ ∀ database, Reached anyRequest database →
      ∀ user challengeId categoryId, Agree database user challengeId categoryId := by
  intro hclaim
  have hagree := hclaim twoChallenges twoChallenges_reached ⟨⟨7⟩⟩ 2 1
  have hin : InList twoChallenges ⟨⟨7⟩⟩ 2 1 := inList_iff.mpr ⟨_, rfl, rfl⟩
  have hone := (inMetadata_iff.mp (hagree.mp hin)).2
  omega

/-- The first challenge is where both answers say. -/
theorem placement_firstChallenge : Agree oneChallenge ⟨⟨7⟩⟩ 1 1 := by
  apply (placement oneChallenge).2
  have hevent : InOwnCategory .empty eventRequest := nofun
  have hweb : InOwnCategory (afterAdmin .empty eventRequest) webRequest := nofun
  apply ((Leads.here.admin hevent).admin hweb).admin
  intro query multi hrequest
  obtain ⟨rfl, rfl⟩ : _ ∧ _ := by simpa [challengeRequest] using hrequest
  rfl

end ScdtServer.Placement
