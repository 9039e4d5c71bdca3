import ScdtServer.CtfArchive.Codes
import ScdtServer.CtfArchive.Jwt

/-!
# Guest codes

An administrator hands out codes; a guest trades a code for a session.  The
codes that can be traded are kept in a set that forgets each of them after half
an hour.
-/

namespace ScdtServer.Guest

open ScdtServer.Http
open ScdtServer.Models
open ScdtServer.Jwt
open ScdtServer.Codes

def thirtyMinutesAsSecs : ℕ := 30 * 60

def codeLifetime : Time := fromSecs thirtyMinutesAsSecs

/-- `random` is the answer of `getrandom::u32`. -/
def generateCode (codes : InMemorySet GuestCode) (now : Time) (admin : JWTAdmin)
    (random : Option UInt32) : Handler StatusCode GuestCode × InMemorySet GuestCode :=
  if !admin.canInvite then (Handler.fail .forbidden, codes)
  else
    match random with
    | none => (Handler.fail .internalServerError, codes)
    | some word => (.ok ⟨word⟩, codes.insertTemp now ⟨word⟩ codeLifetime)

/-- Every administrator may do this. -/
def wipeCodes (codes : InMemorySet GuestCode) (_admin : JWTAdmin) :
    StatusCode × InMemorySet GuestCode :=
  (.ok, codes.wipe)

def redeemCode (signer : Signer) (codes : InMemorySet GuestCode) (now : Time)
    (code : GuestCode) : Handler StatusCode Token × InMemorySet GuestCode :=
  match codes.remove code with
  | (true, codes) => (authenticate signer (⟨code⟩ : JWTUser) (fromHours 6) now, codes)
  | (false, codes) => (Handler.fail .unauthorized, codes)

/-! ## What the handlers do -/

/-- A code is drawn for an administrator who may invite, and put into the set. -/
theorem generateCode_eq_ok {codes codes' : InMemorySet GuestCode} {now : Time}
    {admin : JWTAdmin} {random : Option UInt32} {code : GuestCode}
    (hgenerated : generateCode codes now admin random = (.ok code, codes')) :
    admin.canInvite = true ∧ codes' = codes.insertTemp now code codeLifetime ∧
      random = some code.code := by
  unfold generateCode at hgenerated
  split at hgenerated
  · cases hgenerated
  · rename_i hinvite
    split at hgenerated
    · cases hgenerated
    · rename_i word
      cases hgenerated
      exact ⟨by simpa using hinvite, rfl, rfl⟩

/-- Otherwise the set stays as it is. -/
theorem generateCode_eq_error {codes codes' : InMemorySet GuestCode} {now : Time}
    {admin : JWTAdmin} {random : Option UInt32} {abort : Abort StatusCode}
    (hrefused : generateCode codes now admin random = (.error abort, codes')) :
    codes' = codes := by
  unfold generateCode at hrefused
  split at hrefused
  · exact (congrArg Prod.snd hrefused).symm
  · split at hrefused
    · exact (congrArg Prod.snd hrefused).symm
    · cases hrefused

theorem redeemCode_codes (signer : Signer) (codes : InMemorySet GuestCode) (now : Time)
    (code : GuestCode) : (redeemCode signer codes now code).2 = (codes.remove code).2 := by
  unfold redeemCode
  split
  · rename_i hremoved
    rw [hremoved]
  · rename_i hremoved
    rw [hremoved]

/-- A code is refused exactly when it is not in the set. -/
theorem redeemCode_refused (signer : Signer) (codes : InMemorySet GuestCode) (now : Time)
    (code : GuestCode) :
    (redeemCode signer codes now code).1 = Handler.fail .unauthorized ↔
      (codes.remove code).1 = false := by
  unfold redeemCode
  split
  · rename_i hremoved
    rw [hremoved]
    constructor
    · intro hfail
      cases authenticate_eq_error hfail
    · nofun
  · rename_i hremoved
    rw [hremoved]
    exact iff_of_true rfl rfl

/-- A code in the set is traded for a session. -/
theorem redeemCode_of_mem (signer : Signer) {codes : InMemorySet GuestCode} (now : Time)
    {code : GuestCode} (hmem : code ∈ codes.set) :
    redeemCode signer codes now code =
      (authenticate signer (⟨code⟩ : JWTUser) (fromHours 6) now, (codes.remove code).2) := by
  have hremoved : codes.remove code = (true, (codes.remove code).2) := by
    rw [InMemorySet.remove, decide_eq_true hmem]
  unfold redeemCode
  rw [hremoved]

/-- The session of a guest holds the code. -/
theorem redeemCode_eq_ok {signer : Signer} {codes : InMemorySet GuestCode} {now : Time}
    {code : GuestCode} {token : Token}
    (hredeemed : (redeemCode signer codes now code).1 = .ok token) :
    token.key = signer.keys.userKey ∧ token.claims.custom = .user ⟨code⟩ ∧
      token.Genuine signer.jwt := by
  unfold redeemCode at hredeemed
  split at hredeemed
  · have hproduced := authenticate_eq_ok hredeemed
    refine ⟨hproduced.1, ?_, hproduced.2.2⟩
    rw [hproduced.2.1]
    rfl
  · cases hredeemed

end ScdtServer.Guest
