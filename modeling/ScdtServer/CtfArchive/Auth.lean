import ScdtServer.CtfArchive.Jwt
import ScdtServer.Core.Base64

/-!
# Administrators' sessions

An administrator asks for a challenge, signs it and trades the signature for a
session.  ECDSA is a parameter.
-/

namespace ScdtServer.Auth

open ScdtServer.Http
open ScdtServer.Jwt

structure AdminKey where
  id : UInt8
  publicKey : String
  canDocker : Bool
  canCreate : Bool
  canInvite : Bool
  canHostDemo : Bool

/-- The arguments of `admin_auth!`. -/
def adminKeys : List AdminKey := [
  { id := 0
    publicKey := "04d184cfb7cd2ad249bc41d20ae3484174d3a9f282bb3d7a1459fe10903098389220765700ff4c2fbbbbb63c85aa15079bfc80b695d7124081aaa1710bb4a4f932"
    canDocker := true
    canCreate := true
    canInvite := true
    canHostDemo := true },
  { id := 1
    publicKey := "041f5b95b8a7c2e7d8db420f7a315049bffb9a5b772068786fc50d780c641da98b805bf097c40424c326e4c75946c5dc29a5655a84d6dbf1e97ead065f43037829"
    canDocker := false
    canCreate := false
    canInvite := true
    canHostDemo := false }]

def AdminKey.admin (key : AdminKey) : JWTAdmin where
  id := key.id
  canDocker := key.canDocker
  canCreate := key.canCreate
  canInvite := key.canInvite
  canHostDemo := key.canHostDemo

def hexDigit (char : Char) : ℕ :=
  if char.isDigit then char.toNat - 48 else char.toNat - 87

def hexBytes : List Char → List UInt8
  | high :: low :: rest => UInt8.ofNat (16 * hexDigit high + hexDigit low) :: hexBytes rest
  | _ => []

/-- The macro `hex!`. -/
def hex (text : String) : List UInt8 := hexBytes text.toList

/-- What p256 makes of keys and signatures. -/
structure Ecdsa where
  VerifyingKey : Type
  Signature : Type
  fromSec1Bytes : List UInt8 → Option VerifyingKey
  fromSlice : List UInt8 → Option Signature
  verify : VerifyingKey → List UInt8 → Signature → Bool

/-- The key with an identifier: the arms of the two matches that the macro
generates. -/
def adminKey (id : UInt8) : Option AdminKey := adminKeys.find? fun key => key.id == id

def keyExists (id : UInt8) : Bool := (adminKey id).isSome

variable (ecdsa : Ecdsa)

def keyPerms (id : UInt8) (challenge sigBytes : List UInt8) : Handler StatusCode JWTAdmin :=
  match adminKey id with
  | some key =>
      match ecdsa.fromSec1Bytes (hex key.publicKey) with
      | none => Handler.panic .publicKey
      | some pubkey =>
          match ecdsa.fromSlice sigBytes with
          | some sig =>
              if ecdsa.verify pubkey challenge sig then .ok key.admin
              else Handler.fail .unauthorized
          | none => Handler.fail .badRequest
  | none => Handler.fail .internalServerError

variable (signer : Signer)

/-- `random` is the answer of `getrandom::fill`. -/
def initiateChallenge (now : Time) (random : Option (Vector UInt8 32)) (id : UInt8) :
    Handler StatusCode Token :=
  if !keyExists id then Handler.fail .notFound
  else
    match random with
    | none => Handler.fail .internalServerError
    | some bytes =>
        let challenge : JWTChallenge := ⟨Base64.encode bytes.toList, id⟩
        authenticate signer challenge (fromSecs 10) now

def finishChallenge (now : Time) (jwtChallenge : JWTChallenge) (r s : String) :
    Handler StatusCode Token :=
  match Base64.decode r, Base64.decode s with
  | some r, some s => do
      let challenge ←
        Handler.unwrap .decodeChallenge (Base64.decode jwtChallenge.challenge)
      let admin ← keyPerms ecdsa jwtChallenge.id challenge (r ++ s)
      authenticate signer admin (fromMins 30) now
  | _, _ => Handler.fail .badRequest

/-! ## What the handlers mint -/

theorem adminKey_id {id : UInt8} {key : AdminKey} (hfound : adminKey id = some key) :
    key.id = id := by
  simpa using List.find?_some hfound

/-- A signature verifies under the public key with an identifier. -/
def Verifies (id : UInt8) (challenge sigBytes : List UInt8) : Prop :=
  ∃ key pubkey sig, adminKey id = some key ∧
    ecdsa.fromSec1Bytes (hex key.publicKey) = some pubkey ∧
    ecdsa.fromSlice sigBytes = some sig ∧ ecdsa.verify pubkey challenge sig = true

variable {ecdsa signer}

theorem keyPerms_eq_ok {id : UInt8} {challenge sigBytes : List UInt8} {admin : JWTAdmin}
    (hperms : keyPerms ecdsa id challenge sigBytes = .ok admin) :
    (∃ key, adminKey id = some key ∧ admin = key.admin) ∧
      Verifies ecdsa id challenge sigBytes := by
  unfold keyPerms at hperms
  split at hperms
  · rename_i key hkey
    split at hperms
    · cases hperms
    · rename_i pubkey hpubkey
      split at hperms
      · rename_i sig hsig
        split at hperms
        · rename_i hverified
          exact ⟨⟨key, hkey, (Except.ok.inj hperms).symm⟩,
            ⟨key, pubkey, sig, hkey, hpubkey, hsig, hverified⟩⟩
        · cases hperms
      · cases hperms
  · cases hperms

/-- Only an identifier that no key has is an internal error. -/
theorem keyPerms_eq_error {id : UInt8} {challenge sigBytes : List UInt8}
    {abort : Abort StatusCode} (hexists : keyExists id = true)
    (hrefused : keyPerms ecdsa id challenge sigBytes = .error abort) :
    abort = .panic .publicKey ∨ abort = .error .unauthorized ∨
      abort = .error .badRequest := by
  obtain ⟨key, hkey⟩ := Option.isSome_iff_exists.mp hexists
  unfold keyPerms at hrefused
  rw [hkey] at hrefused
  dsimp only at hrefused
  split at hrefused
  · exact .inl (Except.error.inj hrefused).symm
  · split at hrefused
    · split at hrefused
      · cases hrefused
      · exact .inr (.inl (Except.error.inj hrefused).symm)
    · exact .inr (.inr (Except.error.inj hrefused).symm)

/-- A challenge token holds 32 encoded bytes and the identifier of a key. -/
theorem initiateChallenge_eq_ok {now : Time} {random : Option (Vector UInt8 32)}
    {id : UInt8} {token : Token}
    (hminted : initiateChallenge signer now random id = .ok token) :
    ∃ bytes : Vector UInt8 32, random = some bytes ∧ keyExists id = true ∧
      token.key = signer.keys.challengeKey ∧
      token.claims.custom = .challenge ⟨Base64.encode bytes.toList, id⟩ ∧
      token.Genuine signer.jwt := by
  unfold initiateChallenge at hminted
  split at hminted
  · cases hminted
  · rename_i hexists
    split at hminted
    · cases hminted
    · rename_i bytes
      have hproduced := authenticate_eq_ok hminted
      refine ⟨bytes, rfl, by simpa using hexists, hproduced.1, ?_, hproduced.2.2⟩
      rw [hproduced.2.1]
      rfl

/-- A session is minted for a signature that verifies. -/
theorem finishChallenge_eq_ok {now : Time} {jwtChallenge : JWTChallenge} {r s : String}
    {token : Token}
    (hminted : finishChallenge ecdsa signer now jwtChallenge r s = .ok token) :
    ∃ rBytes sBytes challenge key, Base64.decode r = some rBytes ∧
      Base64.decode s = some sBytes ∧
      Base64.decode jwtChallenge.challenge = some challenge ∧
      Verifies ecdsa jwtChallenge.id challenge (rBytes ++ sBytes) ∧
      adminKey jwtChallenge.id = some key ∧
      token.key = signer.keys.adminKey ∧ token.claims.custom = .admin key.admin ∧
      token.Genuine signer.jwt := by
  unfold finishChallenge at hminted
  split at hminted
  · rename_i rBytes sBytes hr hs
    obtain ⟨challenge, hchallenge, hminted⟩ := Handler.bind_eq_ok.mp hminted
    obtain ⟨admin, hadmin, hminted⟩ := Handler.bind_eq_ok.mp hminted
    have hperms := keyPerms_eq_ok hadmin
    obtain ⟨⟨key, hkey, rfl⟩, hverifies⟩ := hperms
    have hproduced := authenticate_eq_ok hminted
    refine ⟨rBytes, sBytes, challenge, key, hr, hs, Handler.unwrap_eq_ok.mp hchallenge,
      hverifies, hkey, hproduced.1, ?_, hproduced.2.2⟩
    rw [hproduced.2.1]
    rfl
  · cases hminted

/-- How `finish_challenge` ends otherwise, on a token that `initiate_challenge`
can have minted. -/
theorem finishChallenge_eq_error {now : Time} {jwtChallenge : JWTChallenge} {r s : String}
    {bytes : List UInt8} {abort : Abort StatusCode}
    (hdecoded : Base64.decode jwtChallenge.challenge = some bytes)
    (hexists : keyExists jwtChallenge.id = true)
    (hrefused : finishChallenge ecdsa signer now jwtChallenge r s = .error abort) :
    abort ≠ .panic .decodeChallenge ∧ abort ≠ .error .internalServerError := by
  have hcases : abort = .error .badRequest ∨ abort = .panic .publicKey ∨
      abort = .error .unauthorized ∨ abort = .panic .authenticate := by
    unfold finishChallenge at hrefused
    rw [hdecoded] at hrefused
    split at hrefused
    · cases Handler.bind_eq_error.mp hrefused with
      | inl hunwrap => cases hunwrap
      | inr hrest =>
          obtain ⟨challenge, _, hrest⟩ := hrest
          cases Handler.bind_eq_error.mp hrest with
          | inl hperms =>
              have hkey := keyPerms_eq_error hexists hperms
              tauto
          | inr hproduced =>
              obtain ⟨admin, _, hproduced⟩ := hproduced
              exact .inr (.inr (.inr (authenticate_eq_error hproduced)))
    · exact .inl (Except.error.inj hrefused).symm
  rcases hcases with rfl | rfl | rfl | rfl <;> exact ⟨nofun, nofun⟩

end ScdtServer.Auth
