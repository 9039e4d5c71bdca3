import ScdtServer.CtfArchive.Http
import ScdtServer.CtfArchive.Models

/-!
# Tokens

Three kinds of token are signed with three keys and presented in three headers.
What jwt_simple does with a key is a parameter.
-/

namespace ScdtServer.Jwt

open ScdtServer.Http
open ScdtServer.Models

structure JWTAdmin where
  id : UInt8
  canDocker : Bool
  canCreate : Bool
  canInvite : Bool
  canHostDemo : Bool
  deriving DecidableEq

structure JWTChallenge where
  challenge : String
  id : UInt8
  deriving DecidableEq

structure JWTUser where
  code : GuestCode
  deriving DecidableEq

/-- The custom claims of a token: an object with the fields of one of the three
structures.  None of the three has all the fields of another. -/
inductive CustomClaims
  | admin (claims : JWTAdmin)
  | challenge (claims : JWTChallenge)
  | user (claims : JWTUser)
  deriving DecidableEq

structure JWTClaims where
  custom : CustomClaims
  issuedAt : Time
  expiresAt : Time
  deriving DecidableEq

/-- `Claims::with_custom_claims`. -/
def withCustomClaims (custom : CustomClaims) (validFor now : Time) : JWTClaims where
  custom := custom
  issuedAt := now
  expiresAt := now + validFor

structure HS256Key where
  secret : List UInt8
  deriving DecidableEq

/-- What jwt_simple makes of a key. -/
structure JwtSimple where
  authenticate : HS256Key → JWTClaims → Option String
  verifyToken : HS256Key → Time → String → Option JWTClaims

structure JWTKeys where
  adminKey : HS256Key
  challengeKey : HS256Key
  userKey : HS256Key

/-- The trait `KeyedJWT` with the arguments of `impl_jwt!` and the claims that a
value is serialised to. -/
class KeyedJWT (T : Type) where
  key : JWTKeys → HS256Key
  header : HeaderName
  serialize : T → CustomClaims
  deserialize : CustomClaims → Option T
  deserialize_eq_some : ∀ custom value,
    deserialize custom = some value ↔ custom = serialize value

instance : KeyedJWT JWTChallenge where
  key := JWTKeys.challengeKey
  header := .challenge
  serialize := .challenge
  deserialize
    | .challenge claims => some claims
    | _ => none
  deserialize_eq_some custom value := by cases custom <;> simp

instance : KeyedJWT JWTAdmin where
  key := JWTKeys.adminKey
  header := .adminJwt
  serialize := .admin
  deserialize
    | .admin claims => some claims
    | _ => none
  deserialize_eq_some custom value := by cases custom <;> simp

instance : KeyedJWT JWTUser where
  key := JWTKeys.userKey
  header := .userJwt
  serialize := .user
  deserialize
    | .user claims => some claims
    | _ => none
  deserialize_eq_some custom value := by cases custom <;> simp

/-- The server's side of the tokens: the library and the keys of this process. -/
structure Signer where
  jwt : JwtSimple
  keys : JWTKeys

/-- A token that the server has produced. -/
structure Token where
  key : HS256Key
  claims : JWTClaims
  text : String
  deriving DecidableEq

section

variable (signer : Signer) {T : Type} [KeyedJWT T]

/-- `JWTKeys::authenticate` with the `unwrap` that all its callers put on it. -/
def authenticate {E : Type} (value : T) (validFor now : Time) : Handler E Token := do
  let key := KeyedJWT.key T signer.keys
  let claims := withCustomClaims (KeyedJWT.serialize value) validFor now
  let text ← Handler.unwrap .authenticate (signer.jwt.authenticate key claims)
  return ⟨key, claims, text⟩

/-- The token that a request presents for `T`. -/
def presented (T : Type) [KeyedJWT T] (headers : Headers) : Option String :=
  (headers (KeyedJWT.header T)).bind HeaderValue.toStr

/-- `verify_token::<T>` under the key of `T`. -/
def verify (T : Type) [KeyedJWT T] (now : Time) (text : String) : Option T :=
  (signer.jwt.verifyToken (KeyedJWT.key T signer.keys) now text).bind fun claims =>
    KeyedJWT.deserialize claims.custom

/-- The extractor that `impl_jwt!` implements for `T`. -/
def fromRequestParts (T : Type) [KeyedJWT T] (now : Time) (headers : Headers) :
    Except StatusCode T :=
  match presented T headers with
  | some jwtHeader =>
      match verify signer T now jwtHeader with
      | some claims => .ok claims
      | none => .error .unauthorized
  | none => .error .unauthorized

variable {signer}

/-- What the extractor hands out was in a verified token. -/
theorem fromRequestParts_eq_ok {now : Time} {headers : Headers} {value : T}
    (hextracted : fromRequestParts signer T now headers = .ok value) :
    ∃ text claims, presented T headers = some text ∧
      signer.jwt.verifyToken (KeyedJWT.key T signer.keys) now text = some claims ∧
      claims.custom = KeyedJWT.serialize value := by
  unfold fromRequestParts at hextracted
  split at hextracted
  · rename_i text hpresented
    split at hextracted
    · rename_i found hverified
      obtain rfl : found = value := Except.ok.inj hextracted
      obtain ⟨claims, hclaims, hdeserialized⟩ := Option.bind_eq_some_iff.mp hverified
      exact ⟨text, claims, hpresented, hclaims,
        (KeyedJWT.deserialize_eq_some _ _).mp hdeserialized⟩
    · cases hextracted
  · cases hextracted

/-- A refusal of the extractor is always the same. -/
theorem fromRequestParts_eq_error {now : Time} {headers : Headers} {status : StatusCode}
    (hrefused : fromRequestParts signer T now headers = .error status) :
    status = .unauthorized := by
  unfold fromRequestParts at hrefused
  split at hrefused
  · split at hrefused
    · cases hrefused
    · exact (Except.error.inj hrefused).symm
  · exact (Except.error.inj hrefused).symm

/-- The library has produced a token's text from its key and its claims. -/
def Token.Genuine (jwt : JwtSimple) (token : Token) : Prop :=
  jwt.authenticate token.key token.claims = some token.text

/-- A token that was produced holds the value it was produced for. -/
theorem authenticate_eq_ok {E : Type} {value : T} {validFor now : Time} {token : Token}
    (hproduced : (authenticate signer value validFor now : Handler E Token) = .ok token) :
    token.key = KeyedJWT.key T signer.keys ∧
      token.claims = withCustomClaims (KeyedJWT.serialize value) validFor now ∧
      token.Genuine signer.jwt := by
  obtain ⟨text, htext, hreturned⟩ := Handler.bind_eq_ok.mp hproduced
  obtain rfl := Except.ok.inj hreturned
  exact ⟨rfl, rfl, Handler.unwrap_eq_ok.mp htext⟩

/-- Producing a token can only fail as a whole. -/
theorem authenticate_eq_error {E : Type} {value : T} {validFor now : Time} {abort : Abort E}
    (hfailed : authenticate signer value validFor now = .error abort) :
    abort = .panic .authenticate := by
  cases Handler.bind_eq_error.mp hfailed with
  | inl hunwrap =>
      cases htext : signer.jwt.authenticate (KeyedJWT.key T signer.keys)
          (withCustomClaims (KeyedJWT.serialize value) validFor now) with
      | none =>
          rw [htext] at hunwrap
          exact (Except.error.inj hunwrap).symm
      | some text =>
          rw [htext] at hunwrap
          cases hunwrap
  | inr hreturned =>
      obtain ⟨text, _, hreturned⟩ := hreturned
      cases hreturned

end

end ScdtServer.Jwt
