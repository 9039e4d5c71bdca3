import Mathlib

/-!
# How the handlers of the API end

A handler answers with a value or with an error, or it panics.  The arguments
that the server's surroundings decide (clock, random numbers, services) are
ordinary parameters of the handlers.
-/

namespace ScdtServer.Http

inductive StatusCode
  | ok
  | created
  | badRequest
  | unauthorized
  | forbidden
  | notFound
  | conflict
  | internalServerError
  deriving DecidableEq

/-- The places at which a handler can panic. -/
inductive Panic
  /-- `expect("use the macro correctly")` on a public key of `admin_auth!`. -/
  | publicKey
  /-- The challenge of a verified token is not base64. -/
  | decodeChallenge
  /-- A token could not be produced. -/
  | authenticate
  /-- No connection could be had from the pool. -/
  | poolConnection
  /-- `ctfs::list` unwraps the result of its query. -/
  | queryResult
  /-- A date does not convert. -/
  | dateConversion
  /-- `expect("db constraints should guarentee this never panics")`. -/
  | categoryType
  /-- One of the `assert_eq!` on the two port arrays. -/
  | portArrays
  /-- The configuration that challd sent is not UTF-8. -/
  | configUtf8
  deriving DecidableEq

/-- How a handler ends when it does not return a value. -/
inductive Abort (E : Type)
  | error (error : E)
  | panic (site : Panic)
  deriving DecidableEq

/-- A handler of the type `Result<A, E>`. -/
abbrev Handler (E A : Type) := Except (Abort E) A

namespace Handler

variable {E A : Type}

def fail (error : E) : Handler E A := .error (.error error)

def panic (site : Panic) : Handler E A := .error (.panic site)

theorem ok_ne_fail {value : A} {error : E} : (.ok value : Handler E A) ≠ fail error := by
  intro hsame
  cases hsame

theorem fail_ne {left right : E} (hne : left ≠ right) :
    (fail left : Handler E A) ≠ fail right := by
  intro hsame
  cases hsame
  exact hne rfl

/-- Rust's `unwrap` or `expect` at a given place. -/
def unwrap (site : Panic) : Option A → Handler E A
  | some value => .ok value
  | none => panic site

@[simp]
theorem unwrap_some (site : Panic) (value : A) :
    (unwrap site (some value) : Handler E A) = .ok value := rfl

@[simp]
theorem unwrap_none (site : Panic) :
    (unwrap site none : Handler E A) = panic site := rfl

theorem unwrap_eq_ok {site : Panic} {option : Option A} {value : A} :
    (unwrap site option : Handler E A) = .ok value ↔ option = some value := by
  cases option with
  | none => constructor <;> nofun
  | some found =>
      constructor
      · intro hok
        rw [Except.ok.inj hok]
      · intro hsome
        rw [Option.some.inj hsome]
        rfl

/-- A sequence that returns has returned at its first part. -/
theorem bind_eq_ok {B : Type} {first : Handler E A} {rest : A → Handler E B} {value : B} :
    (first >>= rest) = .ok value ↔ ∃ middle, first = .ok middle ∧ rest middle = .ok value := by
  cases first with
  | error abort =>
      constructor
      · nofun
      · intro ⟨middle, hfirst, _⟩
        cases hfirst
  | ok middle =>
      constructor
      · intro hrest
        exact ⟨middle, rfl, hrest⟩
      · intro ⟨found, hfirst, hrest⟩
        rw [Except.ok.inj hfirst]
        exact hrest

/-- A sequence that aborts does so in one of its parts. -/
theorem bind_eq_error {B : Type} {first : Handler E A} {rest : A → Handler E B}
    {abort : Abort E} :
    (first >>= rest) = .error abort ↔
      first = .error abort ∨ ∃ middle, first = .ok middle ∧ rest middle = .error abort := by
  cases first with
  | error found =>
      constructor
      · intro herror
        exact .inl (congrArg Except.error (Except.error.inj herror))
      · intro hcases
        cases hcases with
        | inl hfirst => exact congrArg Except.error (Except.error.inj hfirst)
        | inr hrest =>
            obtain ⟨middle, hfirst, _⟩ := hrest
            cases hfirst
  | ok middle =>
      constructor
      · intro hrest
        exact .inr ⟨middle, rfl, hrest⟩
      · intro hcases
        cases hcases with
        | inl hfirst => cases hfirst
        | inr hrest =>
            obtain ⟨found, hfirst, hrest⟩ := hrest
            rw [Except.ok.inj hfirst]
            exact hrest

/-- A conversion that succeeds on every element succeeds on the list. -/
theorem mapM_eq_ok {B : Type} {convert : A → Handler E B} {value : A → B} {entries : List A}
    (hconvert : ∀ entry ∈ entries, convert entry = .ok (value entry)) :
    entries.mapM convert = .ok (entries.map value) := by
  induction entries with
  | nil => rfl
  | cons entry rest ih =>
      have hrest := ih fun other hmem => hconvert other (List.mem_cons_of_mem _ hmem)
      rw [List.mapM_cons, hconvert entry List.mem_cons_self, hrest]
      rfl

end Handler

/-! ## Headers and time -/

/-- Milliseconds. -/
abbrev Time := ℕ

def fromSecs (seconds : ℕ) : Time := 1000 * seconds

def fromMins (minutes : ℕ) : Time := fromSecs (60 * minutes)

def fromHours (hours : ℕ) : Time := fromMins (60 * hours)

structure HeaderValue where
  bytes : List UInt8
  deriving DecidableEq

def isVisibleAscii (byte : UInt8) : Bool :=
  decide (32 ≤ byte ∧ byte < 127) || byte == 9

/-- Only a value of visible ASCII characters is a string. -/
def HeaderValue.toStr (value : HeaderValue) : Option String :=
  if value.bytes.all isVisibleAscii then
    some (String.ofList (value.bytes.map fun byte => Char.ofNat byte.toNat))
  else none

/-- The headers in which tokens are presented. -/
inductive HeaderName
  | challenge
  | adminJwt
  | userJwt
  deriving DecidableEq

abbrev Headers := HeaderName → Option HeaderValue

end ScdtServer.Http
