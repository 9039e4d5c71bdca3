import ScdtServer.Core.ByteReader
import ScdtServer.CtfArchive.Models

/-!
# The client of challd

`start_container` writes one message and reads the answer.  Lengths and counts
are narrowed to a byte without a check.
-/

namespace ScdtServer.ChalldClient

open ScdtServer.ByteReader
open ScdtServer.Models

def responseOk : UInt8 := 0

inductive ChalldError
  | io
  | responseCode (code : UInt8)
  deriving DecidableEq

inductive StartMode
  | guest (guestCode : GuestCode)
  | demo
  deriving DecidableEq

def StartMode.modeId : StartMode → UInt8
  | .guest _ => 0
  | .demo => 1

/-- `matches!(start_mode, StartMode::Guest(_))`. -/
def StartMode.isGuest : StartMode → Bool
  | .guest _ => true
  | .demo => false

/-- `From<GuestCode> for StartMode`. -/
def StartMode.ofGuestCode (guestCode : GuestCode) : StartMode := .guest guestCode

def guestCodeBytes : StartMode → List UInt8
  | .guest guestCode => leBytes 4 guestCode.code.toNat
  | .demo => []

/-- The type byte of a port mapping. -/
def portTypeByte : PortType → UInt8
  | .tcp => 0
  | .udp => 1

def portMappingBytes (mapping : UInt16 × UInt16 × PortType) : List UInt8 :=
  leBytes 2 mapping.1.toNat ++ leBytes 2 mapping.2.1.toNat ++ [portTypeByte mapping.2.2]

/-- The message of `start_container`. -/
def message (imageName : String) (portMappings : List (UInt16 × UInt16 × PortType))
    (startMode : StartMode) : List UInt8 :=
  startMode.modeId :: guestCodeBytes startMode ++
    UInt8.ofNat (utf8Bytes imageName).length :: utf8Bytes imageName ++
      UInt8.ofNat portMappings.length :: portMappings.flatMap portMappingBytes

/-- What `start_container` makes of the answer.  A configuration that is not
UTF-8 panics, which is `none` here. -/
def readResponse (startMode : StartMode) : Reader (Option (Except ChalldError String)) := do
  let some resp ← readU8 | return some (.error .io)
  if resp = responseOk then
    if startMode.isGuest then
      let some len ← readU16Le | return some (.error .io)
      let some buf ← readExact len.toNat | return some (.error .io)
      return (fromUtf8 buf).map .ok
    else return some (.ok "")
  else return some (.error (.responseCode resp))

/-! ## Reading the answers -/

/-- An OK with a configuration, in guest mode. -/
theorem reads_guestOk {startMode : StartMode} {text : String}
    (hguest : startMode.isGuest = true) (hlength : (utf8Bytes text).length < 65536) :
    Reads (readResponse startMode)
      (responseOk :: leBytes 2 (utf8Bytes text).length ++ utf8Bytes text)
      (some (.ok text)) := by
  have hlen : (UInt16.ofNat (utf8Bytes text).length).toNat = (utf8Bytes text).length :=
    UInt16.toNat_ofNat_of_lt' hlength
  apply (reads_readU8 responseOk).bind
  simp only [hguest, if_true]
  have hfield := reads_readU16Le (UInt16.ofNat (utf8Bytes text).length)
  rw [hlen] at hfield
  apply hfield.bind
  apply (reads_readExact hlen.symm).bind_done
  simp

/-- An OK in demo mode. -/
theorem reads_demoOk {startMode : StartMode} (hdemo : startMode.isGuest = false) :
    Reads (readResponse startMode) [responseOk] (some (.ok "")) := by
  apply (reads_readU8 responseOk).bind_done
  simp [hdemo]

/-- An error code. -/
theorem reads_code {startMode : StartMode} {code : UInt8} (hcode : code ≠ responseOk) :
    Reads (readResponse startMode) [code] (some (.error (.responseCode code))) := by
  apply (reads_readU8 code).bind_done
  simp [hcode]

/-- The daemon closes the stream without an answer. -/
theorem run_closed_unanswered (startMode : StartMode) :
    (readResponse startMode).run [] true = .finished (some (.error .io)) [] := by
  rfl

theorem givesUp_readResponse (startMode : StartMode) :
    (readResponse startMode).GivesUp (· = some (.error .io)) := by
  apply (givesUp_map_readExact 1 _).bind
  · rintro _ rfl
    rfl
  intro resp
  cases resp with
  | none => trivial
  | some resp =>
      dsimp only
      split
      · split
        · apply (givesUp_map_readExact 2 _).bind
          · rintro _ rfl
            rfl
          intro len
          cases len with
          | none => trivial
          | some len =>
              apply (givesUp_readExact len.toNat).bind
              · rintro _ rfl
                rfl
              intro buf
              cases buf with
              | none => trivial
              | some buf => trivial
        · trivial
      · trivial

end ScdtServer.ChalldClient
