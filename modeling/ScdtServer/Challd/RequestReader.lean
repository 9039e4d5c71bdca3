import ScdtServer.Challd.Ports

/-!
# The daemon's request reader

A connection sends one request: a mode, in guest mode a four-byte guest code, a
length-prefixed image name, and the port section.  The reader answers each
defect with the result code of the part it occurs in.
-/

namespace ScdtServer.RequestReader

open ScdtServer.ByteReader
open ScdtServer.Ports

def resultOk : UInt8 := 0
def resultMalformedRequest : UInt8 := 1
def resultInvalidPort : UInt8 := 2
def resultBusy : UInt8 := 3

def modeGuest : UInt8 := 0
def modeDemo : UInt8 := 1

inductive Mode
  | guestRequest (guestCode : UInt32)
  | demo
  deriving DecidableEq

/-- What the connection task has decoded when it starts to act. -/
structure Request where
  mode : Mode
  imageName : String
  ports : PortMappings
  deriving DecidableEq

/-- Each `handle_error!` of the source is a `let some … | return`: the error
code is what the connection is answered before it is dropped. -/
def readMode : Reader (Except UInt8 Mode) := do
  let some mode ← readU8 | return .error resultMalformedRequest
  if mode = modeGuest then
    let some guestCode ← readU32Le | return .error resultMalformedRequest
    return .ok (.guestRequest guestCode)
  else if mode = modeDemo then return .ok .demo
  else return .error resultMalformedRequest

def readImageName : Reader (Except UInt8 String) := do
  let some len ← readU8 | return .error resultMalformedRequest
  let some name ← readExact len.toNat | return .error resultMalformedRequest
  match fromUtf8 name with
  | some imageName => return .ok imageName
  | none => return .error resultMalformedRequest

def readHeader : Reader (Except UInt8 (Mode × String)) := do
  match ← readMode with
  | .error code => return .error code
  | .ok mode =>
      match ← readImageName with
      | .error code => return .error code
      | .ok imageName => return .ok (mode, imageName)

def readRequest : Reader (Except UInt8 Request) := do
  match ← readHeader with
  | .error code => return .error code
  | .ok (mode, imageName) =>
      let some ports ← read | return .error resultInvalidPort
      return .ok ⟨mode, imageName, ports⟩

/-! ## The grammar of requests -/

def Mode.bytes : Mode → List UInt8
  | .guestRequest guestCode => modeGuest :: leBytes 4 guestCode.toNat
  | .demo => [modeDemo]

def imageNameBytes (imageName : String) : List UInt8 :=
  UInt8.ofNat (utf8Bytes imageName).length :: utf8Bytes imageName

/-- Everything in front of the port section. -/
def headerBytes (mode : Mode) (imageName : String) : List UInt8 :=
  mode.bytes ++ imageNameBytes imageName

def Request.bytes (request : Request) : List UInt8 :=
  headerBytes request.mode request.imageName ++ portSection request.ports

/-- The requests that have an encoding: the name's length fits its byte and
there are fewer than ten mappings. -/
structure Request.Encodable (request : Request) : Prop where
  name_lt : (utf8Bytes request.imageName).length < 256
  ports_lt : request.ports.length < 10

theorem reads_mode (mode : Mode) : Reads readMode mode.bytes (.ok mode) := by
  cases mode with
  | guestRequest guestCode =>
      apply (reads_readU8 modeGuest).bind
      exact (reads_readU32Le guestCode).bind_done rfl
  | demo => exact (reads_readU8 modeDemo).bind_done rfl

theorem reads_imageName {imageName : String}
    (hlength : (utf8Bytes imageName).length < 256) :
    Reads readImageName (imageNameBytes imageName) (.ok imageName) := by
  have hlen : (UInt8.ofNat (utf8Bytes imageName).length).toNat =
      (utf8Bytes imageName).length := by
    rw [UInt8.toNat_ofNat']
    omega
  apply (reads_readU8 (UInt8.ofNat (utf8Bytes imageName).length)).bind
  apply (reads_readExact hlen.symm).bind_done
  simp

theorem reads_header (mode : Mode) {imageName : String}
    (hlength : (utf8Bytes imageName).length < 256) :
    Reads readHeader (headerBytes mode imageName) (.ok (mode, imageName)) := by
  apply (reads_mode mode).bind
  exact (reads_imageName hlength).bind_done rfl

theorem reads_request {request : Request} (hencodable : request.Encodable) :
    Reads readRequest request.bytes (.ok request) := by
  apply (reads_header request.mode hencodable.name_lt).bind
  exact (reads_portSection hencodable.ports_lt).bind_done rfl

/-! ## What the reader accepts -/

theorem readMode_eq_ok {input rest : List UInt8} {closed : Bool} {mode : Mode}
    (hrun : readMode.run input closed = .finished (.ok mode) rest) :
    input = mode.bytes ++ rest := by
  rcases Reader.run_bind_eq_finished hrun with ⟨tag, middle, htag, hrun⟩
  cases tag with
  | none => simp at hrun
  | some tag =>
      rw [readU8_eq_some htag]
      by_cases hguest : tag = modeGuest
      · simp only [if_pos hguest] at hrun
        rcases Reader.run_bind_eq_finished hrun with ⟨code, last, hcode, hdone⟩
        cases code with
        | none => simp at hdone
        | some code =>
            cases hdone
            rw [readU32Le_eq_some hcode, hguest]
            rfl
      · by_cases hdemo : tag = modeDemo
        · simp only [if_neg hguest, if_pos hdemo] at hrun
          cases hrun
          rw [hdemo]
          rfl
        · simp [if_neg hguest, if_neg hdemo] at hrun

theorem readImageName_eq_ok {input rest : List UInt8} {closed : Bool}
    {imageName : String}
    (hrun : readImageName.run input closed = .finished (.ok imageName) rest) :
    (utf8Bytes imageName).length < 256 ∧ input = imageNameBytes imageName ++ rest := by
  rcases Reader.run_bind_eq_finished hrun with ⟨len, afterLen, hlen, hrun⟩
  cases len with
  | none => simp at hrun
  | some len =>
      rcases Reader.run_bind_eq_finished hrun with ⟨name, last, hname, hdone⟩
      cases name with
      | none => simp at hdone
      | some name =>
          cases htext : fromUtf8 name with
          | none => simp [htext] at hdone
          | some text =>
              simp only [htext, Reader.pure_eq_done, Reader.run_done] at hdone
              cases hdone
              rcases readExact_eq_some hname with ⟨hlength, hinput⟩
              rw [fromUtf8_eq_some_iff] at htext
              rw [htext] at hlength hinput
              refine ⟨?_, ?_⟩
              · rw [hlength]
                exact len.toNat_lt
              · rw [readU8_eq_some hlen, hinput, imageNameBytes, hlength]
                simp

theorem readHeader_eq_ok {input rest : List UInt8} {closed : Bool} {mode : Mode}
    {imageName : String}
    (hrun : readHeader.run input closed = .finished (.ok (mode, imageName)) rest) :
    (utf8Bytes imageName).length < 256 ∧ input = headerBytes mode imageName ++ rest := by
  rcases Reader.run_bind_eq_finished hrun with ⟨mode', afterMode, hmode, hrun⟩
  cases mode' with
  | error code => simp at hrun
  | ok mode' =>
      rcases Reader.run_bind_eq_finished hrun with ⟨name, last, hname, hdone⟩
      cases name with
      | error code => simp at hdone
      | ok name =>
          cases hdone
          rcases readImageName_eq_ok hname with ⟨hlength, hnameBytes⟩
          refine ⟨hlength, ?_⟩
          rw [readMode_eq_ok hmode, hnameBytes, headerBytes, List.append_assoc]

/-- An accepted request is encodable, and its encoding is exactly what was
consumed. -/
theorem readRequest_eq_ok {input rest : List UInt8} {closed : Bool} {request : Request}
    (hrun : readRequest.run input closed = .finished (.ok request) rest) :
    request.Encodable ∧ input = request.bytes ++ rest := by
  rcases Reader.run_bind_eq_finished hrun with ⟨header, middle, hheader, hrun⟩
  cases header with
  | error code => simp at hrun
  | ok header =>
      rcases Reader.run_bind_eq_finished hrun with ⟨ports, last, hports, hdone⟩
      cases ports with
      | none => simp at hdone
      | some ports =>
          cases hdone
          rcases readHeader_eq_ok hheader with ⟨hlength, hheaderBytes⟩
          rcases read_eq_some hports with ⟨hcount, hportBytes⟩
          refine ⟨⟨hlength, hcount⟩, ?_⟩
          rw [hheaderBytes, hportBytes, Request.bytes, List.append_assoc]

/-! ## What the reader refuses -/

/-- The reader never reports any other error than these two. -/
theorem readMode_eq_error {input rest : List UInt8} {closed : Bool} {code : UInt8}
    (hrun : readMode.run input closed = .finished (.error code) rest) :
    code = resultMalformedRequest := by
  rcases Reader.run_bind_eq_finished hrun with ⟨tag, middle, htag, hrun⟩
  cases tag with
  | none =>
      cases hrun
      rfl
  | some tag =>
      by_cases hguest : tag = modeGuest
      · simp only [if_pos hguest] at hrun
        rcases Reader.run_bind_eq_finished hrun with ⟨read, last, hread, hdone⟩
        cases read <;> cases hdone
        rfl
      · by_cases hdemo : tag = modeDemo
        · simp [if_neg hguest, if_pos hdemo] at hrun
        · simp only [if_neg hguest, if_neg hdemo] at hrun
          cases hrun
          rfl

theorem readImageName_eq_error {input rest : List UInt8} {closed : Bool} {code : UInt8}
    (hrun : readImageName.run input closed = .finished (.error code) rest) :
    code = resultMalformedRequest := by
  rcases Reader.run_bind_eq_finished hrun with ⟨len, afterLen, hlen, hrun⟩
  cases len with
  | none =>
      cases hrun
      rfl
  | some len =>
      rcases Reader.run_bind_eq_finished hrun with ⟨name, last, hname, hdone⟩
      cases name with
      | none =>
          cases hdone
          rfl
      | some name =>
          cases htext : fromUtf8 name with
          | none =>
              simp only [htext, Reader.pure_eq_done, Reader.run_done] at hdone
              cases hdone
              rfl
          | some text => simp [htext] at hdone

theorem readHeader_eq_error {input rest : List UInt8} {closed : Bool} {code : UInt8}
    (hrun : readHeader.run input closed = .finished (.error code) rest) :
    code = resultMalformedRequest := by
  rcases Reader.run_bind_eq_finished hrun with ⟨mode, afterMode, hmode, hrun⟩
  cases mode with
  | error code' =>
      cases hrun
      exact readMode_eq_error hmode
  | ok mode =>
      rcases Reader.run_bind_eq_finished hrun with ⟨name, last, hname, hdone⟩
      cases name <;> cases hdone
      exact readImageName_eq_error hname

/-- The input starts with a well-formed header. -/
def HasHeader (input : List UInt8) : Prop :=
  ∃ mode imageName rest, (utf8Bytes imageName).length < 256 ∧
    input = headerBytes mode imageName ++ rest

/-- A refused request is malformed when its input has no header to cut off, and
has an invalid port section otherwise. -/
theorem readRequest_eq_error {input rest : List UInt8} {closed : Bool} {code : UInt8}
    (hrun : readRequest.run input closed = .finished (.error code) rest) :
    (code = resultMalformedRequest ∧ ¬ HasHeader input) ∨
      (code = resultInvalidPort ∧ HasHeader input) := by
  rcases Reader.run_bind_eq_finished hrun with ⟨header, middle, hheader, hrun⟩
  cases header with
  | error code' =>
      cases hrun
      refine .inl ⟨readHeader_eq_error hheader, ?_⟩
      intro hhas
      rcases hhas with ⟨mode, imageName, tail, hlength, hinput⟩
      rw [hinput, reads_header mode hlength] at hheader
      cases hheader
  | ok header =>
      rcases readHeader_eq_ok hheader with ⟨hlength, hinput⟩
      refine .inr ⟨?_, header.1, header.2, middle, hlength, hinput⟩
      rcases Reader.run_bind_eq_finished hrun with ⟨ports, last, hports, hdone⟩
      cases ports <;> cases hdone
      rfl

/-! ## Where the reader waits -/

/-- The layout of a request, whatever bytes stand in the place of its name. -/
def frame (mode : Mode) (name : List UInt8) (ports : PortMappings) : List UInt8 :=
  mode.bytes ++ (UInt8.ofNat name.length :: name) ++ portSection ports

/-- The bytes are the beginning of a frame, but not all of it. -/
def Incomplete (input : List UInt8) : Prop :=
  ∃ (mode : Mode) (name : List UInt8) (ports : PortMappings) (more : List UInt8),
    name.length < 256 ∧ ports.length < 10 ∧ more ≠ [] ∧ frame mode name ports = input ++ more

theorem exists_mode_of_waits {input : List UInt8}
    (hrun : readMode.run input false = .waiting) :
    ∃ (mode : Mode) (more : List UInt8), more ≠ [] ∧ mode.bytes = input ++ more := by
  rcases Reader.waits_bind hrun with htag | ⟨tag, middle, htag, hrun⟩
  · have hlt := length_lt_of_waits_map htag
    rw [List.length_eq_zero_iff.mp (Nat.lt_one_iff.mp hlt)]
    exact ⟨.demo, [modeDemo], by simp, rfl⟩
  cases tag with
  | none => cases hrun
  | some tag =>
      by_cases hguest : tag = modeGuest
      · simp only [if_pos hguest] at hrun
        rcases Reader.waits_bind hrun with hcode | ⟨code, last, hcode, hdone⟩
        · obtain ⟨guestCode, more, hmore, hbytes⟩ :=
            exists_leBytes_u32 (length_lt_of_waits_map hcode)
          refine ⟨.guestRequest guestCode, more, hmore, ?_⟩
          rw [readU8_eq_some htag, Mode.bytes, hbytes, hguest]
          rfl
        · cases code <;> cases hdone
      · by_cases hdemo : tag = modeDemo
        · simp [if_neg hguest, if_pos hdemo] at hrun
        · simp [if_neg hguest, if_neg hdemo] at hrun

/-- The name is not looked at before all of it has arrived. -/
theorem exists_name_of_waits {input : List UInt8}
    (hrun : readImageName.run input false = .waiting) :
    ∃ (name more : List UInt8), name.length < 256 ∧ more ≠ [] ∧
      UInt8.ofNat name.length :: name = input ++ more := by
  rcases Reader.waits_bind hrun with hlen | ⟨len, middle, hlen, hrun⟩
  · have hlt := length_lt_of_waits_map hlen
    rw [List.length_eq_zero_iff.mp (Nat.lt_one_iff.mp hlt)]
    exact ⟨[], [0], by decide, by simp, rfl⟩
  cases len with
  | none => cases hrun
  | some len =>
      rcases Reader.waits_bind hrun with hname | ⟨name, last, hname, hdone⟩
      · obtain ⟨more, hmore, hlength⟩ := exists_completion (length_lt_of_waits hname)
        refine ⟨middle ++ more, more, ?_, hmore, ?_⟩
        · rw [hlength]
          exact len.toNat_lt
        · rw [readU8_eq_some hlen, hlength, UInt8.ofNat_toNat]
          rfl
      · cases name with
        | none => cases hdone
        | some name =>
            simp only at hdone
            split at hdone <;> cases hdone

/-- On an open stream the reader waits only for the rest of a frame. -/
theorem incomplete_of_waits {input : List UInt8}
    (hrun : readRequest.run input false = .waiting) : Incomplete input := by
  rcases Reader.waits_bind hrun with hheader | ⟨header, afterHeader, hheader, hrun⟩
  · rcases Reader.waits_bind hheader with hmode | ⟨mode, afterMode, hmode, hheader⟩
    · obtain ⟨mode, more, hmore, hbytes⟩ := exists_mode_of_waits hmode
      refine ⟨mode, [], [], more ++ [0, 0], by decide, by decide, ?_, ?_⟩
      · exact List.append_ne_nil_of_left_ne_nil hmore _
      · simp [frame, hbytes, portSection]
    cases mode with
    | error code => cases hheader
    | ok mode =>
        rw [readMode_eq_ok hmode]
        rcases Reader.waits_bind hheader with hname | ⟨name, last, hname, hdone⟩
        · obtain ⟨name, more, hlength, hmore, hbytes⟩ := exists_name_of_waits hname
          refine ⟨mode, name, [], more ++ [0], hlength, by decide, ?_, ?_⟩
          · exact List.append_ne_nil_of_left_ne_nil hmore _
          · simp [frame, hbytes, portSection]
        · cases name <;> cases hdone
  · cases header with
    | error code => cases hrun
    | ok header =>
        obtain ⟨hlength, hinput⟩ := readHeader_eq_ok hheader
        rcases Reader.waits_bind hrun with hports | ⟨ports, last, hports, hdone⟩
        · obtain ⟨ports, more, hcount, hmore, hbytes⟩ := exists_portSection_of_waits hports
          refine ⟨header.1, utf8Bytes header.2, ports, more, hlength, hcount, hmore, ?_⟩
          rw [frame, hbytes, hinput, headerBytes, imageNameBytes, List.append_assoc,
            List.append_assoc, List.append_assoc]
        · cases ports <;> cases hdone

/-! ## The end of the stream -/

/-- What a reader answers that has met the end of the stream. -/
def Refused {A : Type} (answer : Except UInt8 A) : Prop := ∃ code, answer = .error code

theorem givesUp_readMode : readMode.GivesUp Refused := by
  apply (givesUp_map_readExact 1 _).bind
  · rintro _ rfl
    exact ⟨_, rfl⟩
  intro mode
  cases mode with
  | none => trivial
  | some mode =>
      show (if mode = modeGuest then _ else _ : Reader (Except UInt8 Mode)).GivesUp _
      split_ifs
      · apply (givesUp_map_readExact 4 _).bind
        · rintro _ rfl
          exact ⟨_, rfl⟩
        · intro guestCode
          cases guestCode <;> trivial
      · trivial
      · trivial

theorem givesUp_readImageName : readImageName.GivesUp Refused := by
  apply (givesUp_map_readExact 1 _).bind
  · rintro _ rfl
    exact ⟨_, rfl⟩
  intro len
  cases len with
  | none => trivial
  | some len =>
      apply (givesUp_readExact len.toNat).bind
      · rintro _ rfl
        exact ⟨_, rfl⟩
      · intro name
        cases name with
        | none => trivial
        | some name =>
            show (match fromUtf8 name with
              | some imageName => _
              | none => _ : Reader (Except UInt8 String)).GivesUp _
            cases fromUtf8 name <;> trivial

theorem givesUp_readHeader : readHeader.GivesUp Refused := by
  apply givesUp_readMode.bind
  · rintro _ ⟨code, rfl⟩
    exact ⟨code, rfl⟩
  intro mode
  cases mode with
  | error code => trivial
  | ok mode =>
      apply givesUp_readImageName.bind
      · rintro _ ⟨code, rfl⟩
        exact ⟨code, rfl⟩
      · intro imageName
        cases imageName <;> trivial

/-- A request that the stream cuts short is refused, whatever follows. -/
theorem givesUp_readRequest : readRequest.GivesUp Refused := by
  apply givesUp_readHeader.bind
  · rintro _ ⟨code, rfl⟩
    exact ⟨code, rfl⟩
  intro header
  cases header with
  | error code => trivial
  | ok header =>
      apply givesUp_read.bind
      · rintro _ rfl
        exact ⟨_, rfl⟩
      · intro ports
        cases ports <;> trivial

/-! ## The error codes -/

/-- The two codes that the reader complains with. -/
def Complaint {A : Type} (answer : Except UInt8 A) : Prop :=
  ∀ code, answer = .error code → code = resultMalformedRequest ∨ code = resultInvalidPort

theorem complaint_ok {A : Type} (value : A) : Complaint (.ok value) := by
  intro code herror
  cases herror

theorem complaint_malformed {A : Type} :
    Complaint (.error resultMalformedRequest : Except UInt8 A) := by
  intro code herror
  cases herror
  exact .inl rfl

theorem yields_readMode : readMode.Yields Complaint := by
  apply (Reader.yields_true _).bind
  intro mode _
  cases mode with
  | none => exact complaint_malformed
  | some mode =>
      show (if mode = modeGuest then _ else _ : Reader (Except UInt8 Mode)).Yields _
      split_ifs
      · apply (Reader.yields_true _).bind
        intro guestCode _
        cases guestCode with
        | none => exact complaint_malformed
        | some guestCode => exact complaint_ok _
      · exact complaint_ok _
      · exact complaint_malformed

theorem yields_readImageName : readImageName.Yields Complaint := by
  apply (Reader.yields_true _).bind
  intro len _
  cases len with
  | none => exact complaint_malformed
  | some len =>
      apply (Reader.yields_true _).bind
      intro name _
      cases name with
      | none => exact complaint_malformed
      | some name =>
          show (match fromUtf8 name with
            | some imageName => _
            | none => _ : Reader (Except UInt8 String)).Yields _
          cases fromUtf8 name with
          | some imageName => exact complaint_ok _
          | none => exact complaint_malformed

theorem yields_readHeader : readHeader.Yields Complaint := by
  apply yields_readMode.bind
  intro mode hmode
  cases mode with
  | error code => exact fun other hother => hmode other (by cases hother; rfl)
  | ok mode =>
      apply yields_readImageName.bind
      intro imageName himageName
      cases imageName with
      | error code => exact fun other hother => himageName other (by cases hother; rfl)
      | ok imageName => exact complaint_ok _

/-- Every defect is answered with one of two codes, also when the stream ends. -/
theorem yields_readRequest : readRequest.Yields Complaint := by
  apply yields_readHeader.bind
  intro header hheader
  cases header with
  | error code => exact fun other hother => hheader other (by cases hother; rfl)
  | ok header =>
      apply (Reader.yields_true _).bind
      intro ports _
      cases ports with
      | none =>
          intro code herror
          cases herror
          exact .inr rfl
      | some ports => exact complaint_ok _

end ScdtServer.RequestReader
