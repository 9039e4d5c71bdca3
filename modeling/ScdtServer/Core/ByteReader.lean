import Mathlib

/-!
# Reading from a byte stream

A `Reader` asks for a number of bytes and continues with them, or with `none`
when the stream ends first.  `Reader.run` feeds it the bytes that have arrived
so far: on a stream that is still open a reader that wants more than there is
waits, on a closed one it is told so.

The rules at the end relate readers to encodings: `Reads` composes along
`bind`, so that a decoder is checked field by field against its encoder.
-/

namespace ScdtServer.ByteReader

inductive Reader (A : Type) : Type
  | done (value : A)
  | await (count : ℕ) (next : Option (List UInt8) → Reader A)

namespace Reader

variable {A B : Type}

protected def bind : Reader A → (A → Reader B) → Reader B
  | .done value, rest => rest value
  | .await count next, rest => .await count fun bytes => (next bytes).bind rest

instance : Monad Reader where
  pure := .done
  bind := Reader.bind

@[simp]
theorem pure_eq_done (value : A) : (pure value : Reader A) = .done value := rfl

@[simp]
theorem done_bind (value : A) (rest : A → Reader B) :
    (.done value >>= rest) = rest value := rfl

@[simp]
theorem await_bind (count : ℕ) (next : Option (List UInt8) → Reader A)
    (rest : A → Reader B) :
    (.await count next >>= rest) = .await count fun bytes => next bytes >>= rest := rfl

/-- Where a reader stands once the bytes that have arrived are used up. -/
inductive Progress (A : Type)
  | finished (value : A) (rest : List UInt8)
  | waiting

/-- Run a reader on the bytes that have arrived, on a stream that has been
`closed` behind them or is still open. -/
def run : Reader A → List UInt8 → Bool → Progress A
  | .done value, input, _ => .finished value input
  | .await count next, input, closed =>
      if count ≤ input.length then
        (next (some (input.take count))).run (input.drop count) closed
      else if closed then (next none).run [] closed
      else .waiting

@[simp]
theorem run_done (value : A) (input : List UInt8) (closed : Bool) :
    (done value).run input closed = .finished value input := rfl

theorem run_bind (reader : Reader A) (rest : A → Reader B) (input : List UInt8)
    (closed : Bool) :
    (reader >>= rest).run input closed =
      match reader.run input closed with
      | .finished value remaining => (rest value).run remaining closed
      | .waiting => .waiting := by
  induction reader generalizing input with
  | done value => rfl
  | await count next ih =>
      rw [await_bind, run, run]
      split
      · exact ih _ _
      · split
        · exact ih _ _
        · rfl

/-- Cut a finished run of two readers in sequence between the two. -/
theorem run_bind_eq_finished {reader : Reader A} {rest : A → Reader B}
    {input remaining : List UInt8} {closed : Bool} {value : B}
    (hrun : (reader >>= rest).run input closed = .finished value remaining) :
    ∃ first middle, reader.run input closed = .finished first middle ∧
      (rest first).run middle closed = .finished value remaining := by
  rw [run_bind] at hrun
  cases hreader : reader.run input closed with
  | waiting => simp [hreader] at hrun
  | finished first middle =>
      rw [hreader] at hrun
      exact ⟨first, middle, rfl, hrun⟩

/-- On a closed stream no reader waits. -/
theorem run_closed (reader : Reader A) (input : List UInt8) :
    ∃ value rest, reader.run input true = .finished value rest := by
  induction reader generalizing input with
  | done value => exact ⟨value, input, rfl⟩
  | await count next ih =>
      rw [run]
      split
      · exact ih _ _
      · exact ih _ _

end Reader

/-! ## Little-endian numbers -/

/-- The `count` low bytes of a number, least significant byte first. -/
def leBytes : ℕ → ℕ → List UInt8
  | 0, _ => []
  | count + 1, number => UInt8.ofNat number :: leBytes count (number / 256)

def leValue : List UInt8 → ℕ
  | [] => 0
  | byte :: bytes => byte.toNat + 256 * leValue bytes

@[simp]
theorem length_leBytes (count number : ℕ) : (leBytes count number).length = count := by
  induction count generalizing number with
  | zero => rfl
  | succ count ih => simp [leBytes, ih]

theorem leValue_leBytes (count number : ℕ) (hnumber : number < 256 ^ count) :
    leValue (leBytes count number) = number := by
  induction count generalizing number with
  | zero =>
      have hzero : number = 0 := by simpa using hnumber
      simp [leBytes, leValue, hzero]
  | succ count ih =>
      have hdiv : number / 256 < 256 ^ count := by
        rw [Nat.div_lt_iff_lt_mul (by omega), ← pow_succ]
        exact hnumber
      have hbyte : (UInt8.ofNat number).toNat = number % 256 := by simp
      rw [leBytes, leValue, ih _ hdiv, hbyte]
      omega

theorem leValue_lt (bytes : List UInt8) : leValue bytes < 256 ^ bytes.length := by
  induction bytes with
  | nil => simp [leValue]
  | cons byte bytes ih =>
      have hbyte : byte.toNat < 256 := byte.toNat_lt
      rw [leValue, List.length_cons, pow_succ]
      omega

theorem leBytes_leValue (bytes : List UInt8) :
    leBytes bytes.length (leValue bytes) = bytes := by
  induction bytes with
  | nil => rfl
  | cons byte bytes ih =>
      have hbyte : byte.toNat < 256 := byte.toNat_lt
      have hmod : UInt8.ofNat (byte.toNat + 256 * leValue bytes) = byte := by
        apply UInt8.toNat_inj.mp
        rw [UInt8.toNat_ofNat']
        omega
      have hdiv : (byte.toNat + 256 * leValue bytes) / 256 = leValue bytes := by omega
      rw [leValue, List.length_cons, leBytes, hmod, hdiv, ih]

/-! ## UTF-8 -/

def utf8Bytes (text : String) : List UInt8 :=
  text.toByteArray.data.toList

/-- Rust's `String::from_utf8`. -/
def fromUtf8 (bytes : List UInt8) : Option String :=
  String.fromUTF8? ⟨bytes.toArray⟩

/-- Decoding accepts exactly the encodings of strings. -/
theorem fromUtf8_eq_some_iff {bytes : List UInt8} {text : String} :
    fromUtf8 bytes = some text ↔ bytes = utf8Bytes text := by
  unfold fromUtf8 String.fromUTF8?
  constructor
  · intro h
    split at h
    · rw [Option.some.injEq] at h
      subst h
      simp [utf8Bytes, String.fromUTF8]
    · cases h
  · intro h
    subst h
    have hbytes : (⟨(utf8Bytes text).toArray⟩ : ByteArray) = text.toByteArray := by
      simp [utf8Bytes]
    rw [hbytes, dif_pos text.isValidUTF8]
    rfl

@[simp]
theorem fromUtf8_utf8Bytes (text : String) : fromUtf8 (utf8Bytes text) = some text :=
  fromUtf8_eq_some_iff.mpr rfl

/-- No character takes more than four bytes. -/
theorem length_utf8Bytes_le (text : String) :
    (utf8Bytes text).length ≤ 4 * text.length := by
  have hchars : ∀ chars : List Char, chars.utf8Encode.size ≤ 4 * chars.length := by
    intro chars
    induction chars with
    | nil => exact Nat.zero_le _
    | cons char chars ih =>
        have hchar := char.utf8Size_le_four
        rw [← List.singleton_append, List.utf8Encode_append, ByteArray.size_append,
          List.utf8Encode_singleton, List.length_append, List.length_singleton]
        simp only [List.size_toByteArray, String.length_utf8EncodeChar]
        omega
  calc
    (utf8Bytes text).length = text.toList.utf8Encode.size := by
      rw [String.utf8Encode_toList]
      rfl
    _ ≤ 4 * text.toList.length := hchars text.toList
    _ = 4 * text.length := by rw [String.length_toList]

/-! ## The readers of tokio's `AsyncReadExt` -/

def readExact (count : ℕ) : Reader (Option (List UInt8)) :=
  .await count .done

def readU8 : Reader (Option UInt8) := do
  return (← readExact 1).map fun bytes => UInt8.ofNat (leValue bytes)

def readU16Le : Reader (Option UInt16) := do
  return (← readExact 2).map fun bytes => UInt16.ofNat (leValue bytes)

def readU32Le : Reader (Option UInt32) := do
  return (← readExact 4).map fun bytes => UInt32.ofNat (leValue bytes)

theorem run_readExact (count : ℕ) (input : List UInt8) (closed : Bool) :
    (readExact count).run input closed =
      if count ≤ input.length then .finished (some (input.take count)) (input.drop count)
      else if closed then .finished none []
      else .waiting := rfl

/-! ## Readers against encodings -/

variable {A B : Type}

/-- The reader turns `bytes` into `value`, whatever follows them and without
waiting for anything after them. -/
def Reads (reader : Reader A) (bytes : List UInt8) (value : A) : Prop :=
  ∀ rest closed, reader.run (bytes ++ rest) closed = .finished value rest

theorem Reads.done (value : A) : Reads (.done value) [] value :=
  fun _ _ => rfl

theorem Reads.await {count : ℕ} {next : Option (List UInt8) → Reader A}
    {bytes rest : List UInt8} {value : A} (hlength : bytes.length = count)
    (hreads : Reads (next (some bytes)) rest value) :
    Reads (.await count next) (bytes ++ rest) value := by
  intro tail closed
  rw [Reader.run, if_pos (by simp [← hlength]), List.append_assoc, ← hlength,
    List.take_left, List.drop_left]
  exact hreads tail closed

theorem Reads.bind {reader : Reader A} {rest : A → Reader B} {left right : List UInt8}
    {first : A} {value : B} (hleft : Reads reader left first)
    (hright : Reads (rest first) right value) :
    Reads (reader >>= rest) (left ++ right) value := by
  intro tail closed
  rw [Reader.run_bind, List.append_assoc, hleft]
  exact hright tail closed

/-- A reader that is done after its last field. -/
theorem Reads.bind_done {reader : Reader A} {rest : A → Reader B} {bytes : List UInt8}
    {first : A} {value : B} (hreader : Reads reader bytes first)
    (hrest : rest first = .done value) : Reads (reader >>= rest) bytes value := by
  intro tail closed
  rw [Reader.run_bind, hreader]
  exact congrArg (fun reader => reader.run tail closed) hrest

theorem reads_readExact {count : ℕ} {bytes : List UInt8} (hlength : bytes.length = count) :
    Reads (readExact count) bytes (some bytes) := by
  intro rest closed
  rw [run_readExact, if_pos (by simp [hlength])]
  simp [← hlength]

theorem reads_readU8 (byte : UInt8) : Reads readU8 [byte] (some byte) := by
  apply (reads_readExact (show [byte].length = 1 from rfl)).bind_done
  simp [leValue]

theorem reads_readU16Le (number : UInt16) :
    Reads readU16Le (leBytes 2 number.toNat) (some number) := by
  apply (reads_readExact (length_leBytes 2 _)).bind_done
  have hlt : number.toNat < 256 ^ 2 := number.toNat_lt
  simp [leValue_leBytes 2 _ hlt]

theorem reads_readU32Le (number : UInt32) :
    Reads readU32Le (leBytes 4 number.toNat) (some number) := by
  apply (reads_readExact (length_leBytes 4 _)).bind_done
  have hlt : number.toNat < 256 ^ 4 := number.toNat_lt
  simp [leValue_leBytes 4 _ hlt]

/-! ### What a successful read consumed -/

theorem readExact_eq_some {count : ℕ} {input bytes rest : List UInt8} {closed : Bool}
    (hrun : (readExact count).run input closed = .finished (some bytes) rest) :
    bytes.length = count ∧ input = bytes ++ rest := by
  rw [run_readExact] at hrun
  split at hrun
  · rename_i hle
    rcases hrun with ⟨rfl, rfl⟩
    exact ⟨by simpa using hle, (List.take_append_drop count input).symm⟩
  · split at hrun <;> cases hrun

private theorem map_readExact_eq_some {count : ℕ} {decode : List UInt8 → A}
    {input rest : List UInt8} {closed : Bool} {value : A}
    (hrun : (readExact count >>= fun bytes => Reader.done (bytes.map decode)).run
      input closed = .finished (some value) rest) :
    ∃ bytes, bytes.length = count ∧ input = bytes ++ rest ∧ value = decode bytes := by
  rcases Reader.run_bind_eq_finished hrun with ⟨read, middle, hread, hdone⟩
  cases read with
  | none => simp at hdone
  | some bytes =>
      obtain ⟨hlength, hinput⟩ := readExact_eq_some hread
      simp only [Option.map_some, Reader.run_done] at hdone
      rcases hdone with ⟨rfl, rfl⟩
      exact ⟨bytes, hlength, hinput, rfl⟩

theorem readU8_eq_some {input rest : List UInt8} {closed : Bool} {byte : UInt8}
    (hrun : readU8.run input closed = .finished (some byte) rest) :
    input = byte :: rest := by
  rcases map_readExact_eq_some hrun with ⟨bytes, hlength, hinput, hvalue⟩
  rcases List.length_eq_one_iff.mp hlength with ⟨single, rfl⟩
  simpa [hvalue, leValue] using hinput

theorem readU16Le_eq_some {input rest : List UInt8} {closed : Bool} {number : UInt16}
    (hrun : readU16Le.run input closed = .finished (some number) rest) :
    input = leBytes 2 number.toNat ++ rest := by
  rcases map_readExact_eq_some hrun with ⟨bytes, hlength, hinput, hvalue⟩
  have hlt : leValue bytes < 2 ^ 16 := by
    have hbound := leValue_lt bytes
    rwa [hlength] at hbound
  rw [hvalue, UInt16.toNat_ofNat_of_lt' hlt, ← hlength, leBytes_leValue]
  exact hinput

theorem readU32Le_eq_some {input rest : List UInt8} {closed : Bool} {number : UInt32}
    (hrun : readU32Le.run input closed = .finished (some number) rest) :
    input = leBytes 4 number.toNat ++ rest := by
  rcases map_readExact_eq_some hrun with ⟨bytes, hlength, hinput, hvalue⟩
  have hlt : leValue bytes < 2 ^ 32 := by
    have hbound := leValue_lt bytes
    rwa [hlength] at hbound
  rw [hvalue, UInt32.toNat_ofNat_of_lt' hlt, ← hlength, leBytes_leValue]
  exact hinput

/-! ### Where a reader waits -/

/-- A sequence waits in its first reader or, when that has finished, in the second. -/
theorem Reader.waits_bind {reader : Reader A} {rest : A → Reader B} {input : List UInt8}
    (hrun : (reader >>= rest).run input false = .waiting) :
    reader.run input false = .waiting ∨
      ∃ value middle, reader.run input false = .finished value middle ∧
        (rest value).run middle false = .waiting := by
  rw [Reader.run_bind] at hrun
  cases hreader : reader.run input false with
  | waiting => exact .inl rfl
  | finished value middle =>
      rw [hreader] at hrun
      exact .inr ⟨value, middle, rfl, hrun⟩

theorem length_lt_of_waits {count : ℕ} {input : List UInt8}
    (hrun : (readExact count).run input false = .waiting) : input.length < count := by
  by_contra hle
  rw [run_readExact, if_pos (Nat.le_of_not_lt hle)] at hrun
  cases hrun

theorem length_lt_of_waits_map {count : ℕ} {decode : List UInt8 → A} {input : List UInt8}
    (hrun : (readExact count >>= fun bytes => Reader.done (bytes.map decode)).run
      input false = .waiting) : input.length < count := by
  rcases Reader.waits_bind hrun with hread | ⟨value, middle, hread, hdone⟩
  · exact length_lt_of_waits hread
  · cases hdone

/-- Fewer bytes than were asked for go on to as many. -/
theorem exists_completion {count : ℕ} {input : List UInt8} (hlt : input.length < count) :
    ∃ more, more ≠ [] ∧ (input ++ more).length = count := by
  refine ⟨List.replicate (count - input.length) 0, ?_, ?_⟩
  · rw [Ne, List.replicate_eq_nil_iff]
    omega
  · rw [List.length_append, List.length_replicate]
    omega

/-- They are the beginning of a number. -/
theorem exists_leBytes {count : ℕ} {input : List UInt8} (hlt : input.length < count) :
    ∃ number more, number < 256 ^ count ∧ more ≠ [] ∧
      leBytes count number = input ++ more := by
  obtain ⟨more, hmore, hlength⟩ := exists_completion hlt
  refine ⟨leValue (input ++ more), more, ?_, hmore, ?_⟩
  · rw [← hlength]
    exact leValue_lt _
  · rw [← hlength]
    exact leBytes_leValue _

theorem exists_leBytes_u16 {input : List UInt8} (hlt : input.length < 2) :
    ∃ (number : UInt16) (more : List UInt8), more ≠ [] ∧
      leBytes 2 number.toNat = input ++ more := by
  obtain ⟨number, more, hnumber, hmore, hbytes⟩ := exists_leBytes hlt
  refine ⟨UInt16.ofNat number, more, hmore, ?_⟩
  rw [UInt16.toNat_ofNat_of_lt' hnumber, hbytes]

theorem exists_leBytes_u32 {input : List UInt8} (hlt : input.length < 4) :
    ∃ (number : UInt32) (more : List UInt8), more ≠ [] ∧
      leBytes 4 number.toNat = input ++ more := by
  obtain ⟨number, more, hnumber, hmore, hbytes⟩ := exists_leBytes hlt
  refine ⟨UInt32.ofNat number, more, hmore, ?_⟩
  rw [UInt32.toNat_ofNat_of_lt' hnumber, hbytes]

/-! ### Readers that give up at the end of the stream -/

/-- Whatever the reader is given, its value meets `post`. -/
def Reader.Yields (post : A → Prop) : Reader A → Prop
  | .done value => post value
  | .await _ next => ∀ bytes, (next bytes).Yields post

/-- Once the reader has met the end of the stream, its value meets `post`. -/
def Reader.GivesUp (post : A → Prop) : Reader A → Prop
  | .done _ => True
  | .await _ next => (∀ bytes, (next (some bytes)).GivesUp post) ∧ (next none).Yields post

variable {reader : Reader A} {rest : A → Reader B} {first : A → Prop} {post : B → Prop}

theorem Reader.Yields.bind (hreader : reader.Yields first)
    (hrest : ∀ value, first value → (rest value).Yields post) :
    (reader >>= rest).Yields post := by
  induction reader with
  | done value => exact hrest value hreader
  | await count next ih => exact fun bytes => ih bytes (hreader bytes)

theorem Reader.yields_true (reader : Reader A) : reader.Yields fun _ => True := by
  induction reader with
  | done value => trivial
  | await count next ih => exact ih

theorem Reader.Yields.and {second : A → Prop} (hfirst : reader.Yields first)
    (hsecond : reader.Yields second) : reader.Yields fun value => first value ∧ second value := by
  induction reader with
  | done value => exact ⟨hfirst, hsecond⟩
  | await count next ih => exact fun bytes => ih bytes (hfirst bytes) (hsecond bytes)

theorem Reader.GivesUp.bind (hreader : reader.GivesUp first)
    (hend : ∀ value, first value → (rest value).Yields post)
    (hrest : ∀ value, (rest value).GivesUp post) : (reader >>= rest).GivesUp post := by
  induction reader with
  | done value => exact hrest value
  | await count next ih =>
      exact ⟨fun bytes => ih (some bytes) (hreader.1 bytes), hreader.2.bind hend⟩

theorem givesUp_readExact (count : ℕ) : (readExact count).GivesUp (· = none) :=
  ⟨fun _ => trivial, rfl⟩

theorem givesUp_map_readExact (count : ℕ) (decode : List UInt8 → A) :
    (readExact count >>= fun bytes => Reader.done (bytes.map decode)).GivesUp (· = none) := by
  apply (givesUp_readExact count).bind
  · rintro _ rfl
    rfl
  · exact fun _ => trivial

theorem Reader.Yields.of_run {post : A → Prop} {input leftover : List UInt8} {closed : Bool}
    {value : A} (hyields : reader.Yields post)
    (hrun : reader.run input closed = .finished value leftover) : post value := by
  induction reader generalizing input with
  | done found =>
      cases hrun
      exact hyields
  | await count next ih =>
      rw [Reader.run] at hrun
      split at hrun
      · exact ih _ (hyields _) hrun
      · split at hrun
        · exact ih _ (hyields _) hrun
        · cases hrun

/-- What a reader makes of the beginning of its input it makes of all of it, unless it
has met an end of the stream. -/
theorem Reader.GivesUp.of_begins {bad : A → Prop} {input received leftover : List UInt8}
    {closed : Bool} {value : A} (hgivesUp : reader.GivesUp bad) (hbegins : received <+: input)
    (hrun : reader.run received closed = .finished value leftover) :
    bad value ∨ ∃ leftover, reader.run input false = .finished value leftover := by
  induction reader generalizing received input with
  | done found =>
      cases hrun
      exact .inr ⟨input, rfl⟩
  | await count next ih =>
      obtain ⟨rest, rfl⟩ := hbegins
      rw [Reader.run] at hrun
      split at hrun
      · rename_i hle
        have hle' : count ≤ (received ++ rest).length := by
          rw [List.length_append]
          exact Nat.le_add_right_of_le hle
        rw [Reader.run, if_pos hle', List.take_append_of_le_length hle,
          List.drop_append_of_le_length hle]
        exact ih _ (hgivesUp.1 _) (List.prefix_append _ _) hrun
      · split at hrun
        · exact .inl (hgivesUp.2.of_run hrun)
        · cases hrun

end ScdtServer.ByteReader
