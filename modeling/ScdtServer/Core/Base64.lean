import Mathlib

/-!
# Standard base64

The standard alphabet with mandatory padding.  Decoding is strict: it refuses
characters outside the alphabet, missing or misplaced padding, and padding bits
that are not zero.
-/

namespace ScdtServer.Base64

/-- The character of a six-bit value. -/
def symbol (value : ℕ) : Char :=
  if value < 26 then Char.ofNat (65 + value)
  else if value < 52 then Char.ofNat (97 + (value - 26))
  else if value < 62 then Char.ofNat (48 + (value - 52))
  else if value = 62 then '+'
  else '/'

def symbolValue (char : Char) : Option ℕ :=
  if 65 ≤ char.toNat ∧ char.toNat ≤ 90 then some (char.toNat - 65)
  else if 97 ≤ char.toNat ∧ char.toNat ≤ 122 then some (char.toNat - 97 + 26)
  else if 48 ≤ char.toNat ∧ char.toNat ≤ 57 then some (char.toNat - 48 + 52)
  else if char = '+' then some 62
  else if char = '/' then some 63
  else none

theorem symbolValue_symbol {value : ℕ} (hvalue : value < 64) :
    symbolValue (symbol value) = some value := by
  have hall : ∀ value : Fin 64, symbolValue (symbol value) = some value.val := by decide
  exact hall ⟨value, hvalue⟩

def encodeChars : List UInt8 → List Char
  | [] => []
  | [a] => [symbol (a.toNat / 4), symbol (a.toNat % 4 * 16), '=', '=']
  | [a, b] =>
      [symbol (a.toNat / 4), symbol (a.toNat % 4 * 16 + b.toNat / 16),
        symbol (b.toNat % 16 * 4), '=']
  | a :: b :: c :: rest =>
      symbol (a.toNat / 4) :: symbol (a.toNat % 4 * 16 + b.toNat / 16) ::
        symbol (b.toNat % 16 * 4 + c.toNat / 64) :: symbol (c.toNat % 64) ::
        encodeChars rest

/-- The last group, which may be padded. -/
def decodeLast (w x y z : Char) : Option (List UInt8) := do
  let w ← symbolValue w
  let x ← symbolValue x
  if y = '=' then
    if z = '=' ∧ x % 16 = 0 then return [UInt8.ofNat (w * 4 + x / 16)]
    else none
  else
    let y ← symbolValue y
    if z = '=' then
      if y % 4 = 0 then
        return [UInt8.ofNat (w * 4 + x / 16), UInt8.ofNat (x % 16 * 16 + y / 4)]
      else none
    else
      let z ← symbolValue z
      return [UInt8.ofNat (w * 4 + x / 16), UInt8.ofNat (x % 16 * 16 + y / 4),
        UInt8.ofNat (y % 4 * 64 + z)]

def decodeGroup (w x y z : Char) : Option (List UInt8) := do
  let w ← symbolValue w
  let x ← symbolValue x
  let y ← symbolValue y
  let z ← symbolValue z
  return [UInt8.ofNat (w * 4 + x / 16), UInt8.ofNat (x % 16 * 16 + y / 4),
    UInt8.ofNat (y % 4 * 64 + z)]

def decodeChars : List Char → Option (List UInt8)
  | [] => some []
  | [w, x, y, z] => decodeLast w x y z
  | w :: x :: y :: z :: rest => do
      let bytes ← decodeGroup w x y z
      return bytes ++ (← decodeChars rest)
  | _ => none

def encode (bytes : List UInt8) : String :=
  String.ofList (encodeChars bytes)

def decode (text : String) : Option (List UInt8) :=
  decodeChars text.toList

/-- Each byte takes at most a group of its own. -/
theorem length_encode_le (bytes : List UInt8) : (encode bytes).length ≤ 4 * bytes.length := by
  have hchars : (encodeChars bytes).length ≤ 4 * bytes.length := by
    induction bytes using encodeChars.induct with
    | case1 => exact Nat.le_refl _
    | case2 a => exact Nat.le_refl _
    | case3 a b => exact Nat.le_add_left _ _
    | case4 a b c rest ih =>
        rw [encodeChars]
        simp only [List.length_cons]
        omega
  rwa [encode, String.length_ofList]

private theorem symbol_ne_pad {value : ℕ} (hvalue : value < 64) : symbol value ≠ '=' := by
  intro heq
  have hvalueOf := symbolValue_symbol hvalue
  rw [heq] at hvalueOf
  simp [symbolValue] at hvalueOf

private theorem join_first (a b : UInt8) :
    UInt8.ofNat (a.toNat / 4 * 4 + (a.toNat % 4 * 16 + b.toNat / 16) / 16) = a := by
  apply UInt8.toNat_inj.mp
  have ha := a.toNat_lt
  have hb := b.toNat_lt
  rw [UInt8.toNat_ofNat']
  omega

private theorem join_second (a b c : UInt8) :
    UInt8.ofNat ((a.toNat % 4 * 16 + b.toNat / 16) % 16 * 16 +
      (b.toNat % 16 * 4 + c.toNat / 64) / 4) = b := by
  apply UInt8.toNat_inj.mp
  have hb := b.toNat_lt
  have hc := c.toNat_lt
  rw [UInt8.toNat_ofNat']
  omega

private theorem join_third (b c : UInt8) :
    UInt8.ofNat ((b.toNat % 16 * 4 + c.toNat / 64) % 4 * 64 + c.toNat % 64) = c := by
  apply UInt8.toNat_inj.mp
  have hc := c.toNat_lt
  rw [UInt8.toNat_ofNat']
  omega

/-- A full group decodes to its three bytes, whether or not it is the last. -/
theorem decodeChars_group (a b c : UInt8) (rest : List Char) :
    decodeChars (symbol (a.toNat / 4) :: symbol (a.toNat % 4 * 16 + b.toNat / 16) ::
      symbol (b.toNat % 16 * 4 + c.toNat / 64) :: symbol (c.toNat % 64) :: rest) =
      (decodeChars rest).map ([a, b, c] ++ ·) := by
  have ha := a.toNat_lt
  have hb := b.toNat_lt
  have hc := c.toNat_lt
  have hw := symbolValue_symbol (show a.toNat / 4 < 64 by omega)
  have hx := symbolValue_symbol (show a.toNat % 4 * 16 + b.toNat / 16 < 64 by omega)
  have hy := symbolValue_symbol (show b.toNat % 16 * 4 + c.toNat / 64 < 64 by omega)
  have hz := symbolValue_symbol (show c.toNat % 64 < 64 by omega)
  have hypad := symbol_ne_pad (show b.toNat % 16 * 4 + c.toNat / 64 < 64 by omega)
  have hzpad := symbol_ne_pad (show c.toNat % 64 < 64 by omega)
  cases rest with
  | nil =>
      simp only [decodeChars, decodeLast, hw, hx, hy, hz, Option.bind_eq_bind,
        Option.bind_some, if_neg hypad, if_neg hzpad, join_first, join_second,
        join_third, Option.pure_def, Option.map_some, List.append_nil]
  | cons next rest =>
      simp only [decodeChars, decodeGroup, hw, hx, hy, hz, Option.bind_eq_bind,
        Option.bind_some, join_first, join_second, join_third, Option.pure_def]
      cases decodeChars (next :: rest) <;> rfl

theorem decodeChars_encodeChars (bytes : List UInt8) :
    decodeChars (encodeChars bytes) = some bytes := by
  induction bytes using encodeChars.induct with
  | case1 => rfl
  | case2 a =>
      have ha := a.toNat_lt
      have hw := symbolValue_symbol (show a.toNat / 4 < 64 by omega)
      have hx := symbolValue_symbol (show a.toNat % 4 * 16 < 64 by omega)
      have hfirst : UInt8.ofNat (a.toNat / 4 * 4 + a.toNat % 4 * 16 / 16) = a :=
        join_first a 0
      have hzero : a.toNat % 4 * 16 % 16 = 0 := by omega
      simp only [encodeChars, decodeChars, decodeLast, hw, hx, Option.bind_eq_bind,
        Option.bind_some, if_true, hfirst, hzero, and_self, Option.pure_def]
  | case3 a b =>
      have ha := a.toNat_lt
      have hb := b.toNat_lt
      have hw := symbolValue_symbol (show a.toNat / 4 < 64 by omega)
      have hx := symbolValue_symbol (show a.toNat % 4 * 16 + b.toNat / 16 < 64 by omega)
      have hy := symbolValue_symbol (show b.toNat % 16 * 4 < 64 by omega)
      have hypad := symbol_ne_pad (show b.toNat % 16 * 4 < 64 by omega)
      have hsecond : UInt8.ofNat ((a.toNat % 4 * 16 + b.toNat / 16) % 16 * 16 +
          b.toNat % 16 * 4 / 4) = b := join_second a b 0
      have hzero : b.toNat % 16 * 4 % 4 = 0 := by omega
      simp only [encodeChars, decodeChars, decodeLast, hw, hx, hy,
        Option.bind_eq_bind, Option.bind_some, if_neg hypad, join_first, hsecond, hzero,
        if_true, Option.pure_def]
  | case4 a b c rest ih =>
      rw [encodeChars, decodeChars_group, ih]
      rfl

/-- Decoding inverts encoding. -/
@[simp]
theorem decode_encode (bytes : List UInt8) : decode (encode bytes) = some bytes := by
  simp [decode, encode, decodeChars_encodeChars]

end ScdtServer.Base64
