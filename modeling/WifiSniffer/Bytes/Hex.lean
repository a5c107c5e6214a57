import Mathlib.Data.List.Basic

/-!
# Hexadecimal text

Two digits of either case stand for one byte, the high half first.
-/

namespace WifiSniffer.Bytes

/-- The characters of a text of ASCII characters. -/
def ascii (text : String) : List UInt8 :=
  text.toList.map fun char => char.toNat.toUInt8

/-- The value of a hexadecimal digit. -/
def hexValue? (digit : UInt8) : Option Nat :=
  (ascii "0123456789abcdef").idxOf? digit <|> (ascii "0123456789ABCDEF").idxOf? digit

/-- A hexadecimal digit of either case -/
def IsHexDigit (digit : UInt8) : Prop :=
  (hexValue? digit).isSome = true

instance (digit : UInt8) : Decidable (IsHexDigit digit) :=
  inferInstanceAs (Decidable (_ = true))

/-- The byte that two digits stand for. -/
def hexByte? (high low : UInt8) : Option UInt8 := do
  let high ← hexValue? high
  let low ← hexValue? low
  return UInt8.ofNat (16 * high + low)

/-- The bytes that a text stands for, two digits each. -/
def hexDecode? : List UInt8 → Option (List UInt8)
  | [] => some []
  | [_] => none
  | high :: low :: rest => do
      let byte ← hexByte? high low
      let bytes ← hexDecode? rest
      return byte :: bytes

theorem hexValue?_lt {digit : UInt8} {value : Nat} (found : hexValue? digit = some value) :
    value < 16 := by
  rcases Option.or_eq_some_iff.mp (Option.or_eq_orElse.trans found) with lower | ⟨_, upper⟩
  · exact (List.idxOf?_eq_some_iff.mp lower).1
  · exact (List.idxOf?_eq_some_iff.mp upper).1

theorem hexByte?_isSome_iff {high low : UInt8} :
    (hexByte? high low).isSome = true ↔ IsHexDigit high ∧ IsHexDigit low := by
  rw [IsHexDigit, IsHexDigit, hexByte?]
  cases hexValue? high with
  | none => simp
  | some high => cases hexValue? low <;> simp

theorem hexDecode?_cons_cons_eq_some_iff {high low : UInt8} {rest bytes : List UInt8} :
    hexDecode? (high :: low :: rest) = some bytes ↔
      ∃ byte tail, hexByte? high low = some byte ∧ hexDecode? rest = some tail ∧
        byte :: tail = bytes := by
  simp [hexDecode?, Option.bind_eq_some_iff]

theorem length_of_hexDecode? {text bytes : List UInt8} (decoded : hexDecode? text = some bytes) :
    text.length = 2 * bytes.length := by
  induction text using hexDecode?.induct generalizing bytes with
  | case1 =>
      cases decoded
      rfl
  | case2 digit => cases decoded
  | case3 high low rest ih =>
      rcases hexDecode?_cons_cons_eq_some_iff.mp decoded with ⟨byte, tail, _, ended, rfl⟩
      rw [List.length_cons, List.length_cons, ih ended, List.length_cons]
      omega

/-- What can be decoded are digits in pairs. -/
theorem hexDecode?_isSome_iff {text : List UInt8} :
    (hexDecode? text).isSome = true ↔
      text.length % 2 = 0 ∧ ∀ digit ∈ text, IsHexDigit digit := by
  induction text using hexDecode?.induct with
  | case1 => simp [hexDecode?]
  | case2 digit => simp [hexDecode?]
  | case3 high low rest ih =>
      have decoded_iff : (hexDecode? (high :: low :: rest)).isSome = true ↔
          (hexByte? high low).isSome = true ∧ (hexDecode? rest).isSome = true := by
        rw [hexDecode?]
        cases hexByte? high low with
        | none => simp
        | some byte => cases hexDecode? rest <;> simp
      have length_iff : (high :: low :: rest).length % 2 = 0 ↔ rest.length % 2 = 0 := by
        rw [List.length_cons, List.length_cons]
        omega
      rw [decoded_iff, ih, hexByte?_isSome_iff, length_iff]
      simp only [List.forall_mem_cons]
      tauto

/-! ## Upper-case text -/

/-- The upper-case digit of a value. -/
def upperDigit (value : Nat) : UInt8 :=
  (ascii "0123456789ABCDEF").getD value 0

/-- The two digits of a byte. -/
def hexPair (byte : UInt8) : List UInt8 :=
  [upperDigit (byte.toNat / 16), upperDigit (byte.toNat % 16)]

/-- The text of some bytes. -/
def hexEncode (bytes : List UInt8) : List UInt8 :=
  bytes.flatMap hexPair

@[simp]
theorem hexPair_length (byte : UInt8) : (hexPair byte).length = 2 :=
  rfl

theorem hexEncode_cons (byte : UInt8) (bytes : List UInt8) :
    hexEncode (byte :: bytes) =
      upperDigit (byte.toNat / 16) :: upperDigit (byte.toNat % 16) :: hexEncode bytes :=
  rfl

@[simp]
theorem hexEncode_length (bytes : List UInt8) : (hexEncode bytes).length = 2 * bytes.length := by
  induction bytes with
  | nil => rfl
  | cons byte bytes ih =>
      rw [hexEncode_cons, List.length_cons, List.length_cons, List.length_cons, ih]
      omega

theorem halves_lt (byte : UInt8) : byte.toNat / 16 < 16 ∧ byte.toNat % 16 < 16 :=
  ⟨Nat.div_lt_of_lt_mul byte.toNat_lt, Nat.mod_lt _ (by omega)⟩

theorem exists_of_mem_hexEncode {bytes : List UInt8} {char : UInt8}
    (member : char ∈ hexEncode bytes) : ∃ value, value < 16 ∧ char = upperDigit value := by
  rcases List.mem_flatMap.mp member with ⟨byte, _, inPair⟩
  rcases halves_lt byte with ⟨high, low⟩
  simp only [hexPair, List.mem_cons, List.not_mem_nil, or_false] at inPair
  rcases inPair with rfl | rfl
  · exact ⟨_, high, rfl⟩
  · exact ⟨_, low, rfl⟩

theorem hexValue?_upperDigit {value : Nat} (lt : value < 16) :
    hexValue? (upperDigit value) = some value := by
  have all : ∀ value : Fin 16, hexValue? (upperDigit value) = some (value : Nat) := by
    decide
  exact all ⟨value, lt⟩

theorem hexByte?_upperDigit (byte : UInt8) :
    hexByte? (upperDigit (byte.toNat / 16)) (upperDigit (byte.toNat % 16)) = some byte := by
  rcases halves_lt byte with ⟨high, low⟩
  rw [hexByte?, hexValue?_upperDigit high, hexValue?_upperDigit low]
  simp only [Option.bind_eq_bind, Option.bind_some, Nat.div_add_mod]
  exact congrArg some (UInt8.ofNat_toNat)

/-- Upper-case text stands for the bytes that it is made from. -/
@[simp]
theorem hexDecode?_hexEncode (bytes : List UInt8) : hexDecode? (hexEncode bytes) = some bytes := by
  induction bytes with
  | nil => rfl
  | cons byte bytes ih =>
      rw [hexEncode_cons, hexDecode?_cons_cons_eq_some_iff]
      exact ⟨byte, bytes, hexByte?_upperDigit byte, ih, rfl⟩

end WifiSniffer.Bytes
