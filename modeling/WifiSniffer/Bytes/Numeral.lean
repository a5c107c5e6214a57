import Mathlib.Data.Nat.Digits.Defs
import Mathlib.Tactic.Ring
import WifiSniffer.Bytes.CString
import WifiSniffer.Bytes.Hex

/-!
# Integers in texts

The `strto` functions of `stdlib.h` where they find the base themselves.  They read as
far as there are digits and know no failure but a number that is out of range: of that
they tell through `errno`, and give the nearest number there is.  A sign in front of an
unsigned number negates it in its type.

What a text denotes is stated apart from them, by a grammar.
-/

namespace WifiSniffer.Bytes

/-! ## Digits -/

/-- `isspace` -/
def IsSpace (c : UInt8) : Prop :=
  c ∈ ([0x20, 0x09, 0x0a, 0x0b, 0x0c, 0x0d] : List UInt8)

instance (c : UInt8) : Decidable (IsSpace c) :=
  inferInstanceAs (Decidable (_ ∈ _))

/-- The value of a digit in a base up to sixteen. -/
def digit? (base : Nat) (c : UInt8) : Option Nat :=
  (hexValue? c).filter (· < base)

/-- The number that the digits at the front of a text are, behind those of another one. -/
def scanDigits (base : Nat) : List UInt8 → Nat → Nat
  | [], magnitude => magnitude
  | c :: text, magnitude =>
      match digit? base c with
      | some value => scanDigits base text (magnitude * base + value)
      | none => magnitude

/-- A text of digits, at least one of them, and its number. -/
def Digits (base : Nat) (text : List UInt8) (magnitude : Nat) : Prop :=
  text ≠ [] ∧ ∃ digits : List Nat, text.map (digit? base) = digits.map some ∧
    Nat.ofDigits base digits.reverse = magnitude

theorem scanDigits_of_map {base : Nat} {text : List UInt8} {digits : List Nat}
    (values : text.map (digit? base) = digits.map some) (magnitude : Nat) :
    scanDigits base text magnitude =
      magnitude * base ^ text.length + Nat.ofDigits base digits.reverse := by
  induction text generalizing digits magnitude with
  | nil =>
      rw [List.map_nil] at values
      rw [List.map_eq_nil_iff.mp values.symm]
      simp [scanDigits]
  | cons c text ih =>
      cases digits with
      | nil => cases values
      | cons value digits =>
          rw [List.map_cons, List.map_cons, List.cons.injEq] at values
          have length_eq : digits.length = text.length := by
            simpa using (congrArg List.length values.2).symm
          simp only [scanDigits, values.1]
          rw [ih values.2, List.reverse_cons, Nat.ofDigits_append, Nat.ofDigits_singleton,
            List.length_reverse, length_eq, List.length_cons]
          ring

theorem scanDigits_of_digits {base : Nat} {text : List UInt8} {magnitude : Nat}
    (digits : Digits base text magnitude) : scanDigits base text 0 = magnitude := by
  rcases digits with ⟨_, digits, values, rfl⟩
  rw [scanDigits_of_map values, Nat.zero_mul, Nat.zero_add]

/-- The first character of a text of digits is one. -/
theorem Digits.head {base : Nat} {text : List UInt8} {magnitude : Nat}
    (digits : Digits base text magnitude) :
    ∃ c rest, text = c :: rest ∧ (digit? base c).isSome = true := by
  rcases digits with ⟨nonempty, digits, values, _⟩
  cases text with
  | nil => exact absurd rfl nonempty
  | cons c rest =>
      cases digits with
      | nil => cases values
      | cons value digits =>
          rw [List.map_cons, List.map_cons, List.cons.injEq] at values
          exact ⟨c, rest, rfl, by rw [values.1]; rfl⟩

theorem isSome_of_digit? {base : Nat} {c : UInt8} (digit : (digit? base c).isSome = true) :
    (hexValue? c).isSome = true := by
  cases value : hexValue? c with
  | none =>
      rw [digit?, value] at digit
      cases digit
  | some value => rfl

/-! ## Numbers without a sign -/

/-- The text begins with `0x`, and a digit follows. -/
def HasHexPrefix : List UInt8 → Prop
  | zero :: x :: c :: _ => zero = 0x30 ∧ (x = 0x78 ∨ x = 0x58) ∧ (digit? 16 c).isSome = true
  | _ => False

instance : DecidablePred HasHexPrefix
  | zero :: x :: c :: _ =>
      inferInstanceAs (Decidable
        (zero = 0x30 ∧ (x = 0x78 ∨ x = 0x58) ∧ (digit? 16 c).isSome = true))
  | [] | [_] | [_, _] => inferInstanceAs (Decidable False)

/-- The number at the front of a text, in the base that it begins with. -/
def scanMagnitude (text : List UInt8) : Nat :=
  if HasHexPrefix text then scanDigits 16 (text.drop 2) 0
  else if text.head? = some 0x30 then scanDigits 8 text 0
  else scanDigits 10 text 0

/-- A text that is a number in one of the bases. -/
inductive Magnitude : List UInt8 → Nat → Prop
  | decimal {text : List UInt8} {magnitude : Nat} (first : text.head? ≠ some 0x30)
      (digits : Digits 10 text magnitude) : Magnitude text magnitude
  | octal {text : List UInt8} {magnitude : Nat} (first : text.head? = some 0x30)
      (digits : Digits 8 text magnitude) : Magnitude text magnitude
  | hex {text : List UInt8} {magnitude : Nat} {x : UInt8} (marker : x = 0x78 ∨ x = 0x58)
      (digits : Digits 16 text magnitude) : Magnitude (0x30 :: x :: text) magnitude

theorem HasHexPrefix.head {text : List UInt8} (hex : HasHexPrefix text) :
    ∃ x rest, text = 0x30 :: x :: rest ∧ (x = 0x78 ∨ x = 0x58) := by
  match text, hex with
  | _ :: x :: c :: rest, ⟨rfl, marker, _⟩ => exact ⟨x, c :: rest, rfl, marker⟩

theorem scanMagnitude_of_magnitude {text : List UInt8} {magnitude : Nat}
    (number : Magnitude text magnitude) : scanMagnitude text = magnitude := by
  cases number with
  | decimal first digits =>
      have plain : ¬ HasHexPrefix text := by
        intro hex
        rcases hex.head with ⟨x, rest, rfl, _⟩
        exact first rfl
      rw [scanMagnitude, if_neg plain, if_neg first, scanDigits_of_digits digits]
  | octal first digits =>
      have plain : ¬ HasHexPrefix text := by
        -- The marker of a hexadecimal number is no digit.
        intro hex
        rcases hex.head with ⟨x, rest, rfl, marker⟩
        rcases digits with ⟨_, _ | ⟨_, _ | ⟨value, digits⟩⟩, values, _⟩
        · cases values
        · cases values
        · rw [List.map_cons, List.map_cons, List.map_cons, List.map_cons, List.cons.injEq,
            List.cons.injEq] at values
          rcases marker with rfl | rfl
          · exact absurd values.2.1 nofun
          · exact absurd values.2.1 nofun
      rw [scanMagnitude, if_neg plain, if_pos first, scanDigits_of_digits digits]
  | @hex text _ x marker digits =>
      rcases digits.head with ⟨c, rest, rfl, digit⟩
      have hex : HasHexPrefix (0x30 :: x :: c :: rest) := ⟨rfl, marker, digit⟩
      rw [scanMagnitude, if_pos hex]
      exact scanDigits_of_digits digits

/-- A number begins with a digit. -/
theorem Magnitude.head {text : List UInt8} {magnitude : Nat} (number : Magnitude text magnitude) :
    ∃ c rest, text = c :: rest ∧ (hexValue? c).isSome = true := by
  cases number with
  | decimal _ digits | octal _ digits =>
      rcases digits.head with ⟨c, rest, text_eq, digit⟩
      exact ⟨c, rest, text_eq, isSome_of_digit? digit⟩
  | @hex text _ x marker digits => exact ⟨0x30, x :: text, rfl, rfl⟩

/-! ## Numbers with a sign -/

/-- The number at the front of a text, with a sign. -/
def scanSigned : List UInt8 → Int
  | [] => 0
  | c :: text =>
      if c = 0x2d then -(scanMagnitude text : Int)
      else if c = 0x2b then scanMagnitude text
      else scanMagnitude (c :: text)

/-- The number at the front of a text, behind blanks. -/
def scanInteger (text : List UInt8) : Int :=
  scanSigned (text.dropWhile IsSpace)

/-- A text that is an integer, possibly behind blanks. -/
inductive Denotes : List UInt8 → Int → Prop
  | plain {text : List UInt8} {magnitude : Nat} (number : Magnitude text magnitude) :
      Denotes text magnitude
  | plus {text : List UInt8} {magnitude : Nat} (number : Magnitude text magnitude) :
      Denotes (0x2b :: text) magnitude
  | minus {text : List UInt8} {magnitude : Nat} (number : Magnitude text magnitude) :
      Denotes (0x2d :: text) (-magnitude)
  | blank {c : UInt8} {text : List UInt8} {number : Int} (space : IsSpace c)
      (denotes : Denotes text number) : Denotes (c :: text) number

theorem not_isSpace_of_hexValue? {c : UInt8} (digit : (hexValue? c).isSome = true) :
    ¬ IsSpace c := by
  intro space
  simp only [IsSpace, List.mem_cons, List.not_mem_nil, or_false] at space
  rcases space with rfl | rfl | rfl | rfl | rfl | rfl <;> exact absurd digit (by decide)

/-- The scan gives the number that a text denotes. -/
theorem scanInteger_of_denotes {text : List UInt8} {number : Int}
    (denotes : Denotes text number) : scanInteger text = number := by
  induction denotes with
  | plain number =>
      rcases number.head with ⟨c, rest, rfl, digit⟩
      have notMinus : c ≠ 0x2d := by
        rintro rfl
        exact absurd digit (by decide)
      have notPlus : c ≠ 0x2b := by
        rintro rfl
        exact absurd digit (by decide)
      rw [scanInteger, List.dropWhile_cons_of_neg (by simp [not_isSpace_of_hexValue? digit]),
        scanSigned, if_neg notMinus, if_neg notPlus, scanMagnitude_of_magnitude number]
  | plus number =>
      rw [scanInteger, List.dropWhile_cons_of_neg (by decide), scanSigned, if_neg (by decide),
        if_pos rfl, scanMagnitude_of_magnitude number]
  | minus number =>
      rw [scanInteger, List.dropWhile_cons_of_neg (by decide), scanSigned, if_pos rfl,
        scanMagnitude_of_magnitude number]
  | blank space _ ih =>
      rw [scanInteger, List.dropWhile_cons_of_pos (by simp [space])]
      exact ih

/-! ## Parsers -/

/-- `strtol` and `strtoll` for a type of so many bits, and whether they set `errno` to
`ERANGE`. -/
def strtoSigned (bits : Nat) (text : CString) : Int × Bool :=
  let number := scanInteger text.chars
  if number < -2 ^ (bits - 1) then (-2 ^ (bits - 1), true)
  else if 2 ^ (bits - 1) ≤ number then (2 ^ (bits - 1) - 1, true)
  else (number, false)

/-- `strtoul` and `strtoull`: the sign does not count for the range. -/
def strtoUnsigned (bits : Nat) (text : CString) : Int × Bool :=
  let number := scanInteger text.chars
  if 2 ^ bits ≤ number.natAbs then (2 ^ bits - 1, true)
  else (number % 2 ^ bits, false)

end WifiSniffer.Bytes
