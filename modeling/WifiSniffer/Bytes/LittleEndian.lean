import Mathlib.Data.Nat.Digits.Defs
import Mathlib.Tactic.Ring

/-!
# Fixed-width little-endian numbers

A natural number is laid out as exactly `width` bytes, least significant byte
first, and bytes are read back by their value in base 256.  Reading fields off
the front of a byte string keeps the unread tail, so the laws below are stated
with an arbitrary tail and compose field by field.
-/

namespace WifiSniffer.Bytes

/-- The `width` low bytes of `value`, least significant first. -/
def leBytes : Nat → Nat → List UInt8
  | 0, _ => []
  | width + 1, value => UInt8.ofNat value :: leBytes width (value / 256)

/-- The number whose little-endian bytes are given. -/
def ofLe (bytes : List UInt8) : Nat :=
  Nat.ofDigits 256 (bytes.map UInt8.toNat)

@[simp]
theorem leBytes_zero (value : Nat) : leBytes 0 value = [] :=
  rfl

theorem leBytes_succ (width value : Nat) :
    leBytes (width + 1) value =
      UInt8.ofNat value :: leBytes width (value / 256) :=
  rfl

@[simp]
theorem leBytes_length (width value : Nat) :
    (leBytes width value).length = width := by
  induction width generalizing value with
  | zero => rfl
  | succ width ih => rw [leBytes_succ, List.length_cons, ih]

@[simp]
theorem ofLe_nil : ofLe [] = 0 :=
  rfl

@[simp]
theorem ofLe_cons (byte : UInt8) (bytes : List UInt8) :
    ofLe (byte :: bytes) = byte.toNat + 256 * ofLe bytes := by
  simp [ofLe, Nat.ofDigits_cons]

/-- Reading back keeps the part of the number that fits the width. -/
theorem ofLe_leBytes (width value : Nat) :
    ofLe (leBytes width value) = value % 256 ^ width := by
  induction width generalizing value with
  | zero => simp [Nat.mod_one]
  | succ width ih =>
      have split : value % 256 ^ (width + 1) =
          value % 256 + 256 * (value / 256 % 256 ^ width) := by
        rw [pow_succ', Nat.mod_mul]
      rw [leBytes_succ, ofLe_cons, ih, split, UInt8.toNat_ofNat']

theorem ofLe_leBytes_of_lt {width value : Nat} (fits : value < 256 ^ width) :
    ofLe (leBytes width value) = value := by
  rw [ofLe_leBytes, Nat.mod_eq_of_lt fits]

/-- Split off exactly `count` leading elements; fail when there are fewer. -/
def takeExact {β : Type*} (count : Nat) (input : List β) :
    Option (List β × List β) :=
  if count ≤ input.length then some (input.take count, input.drop count) else none

theorem takeExact_append {β : Type*} {count : Nat} {front : List β}
    (length_eq : front.length = count) (rest : List β) :
    takeExact count (front ++ rest) = some (front, rest) := by
  subst length_eq
  simp [takeExact]

/-- Taking past a front part keeps it whole. -/
theorem take_add_append {β : Type*} {front back : List β} {size : Nat} (count : Nat)
    (length_eq : front.length = size) :
    (front ++ back).take (size + count) = front ++ back.take count := by
  subst length_eq
  exact List.take_length_add_append count

/-- Read one `width`-byte number off the front of the input. -/
def decodeLe (width : Nat) (input : List UInt8) : Option (Nat × List UInt8) :=
  (takeExact width input).map fun parts => (ofLe parts.1, parts.2)

/-- A number that fits its width is read back unchanged, whatever follows. -/
theorem decodeLe_leBytes_append {width value : Nat}
    (fits : value < 256 ^ width) (rest : List UInt8) :
    decodeLe width (leBytes width value ++ rest) = some (value, rest) := by
  rw [decodeLe, takeExact_append (leBytes_length width value)]
  simp [ofLe_leBytes_of_lt fits]

end WifiSniffer.Bytes
