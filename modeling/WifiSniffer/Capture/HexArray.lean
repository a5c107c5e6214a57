import WifiSniffer.Bytes.Hex

/-!
# `hex_to_byte_array`

Both firmwares have this function, word for word.  It writes the bytes one after the
other to the front of the array that it is given, however long that is, and returns
their number.  At a pair of characters that are not both digits it returns -1, which
as a `size_t` is the largest number there is, and leaves what it has written.
-/

namespace WifiSniffer.Capture

open WifiSniffer.Bytes

/-! ## The code -/

/-- `hex_to_decimal` -/
def hexToDecimal (hexChar : UInt8) : Int :=
  let char (c : Char) : UInt8 := c.toNat.toUInt8
  if hexChar ≥ char '0' ∧ hexChar ≤ char '9' then (hexChar - char '0').toNat
  else if hexChar ≥ char 'a' ∧ hexChar ≤ char 'f' then (hexChar - char 'a' + 10).toNat
  else if hexChar ≥ char 'A' ∧ hexChar ≤ char 'F' then (hexChar - char 'A' + 10).toNat
  else -1

/-- The loop of `hex_to_byte_array` from index `i` on, with the number of indices that
are left. -/
def hexLoop (hexArray : List UInt8) : Nat → Nat → UInt32 × List UInt8
  | 0, i => (UInt32.ofNat i, [])
  | left + 1, i =>
      let highNibble := hexToDecimal (hexArray.getD (i * 2) 0)
      let lowNibble := hexToDecimal (hexArray.getD (i * 2 + 1) 0)
      if highNibble = -1 ∨ lowNibble = -1 then (-1, [])
      else
        let (t, bytes) := hexLoop hexArray left (i + 1)
        (t, (UInt8.ofInt highNibble <<< 4 ||| UInt8.ofInt lowNibble) :: bytes)

/-- `hex_to_byte_array`, with the bytes that it writes to the front of `byteArray`. -/
def hexToByteArray (hexArray : List UInt8) (hexLength : Nat) : UInt32 × List UInt8 :=
  hexLoop hexArray (hexLength / 2) 0

/-! ## What it decodes -/

theorem hexToDecimal_eq (hexChar : UInt8) :
    hexToDecimal hexChar = (hexValue? hexChar).elim (-1) Nat.cast := by
  have all : ∀ value : Fin 256, hexToDecimal (UInt8.ofFin value) =
      (hexValue? (UInt8.ofFin value)).elim (-1) Nat.cast := by
    decide +kernel
  exact all hexChar.toFin

/-- Both halves of a byte are digits, or the pair is refused. -/
theorem hexByte?_eq (high low : UInt8) :
    hexByte? high low =
      if hexToDecimal high = -1 ∨ hexToDecimal low = -1 then none
      else some (UInt8.ofInt (hexToDecimal high) <<< 4 ||| UInt8.ofInt (hexToDecimal low)) := by
  rw [hexToDecimal_eq, hexToDecimal_eq, hexByte?]
  cases highValue : hexValue? high with
  | none => simp
  | some highNibble =>
      cases lowValue : hexValue? low with
      | none => simp
      | some lowNibble =>
          have joined : ∀ high low : Fin 16,
              UInt8.ofNat (16 * high + low) =
                UInt8.ofInt (high : Nat) <<< 4 ||| UInt8.ofInt (low : Nat) := by
            decide
          have nonneg (nibble : Nat) : (nibble : Int) ≠ -1 := by omega
          simpa [nonneg] using
            joined ⟨highNibble, hexValue?_lt highValue⟩ ⟨lowNibble, hexValue?_lt lowValue⟩

section Loop

variable {hexArray rest : List UInt8} {left i : Nat}

theorem getD_of_drop {count : Nat} {byte : UInt8} (ahead : hexArray.drop count = byte :: rest) :
    hexArray.getD count 0 = byte := by
  have found : (hexArray.drop count)[0]? = some byte := by
    rw [ahead]
    rfl
  rw [List.getElem?_drop, Nat.add_zero] at found
  rw [List.getD_eq_getElem?_getD, found, Option.getD_some]

theorem drop_succ_of_drop {count : Nat} {byte : UInt8}
    (ahead : hexArray.drop count = byte :: rest) : hexArray.drop (count + 1) = rest := by
  rw [← List.drop_drop, ahead]
  rfl

/-- A text of pairs that is not empty begins with one. -/
theorem exists_pair {text : List UInt8} (length_eq : text.length = 2 * (left + 1)) :
    ∃ high low tail, text = high :: low :: tail ∧ tail.length = 2 * left := by
  match text with
  | [] | [_] =>
      simp only [List.length_nil, List.length_singleton] at length_eq
      omega
  | high :: low :: tail =>
      refine ⟨high, low, tail, rfl, ?_⟩
      rw [List.length_cons, List.length_cons] at length_eq
      omega

/-- One turn of the loop, at the two characters that it looks at. -/
theorem hexLoop_succ {high low : UInt8} (ahead : hexArray.drop (i * 2) = high :: low :: rest) :
    hexLoop hexArray (left + 1) i =
      match hexByte? high low with
      | none => (-1, [])
      | some byte =>
          ((hexLoop hexArray left (i + 1)).1, byte :: (hexLoop hexArray left (i + 1)).2) := by
  rw [hexLoop, getD_of_drop ahead, getD_of_drop (drop_succ_of_drop ahead), hexByte?_eq]
  dsimp only
  split
  · rfl
  · rfl

/-- The loop over digits in pairs decodes them. -/
theorem hexLoop_of_decode {text bytes : List UInt8}
    (ahead : hexArray.drop (i * 2) = text ++ rest) (length_eq : text.length = 2 * left)
    (decoded : hexDecode? text = some bytes) :
    hexLoop hexArray left i = (UInt32.ofNat (i + left), bytes) := by
  induction left generalizing i text bytes with
  | zero =>
      rw [List.length_eq_zero_iff.mp length_eq] at decoded
      cases decoded
      rfl
  | succ left ih =>
      rcases exists_pair length_eq with ⟨high, low, tail, rfl, length_tail⟩
      rcases hexDecode?_cons_cons_eq_some_iff.mp decoded with
        ⟨byte, bytes, first, decodedTail, rfl⟩
      have aheadTail : hexArray.drop ((i + 1) * 2) = tail ++ rest := by
        rw [Nat.succ_mul]
        exact drop_succ_of_drop (drop_succ_of_drop ahead)
      rw [hexLoop_succ ahead, first, ih aheadTail length_tail decodedTail,
        Nat.add_right_comm, Nat.add_assoc]

/-- The loop comes to an end early at a pair that is not two digits. -/
theorem hexLoop_of_decode_none {text : List UInt8}
    (ahead : hexArray.drop (i * 2) = text ++ rest) (length_eq : text.length = 2 * left)
    (refused : hexDecode? text = none) : (hexLoop hexArray left i).1 = -1 := by
  induction left generalizing i text with
  | zero =>
      rw [List.length_eq_zero_iff.mp length_eq] at refused
      cases refused
  | succ left ih =>
      rcases exists_pair length_eq with ⟨high, low, tail, rfl, length_tail⟩
      rw [hexLoop_succ ahead]
      cases first : hexByte? high low with
      | none => rfl
      | some byte =>
          have aheadTail : hexArray.drop ((i + 1) * 2) = tail ++ rest := by
            rw [Nat.succ_mul]
            exact drop_succ_of_drop (drop_succ_of_drop ahead)
          have refusedTail : hexDecode? tail = none := by
            cases decodedTail : hexDecode? tail with
            | none => rfl
            | some bytes => simp [hexDecode?, first, decodedTail] at refused
          exact ih aheadTail length_tail refusedTail

end Loop

section Text

variable {text : List UInt8}

/-- A text of digits in pairs comes out as its bytes and their number. -/
theorem hexToByteArray_of_decode {bytes : List UInt8} (decoded : hexDecode? text = some bytes) :
    hexToByteArray text text.length = (UInt32.ofNat bytes.length, bytes) := by
  have length_eq := length_of_hexDecode? decoded
  have half_eq : text.length / 2 = bytes.length := by omega
  have ahead : text.drop (0 * 2) = text ++ [] := by simp
  rw [hexToByteArray, half_eq, hexLoop_of_decode ahead length_eq decoded, Nat.zero_add]

/-- Any other text of even length comes out as -1. -/
theorem hexToByteArray_of_decode_none (even : text.length % 2 = 0)
    (refused : hexDecode? text = none) : (hexToByteArray text text.length).1 = -1 := by
  have ahead : text.drop (0 * 2) = text ++ [] := by simp
  exact hexLoop_of_decode_none ahead (by omega) refused

end Text

end WifiSniffer.Capture
