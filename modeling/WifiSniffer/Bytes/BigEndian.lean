import WifiSniffer.Bytes.LittleEndian

/-!
# Fixed-width big-endian numbers

The other byte order: the bytes of a number with the most significant one first.  What
one order has laid out and the other reads back is the number with its bytes swapped,
which is the number itself only if its bytes read the same in both directions.
-/

namespace WifiSniffer.Bytes

/-- The `width` low bytes of `value`, most significant first. -/
def beBytes (width value : Nat) : List UInt8 :=
  (leBytes width value).reverse

/-- The number whose big-endian bytes are given. -/
def ofBe (bytes : List UInt8) : Nat :=
  ofLe bytes.reverse

@[simp]
theorem beBytes_length (width value : Nat) : (beBytes width value).length = width := by
  rw [beBytes, List.length_reverse, leBytes_length]

theorem ofBe_beBytes_of_lt {width value : Nat} (fits : value < 256 ^ width) :
    ofBe (beBytes width value) = value := by
  rw [ofBe, beBytes, List.reverse_reverse, ofLe_leBytes_of_lt fits]

theorem ofLe_lt (bytes : List UInt8) : ofLe bytes < 256 ^ bytes.length := by
  rw [ofLe, ← List.length_map UInt8.toNat]
  apply Nat.ofDigits_lt_base_pow_length (by decide)
  intro digit member
  rcases List.mem_map.mp member with ⟨byte, _, rfl⟩
  exact byte.toNat_lt

/-- Bytes are laid out again as they were read. -/
theorem leBytes_ofLe (bytes : List UInt8) : leBytes bytes.length (ofLe bytes) = bytes := by
  induction bytes with
  | nil => rfl
  | cons byte bytes ih =>
      have low : UInt8.ofNat (byte.toNat + 256 * ofLe bytes) = byte := by
        apply UInt8.toNat_inj.mp
        have byte_lt := byte.toNat_lt
        rw [UInt8.toNat_ofNat']
        omega
      have high : (byte.toNat + 256 * ofLe bytes) / 256 = ofLe bytes := by
        have byte_lt := byte.toNat_lt
        omega
      rw [ofLe_cons, List.length_cons, leBytes_succ, low, high, ih]

/-- Read in the other order, a number is itself only if its bytes are a palindrome. -/
theorem ofBe_leBytes_eq_iff {width value : Nat} (fits : value < 256 ^ width) :
    ofBe (leBytes width value) = value ↔
      (leBytes width value).reverse = leBytes width value := by
  constructor
  · intro equal
    have again := leBytes_ofLe (leBytes width value).reverse
    rw [List.length_reverse, leBytes_length] at again
    rw [← again]
    exact congrArg (leBytes width) equal
  · intro palindrome
    rw [ofBe, palindrome, ofLe_leBytes_of_lt fits]

end WifiSniffer.Bytes
