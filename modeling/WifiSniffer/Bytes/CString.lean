import Mathlib.Data.List.Basic
import Mathlib.Data.List.TakeWhile
import Mathlib.Data.List.Infix

/-!
# C strings

Strings of nonzero bytes, the arrays they are kept in, and the functions of
`string.h` on them.  A function that looks for the end of a string may leave the
array it is in; how many bytes each function looks at is therefore a definition of
its own.
-/

namespace WifiSniffer.Bytes

/-- A string, without its terminator. -/
structure CString where
  chars : List UInt8
  nulFree : 0 ∉ chars
  deriving DecidableEq

namespace CString

def length (string : CString) : Nat :=
  string.chars.length

/-- The string that an array or a piece of memory begins with. -/
def ofArray (array : List UInt8) : CString where
  chars := array.takeWhile (· ≠ 0)
  nulFree := fun member => by simpa using List.mem_takeWhile_imp member

/-- A string of ASCII characters. -/
def ofString (text : String) : CString :=
  ofArray (text.toList.map fun char => char.toNat.toUInt8)

/-- The first characters of a string. -/
def take (string : CString) (count : Nat) : CString where
  chars := string.chars.take count
  nulFree := fun member => string.nulFree (List.mem_of_mem_take member)

theorem ext {first second : CString} (chars_eq : first.chars = second.chars) :
    first = second := by
  cases first
  cases second
  cases chars_eq
  rfl

/-- An array in which a terminator follows a string holds that string. -/
@[simp]
theorem ofArray_append_nul (string : CString) (rest : List UInt8) :
    ofArray (string.chars ++ 0 :: rest) = string := by
  apply ext
  change (string.chars ++ 0 :: rest).takeWhile (· ≠ 0) = string.chars
  rw [List.takeWhile_append_of_pos]
  · simp
  · intro byte member
    rw [decide_eq_true_iff]
    rintro rfl
    exact string.nulFree member

/-- So does an array that ends with the string. -/
@[simp]
theorem ofArray_chars (string : CString) : ofArray string.chars = string := by
  apply ext
  apply List.takeWhile_eq_self_iff.mpr
  intro byte member
  rw [decide_eq_true_iff]
  rintro rfl
  exact string.nulFree member

/-- Zeros behind a string do not matter. -/
@[simp]
theorem ofArray_append_replicate (string : CString) (count : Nat) :
    ofArray (string.chars ++ List.replicate count 0) = string := by
  cases count with
  | zero => rw [List.replicate_zero, List.append_nil, ofArray_chars]
  | succ count => rw [List.replicate_succ, ofArray_append_nul]

theorem take_of_length_le {string : CString} {count : Nat} (le : string.length ≤ count) :
    string.take count = string :=
  ext (List.take_of_length_le le)

theorem take_take (string : CString) (first second : Nat) :
    (string.take first).take second = string.take (min second first) :=
  ext List.take_take

theorem prefix_iff_eq_take {first second : CString} :
    first.chars <+: second.chars ↔ first = second.take first.length := by
  rw [List.prefix_iff_eq_take]
  constructor
  · exact fun chars_eq => ext chars_eq
  · exact fun same => congrArg chars same

end CString

/-! ## Arrays -/

/-- Bytes are copied to the front of an array. -/
def overwrite (array data : List UInt8) : List UInt8 :=
  data ++ array.drop data.length

theorem overwrite_length {array data : List UInt8} (fits : data.length ≤ array.length) :
    (overwrite array data).length = array.length := by
  simp [overwrite, fits]

@[simp]
theorem overwrite_replicate (data : List UInt8) (size : Nat) (byte : UInt8) :
    overwrite (List.replicate size byte) data =
      data ++ List.replicate (size - data.length) byte := by
  simp [overwrite]

/-- What `strncpy` writes: the string, cut off or filled up with zeros. -/
def strncpyBytes (source : CString) (count : Nat) : List UInt8 :=
  source.chars.take count ++ List.replicate (count - source.length) 0

@[simp]
theorem strncpyBytes_length (source : CString) (count : Nat) :
    (strncpyBytes source count).length = count := by
  simp [strncpyBytes, CString.length]
  omega

@[simp]
theorem ofArray_strncpyBytes (source : CString) (count : Nat) :
    CString.ofArray (strncpyBytes source count) = source.take count :=
  CString.ofArray_append_replicate (source.take count) (count - source.length)

@[simp]
theorem strncpyBytes_take (source : CString) (count : Nat) :
    strncpyBytes (source.take count) count = strncpyBytes source count := by
  have filled : count - (source.take count).length = count - source.length := by
    simp only [CString.length, CString.take, List.length_take]
    omega
  rw [strncpyBytes, strncpyBytes, filled, CString.take, List.take_take, Nat.min_self]

/-- The bytes `strlen` looks at in an array; one more than there are if there is no
terminator. -/
def strlenReads (array : List UInt8) : Nat :=
  (CString.ofArray array).length + 1

/-- The bytes of the source that `strncpy` looks at. -/
def strncpyReads (source : List UInt8) (count : Nat) : Nat :=
  min count (strlenReads source)

/-- The bytes of each array that `strncmp` looks at. -/
def strncmpReads : List UInt8 → List UInt8 → Nat → Nat
  | _, _, 0 => 0
  | [], _, _ + 1 | _ :: _, [], _ + 1 => 1
  | first :: firsts, second :: seconds, count + 1 =>
      if first = second ∧ first ≠ 0 then strncmpReads firsts seconds count + 1 else 1

/-- `strncmp` finds no difference. -/
def strncmpEqual (first second : CString) (count : Nat) : Prop :=
  first.take count = second.take count

instance (first second : CString) (count : Nat) : Decidable (strncmpEqual first second count) :=
  inferInstanceAs (Decidable (_ = _))

theorem strncmpReads_le (first second : List UInt8) (count : Nat) :
    strncmpReads first second count ≤ count := by
  induction count generalizing first second with
  | zero => simp [strncmpReads]
  | succ count ih =>
      cases first with
      | nil => simp [strncmpReads]
      | cons byte first =>
          cases second with
          | nil => simp [strncmpReads]
          | cons byte' second =>
              rw [strncmpReads]
              split
              · exact Nat.succ_le_succ (ih first second)
              · exact Nat.succ_le_succ (Nat.zero_le count)

/-! ## Literals -/

/-- A string literal where the linker has put it. -/
structure Literal where
  text : CString
  /-- the memory behind the terminator -/
  behind : Nat → UInt8

namespace Literal

/-- A literal of ASCII characters with zeros behind it. -/
def ofString (text : String) : Literal where
  text := .ofString text
  behind _ := 0

/-- The bytes from the beginning of a literal on. -/
def load (literal : Literal) (count : Nat) : List UInt8 :=
  (literal.text.chars ++ 0 :: (List.range count).map literal.behind).take count

@[simp]
theorem load_length (literal : Literal) (count : Nat) : (literal.load count).length = count := by
  simp only [load, List.length_take, List.length_append, List.length_cons, List.length_map,
    List.length_range]
  omega

/-- Whatever follows the literal, an array that is filled from it holds as much of it
as there is room for. -/
@[simp]
theorem ofArray_load (literal : Literal) (count : Nat) :
    CString.ofArray (literal.load count) = literal.text.take count := by
  by_cases fits : count ≤ literal.text.chars.length
  · rw [load, List.take_append_of_le_length fits]
    exact CString.ofArray_chars (literal.text.take count)
  · obtain ⟨rest, count_eq⟩ : ∃ rest, count = literal.text.chars.length + (rest + 1) :=
      ⟨count - literal.text.chars.length - 1, by omega⟩
    rw [CString.take_of_length_le (by rw [CString.length]; omega), load, count_eq,
      List.take_length_add_append, List.take_succ_cons, CString.ofArray_append_nul]

end Literal

end WifiSniffer.Bytes
