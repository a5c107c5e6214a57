import Mathlib.Data.List.Induction
import Mathlib.Data.Nat.Count
import WifiSniffer.Bytes.Hex
import WifiSniffer.Memory.Write
import WifiSniffer.Settings.Filter

/-!
# Filters as text

`nvs_bytes_to_hex` and its caller.  The loop looks for space before each byte, with the
pointer that the bytes before have left, and goes on behind a byte that finds none.  The
pointer then stays, so that the later ones find none either: what is in the buffer is the
text of the first bytes.

Addresses are numbers; `hasSpace_iff_registers` is the comparison as 32-bit registers make
it.
-/

namespace WifiSniffer.Nvs

open WifiSniffer.Bytes WifiSniffer.Memory

/-! ## The code -/

/-- The pointer `buf2` and the memory that it points into, with the addresses that have
been written. -/
structure TextCursor where
  buf2 : Nat
  memory : Nat → UInt8
  written : List Nat

/-- `buf2 += sprintf(buf2, ..)` with what is printed -/
def TextCursor.sprintf (cursor : TextCursor) (text : List UInt8) : TextCursor where
  buf2 := cursor.buf2 + text.length
  memory := write cursor.memory cursor.buf2 (text ++ [0])
  written := cursor.written ++ List.range' cursor.buf2 (text.length + 1)

/-- `spacing`: a byte, a delimiter and a terminator -/
def spacing (delimiterSz : Nat) : Nat :=
  2 + delimiterSz + 1

/-- The test of the loop -/
def HasSpace (delimiterSz endofbuf : Nat) (cursor : TextCursor) : Prop :=
  cursor.buf2 + spacing delimiterSz < endofbuf

instance (delimiterSz endofbuf : Nat) (cursor : TextCursor) :
    Decidable (HasSpace delimiterSz endofbuf cursor) :=
  inferInstanceAs (Decidable (_ < _))

section Code

variable (buf : List UInt8) (delimiter : CString) (delimiterSz stringbuf sz : Nat)
  (memory : Nat → UInt8)

/-- One turn of the loop -/
def hexTurn (i : Nat) (cursor : TextCursor) : TextCursor :=
  if HasSpace delimiterSz (stringbuf + sz) cursor then
    let separated := if i > 0 then cursor.sprintf delimiter.chars else cursor
    separated.sprintf (hexPair (buf.getD i 0))
  else cursor

/-- The loop before turn `i`.  The index is an `int`, which has room for every index of
fewer than 2^31 bytes. -/
def beforeTurn : Nat → TextCursor
  | 0 => ⟨stringbuf, memory, []⟩
  | i + 1 => hexTurn buf delimiter delimiterSz stringbuf sz i (beforeTurn i)

end Code

/-- `nvs_bytes_to_hex` -/
def nvsBytesToHex (buf : List UInt8) (bufSz : Nat) (delimiter : CString)
    (delimiterSz stringbuf sz : Nat) (memory : Nat → UInt8) : TextCursor :=
  beforeTurn buf delimiter delimiterSz stringbuf sz memory bufSz

/-! ## The text -/

/-- The bytes with a delimiter between each two of them. -/
def delimited (delimiter : CString) (bytes : List UInt8) : List UInt8 :=
  delimiter.chars.intercalate (bytes.map hexPair)

/-- Where the text of a byte and of the delimiter in front of it begins, and where the
text of that many bytes ends. -/
def textStart (delimiterSz : Nat) : Nat → Nat
  | 0 => 0
  | i + 1 => 2 + i * (delimiterSz + 2)

/-- The text of byte `i` fits, with a terminator and one place more. -/
def Fits (delimiterSz sz i : Nat) : Prop :=
  textStart delimiterSz i + delimiterSz + 3 < sz

instance (delimiterSz sz i : Nat) : Decidable (Fits delimiterSz sz i) :=
  inferInstanceAs (Decidable (_ < _))

section Text

variable {delimiter : CString} {bytes : List UInt8} {byte : UInt8} {d sz i j : Nat}

@[simp]
theorem delimited_nil : delimited delimiter [] = [] :=
  rfl

@[simp]
theorem delimited_singleton : delimited delimiter [byte] = hexPair byte := by
  simp [delimited]

theorem delimited_append_singleton (nonempty : bytes ≠ []) :
    delimited delimiter (bytes ++ [byte]) =
      delimited delimiter bytes ++ (delimiter.chars ++ hexPair byte) := by
  induction bytes with
  | nil => exact absurd rfl nonempty
  | cons first rest ih =>
      cases rest with
      | nil => simp [delimited]
      | cons second rest =>
          have later := ih (List.cons_ne_nil _ _)
          simp only [delimited, List.map_cons, List.cons_append, List.map_append, List.map_nil,
            List.intercalate_cons_cons, List.append_assoc] at later ⊢
          rw [later]

theorem delimited_length :
    (delimited delimiter bytes).length = textStart delimiter.length bytes.length := by
  induction bytes using List.reverseRecOn with
  | nil => rfl
  | append_singleton bytes byte ih =>
      rcases Nat.eq_zero_or_pos bytes.length with empty | nonempty
      · rw [List.length_eq_zero_iff.mp empty, List.nil_append, delimited_singleton,
          hexPair_length, List.length_singleton, textStart, Nat.zero_mul]
      · obtain ⟨count, length_eq⟩ := Nat.exists_eq_succ_of_ne_zero nonempty.ne'
        rw [delimited_append_singleton (List.ne_nil_of_length_pos nonempty), List.length_append,
          List.length_append, List.length_append, ih, length_eq, hexPair_length,
          List.length_singleton, textStart, textStart, Nat.succ_mul, CString.length]
        omega

theorem delimited_take_length {count : Nat} (inside : count ≤ bytes.length) :
    (delimited delimiter (bytes.take count)).length = textStart delimiter.length count := by
  rw [delimited_length, List.length_take, Nat.min_eq_left inside]

/-- The text of a byte begins behind the texts of the ones before. -/
theorem textStart_mono (le : i ≤ j) : textStart d i ≤ textStart d j := by
  rcases i with _ | i
  · exact Nat.zero_le _
  · rcases j with _ | j
    · exact absurd le (Nat.not_succ_le_zero i)
    · exact Nat.add_le_add_left (Nat.mul_le_mul_right _ (Nat.le_of_succ_le_succ le)) _

/-- Where a byte fits, the ones before do. -/
theorem Fits.of_le (fits : Fits d sz j) (le : i ≤ j) : Fits d sz i := by
  have start_le := textStart_mono (d := d) le
  rw [Fits] at fits ⊢
  omega

/-- The number of the bytes that fit is the index of the first that does not. -/
theorem fits_count_iff : Fits d sz (Nat.count (Fits d sz) i) ↔ Fits d sz i := by
  constructor
  · intro next
    induction i with
    | zero => exact next
    | succ i ih =>
        by_cases fits : Fits d sz i
        · have all : Nat.count (Fits d sz) (i + 1) = i + 1 :=
            Nat.count_iff_forall.mpr fun j lt => fits.of_le (Nat.le_of_lt_succ lt)
          rwa [all] at next
        · rw [Nat.count_succ, if_neg fits, Nat.add_zero] at next
          exact absurd (ih next) fits
  · exact fun fits => fits.of_le (Nat.count_le _)

theorem count_of_fits (fits : Fits d sz i) : Nat.count (Fits d sz) i = i :=
  Nat.count_iff_forall.mpr fun _ lt => fits.of_le lt.le

end Text

/-! ## The loop -/

section Loop

variable {buf : List UInt8} {delimiter : CString} {stringbuf sz count : Nat}
  {memory : Nat → UInt8} {text tail : List UInt8} {cursor : TextCursor}

/-- A text and what is behind it have been printed, with the pointer between them. -/
structure Printed (memory : Nat → UInt8) (stringbuf : Nat) (text tail : List UInt8)
    (cursor : TextCursor) : Prop where
  buf2_eq : cursor.buf2 = stringbuf + text.length
  memory_eq : cursor.memory = write memory stringbuf (text ++ tail)

/-- `sprintf` writes over the terminator of what has been printed. -/
theorem Printed.sprintf (printed : Printed memory stringbuf text tail cursor)
    (covered : tail.length ≤ 1) (more : List UInt8) :
    Printed memory stringbuf (text ++ more) [0] (cursor.sprintf more) where
  buf2_eq := by
    rw [TextCursor.sprintf, printed.buf2_eq, List.length_append, Nat.add_assoc]
  memory_eq := by
    have longer : tail.length ≤ (more ++ [0]).length := by
      rw [List.length_append, List.length_singleton]
      omega
    rw [TextCursor.sprintf, printed.memory_eq, printed.buf2_eq, write_write_append longer,
      List.append_assoc]

/-- Nothing has been written outside of the buffer. -/
def WrittenInside (stringbuf sz : Nat) (cursor : TextCursor) : Prop :=
  ∀ address ∈ cursor.written, stringbuf ≤ address ∧ address < stringbuf + sz

theorem WrittenInside.sprintf (inside : WrittenInside stringbuf sz cursor) {offset : Nat}
    (buf2_eq : cursor.buf2 = stringbuf + offset) (room : offset + text.length < sz) :
    WrittenInside stringbuf sz (cursor.sprintf text) := by
  intro address member
  rcases List.mem_append.mp member with before | new
  · exact inside address before
  · rw [buf2_eq, List.mem_range'_1] at new
    omega

/-- What the loop has done when it has rendered the first `count` bytes. -/
structure HasRendered (buf : List UInt8) (delimiter : CString) (stringbuf sz : Nat)
    (memory : Nat → UInt8) (count : Nat) (cursor : TextCursor) : Prop where
  printed : Printed memory stringbuf (delimited delimiter (buf.take count))
    (if count = 0 then [] else [0]) cursor
  inside : WrittenInside stringbuf sz cursor
  untouched : count = 0 → cursor.written = []

theorem hasRendered_zero :
    HasRendered buf delimiter stringbuf sz memory 0 ⟨stringbuf, memory, []⟩ where
  printed := ⟨rfl, by simp⟩
  inside := by simp [WrittenInside]
  untouched _ := rfl

theorem HasRendered.buf2_eq (rendered : HasRendered buf delimiter stringbuf sz memory count cursor)
    (inBuf : count ≤ buf.length) : cursor.buf2 = stringbuf + textStart delimiter.length count := by
  rw [rendered.printed.buf2_eq, delimited_take_length inBuf]

/-- The test of the loop compares with the place of the next byte. -/
theorem HasRendered.hasSpace_iff
    (rendered : HasRendered buf delimiter stringbuf sz memory count cursor)
    (inBuf : count ≤ buf.length) :
    HasSpace delimiter.length (stringbuf + sz) cursor ↔ Fits delimiter.length sz count := by
  rw [HasSpace, rendered.buf2_eq inBuf, spacing, Fits]
  omega

/-- The last of the bytes is printed behind what precedes it. -/
theorem HasRendered.of_printed {byte : UInt8}
    (printed : Printed memory stringbuf text tail cursor) (covered : tail.length ≤ 1)
    (inside : WrittenInside stringbuf sz cursor) (room : text.length + 2 < sz)
    (text_eq : delimited delimiter (buf.take (count + 1)) = text ++ hexPair byte) :
    HasRendered buf delimiter stringbuf sz memory (count + 1) (cursor.sprintf (hexPair byte)) where
  printed := by
    rw [text_eq]
    exact printed.sprintf covered _
  inside := inside.sprintf printed.buf2_eq room
  untouched zero := absurd zero (Nat.succ_ne_zero _)

/-- The string so far with one more byte, which a delimiter precedes unless it is the
first. -/
theorem HasRendered.turn (rendered : HasRendered buf delimiter stringbuf sz memory count cursor)
    (inBuf : count < buf.length) (fits : Fits delimiter.length sz count) :
    HasRendered buf delimiter stringbuf sz memory (count + 1)
      (hexTurn buf delimiter delimiter.length stringbuf sz count cursor) := by
  have next : buf.take (count + 1) = buf.take count ++ [buf.getD count 0] := by
    rw [List.getD_eq_getElem _ _ inBuf, List.take_append_getElem]
  rw [hexTurn, if_pos ((rendered.hasSpace_iff inBuf.le).mpr fits)]
  rw [Fits, ← delimited_take_length inBuf.le, CString.length] at fits
  rcases count with _ | count
  · apply HasRendered.of_printed rendered.printed (Nat.zero_le _) rendered.inside
    · omega
    · rw [next]
      rfl
  · have nonempty : buf.take (count + 1) ≠ [] :=
      List.ne_nil_of_length_pos (by rw [List.length_take]; omega)
    have separated := rendered.printed.sprintf (Nat.le_refl _) delimiter.chars
    have inside : WrittenInside stringbuf sz (cursor.sprintf delimiter.chars) :=
      rendered.inside.sprintf rendered.printed.buf2_eq (by omega)
    apply HasRendered.of_printed separated (Nat.le_refl _) inside
    · rw [List.length_append]
      omega
    · rw [next, delimited_append_singleton nonempty, List.append_assoc]

/-- Before each turn the loop has rendered as many bytes as fit. -/
theorem hasRendered_beforeTurn {i : Nat} (inBuf : i ≤ buf.length) :
    HasRendered buf delimiter stringbuf sz memory (Nat.count (Fits delimiter.length sz) i)
      (beforeTurn buf delimiter delimiter.length stringbuf sz memory i) := by
  induction i with
  | zero => exact hasRendered_zero
  | succ i ih =>
      have rendered := ih (Nat.le_of_succ_le inBuf)
      have count_le : Nat.count (Fits delimiter.length sz) i ≤ buf.length :=
        (Nat.count_le _).trans (Nat.le_of_succ_le inBuf)
      rw [beforeTurn, Nat.count_succ]
      by_cases fits : Fits delimiter.length sz i
      · rw [if_pos fits, count_of_fits fits]
        rw [count_of_fits fits] at rendered
        exact rendered.turn inBuf fits
      · have full : ¬ HasSpace delimiter.length (stringbuf + sz)
            (beforeTurn buf delimiter delimiter.length stringbuf sz memory i) := by
          rw [rendered.hasSpace_iff count_le, fits_count_iff]
          exact fits
        rw [if_neg fits, hexTurn, if_neg full]
        exact rendered

/-- The memory has changed only where it has been written. -/
def Framed (memory : Nat → UInt8) (cursor : TextCursor) : Prop :=
  ∀ address ∉ cursor.written, cursor.memory address = memory address

theorem Framed.sprintf (framed : Framed memory cursor) : Framed memory (cursor.sprintf text) := by
  intro address unwritten
  rw [TextCursor.sprintf, List.mem_append, not_or, List.mem_range'_1] at unwritten
  rcases unwritten with ⟨before, outside⟩
  rw [TextCursor.sprintf, ← framed address before]
  rcases Nat.lt_or_ge address cursor.buf2 with lower | upper
  · exact write_apply_of_lt lower
  · apply write_apply_of_le
    rw [List.length_append, List.length_singleton]
    omega

theorem framed_beforeTurn {delimiterSz : Nat} (i : Nat) :
    Framed memory (beforeTurn buf delimiter delimiterSz stringbuf sz memory i) := by
  induction i with
  | zero => exact fun _ _ => rfl
  | succ i ih =>
      rw [beforeTurn, hexTurn]
      split
      · apply Framed.sprintf
        split
        · exact ih.sprintf
        · exact ih
      · exact ih

/-- Turn `i` of a call finds space for its byte. -/
def Renders (buf : List UInt8) (delimiter : CString) (delimiterSz stringbuf sz : Nat)
    (memory : Nat → UInt8) (i : Nat) : Prop :=
  HasSpace delimiterSz (stringbuf + sz)
    (beforeTurn buf delimiter delimiterSz stringbuf sz memory i)

instance (delimiterSz : Nat) :
    DecidablePred (Renders buf delimiter delimiterSz stringbuf sz memory) :=
  fun _ => inferInstanceAs (Decidable (HasSpace _ _ _))

theorem renders_iff {i : Nat} (inBuf : i ≤ buf.length) :
    Renders buf delimiter delimiter.length stringbuf sz memory i ↔ Fits delimiter.length sz i := by
  have count_le : Nat.count (Fits delimiter.length sz) i ≤ buf.length :=
    (Nat.count_le _).trans inBuf
  rw [Renders, (hasRendered_beforeTurn inBuf).hasSpace_iff count_le, fits_count_iff]

theorem count_renders {n : Nat} (inBuf : n ≤ buf.length) :
    Nat.count (Renders buf delimiter delimiter.length stringbuf sz memory) n =
      Nat.count (Fits delimiter.length sz) n := by
  apply Nat.le_antisymm
  · exact Nat.count_mono_left fun i lt => (renders_iff (lt.le.trans inBuf)).mp
  · exact Nat.count_mono_left fun i lt => (renders_iff (lt.le.trans inBuf)).mpr

/-- The memory behind a call. -/
theorem nvsBytesToHex_memory {bufSz : Nat} (inBuf : bufSz ≤ buf.length) :
    (nvsBytesToHex buf bufSz delimiter delimiter.length stringbuf sz memory).memory =
      write memory stringbuf
        (delimited delimiter (buf.take (Nat.count (Fits delimiter.length sz) bufSz)) ++
          if Nat.count (Fits delimiter.length sz) bufSz = 0 then [] else [0]) :=
  (hasRendered_beforeTurn inBuf).printed.memory_eq

end Loop

/-- Whatever the sizes, the bytes that fit come out as one string inside of the buffer,
and they are the first ones. -/
theorem nvsBytesToHex_renders (buf : List UInt8) (delimiter : CString) (stringbuf sz : Nat)
    (memory : Nat → UInt8) :
    let final := nvsBytesToHex buf buf.length delimiter delimiter.length stringbuf sz memory
    let renders := Renders buf delimiter delimiter.length stringbuf sz memory
    let k := Nat.count renders buf.length
    let text := delimited delimiter (buf.take k)
    (WrittenInside stringbuf sz final ∧ Framed memory final) ∧
      (k = 0 → final.memory = memory ∧ final.written = []) ∧
      (0 < k → contents final.memory stringbuf (text.length + 1) = text ++ [0]) ∧
      k = Nat.count (Fits delimiter.length sz) buf.length ∧
      ∀ i j, i ≤ j → j < buf.length → renders j → renders i := by
  intro final renders k text
  have count_eq : k = Nat.count (Fits delimiter.length sz) buf.length :=
    count_renders (Nat.le_refl _)
  have rendered : HasRendered buf delimiter stringbuf sz memory k final := by
    rw [count_eq]
    exact hasRendered_beforeTurn (Nat.le_refl _)
  have memory_eq := rendered.printed.memory_eq
  have untouched : k = 0 → final.memory = memory ∧ final.written = [] := by
    intro none
    rw [none] at memory_eq
    exact ⟨by simpa using memory_eq, rendered.untouched none⟩
  have holds : 0 < k → contents final.memory stringbuf (text.length + 1) = text ++ [0] := by
    intro some
    rw [memory_eq, if_neg some.ne']
    exact contents_write List.length_append
  have noGap : ∀ i j, i ≤ j → j < buf.length → renders j → renders i := by
    intro i j le inBuf later
    exact (renders_iff (le.trans inBuf.le)).mpr (((renders_iff inBuf.le).mp later).of_le le)
  exact ⟨⟨rendered.inside, framed_beforeTurn _⟩, untouched, holds, count_eq, noGap⟩

/-- The comparison in 32-bit registers, where the sums leave no address out.  That
`spacing` is an `int` makes no difference to it. -/
theorem hasSpace_iff_registers {stringbuf sz delimiterSz buf2 : UInt32} {memory : Nat → UInt8}
    {written : List Nat} (endFits : stringbuf.toNat + sz.toNat < 2 ^ 32)
    (sumFits : buf2.toNat + spacing delimiterSz.toNat < 2 ^ 32) :
    HasSpace delimiterSz.toNat (stringbuf.toNat + sz.toNat) ⟨buf2.toNat, memory, written⟩ ↔
      buf2 + (2 + delimiterSz + 1).toInt32.toUInt32 < stringbuf + sz := by
  have spacing_eq : (2 + delimiterSz + 1).toNat = spacing delimiterSz.toNat := by
    have two : (2 : UInt32).toNat = 2 := rfl
    rw [spacing] at sumFits ⊢
    rw [UInt32.toNat_add, UInt32.toNat_add, two, UInt32.toNat_one, Nat.mod_add_mod,
      Nat.mod_eq_of_lt (by omega)]
  rw [HasSpace, UInt32.toUInt32_toInt32, UInt32.lt_iff_toNat_lt, UInt32.toNat_add, spacing_eq,
    UInt32.toNat_add, Nat.mod_eq_of_lt sumFits, Nat.mod_eq_of_lt endFits]

end WifiSniffer.Nvs

namespace WifiSniffer.Settings

open WifiSniffer.Bytes WifiSniffer.Handler WifiSniffer.Memory WifiSniffer.Nvs

/-- `sniffer_addrFilter_to_string` -/
def snifferAddrFilterToString (addrFilter : AddrFilter) (stringbuf sz : Nat)
    (memory : Nat → UInt8) : Nat → UInt8 :=
  if addrFilter.size > 0 then
    (nvsBytesToHex addrFilter.array addrFilter.size (.ofString ":") 1 stringbuf sz memory).memory
  else memory

/-- In the arrays of twenty that `ADDR_TO_STRING` is given the text of a filter is
complete. -/
theorem snifferAddrFilterToString_twenty {addrFilter : AddrFilter} {stringbuf : Nat}
    {memory : Nat → UInt8} (some : addrFilter.size > 0) (fits : addrFilter.size ≤ 6) :
    contents (snifferAddrFilterToString addrFilter stringbuf 20 memory) stringbuf
        ((delimited (.ofString ":") addrFilter.bytes).length + 1) =
      delimited (.ofString ":") addrFilter.bytes ++ [0] := by
  have colon : (CString.ofString ":").length = 1 := by decide
  have last : Fits (CString.ofString ":").length 20 5 := by decide
  have all : Nat.count (Fits (CString.ofString ":").length 20) addrFilter.size = addrFilter.size :=
    Nat.count_iff_forall.mpr fun i lt => last.of_le (by omega)
  have inArray : addrFilter.size ≤ addrFilter.array.length := by
    rw [AddrFilter.array_length]
    exact fits
  have memory_eq : (nvsBytesToHex addrFilter.array addrFilter.size (.ofString ":")
      (CString.ofString ":").length stringbuf 20 memory).memory = _ :=
    nvsBytesToHex_memory inArray
  rw [all, AddrFilter.array_take fits, if_neg some.ne', colon] at memory_eq
  rw [snifferAddrFilterToString, if_pos some, memory_eq]
  exact contents_write List.length_append

end WifiSniffer.Settings
