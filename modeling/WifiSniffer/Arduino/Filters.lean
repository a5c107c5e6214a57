import WifiSniffer.Arduino.Serial

/-!
# The address filters of the sketch

A filter changes only through `F1` and `F2`, and only if the text behind the code decodes.
Everything that is wrong with the text comes out as a negative size: an odd length directly,
a character that is not a digit as the `size_t` for -1, which becomes an `int`.
-/

namespace WifiSniffer.Arduino

open WifiSniffer.Bytes WifiSniffer.Capture WifiSniffer.Transition

namespace AddrFilter

/-- The filter of decoded bytes. -/
def ofBytes (bytes : List UInt8) : AddrFilter where
  addr := memcpy empty.addr bytes
  size := (UInt32.ofNat bytes.length).toInt32

/-- The bytes that a filter compares. -/
def bytes (filter : AddrFilter) : List UInt8 :=
  filter.addr.toList.take filter.size.toNatClampNeg

/-- The size is one of an array of six bytes. -/
def Valid (filter : AddrFilter) : Prop :=
  0 ≤ filter.size ∧ filter.size ≤ 6

instance (filter : AddrFilter) : Decidable filter.Valid :=
  inferInstanceAs (Decidable (_ ∧ _))

section OfBytes

variable {decoded : List UInt8}

theorem size_ofBytes (fits : decoded.length ≤ 6) :
    (ofBytes decoded).size.toInt = decoded.length := by
  have length_lt : decoded.length < 2 ^ 32 := by omega
  change (UInt32.ofNat decoded.length).toInt32.toInt = _
  rw [← Int32.toInt_toBitVec, UInt32.toBitVec_toInt32, UInt32.toBitVec_ofNat',
    BitVec.toInt_ofNat', Int.bmod_eq_of_le]
  · omega
  · omega

theorem valid_ofBytes (fits : decoded.length ≤ 6) : (ofBytes decoded).Valid := by
  rw [Valid, Int32.le_iff_toInt_le, Int32.le_iff_toInt_le, size_ofBytes fits]
  change (0 : Int) ≤ decoded.length ∧ (decoded.length : Int) ≤ 6
  omega

/-- A filter compares the bytes that it is made of. -/
theorem bytes_ofBytes (fits : decoded.length ≤ 6) : (ofBytes decoded).bytes = decoded := by
  have size_eq : (ofBytes decoded).size.toNatClampNeg = decoded.length := by
    rw [← Int32.toNat_toInt, size_ofBytes fits, Int.toNat_natCast]
  rw [bytes, size_eq, ofBytes, memcpy_toList_take _ (Nat.le_refl _) fits, List.take_length]

end OfBytes

end AddrFilter

/-! ## Reading a filter -/

section ReadFilter

theorem hexLoop_length_le (hexArray : List UInt8) (left i : Nat) :
    (hexLoop hexArray left i).2.length ≤ left := by
  induction left generalizing i with
  | zero => exact Nat.le_refl 0
  | succ left ih =>
      rw [hexLoop]
      dsimp only
      split
      · exact Nat.zero_le _
      · exact Nat.succ_le_succ (ih (i + 1))

/-- The places of a filter's array that `filterAddr` writes. -/
def filterAddrWrites (mac : List UInt8) (readBytes : Nat) : List Nat :=
  if readBytes > 0 ∧ readBytes % 2 = 0 then List.range (hexToByteArray mac readBytes).2.length
  else []

theorem lt_of_mem_filterAddrWrites {mac : List UInt8} {readBytes index : Nat}
    (fits : readBytes ≤ 12) (member : index ∈ filterAddrWrites mac readBytes) : index < 6 := by
  have length_le := hexLoop_length_le mac (readBytes / 2) 0
  have written := List.mem_range.mp (List.mem_ite_nil_right.mp member).2
  rw [hexToByteArray] at written
  omega

variable {text rest : List UInt8}

/-- A text that decodes makes the filter of its bytes. -/
theorem filterAddr_of_decode {decoded : List UInt8} (isSome : hexDecode? text = some decoded) :
    filterAddr (text ++ rest) text.length = .ofBytes decoded := by
  have length_eq := length_of_hexDecode? isSome
  have even : text.length % 2 = 0 := by omega
  rw [filterAddr]
  by_cases nonempty : text.length > 0
  · have half_eq : text.length / 2 = decoded.length := by omega
    have ahead : (text ++ rest).drop (0 * 2) = text ++ rest := by simp
    rw [if_pos nonempty, if_pos even, hexToByteArray, half_eq,
      hexLoop_of_decode ahead length_eq isSome, Nat.zero_add]
    rfl
  · have decoded_eq : decoded = [] := List.length_eq_zero_iff.mp (by omega)
    rw [if_neg nonempty, decoded_eq]
    decide

/-- Any other text makes a filter of negative size. -/
theorem size_filterAddr_of_decode_none (isNone : hexDecode? text = none) :
    (filterAddr (text ++ rest) text.length).size = -1 := by
  have nonempty : text.length > 0 := by
    rcases text with _ | ⟨first, tail⟩
    · cases isNone
    · exact Nat.succ_pos _
  rw [filterAddr, if_pos nonempty]
  split
  · rename_i even
    have ahead : (text ++ rest).drop (0 * 2) = text ++ rest := by simp
    have refused : (hexToByteArray (text ++ rest) text.length).1 = -1 :=
      hexLoop_of_decode_none ahead (by omega) isNone
    dsimp only
    rw [refused]
    decide
  · rfl

/-- The bytes that `F1` and `F2` take as their argument. -/
def filterText (input : List UInt8) : List UInt8 :=
  input.take 12

theorem filterText_length_le (input : List UInt8) : (filterText input).length ≤ 12 :=
  List.length_take_le 12 input

/-- Only an argument that decodes replaces a filter. -/
theorem readFilter_eq (old : AddrFilter) (input : List UInt8) :
    readFilter old input =
      ((hexDecode? (filterText input)).elim old .ofBytes, input.drop 12) := by
  have unfolded : readFilter old input =
      (if (filterAddr (filterText input ++ List.replicate (12 - (filterText input).length) 0)
            (filterText input).length).size ≥ 0 then
          filterAddr (filterText input ++ List.replicate (12 - (filterText input).length) 0)
            (filterText input).length
        else old, input.drop 12) := rfl
  have length_le := filterText_length_le input
  rw [unfolded]
  cases isSome : hexDecode? (filterText input) with
  | none =>
      rw [size_filterAddr_of_decode_none isSome]
      rfl
  | some decoded =>
      have length_eq := length_of_hexDecode? isSome
      have valid : (AddrFilter.ofBytes decoded).Valid :=
        AddrFilter.valid_ofBytes (by omega)
      rw [filterAddr_of_decode isSome, if_pos valid.1]
      rfl

/-- The places of a filter's array that the two calls of `filterAddr` write. -/
def readFilterWrites (input : List UInt8) : List Nat :=
  let (read, _) := readBytes input 12
  let mac := read ++ List.replicate (12 - read.length) 0
  let filt := filterAddr mac read.length
  filterAddrWrites mac read.length ++
    if filt.size ≥ 0 then filterAddrWrites mac read.length else []

theorem lt_of_mem_readFilterWrites {input : List UInt8} {index : Nat}
    (member : index ∈ readFilterWrites input) : index < 6 := by
  have length_le : (readBytes input 12).1.length ≤ 12 := filterText_length_le input
  rcases List.mem_append.mp member with first | second
  · exact lt_of_mem_filterAddrWrites length_le first
  · exact lt_of_mem_filterAddrWrites length_le (List.mem_ite_nil_right.mp second).2

end ReadFilter

/-! ## Commands -/

/-- One of the two filters. -/
inductive FilterName where
  | first
  | second
  deriving DecidableEq

namespace FilterName

/-- The code of the command that sets the filter. -/
def op : FilterName → String
  | first => "F1"
  | second => "F2"

/-- The filter in the sketch. -/
def get : FilterName → Sketch → AddrFilter
  | first, sketch => sketch.addr1Filter
  | second, sketch => sketch.addr2Filter

/-- The sketch with another filter in its place. -/
def set (filter : AddrFilter) : FilterName → Sketch → Sketch
  | first, sketch => { sketch with addr1Filter := filter }
  | second, sketch => { sketch with addr2Filter := filter }

/-- The other filter. -/
def other : FilterName → FilterName
  | first => second
  | second => first

@[simp]
theorem get_set (filter : AddrFilter) (name : FilterName) (sketch : Sketch) :
    name.get (name.set filter sketch) = filter := by
  cases name <;> rfl

@[simp]
theorem input_set (filter : AddrFilter) (name : FilterName) (sketch : Sketch) :
    (name.set filter sketch).input = sketch.input := by
  cases name <;> rfl

@[simp]
theorem get_input (name : FilterName) (sketch : Sketch) (input : List UInt8) :
    name.get { sketch with input := input } = name.get sketch := by
  cases name <;> rfl

end FilterName

section Commands

variable {op : List UInt8} {sketch : Sketch} (name : FilterName)

/-- The code of a filter is not that of the other one, nor that of another command. -/
theorem isOpCode_of_name (isOp : isOpCode op name.op = true) {code : String}
    (differs : code ∈ [name.other.op, "S0", "S1", "OT", "OB", "FC"]) :
    isOpCode op code = false := by
  have differ : ∀ code ∈ [name.other.op, "S0", "S1", "OT", "OB", "FC"],
      (CString.ofString name.op).take opCodeSize ≠ (CString.ofString code).take opCodeSize := by
    cases name <;> decide
  exact isOpCode_other isOp (differ code differs)

/-- The command that sets a filter, and nothing else. -/
theorem command_of_name (isOp : isOpCode op name.op = true) (sketch : Sketch) :
    command op sketch =
      name.set (readFilter (name.get sketch) sketch.input).1
        { sketch with input := (readFilter (name.get sketch) sketch.input).2 } := by
  have s0 : isOpCode op "S0" = false := isOpCode_of_name name isOp (by simp)
  have s1 : isOpCode op "S1" = false := isOpCode_of_name name isOp (by simp)
  have ot : isOpCode op "OT" = false := isOpCode_of_name name isOp (by simp)
  have ob : isOpCode op "OB" = false := isOpCode_of_name name isOp (by simp)
  have fc : isOpCode op "FC" = false := isOpCode_of_name name isOp (by simp)
  have other : isOpCode op name.other.op = false := isOpCode_of_name name isOp (by simp)
  cases name with
  | first =>
      simp only [FilterName.op, FilterName.other] at isOp other
      simp [command, FilterName.set, FilterName.get, isOp, other, s0, s1, ot, ob, fc]
  | second =>
      simp only [FilterName.op, FilterName.other] at isOp other
      simp [command, FilterName.set, FilterName.get, isOp, other, s0, s1, ot, ob, fc]

/-- A command changes a filter only if its code is that of the filter. -/
theorem get_command (op : List UInt8) (sketch : Sketch) :
    name.get (command op sketch) =
      if isOpCode op name.op then (readFilter (name.get sketch) sketch.input).1
      else name.get sketch := by
  by_cases isOp : isOpCode op name.op = true
  · rw [command_of_name name isOp, FilterName.get_set, if_pos isOp]
  · cases name with
    | first =>
        rw [FilterName.op] at isOp
        simp [command, signalStart, FilterName.op, FilterName.get, isOp,
          apply_ite Sketch.addr1Filter]
    | second =>
        rw [FilterName.op] at isOp
        simp [command, signalStart, FilterName.op, FilterName.get, isOp,
          apply_ite Sketch.addr2Filter]

/-! ## Runs -/

/-- The next command is that of a filter. -/
def Commanded (name : FilterName) (sketch : Sketch) : Prop :=
  sketch.input.length ≥ opCodeSize ∧ isOpCode (sketch.input.take opCodeSize) name.op = true

instance (name : FilterName) (sketch : Sketch) : Decidable (Commanded name sketch) :=
  inferInstanceAs (Decidable (_ ∧ _))

/-- What stands behind the code of a command when its argument is read. -/
def behind (arriving : List UInt8) (sketch : Sketch) : List UInt8 :=
  sketch.input.drop opCodeSize ++ arriving

/-- The places of a filter's array that a call of `read` writes. -/
def readWrites (arriving : List UInt8) (sketch : Sketch) : List Nat :=
  if Commanded .first sketch ∨ Commanded .second sketch then
    readFilterWrites (behind arriving sketch)
  else []

/-- A call of `read` changes a filter only by its command, and then to the argument's bytes. -/
theorem get_read (arriving : List UInt8) (sketch : Sketch) :
    name.get (read arriving sketch) =
      if Commanded name sketch then
        (hexDecode? (filterText (behind arriving sketch))).elim (name.get sketch) .ofBytes
      else name.get sketch := by
  rw [read]
  by_cases coded : sketch.input.length ≥ opCodeSize
  · simp only [coded, if_true, readBytes, get_command, FilterName.get_input, readFilter_eq,
      Commanded, true_and, behind]
  · simp only [coded, if_false, FilterName.get_input, Commanded, false_and]

/-- Both filters have a size of an array of six bytes. -/
def FiltersValid (sketch : Sketch) : Prop :=
  ∀ name : FilterName, (name.get sketch).Valid

theorem filtersValid_setup : FiltersValid setup := by
  rintro (_ | _) <;> decide

theorem FiltersValid.read (valid : FiltersValid sketch) (arriving : List UInt8) :
    FiltersValid (read arriving sketch) := by
  intro name
  rw [get_read]
  split
  · cases isSome : hexDecode? (filterText (behind arriving sketch)) with
    | none => exact valid name
    | some decoded =>
        have length_eq := length_of_hexDecode? isSome
        have length_le := filterText_length_le (behind arriving sketch)
        exact AddrFilter.valid_ofBytes (by omega)
  · exact valid name

theorem get_next_frame (clock : Clock) (pkt : WifiPromiscuousPkt)
    (type : Handler.WifiPromiscuousPktType) (sketch : Sketch) :
    name.get (packetHandler clock sketch pkt type) = name.get sketch := by
  have written (length : UInt32) :
      name.get (packetCb clock sketch pkt length) = name.get sketch := by
    rw [packetCb]
    split_ifs
    · cases name <;> rfl
    all_goals rfl
  rw [packetHandler]
  split
  · exact written _
  · rfl

theorem FiltersValid.next (valid : FiltersValid sketch) (event : Event) :
    FiltersValid (next sketch event) := by
  cases event with
  | receive bytes =>
      intro name
      rw [Arduino.next, FilterName.get_input]
      exact valid name
  | read arriving => exact valid.read arriving
  | frame clock pkt type =>
      intro name
      rw [Arduino.next, get_next_frame]
      exact valid name

theorem filtersValid_of_run {events : List Event} {last : Sketch}
    (run : exec step setup events = some last) : FiltersValid last := by
  refine exec_invariant filtersValid_setup ?_ (eachStep_true setup events) run
  rintro source event target valid _ ⟨⟩
  exact valid.next event

end Commands

section Argument

variable {sketch : Sketch} {arriving : List UInt8} {name : FilterName}

theorem readWrites_lt {index : Nat} (member : index ∈ readWrites arriving sketch) :
    index < 6 :=
  lt_of_mem_readFilterWrites (List.mem_ite_nil_right.mp member).2

/-- The text is of odd length or has a character that is not a hexadecimal digit. -/
def Refused (text : List UInt8) : Prop :=
  text.length % 2 = 1 ∨ ∃ char ∈ text, ¬ IsHexDigit char

/-- What is refused is what does not decode. -/
theorem refused_iff {text : List UInt8} : Refused text ↔ hexDecode? text = none := by
  rw [← Option.not_isSome_iff_eq_none, hexDecode?_isSome_iff, Refused]
  constructor
  · rintro (odd | ⟨char, member, notDigit⟩) ⟨even, digits⟩
    · omega
    · exact notDigit (digits char member)
  · intro not_pairs
    by_contra accepted
    push Not at accepted
    exact not_pairs ⟨by omega, accepted.2⟩

/-- An argument that does not decode leaves both filters as they are. -/
theorem get_read_of_decode_none
    (refused : hexDecode? (filterText (behind arriving sketch)) = none) :
    name.get (read arriving sketch) = name.get sketch := by
  rw [get_read, refused, Option.elim_none, ite_self]

/-- The other filter is not commanded at the same time. -/
theorem Commanded.other (commanded : Commanded name sketch) : ¬ Commanded name.other sketch := by
  rintro ⟨_, isOther⟩
  rw [isOpCode_of_name name commanded.2 (by simp)] at isOther
  cases isOther

/-- An argument that decodes replaces the filter of the command. -/
theorem get_read_of_decode (commanded : Commanded name sketch) {decoded : List UInt8}
    (isSome : hexDecode? (filterText (behind arriving sketch)) = some decoded) :
    name.get (read arriving sketch) = .ofBytes decoded ∧
      name.other.get (read arriving sketch) = name.other.get sketch := by
  constructor
  · rw [get_read, if_pos commanded, isSome, Option.elim_some]
  · rw [get_read, if_neg commanded.other]

end Argument

/-- What a call of `read` does to the filters, after every run: they stay valid, nothing is
written outside their arrays, and a filter changes only by its own command, to the bytes
that its argument stands for if it is text of hexadecimal digits in pairs. -/
theorem filters_after_read {events : List Event} {last : Sketch}
    (run : exec step setup events = some last) (arriving : List UInt8) :
    FiltersValid (read arriving last) ∧
      (∀ index ∈ readWrites arriving last, index < 6) ∧
      ∀ name : FilterName, Commanded name last →
        (Refused (filterText (behind arriving last)) →
          ∀ filter : FilterName, filter.get (read arriving last) = filter.get last) ∧
        (¬ Refused (filterText (behind arriving last)) →
          hexDecode? (filterText (behind arriving last)) =
              some (name.get (read arriving last)).bytes ∧
            name.other.get (read arriving last) = name.other.get last) := by
  refine ⟨(filtersValid_of_run run).read arriving, fun _ => readWrites_lt, ?_⟩
  intro name commanded
  constructor
  · intro refused filter
    exact get_read_of_decode_none (refused_iff.mp refused)
  · intro accepted
    rw [refused_iff, Option.eq_none_iff_forall_ne_some] at accepted
    push Not at accepted
    rcases accepted with ⟨decoded, isSome⟩
    have length_eq := length_of_hexDecode? isSome
    have length_le := filterText_length_le (behind arriving last)
    rcases get_read_of_decode commanded isSome with ⟨own, kept⟩
    rw [own, isSome, AddrFilter.bytes_ofBytes (by omega)]
    exact ⟨rfl, kept⟩

/-- The first filter is set to two bytes. -/
theorem filters_after_read_F1 :
    let last : Sketch := next setup (.receive (ascii "F1AABB"))
    FiltersValid (read [] last) ∧
      (∀ index ∈ readWrites [] last, index < 6) ∧
      ∀ name : FilterName, Commanded name last →
        (Refused (filterText (behind [] last)) →
          ∀ filter : FilterName, filter.get (read [] last) = filter.get last) ∧
        (¬ Refused (filterText (behind [] last)) →
          hexDecode? (filterText (behind [] last)) = some (name.get (read [] last)).bytes ∧
            name.other.get (read [] last) = name.other.get last) :=
  @filters_after_read [.receive (ascii "F1AABB")] _ rfl []

end WifiSniffer.Arduino
