import WifiSniffer.Handler.Header
import WifiSniffer.Memory.Read

/-!
# Address filters

An `addrFilter_t` holds up to six address bytes and compares them with a field of
the received frame.  A filter of size zero matches everything.
-/

namespace WifiSniffer.Handler

open WifiSniffer.Memory

/-- `addrFilter_t`.  The address is the memory from the start of the array on, of
which the array itself is the first six bytes; `memcmp` looks at `size` of them. -/
structure AddrFilter where
  addr : Nat → UInt8
  size : Nat

namespace AddrFilter

/-- The bytes a filter compares. -/
def bytes (filter : AddrFilter) : List UInt8 :=
  (List.range filter.size).map filter.addr

@[simp]
theorem bytes_length (filter : AddrFilter) : filter.bytes.length = filter.size := by
  simp [bytes]

/-- The filter an address value gives. -/
def ofBytes (address : List UInt8) : AddrFilter where
  addr index := address.getD index 0
  size := address.length

@[simp]
theorem ofBytes_bytes (address : List UInt8) : (ofBytes address).bytes = address := by
  apply List.ext_getElem
  · simp [bytes, ofBytes]
  · intro index _ inAddress
    simp [bytes, ofBytes, List.getElem?_eq_getElem inAddress]

/-- Whether a filter accepts the field at an offset, as a predicate on memory. -/
def Matches (filter : AddrFilter) (frame : Nat → UInt8) (field : Nat) : Prop :=
  filter.size = 0 ∨ (List.range' field filter.size).map frame = filter.bytes

instance (filter : AddrFilter) (frame : Nat → UInt8) (field : Nat) :
    Decidable (filter.Matches frame field) :=
  inferInstanceAs (Decidable (_ ∨ _))

/-- A filter that fits an address accepts it exactly when the filter's bytes are
a prefix of the address. -/
theorem matches_iff_prefix {filter : AddrFilter} (fits : filter.size ≤ 6)
    (frame : Nat → UInt8) (address : Dot11.Address) :
    filter.Matches frame address.offset ↔ filter.bytes <+: address.bytes frame := by
  have front_eq : (address.bytes frame).take filter.size =
      (List.range' address.offset filter.size).map frame := by
    rw [Dot11.Address.bytes, ← List.map_take, List.take_range'_of_length_ge fits]
  rw [List.prefix_iff_eq_take, bytes_length, front_eq, Matches]
  constructor
  · rintro (empty | equal)
    · rw [empty, List.range'_zero, List.map_nil]
      exact List.length_eq_zero_iff.mp (by rw [bytes_length, empty])
    · exact equal.symm
  · intro equal
    exact Or.inr equal.symm

/-- A filter of six bytes accepts exactly its own address. -/
theorem matches_iff_eq {filter : AddrFilter} (full : filter.size = 6)
    (frame : Nat → UInt8) (address : Dot11.Address) :
    filter.Matches frame address.offset ↔ address.bytes frame = filter.bytes := by
  rw [Matches, full, Dot11.Address.bytes]
  simp

end AddrFilter

/-- `isAddrEquel`, whose first argument is a field of the received frame. -/
def isAddrEquel (field : Nat) (filter : AddrFilter) : Read Nat UInt8 Bool :=
  if filter.size = 0 then pure true
  else do
    let compared ← Read.block (List.range' field filter.size)
    pure (compared == filter.bytes)

@[simp]
theorem isAddrEquel_value (field : Nat) (filter : AddrFilter) (frame : Nat → UInt8) :
    (isAddrEquel field filter).value frame = decide (filter.Matches frame field) := by
  rw [Bool.eq_iff_iff, decide_eq_true_iff, AddrFilter.Matches]
  by_cases empty : filter.size = 0 <;> simp [isAddrEquel, empty]

theorem isAddrEquel_reads (field : Nat) (filter : AddrFilter) (frame : Nat → UInt8) :
    (isAddrEquel field filter).reads frame = List.range' field filter.size := by
  by_cases empty : filter.size = 0 <;> simp [isAddrEquel, empty]

/-- A comparison stays below a bound exactly when the compared bytes do; a
filter of size zero compares nothing. -/
theorem isAddrEquel_within_iff (field : Nat) (filter : AddrFilter) (frame : Nat → UInt8)
    (bound : Nat) :
    Read.Within (· < bound) (isAddrEquel field filter) frame ↔
      filter.size = 0 ∨ field + filter.size ≤ bound := by
  simp only [Read.Within, isAddrEquel_reads, List.mem_range'_1]
  constructor
  · intro inside
    by_contra outside
    push Not at outside
    have last_lt := inside (field + filter.size - 1) (by omega)
    omega
  · rintro inside index ⟨index_ge, index_lt⟩
    omega

end WifiSniffer.Handler
