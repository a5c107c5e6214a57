import WifiSniffer.Bytes.LittleEndian
import WifiSniffer.Nvs.Lib

/-!
# Numbers of a given type

`nvs_get_num` reads a value of a type that it is given, and writes it behind an untyped
pointer: as many bytes as the type has, or the whole of a string.
-/

namespace WifiSniffer.Nvs

open WifiSniffer.Bytes WifiSniffer.Effect

/-! ## Types -/

/-- `nvs_type_t` -/
inductive NvsType where
  | num (type : NumType)
  | str
  | blob
  | any
  deriving DecidableEq

namespace NumType

/-- The bytes of a value. -/
def size : NumType → Nat
  | .i8 | .u8 => 1
  | .i16 | .u16 => 2
  | .i32 | .u32 => 4
  | .i64 | .u64 => 8

/-- A value as it stands in memory, a negative one in two's complement. -/
def bytes (type : NumType) (value : Int) : List UInt8 :=
  leBytes type.size (value % 256 ^ type.size).toNat

def signed : NumType → Bool
  | .i8 | .i16 | .i32 | .i64 => true
  | .u8 | .u16 | .u32 | .u64 => false

def min (type : NumType) : Int :=
  if type.signed then -2 ^ (8 * type.size - 1) else 0

def max (type : NumType) : Int :=
  if type.signed then 2 ^ (8 * type.size - 1) - 1 else 2 ^ (8 * type.size) - 1

/-- The value can be held by a variable of the type. -/
def InRange (type : NumType) (value : Int) : Prop :=
  type.min ≤ value ∧ value ≤ type.max

instance (type : NumType) (value : Int) : Decidable (type.InRange value) :=
  inferInstanceAs (Decidable (_ ∧ _))

@[simp]
theorem bytes_length (type : NumType) (value : Int) : (type.bytes value).length = type.size :=
  leBytes_length _ _

end NumType

namespace NvsValue

def type : NvsValue → NvsType
  | .num type _ => .num type
  | .str _ => .str
  | .blob _ => .blob

/-- What a getter writes to its output. -/
def bytes : NvsValue → List UInt8
  | .num type value => type.bytes value
  | .str value => value.chars ++ [0]
  | .blob data => data

end NvsValue

/-! ## The code -/

/-- `nvs_get_num`, with what is then behind `out_value`.  It goes on with its handle when
the namespace could not be opened, and its `len` has been given no value when the default
of a string is copied: `garbage` is what it holds. -/
def nvsGetNum (ns key : String) (type : NvsType) (outValue defValue : List UInt8)
    (garbage : Nat) : NvsProgram (EspErr × List UInt8) := do
  let (_, nvs) ← ask (.open ns .readonly)
  match type with
  | .num type => do
      let found ← ask (.getNum nvs key type)
      let result ←
        match found with
        | .ok value => do
            ask (.write outValue.length type.size)
            pure (.ok, overwrite outValue (type.bytes value))
        | .error err => pure (err, outValue)
      ask (.close nvs)
      return result
  | .str => do
      let found ← ask (.strSize nvs key)
      let result ←
        match found with
        | .ok len => do
            let got ← ask (.getStr nvs key len)
            match got with
            | .ok data => do
                ask (.write outValue.length data.length)
                pure (.ok, overwrite outValue data)
            | .error err => pure (err, outValue)
        | .error .nvsNotFound => do
            let outValue ← memcpy outValue defValue garbage
            pure (.ok, outValue)
        | .error err => pure (err, outValue)
      ask (.close nvs)
      return result
  | .blob | .any => return (.nvsTypeMismatch, outValue)

/-! ## What it does -/

section Spec

variable {store : Store} {ns key : String} {type : NumType} {outValue defValue : List UInt8}
  {garbage : Nat}

/-- Without the namespace the handle is invalid. -/
theorem run_nvsGetNum_of_not_has (missing : ¬ store.Has ns) :
    (nvsGetNum ns key (.num type) outValue defValue garbage).run Store.handle store =
      .ok ((.nvsInvalidHandle, outValue), store) := by
  simp [nvsGetNum, Store.handle_open_readonly_of_not_has missing, Store.num, Store.entry]

/-- Without the key the default is not used. -/
theorem run_nvsGetNum_of_absent (has : store.Has ns) (absent : store.get ns key = none) :
    (nvsGetNum ns key (.num type) outValue defValue garbage).run Store.handle store =
      .ok ((.nvsNotFound, outValue), store) := by
  simp [nvsGetNum, Store.handle_open_readonly_of_has has, Store.num_of_absent absent]

theorem run_nvsGetNum_of_get {value : Int} (stored : store.get ns key = some (.num type value))
    (fits : type.size ≤ outValue.length) :
    (nvsGetNum ns key (.num type) outValue defValue garbage).run Store.handle store =
      .ok ((.ok, overwrite outValue (type.bytes value)), store) := by
  simp [nvsGetNum, Store.handle_open_readonly_of_has (Store.has_of_get stored),
    Store.num_of_get stored, Store.access, fits]

/-- A number is written in its size, whatever the room there is. -/
theorem run_nvsGetNum_of_overflow {value : Int}
    (stored : store.get ns key = some (.num type value))
    (overflows : outValue.length < type.size) :
    (nvsGetNum ns key (.num type) outValue defValue garbage).run Store.handle store =
      .error ⟨.outOfBounds, store⟩ := by
  have outside : ¬ type.size ≤ outValue.length := Nat.not_le.mpr overflows
  simp [nvsGetNum, Store.handle_open_readonly_of_has (Store.has_of_get stored),
    Store.num_of_get stored, Store.access, outside]

theorem run_nvsGetNum_str_of_not_has (missing : ¬ store.Has ns) :
    (nvsGetNum ns key .str outValue defValue garbage).run Store.handle store =
      .ok ((.nvsInvalidHandle, outValue), store) := by
  simp [nvsGetNum, Store.handle_open_readonly_of_not_has missing, Store.str, Store.entry,
    Except.map]

/-- The default of a string is copied by a length that has not been set. -/
theorem run_nvsGetNum_str_of_absent (has : store.Has ns) (absent : store.get ns key = none) :
    (nvsGetNum ns key .str outValue defValue garbage).run Store.handle store =
      match (memcpy outValue defValue garbage).run Store.handle store with
      | .ok (outValue, store) => .ok ((.ok, outValue), store)
      | .error halt => .error halt := by
  cases copied : (memcpy outValue defValue garbage).run Store.handle store with
  | ok result =>
      simp [nvsGetNum, Store.handle_open_readonly_of_has has, Store.str_of_absent absent,
        Except.map, copied]
  | error halt =>
      simp [nvsGetNum, Store.handle_open_readonly_of_has has, Store.str_of_absent absent,
        Except.map, copied]

theorem run_nvsGetNum_str_of_get {string : CString}
    (stored : store.get ns key = some (.str string))
    (fits : string.length + 1 ≤ outValue.length) :
    (nvsGetNum ns key .str outValue defValue garbage).run Store.handle store =
      .ok ((.ok, overwrite outValue (string.chars ++ [0])), store) := by
  rw [CString.length] at fits
  simp [nvsGetNum, Store.handle_open_readonly_of_has (Store.has_of_get stored),
    Store.str_of_get stored, Except.map, Store.sized, Store.access, CString.length, fits]

theorem run_nvsGetNum_str_of_overflow {string : CString}
    (stored : store.get ns key = some (.str string))
    (overflows : outValue.length < string.length + 1) :
    (nvsGetNum ns key .str outValue defValue garbage).run Store.handle store =
      .error ⟨.outOfBounds, store⟩ := by
  rw [CString.length] at overflows
  have outside : ¬ string.chars.length + 1 ≤ outValue.length := Nat.not_le.mpr overflows
  simp [nvsGetNum, Store.handle_open_readonly_of_has (Store.has_of_get stored),
    Store.str_of_get stored, Except.map, Store.sized, Store.access, CString.length, outside]

/-- The other types are refused, whatever is stored. -/
theorem run_nvsGetNum_of_refused {refused : NvsType}
    (other : refused = .blob ∨ refused = .any) :
    (nvsGetNum ns key refused outValue defValue garbage).run Store.handle store =
      .ok ((.nvsTypeMismatch, outValue), store) := by
  by_cases has : store.Has ns
  · rcases other with rfl | rfl <;> simp [nvsGetNum, Store.handle_open_readonly_of_has has]
  · rcases other with rfl | rfl <;> simp [nvsGetNum, Store.handle_open_readonly_of_not_has has]

end Spec

end WifiSniffer.Nvs
