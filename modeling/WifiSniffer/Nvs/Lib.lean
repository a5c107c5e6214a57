import WifiSniffer.Nvs.Store

/-!
# `nvs_lib.c`

The getters and setters that the settings go through, and for each of them what it
does to the store.  A getter takes the array behind its output pointer and gives it
back; how many bytes it writes there depends on what is stored and not on the array.
-/

namespace WifiSniffer.Nvs

open WifiSniffer.Bytes WifiSniffer.Effect

/-! ## The code -/

/-- `nvs_set_num32i` -/
def nvsSetNum32i (ns key : String) (value : Int) : NvsProgram EspErr := do
  let (err, nvs) ← ask (.open ns .readwrite)
  if err ≠ .ok then return err
  else
    let err ← ask (.setNum nvs key .i32 value)
    let err ← if err = .ok then ask (.commit nvs) else pure err
    ask (.close nvs)
    return err

/-- `nvs_get_num32i`, with what it writes to `out_value`. -/
def nvsGetNum32i (ns key : String) (defValue : Int) : NvsProgram (EspErr × Option Int) := do
  let (err, nvs) ← ask (.open ns .readwrite)
  if err ≠ .ok then return (err, some defValue)
  else
    let found ← ask (.getNum nvs key .i32)
    ask (.close nvs)
    match found with
    | .ok value => return (.ok, some value)
    | .error .nvsNotFound => return (.ok, some defValue)
    | .error err => return (err, none)

/-- `nvs_set_string` -/
def nvsSetString (ns key : String) (strValue : List UInt8) : NvsProgram EspErr := do
  let (err, nvs) ← ask (.open ns .readwrite)
  if err ≠ .ok then return err
  else
    ask (.read strValue.length (strlenReads strValue))
    let err ← ask (.setStr nvs key (CString.ofArray strValue))
    let err ← if err = .ok then ask (.commit nvs) else pure err
    ask (.close nvs)
    return err

/-- `nvs_set_array` -/
def nvsSetArray (ns key : String) (value : List UInt8) (sz : Nat) : NvsProgram EspErr := do
  let (err, nvs) ← ask (.open ns .readwrite)
  if err ≠ .ok then return err
  else
    ask (.read value.length sz)
    let err ← ask (.setBlob nvs key (value.take sz))
    let err ← if err = .ok then ask (.commit nvs) else pure err
    ask (.close nvs)
    return err

/-- `nvs_get_array`, with what is then in `value` and `sz`. -/
def nvsGetArray (ns key : String) (value : List UInt8) (sz : Nat) (defValue : List UInt8)
    (defSz : Nat) : NvsProgram (EspErr × List UInt8 × Nat) := do
  let (err, nvs) ← ask (.open ns .readonly)
  if err ≠ .ok then
    if err = .nvsNotFound then
      let value ← memcpy value defValue defSz
      return (.ok, value, defSz)
    else return (err, value, sz)
  else
    let found ← ask (.blobSize nvs key)
    let result ←
      match found with
      | .ok len => do
          let got ← ask (.getBlob nvs key len)
          match got with
          | .ok data => do
              ask (.write value.length data.length)
              pure (.ok, overwrite value data, data.length)
          | .error err => pure (err, value, sz)
      | .error .nvsNotFound => do
          let value ← memcpy value defValue defSz
          pure (.ok, value, defSz)
      | .error err => pure (err, value, sz)
    ask (.close nvs)
    return result

/-- `nvs_get_string`, with what is then in `out_value`.  It goes on with its handle
when the namespace could not be opened. -/
def nvsGetString (ns key : String) (outValue : List UInt8) (defValue : Literal)
    (defValueSz : Nat) : NvsProgram (EspErr × List UInt8) := do
  let (err, nvs) ← ask (.open ns .readonly)
  let outValue ←
    if err ≠ .ok then memcpyLiteral outValue defValue defValueSz else pure outValue
  let found ← ask (.strSize nvs key)
  let result ←
    match found with
    | .ok len => do
        let got ← ask (.getStr nvs key len)
        match got with
        | .ok data => do
            ask (.write outValue.length data.length)
            pure (.ok, overwrite outValue data)
        | .error err => pure (err, outValue)
    | .error .nvsNotFound => do
        let outValue ← memcpyLiteral outValue defValue defValueSz
        pure (.ok, outValue)
    | .error err => pure (err, outValue)
  ask (.close nvs)
  return result

/-! ## What it does -/

/-- The integer that the settings code goes by: an entry of the right type, or else
the default that its variable has been set to. -/
def Store.numSetting (store : Store) (ns key : String) (defValue : Int) : Int :=
  match store.get ns key with
  | some (.num .i32 value) => value
  | some (.num _ _) | some (.str _) | some (.blob _) | none => defValue

section Spec

variable {store : Store} {ns key : String}

theorem run_nvsSetNum32i (store : Store) (ns key : String) (value : Int) :
    (nvsSetNum32i ns key value).run Store.handle store =
      .ok (.ok, store.set ns key (.num .i32 value)) := by
  simp [nvsSetNum32i]

/-- Reading a number creates its namespace. -/
theorem run_nvsGetNum32i (store : Store) (ns key : String) (defValue : Int) :
    ∃ err outValue,
      (nvsGetNum32i ns key defValue).run Store.handle store =
          .ok ((err, outValue), store.create ns) ∧
        outValue.getD defValue = store.numSetting ns key defValue := by
  cases stored : store.get ns key with
  | none =>
      refine ⟨.ok, some defValue, ?_, ?_⟩
      · simp [nvsGetNum32i, Store.num_of_absent, stored]
      · rw [Store.numSetting, stored, Option.getD_some]
  | some value =>
      cases value with
      | num type value =>
          by_cases same : type = .i32
          · subst same
            refine ⟨.ok, some value, ?_, ?_⟩
            · simp [nvsGetNum32i, Store.num_of_get, stored]
            · rw [Store.numSetting, stored, Option.getD_some]
          · refine ⟨.nvsTypeMismatch, none, ?_, ?_⟩
            · simp [nvsGetNum32i, Store.num, Store.entry, stored, same]
            · cases type <;> simp_all [Store.numSetting]
      | str value =>
          refine ⟨.nvsTypeMismatch, none, ?_, ?_⟩
          · simp [nvsGetNum32i, Store.num, Store.entry, stored]
          · rw [Store.numSetting, stored, Option.getD_none]
      | blob value =>
          refine ⟨.nvsTypeMismatch, none, ?_, ?_⟩
          · simp [nvsGetNum32i, Store.num, Store.entry, stored]
          · rw [Store.numSetting, stored, Option.getD_none]

theorem run_nvsSetString {strValue : List UInt8}
    (terminated : strlenReads strValue ≤ strValue.length) :
    (nvsSetString ns key strValue).run Store.handle store =
      .ok (.ok, store.set ns key (.str (CString.ofArray strValue))) := by
  simp [nvsSetString, Store.access, terminated]

theorem run_nvsSetArray {value : List UInt8} {sz : Nat} (readable : sz ≤ value.length) :
    (nvsSetArray ns key value sz).run Store.handle store =
      .ok (.ok, store.set ns key (.blob (value.take sz))) := by
  simp [nvsSetArray, Store.access, readable]

/-! ### Arrays -/

section Array

variable {value defValue : List UInt8} {sz defSz : Nat}

/-- Nothing is stored, be it for want of the namespace or of the key. -/
theorem run_nvsGetArray_of_absent (absent : store.get ns key = none)
    (readable : defSz ≤ defValue.length) (fits : defSz ≤ value.length) :
    (nvsGetArray ns key value sz defValue defSz).run Store.handle store =
      .ok ((.ok, overwrite value (defValue.take defSz), defSz), store) := by
  have copied : (memcpy value defValue defSz).run Store.handle store =
      .ok (overwrite value (defValue.take defSz), store) := run_memcpy readable fits
  by_cases has : store.Has ns
  · simp [nvsGetArray, Store.handle_open_readonly_of_has has, Store.blob_of_absent absent,
      Except.map, copied]
  · simp [nvsGetArray, Store.handle_open_readonly_of_not_has has, copied]

theorem run_nvsGetArray_of_get {data : List UInt8}
    (stored : store.get ns key = some (.blob data)) (fits : data.length ≤ value.length) :
    (nvsGetArray ns key value sz defValue defSz).run Store.handle store =
      .ok ((.ok, overwrite value data, data.length), store) := by
  simp [nvsGetArray, Store.handle_open_readonly_of_has (Store.has_of_get stored),
    Store.blob_of_get stored, Except.map, Store.sized, Store.access, fits]

/-- A blob is written to its end, whatever the size of the array. -/
theorem run_nvsGetArray_of_overflow {data : List UInt8}
    (stored : store.get ns key = some (.blob data)) (overflows : value.length < data.length) :
    (nvsGetArray ns key value sz defValue defSz).run Store.handle store =
      .error ⟨.outOfBounds, store⟩ := by
  have outside : ¬ data.length ≤ value.length := Nat.not_le.mpr overflows
  simp [nvsGetArray, Store.handle_open_readonly_of_has (Store.has_of_get stored),
    Store.blob_of_get stored, Except.map, Store.sized, Store.access, outside]

/-- An entry of another type. -/
theorem run_nvsGetArray_of_mismatch {other : NvsValue} (stored : store.get ns key = some other)
    (mismatch : ∀ data, other ≠ .blob data) :
    (nvsGetArray ns key value sz defValue defSz).run Store.handle store =
      .ok ((.nvsTypeMismatch, value, sz), store) := by
  have has := Store.has_of_get stored
  cases other with
  | num type number =>
      simp [nvsGetArray, Store.handle_open_readonly_of_has has, Store.blob, Store.entry, stored,
        Except.map]
  | str string =>
      simp [nvsGetArray, Store.handle_open_readonly_of_has has, Store.blob, Store.entry, stored,
        Except.map]
  | blob data => exact absurd rfl (mismatch data)

end Array

/-! ### Strings -/

section String

variable {outValue : List UInt8} {defValue : Literal} {defValueSz : Nat}

theorem run_nvsGetString_of_get {string : CString}
    (stored : store.get ns key = some (.str string))
    (fits : string.length + 1 ≤ outValue.length) :
    (nvsGetString ns key outValue defValue defValueSz).run Store.handle store =
      .ok ((.ok, overwrite outValue (string.chars ++ [0])), store) := by
  rw [CString.length] at fits
  simp [nvsGetString, Store.handle_open_readonly_of_has (Store.has_of_get stored),
    Store.str_of_get stored, Except.map, Store.sized, Store.access, CString.length, fits]

/-- A string is written to its end, whatever the size of the array. -/
theorem run_nvsGetString_of_overflow {string : CString}
    (stored : store.get ns key = some (.str string))
    (overflows : outValue.length < string.length + 1) :
    (nvsGetString ns key outValue defValue defValueSz).run Store.handle store =
      .error ⟨.outOfBounds, store⟩ := by
  rw [CString.length] at overflows
  have outside : ¬ string.chars.length + 1 ≤ outValue.length := Nat.not_le.mpr overflows
  simp [nvsGetString, Store.handle_open_readonly_of_has (Store.has_of_get stored),
    Store.str_of_get stored, Except.map, Store.sized, Store.access, CString.length, outside]

/-- The default is copied in the size of the array. -/
theorem run_nvsGetString_of_absent (has : store.Has ns) (absent : store.get ns key = none)
    (fits : defValueSz ≤ outValue.length) :
    (nvsGetString ns key outValue defValue defValueSz).run Store.handle store =
      .ok ((.ok, overwrite outValue (defValue.load defValueSz)), store) := by
  have copied : (memcpyLiteral outValue defValue defValueSz).run Store.handle store =
      .ok (overwrite outValue (defValue.load defValueSz), store) := run_memcpyLiteral fits
  simp [nvsGetString, Store.handle_open_readonly_of_has has, Store.str_of_absent absent,
    Except.map, copied]

/-- Without the namespace, the default is copied and an error returned all the same. -/
theorem run_nvsGetString_of_not_has (missing : ¬ store.Has ns)
    (fits : defValueSz ≤ outValue.length) :
    (nvsGetString ns key outValue defValue defValueSz).run Store.handle store =
      .ok ((.nvsInvalidHandle, overwrite outValue (defValue.load defValueSz)), store) := by
  have copied : (memcpyLiteral outValue defValue defValueSz).run Store.handle store =
      .ok (overwrite outValue (defValue.load defValueSz), store) := run_memcpyLiteral fits
  simp [nvsGetString, Store.handle_open_readonly_of_not_has missing, Store.str, Store.entry,
    Except.map, copied]

/-- An entry of another type. -/
theorem run_nvsGetString_of_mismatch {other : NvsValue}
    (stored : store.get ns key = some other) (mismatch : ∀ string, other ≠ .str string) :
    (nvsGetString ns key outValue defValue defValueSz).run Store.handle store =
      .ok ((.nvsTypeMismatch, outValue), store) := by
  have has := Store.has_of_get stored
  cases other with
  | num type number =>
      simp [nvsGetString, Store.handle_open_readonly_of_has has, Store.str, Store.entry, stored,
        Except.map]
  | str string => exact absurd rfl (mismatch string)
  | blob data =>
      simp [nvsGetString, Store.handle_open_readonly_of_has has, Store.str, Store.entry, stored,
        Except.map]

end String

end Spec

end WifiSniffer.Nvs
