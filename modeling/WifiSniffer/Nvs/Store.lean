import WifiSniffer.Bytes.CString
import WifiSniffer.Effect.Rules
import Mathlib.Logic.Function.Basic

/-!
# Flash storage

What the settings code asks of its surroundings, and what it gets.  Non-volatile
storage is a map from namespaces and keys to typed values whose writes succeed: a
namespace comes into being when it is opened for writing, a missing namespace or key
is reported as such, and so is a value of another type.  A handle that has not been
set is invalid.

The accesses of the code to its own arrays are calls too.  An access outside an array
halts the program, as does a failed `ESP_ERROR_CHECK`.  Reading on behind a string
literal goes well, with whatever bytes there are.
-/

namespace WifiSniffer.Nvs

open WifiSniffer.Bytes WifiSniffer.Effect
open Function (update)
open Program (Calls)

/-! ## Calls -/

/-- `esp_err_t` -/
inductive EspErr where
  | ok
  | nvsNotFound
  | nvsTypeMismatch
  | nvsReadOnly
  | nvsInvalidHandle
  | nvsInvalidLength
  | other (code : Int)
  deriving DecidableEq

/-- The integer types of `nvs_type_t`. -/
inductive NumType where
  | i8
  | u8
  | i16
  | u16
  | i32
  | u32
  | i64
  | u64
  deriving DecidableEq

/-- `nvs_open_mode_t` -/
inductive OpenMode where
  | readonly
  | readwrite
  deriving DecidableEq

/-- `nvs_handle_t`, with what it has been opened for. -/
structure Handle where
  ns : String
  mode : OpenMode
  deriving DecidableEq

/-- What the settings code calls.  A handle is `none` as long as its variable has not
been set. -/
inductive NvsCall where
  /-- `count` bytes are written to an array of `size` bytes. -/
  | write (size count : Nat)
  /-- `count` bytes are read from the beginning of a literal. -/
  | load (literal : Literal) (count : Nat)
  /-- `strncpy` between arrays, with the bytes it writes and reads -/
  | strncpy (dstSize srcSize count reads : Nat)
  /-- `strncmp` or `memcmp` of two arrays, with the bytes read of each -/
  | compare (firstSize secondSize reads : Nat)
  /-- `count` bytes of an array of `size` bytes are read. -/
  | read (size count : Nat)
  /-- `ESP_ERROR_CHECK` of an error -/
  | abort (err : EspErr)
  | open (ns : String) (mode : OpenMode)
  | close (handle : Option Handle)
  | commit (handle : Option Handle)
  | getNum (handle : Option Handle) (key : String) (type : NumType)
  | setNum (handle : Option Handle) (key : String) (type : NumType) (value : Int)
  /-- `nvs_get_str` without a destination, which gives the size with the terminator -/
  | strSize (handle : Option Handle) (key : String)
  | getStr (handle : Option Handle) (key : String) (len : Nat)
  | setStr (handle : Option Handle) (key : String) (value : CString)
  /-- `nvs_get_blob` without a destination -/
  | blobSize (handle : Option Handle) (key : String)
  | getBlob (handle : Option Handle) (key : String) (len : Nat)
  | setBlob (handle : Option Handle) (key : String) (value : List UInt8)

/-- A call that leaves the flash as it is. -/
def NvsCall.Reads : NvsCall → Prop
  | .open _ .readwrite | .setNum _ _ _ _ | .setStr _ _ _ | .setBlob _ _ _ => False
  | _ => True

/-- What comes back from a call.  A getter gives its value or an error. -/
@[reducible]
def NvsCall.Response : NvsCall → Type
  | .write _ _ | .read _ _ | .strncpy _ _ _ _ | .compare _ _ _ | .close _ => Unit
  | .load _ _ => List UInt8
  | .abort _ => Empty
  | .open _ _ => EspErr × Option Handle
  | .commit _ | .setNum _ _ _ _ | .setStr _ _ _ | .setBlob _ _ _ => EspErr
  | .getNum _ _ _ => Except EspErr Int
  | .strSize _ _ | .blobSize _ _ => Except EspErr Nat
  | .getStr _ _ _ | .getBlob _ _ _ => Except EspErr (List UInt8)

/-- A program of the settings code. -/
abbrev NvsProgram :=
  Program NvsCall NvsCall.Response

/-- A call as a program. -/
abbrev ask (call : NvsCall) : NvsProgram call.Response :=
  Program.ask call

/-! ## The store -/

/-- A stored value with its type. -/
inductive NvsValue where
  | num (type : NumType) (value : Int)
  | str (value : CString)
  | blob (value : List UInt8)
  deriving DecidableEq

/-- The content of the flash: the namespaces there are, and the values under their
keys. -/
structure Store where
  namespaces : String → Option (String → Option NvsValue)

namespace Store

def get (store : Store) (ns key : String) : Option NvsValue :=
  (store.namespaces ns).bind fun entries => entries key

/-- The namespace has been created. -/
def Has (store : Store) (ns : String) : Prop :=
  (store.namespaces ns).isSome = true

instance (store : Store) (ns : String) : Decidable (store.Has ns) :=
  inferInstanceAs (Decidable (_ = true))

/-- Create a namespace, unless it is there already. -/
def create (store : Store) (ns : String) : Store where
  namespaces := update store.namespaces ns (some ((store.namespaces ns).getD fun _ => none))

/-- Write one entry. -/
def set (store : Store) (ns key : String) (value : NvsValue) : Store where
  namespaces :=
    update store.namespaces ns
      (some (update ((store.namespaces ns).getD fun _ => none) key (some value)))

/-- Flash that has been erased. -/
def empty : Store where
  namespaces := fun _ => none

@[simp]
theorem get_create (store : Store) (created ns key : String) :
    (store.create created).get ns key = store.get ns key := by
  by_cases same : ns = created
  · subst same
    cases entries : store.namespaces ns <;> simp [get, create, entries]
  · simp [get, create, same]

@[simp]
theorem has_create (store : Store) (ns : String) : (store.create ns).Has ns := by
  simp [Has, create]

@[simp]
theorem get_set_self (store : Store) (ns key : String) (value : NvsValue) :
    (store.set ns key value).get ns key = some value := by
  simp [get, set]

theorem get_set_of_ne (store : Store) {written key : String} (value : NvsValue) (ns : String)
    (ne : key ≠ written) : (store.set ns written value).get ns key = store.get ns key := by
  cases entries : store.namespaces ns <;> simp [get, set, ne, entries]

@[simp]
theorem has_set (store : Store) (ns key : String) (value : NvsValue) :
    (store.set ns key value).Has ns := by
  simp [Has, set]

/-- Only a namespace that is there holds values. -/
theorem has_of_get {store : Store} {ns key : String} {value : NvsValue}
    (entry : store.get ns key = some value) : store.Has ns := by
  rcases Option.bind_eq_some_iff.mp entry with ⟨entries, entries_eq, _⟩
  rw [Has, entries_eq]
  rfl

end Store

/-! ## What the calls do -/

/-- Why a program has come to a halt. -/
inductive HaltReason where
  | outOfBounds
  | aborted (err : EspErr)
  deriving DecidableEq

/-- A halt, with what the flash holds by then. -/
structure Halt where
  reason : HaltReason
  store : Store

namespace Store

/-- An access to arrays. -/
def access (store : Store) (inBounds : Bool) : Except Halt (Unit × Store) :=
  if inBounds then .ok ((), store) else .error ⟨.outOfBounds, store⟩

/-- A namespace is opened. -/
def openNs (store : Store) (ns : String) (mode : OpenMode) :
    (EspErr × Option Handle) × Store :=
  match mode with
  | .readwrite => ((.ok, some ⟨ns, .readwrite⟩), store.create ns)
  | .readonly =>
      if store.Has ns then ((.ok, some ⟨ns, .readonly⟩), store)
      else ((.nvsNotFound, none), store)

/-- The entry that a handle and a key lead to. -/
def entry (store : Store) (handle : Option Handle) (key : String) : Except EspErr NvsValue :=
  match handle with
  | none => .error .nvsInvalidHandle
  | some handle =>
      match store.get handle.ns key with
      | none => .error .nvsNotFound
      | some value => .ok value

def num (store : Store) (handle : Option Handle) (key : String) (type : NumType) :
    Except EspErr Int :=
  match store.entry handle key with
  | .ok (.num stored value) => if stored = type then .ok value else .error .nvsTypeMismatch
  | .ok (.str _) | .ok (.blob _) => .error .nvsTypeMismatch
  | .error err => .error err

def str (store : Store) (handle : Option Handle) (key : String) : Except EspErr CString :=
  match store.entry handle key with
  | .ok (.str value) => .ok value
  | .ok (.num _ _) | .ok (.blob _) => .error .nvsTypeMismatch
  | .error err => .error err

def blob (store : Store) (handle : Option Handle) (key : String) :
    Except EspErr (List UInt8) :=
  match store.entry handle key with
  | .ok (.blob value) => .ok value
  | .ok (.num _ _) | .ok (.str _) => .error .nvsTypeMismatch
  | .error err => .error err

/-- A value of a size fits into the room there is. -/
def sized (value : Except EspErr (List UInt8)) (len : Nat) : Except EspErr (List UInt8) :=
  match value with
  | .ok data => if data.length ≤ len then .ok data else .error .nvsInvalidLength
  | .error err => .error err

/-- An entry is written, and an entry of another type under its key replaced. -/
def put (store : Store) (handle : Option Handle) (key : String) (value : NvsValue) :
    EspErr × Store :=
  match handle with
  | none => (.nvsInvalidHandle, store)
  | some ⟨ns, .readwrite⟩ => (.ok, store.set ns key value)
  | some ⟨_, .readonly⟩ => (.nvsReadOnly, store)

/-- The documented behaviour of the calls. -/
def handle : Program.Handler NvsCall NvsCall.Response Store Halt
  | .write size count, store => store.access (count ≤ size)
  | .read size count, store => store.access (count ≤ size)
  | .strncpy dstSize srcSize count reads, store =>
      store.access (count ≤ dstSize ∧ reads ≤ srcSize)
  | .compare firstSize secondSize reads, store =>
      store.access (reads ≤ firstSize ∧ reads ≤ secondSize)
  | .load literal count, store => .ok (literal.load count, store)
  | .abort err, store => .error ⟨.aborted err, store⟩
  | .open ns mode, store => .ok (store.openNs ns mode)
  | .close _, store => .ok ((), store)
  | .commit (some _), store => .ok (.ok, store)
  | .commit none, store => .ok (.nvsInvalidHandle, store)
  | .getNum handle key type, store => .ok (store.num handle key type, store)
  | .setNum handle key type value, store => .ok (store.put handle key (.num type value))
  | .strSize handle key, store =>
      .ok ((store.str handle key).map fun value => value.length + 1, store)
  | .getStr handle key len, store =>
      .ok (sized ((store.str handle key).map fun value => value.chars ++ [0]) len, store)
  | .setStr handle key value, store => .ok (store.put handle key (.str value))
  | .blobSize handle key, store => .ok ((store.blob handle key).map List.length, store)
  | .getBlob handle key len, store => .ok (sized (store.blob handle key) len, store)
  | .setBlob handle key value, store => .ok (store.put handle key (.blob value))

/-- Opening for writing creates the namespace. -/
@[simp]
theorem handle_open_readwrite (store : Store) (ns : String) :
    handle (.open ns .readwrite) store =
      .ok ((.ok, some ⟨ns, .readwrite⟩), store.create ns) :=
  rfl

theorem handle_open_readonly_of_has {store : Store} {ns : String} (has : store.Has ns) :
    handle (.open ns .readonly) store = .ok ((.ok, some ⟨ns, .readonly⟩), store) := by
  rw [handle, openNs, if_pos has]

theorem handle_open_readonly_of_not_has {store : Store} {ns : String}
    (missing : ¬ store.Has ns) :
    handle (.open ns .readonly) store = .ok ((.nvsNotFound, none), store) := by
  rw [handle, openNs, if_neg missing]

@[simp]
theorem handle_close (store : Store) (nvs : Option Handle) :
    handle (.close nvs) store = .ok ((), store) :=
  rfl

@[simp]
theorem handle_commit (store : Store) (nvs : Handle) :
    handle (.commit (some nvs)) store = .ok (.ok, store) :=
  rfl

@[simp]
theorem handle_abort (store : Store) (err : EspErr) :
    handle (.abort err) store = .error ⟨.aborted err, store⟩ :=
  rfl

@[simp]
theorem handle_load (store : Store) (literal : Literal) (count : Nat) :
    handle (.load literal count) store = .ok (literal.load count, store) :=
  rfl

section Entries

variable {store : Store} {ns key : String} {mode : OpenMode}

theorem num_of_get {value : Int} {type : NumType}
    (stored : store.get ns key = some (.num type value)) :
    store.num (some ⟨ns, mode⟩) key type = .ok value := by
  simp [num, entry, stored]

theorem num_of_absent (absent : store.get ns key = none) (type : NumType) :
    store.num (some ⟨ns, mode⟩) key type = .error .nvsNotFound := by
  simp [num, entry, absent]

theorem str_of_get {value : CString} (stored : store.get ns key = some (.str value)) :
    store.str (some ⟨ns, mode⟩) key = .ok value := by
  simp [str, entry, stored]

theorem str_of_absent (absent : store.get ns key = none) :
    store.str (some ⟨ns, mode⟩) key = .error .nvsNotFound := by
  simp [str, entry, absent]

theorem blob_of_get {value : List UInt8} (stored : store.get ns key = some (.blob value)) :
    store.blob (some ⟨ns, mode⟩) key = .ok value := by
  simp [blob, entry, stored]

theorem blob_of_absent (absent : store.get ns key = none) :
    store.blob (some ⟨ns, mode⟩) key = .error .nvsNotFound := by
  simp [blob, entry, absent]

end Entries

section Handle

variable (store : Store) (handle : Option Handle) (ns key : String)

@[simp]
theorem handle_getNum (type : NumType) :
    Store.handle (.getNum handle key type) store = .ok (store.num handle key type, store) :=
  rfl

@[simp]
theorem handle_strSize :
    Store.handle (.strSize handle key) store =
      .ok ((store.str handle key).map fun value => value.length + 1, store) :=
  rfl

@[simp]
theorem handle_getStr (len : Nat) :
    Store.handle (.getStr handle key len) store =
      .ok (sized ((store.str handle key).map fun value => value.chars ++ [0]) len, store) :=
  rfl

@[simp]
theorem handle_blobSize :
    Store.handle (.blobSize handle key) store =
      .ok ((store.blob handle key).map List.length, store) :=
  rfl

@[simp]
theorem handle_getBlob (len : Nat) :
    Store.handle (.getBlob handle key len) store =
      .ok (sized (store.blob handle key) len, store) :=
  rfl

@[simp]
theorem handle_setNum (type : NumType) (value : Int) :
    Store.handle (.setNum (some ⟨ns, .readwrite⟩) key type value) store =
      .ok (.ok, store.set ns key (.num type value)) :=
  rfl

@[simp]
theorem handle_setStr (value : CString) :
    Store.handle (.setStr (some ⟨ns, .readwrite⟩) key value) store =
      .ok (.ok, store.set ns key (.str value)) :=
  rfl

@[simp]
theorem handle_setBlob (value : List UInt8) :
    Store.handle (.setBlob (some ⟨ns, .readwrite⟩) key value) store =
      .ok (.ok, store.set ns key (.blob value)) :=
  rfl

@[simp]
theorem handle_read (size count : Nat) :
    Store.handle (.read size count) store = store.access (count ≤ size) :=
  rfl

@[simp]
theorem handle_write (size count : Nat) :
    Store.handle (.write size count) store = store.access (count ≤ size) :=
  rfl

@[simp]
theorem handle_strncpy (dstSize srcSize count reads : Nat) :
    Store.handle (.strncpy dstSize srcSize count reads) store =
      store.access (count ≤ dstSize ∧ reads ≤ srcSize) :=
  rfl

@[simp]
theorem handle_compare (firstSize secondSize reads : Nat) :
    Store.handle (.compare firstSize secondSize reads) store =
      store.access (reads ≤ firstSize ∧ reads ≤ secondSize) :=
  rfl

end Handle

theorem eq_of_access {store next : Store} {inBounds : Bool} {answer : Unit}
    (accessed : store.access inBounds = .ok (answer, next)) : next = store := by
  cases inBounds with
  | true =>
      cases accessed
      rfl
  | false => cases accessed

/-- What is accessed is inside the array. -/
theorem of_access {store : Store} {inBounds : Prop} [Decidable inBounds] {result : Unit × Store}
    (accessed : store.access (decide inBounds) = .ok result) : inBounds := by
  by_contra outside
  rw [access, decide_eq_false outside] at accessed
  cases accessed

/-- What reading calls leave behind. -/
theorem eq_of_handle_reads {store next : Store} {call : NvsCall} {answer : call.Response}
    (reads : call.Reads) (handled : handle call store = .ok (answer, next)) : next = store := by
  cases call with
  | write size count => exact eq_of_access handled
  | read size count => exact eq_of_access handled
  | strncpy dstSize srcSize count reads => exact eq_of_access handled
  | compare firstSize secondSize reads => exact eq_of_access handled
  | load literal count => cases handled; rfl
  | abort err => cases handled
  | «open» ns mode =>
      cases mode with
      | readwrite => exact reads.elim
      | readonly =>
          by_cases has : store.Has ns
          · rw [handle_open_readonly_of_has has] at handled
            cases handled
            rfl
          · rw [handle_open_readonly_of_not_has has] at handled
            cases handled
            rfl
  | close nvs => cases handled; rfl
  | commit nvs =>
      cases nvs with
      | none => cases handled; rfl
      | some nvs => cases handled; rfl
  | getNum nvs key type => cases handled; rfl
  | strSize nvs key => cases handled; rfl
  | getStr nvs key len => cases handled; rfl
  | blobSize nvs key => cases handled; rfl
  | getBlob nvs key len => cases handled; rfl
  | setNum nvs key type value => exact reads.elim
  | setStr nvs key value => exact reads.elim
  | setBlob nvs key value => exact reads.elim

theorem Has.create {store : Store} {ns : String} (has : store.Has ns) (created : String) :
    (store.create created).Has ns := by
  by_cases same : ns = created
  · subst same
    exact has_create store ns
  · simpa [Has, Store.create, same] using has

theorem Has.set {store : Store} {ns : String} (has : store.Has ns) (written key : String)
    (value : NvsValue) : (store.set written key value).Has ns := by
  by_cases same : ns = written
  · subst same
    exact has_set store ns key value
  · simpa [Has, Store.set, same] using has

theorem Has.put {store next : Store} {ns : String} (has : store.Has ns) {nvs : Option Handle}
    {key : String} {value : NvsValue} {err : EspErr}
    (written : store.put nvs key value = (err, next)) : next.Has ns := by
  match nvs with
  | none | some ⟨_, .readonly⟩ =>
      cases written
      exact has
  | some ⟨_, .readwrite⟩ =>
      cases written
      exact has.set _ _ _

/-- A namespace stays once it is there. -/
theorem has_of_handle {store next : Store} {ns : String} {call : NvsCall}
    {answer : call.Response} (has : store.Has ns)
    (handled : handle call store = .ok (answer, next)) : next.Has ns := by
  by_cases reads : call.Reads
  · rw [eq_of_handle_reads reads handled]
    exact has
  · cases call with
    | «open» opened mode =>
        cases mode with
        | readwrite =>
            cases handled
            exact has.create opened
        | readonly => exact absurd trivial reads
    | setNum nvs key type value => exact has.put (Except.ok.inj handled)
    | setStr nvs key value => exact has.put (Except.ok.inj handled)
    | setBlob nvs key value => exact has.put (Except.ok.inj handled)
    | _ => exact absurd trivial reads

/-- Namespaces come into being with their first entry. -/
@[simp]
theorem set_create (store : Store) (ns key : String) (value : NvsValue) :
    (store.create ns).set ns key value = store.set ns key value := by
  simp [set, create]

end Store

/-! ## Small programs -/

/-- `ESP_ERROR_CHECK` -/
def espErrorCheck (err : EspErr) : NvsProgram Unit :=
  if err = .ok then pure ()
  else do
    let never ← ask (.abort err)
    nomatch never

/-- `memcpy` from an array to the front of another one -/
def memcpy (dst src : List UInt8) (count : Nat) : NvsProgram (List UInt8) := do
  ask (.read src.length count)
  ask (.write dst.length count)
  return overwrite dst (src.take count)

/-- `memcpy` from a literal -/
def memcpyLiteral (dst : List UInt8) (src : Literal) (count : Nat) :
    NvsProgram (List UInt8) := do
  let data ← ask (.load src count)
  ask (.write dst.length count)
  return overwrite dst data

/-- `strncpy` from the string in an array -/
def strncpy (dst src : List UInt8) (count : Nat) : NvsProgram (List UInt8) := do
  ask (.strncpy dst.length src.length count (strncpyReads src count))
  return overwrite dst (strncpyBytes (CString.ofArray src) count)

/-- Whether `strncmp` of two arrays gives something other than zero. -/
def strncmp (first second : List UInt8) (count : Nat) : NvsProgram Bool := do
  ask (.compare first.length second.length (strncmpReads first second count))
  return !strncmpEqual (CString.ofArray first) (CString.ofArray second) count

/-- Whether `memcmp` of two arrays gives something other than zero. -/
def memcmp (first second : List UInt8) (count : Nat) : NvsProgram Bool := do
  ask (.compare first.length second.length count)
  return first.take count ≠ second.take count

/-- `strlen` -/
def strlen (array : List UInt8) : NvsProgram Nat := do
  ask (.read array.length (strlenReads array))
  return (CString.ofArray array).length

section Calls

variable {property : NvsCall → Prop}

theorem calls_espErrorCheck (err : EspErr) (holds : property (.abort err)) :
    Calls property (espErrorCheck err) := by
  rw [espErrorCheck]
  split
  · exact Program.calls_pure ()
  · exact (Program.calls_ask holds).bind fun never => never.elim

theorem calls_memcpy {dst src : List UInt8} {count : Nat}
    (reads : property (.read src.length count)) (writes : property (.write dst.length count)) :
    Calls property (memcpy dst src count) := by
  apply Calls.bind (Program.calls_ask reads)
  intro _
  apply Calls.bind (Program.calls_ask writes)
  intro _
  exact Program.calls_pure _

theorem calls_memcpyLiteral {dst : List UInt8} {src : Literal} {count : Nat}
    (loads : property (.load src count)) (writes : property (.write dst.length count)) :
    Calls property (memcpyLiteral dst src count) := by
  apply Calls.bind (Program.calls_ask loads)
  intro _
  apply Calls.bind (Program.calls_ask writes)
  intro _
  exact Program.calls_pure _

end Calls

section Run

variable {store : Store}

@[simp]
theorem run_espErrorCheck_ok : (espErrorCheck .ok).run Store.handle store = .ok ((), store) :=
  rfl

theorem run_espErrorCheck_of_ne {err : EspErr} (failed : err ≠ .ok) :
    (espErrorCheck err).run Store.handle store = .error ⟨.aborted err, store⟩ := by
  rw [espErrorCheck, if_neg failed]
  rfl

/-- What gets past `ESP_ERROR_CHECK` is no error. -/
theorem of_run_espErrorCheck {err : EspErr} {result : Unit × Store}
    (ran : (espErrorCheck err).run Store.handle store = .ok result) : err = .ok := by
  by_contra failed
  rw [run_espErrorCheck_of_ne failed] at ran
  cases ran

theorem run_memcpy {dst src : List UInt8} {count : Nat} (readable : count ≤ src.length)
    (fits : count ≤ dst.length) :
    (memcpy dst src count).run Store.handle store =
      .ok (overwrite dst (src.take count), store) := by
  simp [memcpy, Store.access, readable, fits]

/-- What has been copied is inside both arrays. -/
theorem inside_of_run_memcpy {dst src : List UInt8} {count : Nat} {result : List UInt8 × Store}
    (ran : (memcpy dst src count).run Store.handle store = .ok result) :
    count ≤ src.length ∧ count ≤ dst.length := by
  by_cases readable : count ≤ src.length
  · by_cases fits : count ≤ dst.length
    · exact ⟨readable, fits⟩
    · simp [memcpy, Store.access, readable, fits] at ran
  · simp [memcpy, Store.access, readable] at ran

theorem run_memcpyLiteral {dst : List UInt8} {src : Literal} {count : Nat}
    (fits : count ≤ dst.length) :
    (memcpyLiteral dst src count).run Store.handle store =
      .ok (overwrite dst (src.load count), store) := by
  simp [memcpyLiteral, Store.access, fits]

theorem run_strncpy {dst src : List UInt8} {count : Nat} (fits : count ≤ dst.length)
    (readable : strncpyReads src count ≤ src.length) :
    (strncpy dst src count).run Store.handle store =
      .ok (overwrite dst (strncpyBytes (CString.ofArray src) count), store) := by
  simp [strncpy, Store.access, fits, readable]

/-- What `strncpy` has written is inside its array. -/
theorem inside_of_run_strncpy {dst src : List UInt8} {count : Nat} {result : List UInt8 × Store}
    (ran : (strncpy dst src count).run Store.handle store = .ok result) : count ≤ dst.length := by
  by_contra outside
  simp [strncpy, Store.access, outside] at ran

theorem run_strncmp {first second : List UInt8} {count : Nat} (inFirst : count ≤ first.length)
    (inSecond : count ≤ second.length) :
    (strncmp first second count).run Store.handle store =
      .ok (!strncmpEqual (CString.ofArray first) (CString.ofArray second) count, store) := by
  have reads_le := strncmpReads_le first second count
  have readable : strncmpReads first second count ≤ first.length ∧
      strncmpReads first second count ≤ second.length :=
    ⟨Nat.le_trans reads_le inFirst, Nat.le_trans reads_le inSecond⟩
  simp [strncmp, Store.access, readable]

theorem run_memcmp {first second : List UInt8} {count : Nat} (inFirst : count ≤ first.length)
    (inSecond : count ≤ second.length) :
    (memcmp first second count).run Store.handle store =
      .ok (decide (first.take count ≠ second.take count), store) := by
  simp [memcmp, Store.access, inFirst, inSecond]

theorem run_strlen {array : List UInt8} (terminated : strlenReads array ≤ array.length) :
    (strlen array).run Store.handle store = .ok ((CString.ofArray array).length, store) := by
  simp [strlen, Store.access, terminated]

theorem run_strlen_of_unterminated {array : List UInt8}
    (unterminated : array.length < strlenReads array) :
    (strlen array).run Store.handle store = .error ⟨.outOfBounds, store⟩ := by
  have outside : ¬ strlenReads array ≤ array.length := Nat.not_le.mpr unterminated
  simp [strlen, Store.access, outside]

end Run

end WifiSniffer.Nvs
