import WifiSniffer.Effect.Trace
import WifiSniffer.Nvs.SetNumber

/-!
# Handles

The operations of `nvs_lib.c` that open a namespace, with whatever the calls return.  An
operation is to close the handle that it has opened, and to do nothing with a handle that
it could not open.
-/

namespace WifiSniffer.Nvs

open WifiSniffer.Bytes WifiSniffer.Effect
open Program (Calls Event Finishes Releases Trace Uses)
open Access (Balanced Settled)

/-! ## The calls of the library -/

/-- The calls of the settings code, and the one that erases an entry. -/
inductive LibCall where
  | nvs (call : NvsCall)
  | eraseKey (handle : Option Handle) (key : String)

@[reducible]
def LibCall.Response : LibCall → Type
  | .nvs call => call.Response
  | .eraseKey _ _ => EspErr

abbrev LibProgram :=
  Program LibCall LibCall.Response

/-- A call of the settings code as a program. -/
abbrev askNvs (call : NvsCall) : LibProgram call.Response :=
  Program.ask (LibCall.nvs call)

/-- `nvs_erase_value` -/
def nvsEraseValue (ns key : String) : LibProgram EspErr := do
  let (err, nvs) ← askNvs (.open ns .readwrite)
  if err = .ok then
    let err ← Program.ask (LibCall.eraseKey nvs key)
    let err ← if err = .ok then askNvs (.commit nvs) else pure err
    askNvs (.close nvs)
    return err
  else return err

/-! ## What calls do with handles -/

/-- What a call does with its handle.  Opening gives one, or none. -/
def nvsAccess : Event NvsCall.Response → Access Handle
  | ⟨.open _ _, (_, some nvs)⟩ => .acquire nvs
  | ⟨.open _ _, (_, none)⟩ => .idle
  | ⟨.close nvs, _⟩ => .release nvs
  | ⟨.commit nvs, _⟩ | ⟨.getNum nvs _ _, _⟩ | ⟨.setNum nvs _ _ _, _⟩ | ⟨.strSize nvs _, _⟩
  | ⟨.getStr nvs _ _, _⟩ | ⟨.setStr nvs _ _, _⟩ | ⟨.blobSize nvs _, _⟩ | ⟨.getBlob nvs _ _, _⟩
  | ⟨.setBlob nvs _ _, _⟩ => .use nvs
  | ⟨.write _ _, _⟩ | ⟨.load _ _, _⟩ | ⟨.strncpy _ _ _ _, _⟩ | ⟨.compare _ _ _, _⟩
  | ⟨.read _ _, _⟩ | ⟨.abort _, _⟩ => .idle

def libAccess : Event LibCall.Response → Access Handle
  | ⟨.nvs call, answer⟩ => nvsAccess ⟨call, answer⟩
  | ⟨.eraseKey nvs _, _⟩ => .use nvs

/-- A handle is set exactly if a namespace could be opened. -/
def NvsPossible : Event NvsCall.Response → Prop
  | ⟨.open _ _, (err, nvs)⟩ => err = .ok ↔ nvs.isSome = true
  | _ => True

def Possible : Event LibCall.Response → Prop
  | ⟨.nvs call, answer⟩ => NvsPossible ⟨call, answer⟩
  | ⟨.eraseKey _ _, _⟩ => True

/-- Whatever the response, the call is none with a handle. -/
def Idle (question : NvsCall) : Prop :=
  ∀ answer, nvsAccess ⟨question, answer⟩ = .idle

/-! ## Opening -/

section Open

variable {α : Type} {ns : String} {mode : OpenMode} {next : EspErr × Option Handle → NvsProgram α}
  {events : List (Event NvsCall.Response)} {value : α}

/-- The two ways to go on after opening. -/
theorem of_trace_open (trace : Trace (ask (.open ns mode) >>= next) events value)
    (possible : ∀ event ∈ events, NvsPossible event) :
    (∃ nvs later, events = ⟨.open ns mode, (.ok, some nvs)⟩ :: later ∧
      Trace (next (.ok, some nvs)) later value) ∨
    ∃ err later, err ≠ .ok ∧ events = ⟨.open ns mode, (err, none)⟩ :: later ∧
      Trace (next (err, none)) later value := by
  rcases Program.trace_ask_bind_iff.mp trace with ⟨⟨err, nvs⟩, later, rfl, rest⟩
  have opened : err = .ok ↔ nvs.isSome = true := possible _ List.mem_cons_self
  cases nvs with
  | none =>
      have failed : err ≠ .ok := fun ok => absurd (opened.mp ok) nofun
      exact .inr ⟨err, later, failed, rfl, rest⟩
  | some nvs =>
      cases opened.mpr rfl
      exact .inl ⟨nvs, later, rfl, rest⟩

/-- What returns an error at once. -/
theorem idle_of_failed {err : EspErr} {stop : α} {rest : NvsProgram α} (failed : err ≠ .ok) :
    Calls Idle (if err ≠ .ok then pure stop else rest) := by
  rw [if_pos failed]
  exact Program.calls_pure stop

/-- What closes its handle, and leaves it alone if there is none. -/
theorem settled_of_open
    (opened : ∀ nvs, Releases nvsAccess (some nvs) (next (.ok, some nvs)))
    (failed : ∀ err, err ≠ .ok → Calls Idle (next (err, none)))
    (trace : Trace (ask (.open ns mode) >>= next) events value)
    (possible : ∀ event ∈ events, NvsPossible event) : Settled (events.map nvsAccess) := by
  rcases of_trace_open trace possible with ⟨nvs, later, rfl, rest⟩ | ⟨err, later, ne, rfl, rest⟩
  · exact (opened nvs).settled rfl rest
  · exact (failed err ne).settled rfl rest

/-- A namespace could be opened. -/
def Opened (accesses : List (Access Handle)) : Prop :=
  ∃ nvs, .acquire nvs ∈ accesses

/-- What closes its handle whether or not there is one. -/
theorem settled_iff_of_releases (releases : ∀ err nvs, Releases nvsAccess nvs (next (err, nvs)))
    (trace : Trace (ask (.open ns mode) >>= next) events value)
    (possible : ∀ event ∈ events, NvsPossible event) :
    (Opened (events.map nvsAccess) → Settled (events.map nvsAccess)) ∧
      (Balanced (events.map nvsAccess) → Opened (events.map nvsAccess)) := by
  rcases of_trace_open trace possible with ⟨nvs, later, rfl, rest⟩ | ⟨err, later, ne, rfl, rest⟩
  · exact ⟨fun _ => (releases .ok (some nvs)).settled rfl rest, fun _ => ⟨nvs, List.mem_cons_self⟩⟩
  · refine ⟨?_, fun balanced => absurd balanced ((releases err none).not_balanced rest)⟩
    rintro ⟨nvs, acquired⟩
    rcases (releases err none).of_trace rest with ⟨middle, accesses_eq, uses⟩
    rw [List.map_cons, accesses_eq, List.mem_cons, List.mem_append, List.mem_singleton]
      at acquired
    rcases acquired with first | inside | last
    · cases first
    · exact (uses _ inside).elim nofun nofun
    · cases last

/-- What returns at once leaves a handle open if there is one. -/
theorem settled_iff_of_returns (returns : ∀ answer, ∃ result, next answer = pure result)
    (trace : Trace (ask (.open ns mode) >>= next) events value)
    (possible : ∀ event ∈ events, NvsPossible event) :
    (¬ Opened (events.map nvsAccess) → Settled (events.map nvsAccess)) ∧
      (Balanced (events.map nvsAccess) → ¬ Opened (events.map nvsAccess)) := by
  rcases of_trace_open trace possible with ⟨nvs, later, rfl, rest⟩ | ⟨err, later, ne, rfl, rest⟩
  · rcases returns (.ok, some nvs) with ⟨result, next_eq⟩
    rw [next_eq] at rest
    rcases Program.trace_pure_iff.mp rest with ⟨rfl, _⟩
    refine ⟨fun unopened => absurd ⟨nvs, List.mem_cons_self⟩ unopened, fun balanced => ?_⟩
    exact absurd (balanced.releasedOnce nvs List.mem_cons_self) (by simp [nvsAccess])
  · rcases returns (err, none) with ⟨result, next_eq⟩
    rw [next_eq] at rest
    rcases Program.trace_pure_iff.mp rest with ⟨rfl, _⟩
    refine ⟨fun _ => Access.settled_of_idle (by simp [nvsAccess]), ?_⟩
    rintro _ ⟨nvs, acquired⟩
    simp [nvsAccess] at acquired

end Open

/-! ## The operations -/

section Operations

variable {ns key : String} {events : List (Event NvsCall.Response)}

theorem releases_close {α : Type} (nvs : Option Handle) (result : α) :
    Releases nvsAccess nvs (ask (.close nvs) >>= fun _ => pure result) :=
  Program.finishes_ask (fun _ => rfl) _

/-- What setters do after a write. -/
theorem releases_commit (nvs : Option Handle) (err : EspErr) :
    Releases nvsAccess nvs (do
      let err ← if err = .ok then ask (.commit nvs) else pure err
      ask (.close nvs)
      return err : NvsProgram EspErr) := by
  apply Calls.ite_finishes_bind (Program.calls_ask fun _ => .inr rfl) (Program.calls_pure err)
  exact releases_close nvs

theorem settled_nvsSetNum32i {value : Int} {result : EspErr}
    (trace : Trace (nvsSetNum32i ns key value) events result)
    (possible : ∀ event ∈ events, NvsPossible event) : Settled (events.map nvsAccess) := by
  rw [nvsSetNum32i] at trace
  refine settled_of_open ?_ ?_ trace possible
  · intro nvs
    exact Program.finishes_ask_bind (fun _ => .inr rfl) (releases_commit (some nvs))
  · exact fun err failed => idle_of_failed failed

theorem settled_nvsGetNum32i {defValue : Int} {result : EspErr × Option Int}
    (trace : Trace (nvsGetNum32i ns key defValue) events result)
    (possible : ∀ event ∈ events, NvsPossible event) : Settled (events.map nvsAccess) := by
  rw [nvsGetNum32i] at trace
  refine settled_of_open ?_ ?_ trace possible
  · intro nvs
    apply Program.finishes_ask_bind (fun _ => .inr rfl)
    rintro (err | value)
    · split
      · exact releases_close (some nvs) _
      · exact releases_close (some nvs) _
      · exact releases_close (some nvs) _
    · exact releases_close (some nvs) _
  · exact fun err failed => idle_of_failed failed

theorem settled_nvsSetString {strValue : List UInt8} {result : EspErr}
    (trace : Trace (nvsSetString ns key strValue) events result)
    (possible : ∀ event ∈ events, NvsPossible event) : Settled (events.map nvsAccess) := by
  rw [nvsSetString] at trace
  refine settled_of_open ?_ ?_ trace possible
  · intro nvs
    apply Program.finishes_ask_bind (fun _ => .inl rfl)
    intro _
    exact Program.finishes_ask_bind (fun _ => .inr rfl) (releases_commit (some nvs))
  · exact fun err failed => idle_of_failed failed

theorem settled_nvsSetArray {value : List UInt8} {sz : Nat} {result : EspErr}
    (trace : Trace (nvsSetArray ns key value sz) events result)
    (possible : ∀ event ∈ events, NvsPossible event) : Settled (events.map nvsAccess) := by
  rw [nvsSetArray] at trace
  refine settled_of_open ?_ ?_ trace possible
  · intro nvs
    apply Program.finishes_ask_bind (fun _ => .inl rfl)
    intro _
    exact Program.finishes_ask_bind (fun _ => .inr rfl) (releases_commit (some nvs))
  · exact fun err failed => idle_of_failed failed

theorem settled_nvsGetArray {value defValue : List UInt8} {sz defSz : Nat}
    {result : EspErr × List UInt8 × Nat}
    (trace : Trace (nvsGetArray ns key value sz defValue defSz) events result)
    (possible : ∀ event ∈ events, NvsPossible event) : Settled (events.map nvsAccess) := by
  rw [nvsGetArray] at trace
  refine settled_of_open ?_ ?_ trace possible
  · intro nvs
    apply Program.finishes_ask_bind (fun _ => .inr rfl)
    intro found
    split
    · apply Program.finishes_ask_bind (fun _ => .inr rfl)
      intro got
      split
      · apply Program.finishes_ask_bind (fun _ => .inl rfl)
        intro _
        exact releases_close (some nvs) _
      · exact releases_close (some nvs) _
    · apply (calls_memcpy (fun _ => .inl rfl) fun _ => .inl rfl).finishes_bind
      intro _
      exact releases_close (some nvs) _
    · exact releases_close (some nvs) _
  · intro err failed
    dsimp only
    rw [if_pos failed]
    split
    · exact (calls_memcpy (fun _ => rfl) fun _ => rfl).bind fun _ => Program.calls_pure _
    · exact Program.calls_pure _

theorem settled_nvsSetNumFromString {type : NumType} {strValue : CString} {erange : Bool}
    {result : EspErr × Bool}
    (trace : Trace (nvsSetNumFromString ns key (.num type) strValue erange) events result)
    (possible : ∀ event ∈ events, NvsPossible event) : Settled (events.map nvsAccess) := by
  rw [nvsSetNumFromString] at trace
  refine settled_of_open ?_ ?_ trace possible
  · intro nvs
    change Releases nvsAccess (some nvs)
      (if type.rejects (type.parse strValue).1 (erange || (type.parse strValue).2) = true then _
        else _)
    by_cases rejected :
        type.rejects (type.parse strValue).1 (erange || (type.parse strValue).2) = true
    · rw [if_pos rejected]
      exact releases_close (some nvs) _
    · rw [if_neg rejected]
      apply Program.finishes_ask_bind (fun _ => .inr rfl)
      intro err
      apply Calls.ite_finishes_bind (Program.calls_ask fun _ => .inr rfl) (Program.calls_pure _)
      intro err
      exact releases_close (some nvs) _
  · exact fun err failed => idle_of_failed failed

/-- A type that is refused is refused with the namespace open. -/
theorem settled_iff_nvsSetNumFromString {type : NvsType} {strValue : CString} {erange : Bool}
    {result : EspErr × Bool} (other : ∀ number, type ≠ .num number)
    (trace : Trace (nvsSetNumFromString ns key type strValue erange) events result)
    (possible : ∀ event ∈ events, NvsPossible event) :
    (¬ Opened (events.map nvsAccess) → Settled (events.map nvsAccess)) ∧
      (Balanced (events.map nvsAccess) → ¬ Opened (events.map nvsAccess)) := by
  rw [nvsSetNumFromString] at trace
  refine settled_iff_of_returns ?_ trace possible
  rintro ⟨err, nvs⟩
  dsimp only
  split
  · exact ⟨_, rfl⟩
  · cases type with
    | num number => exact absurd rfl (other number)
    | str | blob | any => exact ⟨_, rfl⟩

theorem settled_iff_nvsGetString {outValue : List UInt8} {defValue : Literal} {defValueSz : Nat}
    {result : EspErr × List UInt8}
    (trace : Trace (nvsGetString ns key outValue defValue defValueSz) events result)
    (possible : ∀ event ∈ events, NvsPossible event) :
    (Opened (events.map nvsAccess) → Settled (events.map nvsAccess)) ∧
      (Balanced (events.map nvsAccess) → Opened (events.map nvsAccess)) := by
  rw [nvsGetString] at trace
  refine settled_iff_of_releases ?_ trace possible
  intro err nvs
  apply Calls.ite_finishes_bind
    (calls_memcpyLiteral (fun _ => .inl rfl) fun _ => .inl rfl) (Program.calls_pure _)
  intro outValue
  apply Program.finishes_ask_bind (fun _ => .inr rfl)
  intro found
  split
  · apply Program.finishes_ask_bind (fun _ => .inr rfl)
    intro got
    split
    · apply Program.finishes_ask_bind (fun _ => .inl rfl)
      intro _
      exact releases_close nvs _
    · exact releases_close nvs _
  · apply (calls_memcpyLiteral (fun _ => .inl rfl) fun _ => .inl rfl).finishes_bind
    intro _
    exact releases_close nvs _
  · exact releases_close nvs _

theorem settled_iff_nvsGetNum {type : NvsType} {outValue defValue : List UInt8} {garbage : Nat}
    {result : EspErr × List UInt8} (readable : type ≠ .blob ∧ type ≠ .any)
    (trace : Trace (nvsGetNum ns key type outValue defValue garbage) events result)
    (possible : ∀ event ∈ events, NvsPossible event) :
    (Opened (events.map nvsAccess) → Settled (events.map nvsAccess)) ∧
      (Balanced (events.map nvsAccess) → Opened (events.map nvsAccess)) := by
  rw [nvsGetNum] at trace
  refine settled_iff_of_releases ?_ trace possible
  intro err nvs
  cases type with
  | num type =>
      apply Program.finishes_ask_bind (fun _ => .inr rfl)
      intro found
      split
      · apply Program.finishes_ask_bind (fun _ => .inl rfl)
        intro _
        exact releases_close nvs _
      · exact releases_close nvs _
  | str =>
      apply Program.finishes_ask_bind (fun _ => .inr rfl)
      intro found
      split
      · apply Program.finishes_ask_bind (fun _ => .inr rfl)
        intro got
        split
        · apply Program.finishes_ask_bind (fun _ => .inl rfl)
          intro _
          exact releases_close nvs _
        · exact releases_close nvs _
      · apply (calls_memcpy (fun _ => .inl rfl) fun _ => .inl rfl).finishes_bind
        intro _
        exact releases_close nvs _
      · exact releases_close nvs _
  | blob => exact absurd rfl readable.1
  | any => exact absurd rfl readable.2

theorem settled_iff_nvsGetNum_of_refused {type : NvsType} {outValue defValue : List UInt8}
    {garbage : Nat} {result : EspErr × List UInt8} (refused : type = .blob ∨ type = .any)
    (trace : Trace (nvsGetNum ns key type outValue defValue garbage) events result)
    (possible : ∀ event ∈ events, NvsPossible event) :
    (¬ Opened (events.map nvsAccess) → Settled (events.map nvsAccess)) ∧
      (Balanced (events.map nvsAccess) → ¬ Opened (events.map nvsAccess)) := by
  rw [nvsGetNum] at trace
  refine settled_iff_of_returns ?_ trace possible
  rintro ⟨err, nvs⟩
  rcases refused with rfl | rfl
  · exact ⟨_, rfl⟩
  · exact ⟨_, rfl⟩

end Operations

/-! ## Runs of operations -/

/-- An event of the settings code as one of the library. -/
def passNvs (event : Event NvsCall.Response) : Event LibCall.Response :=
  ⟨.nvs event.1, event.2⟩

/-- A program of the settings code, among those of the library. -/
def ofNvs {α : Type} (program : NvsProgram α) : LibProgram α :=
  program.translate askNvs

theorem trace_ofNvs_iff {α : Type} {program : NvsProgram α} {value : α}
    {events : List (Event LibCall.Response)} :
    Trace (ofNvs program) events value ↔
      ∃ inner, Trace program inner value ∧ events = inner.map passNvs := by
  apply Program.trace_translate_iff
  intro question events answer
  constructor
  · intro trace
    rcases Program.trace_request_iff.mp trace with ⟨given, later, rfl, ended⟩
    cases ended
    rfl
  · rintro rfl
    exact .request (.pure answer)

/-- The operations that open a namespace, with their arguments. -/
inductive Operation where
  | eraseValue (ns key : String)
  | setNum32i (ns key : String) (value : Int)
  | getNum32i (ns key : String) (defValue : Int)
  | setNumFromString (ns key : String) (type : NvsType) (strValue : CString) (erange : Bool)
  | getNum (ns key : String) (type : NvsType) (outValue defValue : List UInt8) (garbage : Nat)
  | setString (ns key : String) (strValue : List UInt8)
  | setArray (ns key : String) (value : List UInt8) (sz : Nat)
  | getArray (ns key : String) (value : List UInt8) (sz : Nat) (defValue : List UInt8)
      (defSz : Nat)
  | getString (ns key : String) (outValue : List UInt8) (defValue : Literal) (defValueSz : Nat)

/-- One way through an operation, up to its return. -/
def Operation.Performs (operation : Operation) (events : List (Event LibCall.Response)) : Prop :=
  match operation with
  | .eraseValue ns key => ∃ result, Trace (nvsEraseValue ns key) events result
  | .setNum32i ns key value => ∃ result, Trace (ofNvs (nvsSetNum32i ns key value)) events result
  | .getNum32i ns key defValue =>
      ∃ result, Trace (ofNvs (nvsGetNum32i ns key defValue)) events result
  | .setNumFromString ns key type strValue erange =>
      ∃ result, Trace (ofNvs (nvsSetNumFromString ns key type strValue erange)) events result
  | .getNum ns key type outValue defValue garbage =>
      ∃ result, Trace (ofNvs (nvsGetNum ns key type outValue defValue garbage)) events result
  | .setString ns key strValue =>
      ∃ result, Trace (ofNvs (nvsSetString ns key strValue)) events result
  | .setArray ns key value sz =>
      ∃ result, Trace (ofNvs (nvsSetArray ns key value sz)) events result
  | .getArray ns key value sz defValue defSz =>
      ∃ result, Trace (ofNvs (nvsGetArray ns key value sz defValue defSz)) events result
  | .getString ns key outValue defValue defValueSz =>
      ∃ result, Trace (ofNvs (nvsGetString ns key outValue defValue defValueSz)) events result

/-- An operation that has returned, with what its calls have returned. -/
structure OperationRun where
  operation : Operation
  events : List (Event LibCall.Response)
  performed : operation.Performs events
  possible : ∀ event ∈ events, Possible event

namespace OperationRun

def accesses (run : OperationRun) : List (Access Handle) :=
  run.events.map libAccess

/-- Where an operation closes what it opens. -/
def Closes (run : OperationRun) : Prop :=
  match run.operation with
  | .setNumFromString _ _ (.num _) _ _ => True
  | .setNumFromString _ _ _ _ _ => ¬ Opened run.accesses
  | .getNum _ _ .blob _ _ _ | .getNum _ _ .any _ _ _ => ¬ Opened run.accesses
  | .getNum _ _ _ _ _ _ | .getString _ _ _ _ _ => Opened run.accesses
  | .eraseValue _ _ | .setNum32i _ _ _ | .getNum32i _ _ _ | .setString _ _ _
  | .setArray _ _ _ _ | .getArray _ _ _ _ _ _ => True

end OperationRun

/-- Erasing closes its handle. -/
theorem settled_nvsEraseValue {ns key : String} {events : List (Event LibCall.Response)}
    {result : EspErr} (trace : Trace (nvsEraseValue ns key) events result)
    (possible : ∀ event ∈ events, Possible event) : Settled (events.map libAccess) := by
  rw [nvsEraseValue] at trace
  rcases Program.trace_ask_bind_iff.mp trace with ⟨⟨err, nvs⟩, later, rfl, rest⟩
  have opened : err = .ok ↔ nvs.isSome = true := possible _ List.mem_cons_self
  cases nvs with
  | none =>
      have failed : err ≠ .ok := fun ok => absurd (opened.mp ok) nofun
      dsimp only at rest
      rw [if_neg failed] at rest
      rcases Program.trace_pure_iff.mp rest with ⟨rfl, _⟩
      exact Access.settled_of_idle (by simp [libAccess, nvsAccess])
  | some nvs =>
      cases opened.mpr rfl
      have acquires : libAccess ⟨.nvs (.open ns .readwrite), (.ok, some nvs)⟩ = .acquire nvs := rfl
      have closes (err : EspErr) : Releases libAccess (some nvs)
          (askNvs (.close (some nvs)) >>= fun _ => pure err) :=
        Program.finishes_ask (fun _ => rfl) _
      refine Releases.settled acquires ?_ rest
      apply Program.finishes_ask_bind (fun _ => .inr rfl)
      intro err
      dsimp only
      split
      · exact Program.finishes_ask_bind (fun _ => .inr rfl) closes
      · exact closes err

section Run

variable {α : Type} {program : NvsProgram α} {value : α} {events : List (Event LibCall.Response)}

/-- The accesses of a program of the settings code are its own. -/
theorem of_trace_ofNvs (trace : Trace (ofNvs program) events value)
    (possible : ∀ event ∈ events, Possible event) :
    ∃ inner, Trace program inner value ∧ (∀ event ∈ inner, NvsPossible event) ∧
      events.map libAccess = inner.map nvsAccess := by
  rcases trace_ofNvs_iff.mp trace with ⟨inner, innerTrace, rfl⟩
  refine ⟨inner, innerTrace, ?_, ?_⟩
  · exact fun event member => possible _ (List.mem_map_of_mem member)
  · rw [List.map_map]
    rfl

theorem settled_ofNvs (settled : ∀ inner, Trace program inner value →
      (∀ event ∈ inner, NvsPossible event) → Settled (inner.map nvsAccess))
    (trace : Trace (ofNvs program) events value) (possible : ∀ event ∈ events, Possible event) :
    Settled (events.map libAccess) := by
  rcases of_trace_ofNvs trace possible with ⟨inner, innerTrace, innerPossible, accesses_eq⟩
  rw [accesses_eq]
  exact settled inner innerTrace innerPossible

/-- A program that always closes what it opens does so under no condition. -/
theorem settled_iff_true (settled : ∀ inner, Trace program inner value →
      (∀ event ∈ inner, NvsPossible event) → Settled (inner.map nvsAccess))
    (trace : Trace (ofNvs program) events value) (possible : ∀ event ∈ events, Possible event) :
    (True → Settled (events.map libAccess)) ∧ (Balanced (events.map libAccess) → True) :=
  ⟨fun _ => settled_ofNvs settled trace possible, fun _ => trivial⟩

end Run

namespace OperationRun

/-- An operation that closes what it opens leaves nothing behind, and no other one keeps
the balance. -/
theorem settled_iff_closes (run : OperationRun) :
    (run.Closes → Settled run.accesses) ∧ (Balanced run.accesses → run.Closes) := by
  rcases run with ⟨operation, events, performed, possible⟩
  cases operation with
  | eraseValue ns key =>
      rcases performed with ⟨result, trace⟩
      exact ⟨fun _ => settled_nvsEraseValue trace possible, fun _ => trivial⟩
  | setNum32i ns key value =>
      rcases performed with ⟨result, trace⟩
      exact settled_iff_true (fun _ => settled_nvsSetNum32i) trace possible
  | getNum32i ns key defValue =>
      rcases performed with ⟨result, trace⟩
      exact settled_iff_true (fun _ => settled_nvsGetNum32i) trace possible
  | setString ns key strValue =>
      rcases performed with ⟨result, trace⟩
      exact settled_iff_true (fun _ => settled_nvsSetString) trace possible
  | setArray ns key value sz =>
      rcases performed with ⟨result, trace⟩
      exact settled_iff_true (fun _ => settled_nvsSetArray) trace possible
  | getArray ns key value sz defValue defSz =>
      rcases performed with ⟨result, trace⟩
      exact settled_iff_true (fun _ => settled_nvsGetArray) trace possible
  | getString ns key outValue defValue defValueSz =>
      rcases performed with ⟨result, trace⟩
      rcases of_trace_ofNvs trace possible with ⟨inner, trace, possible, accesses_eq⟩
      rw [Closes, accesses, accesses_eq]
      exact settled_iff_nvsGetString trace possible
  | setNumFromString ns key type strValue erange =>
      rcases performed with ⟨result, trace⟩
      rcases of_trace_ofNvs trace possible with ⟨inner, trace, possible, accesses_eq⟩
      rw [Closes, accesses, accesses_eq]
      cases type with
      | num type => exact ⟨fun _ => settled_nvsSetNumFromString trace possible, fun _ => trivial⟩
      | str | blob | any => exact settled_iff_nvsSetNumFromString (by simp) trace possible
  | getNum ns key type outValue defValue garbage =>
      rcases performed with ⟨result, trace⟩
      rcases of_trace_ofNvs trace possible with ⟨inner, trace, possible, accesses_eq⟩
      rw [Closes, accesses, accesses_eq]
      cases type with
      | num type => exact settled_iff_nvsGetNum (by simp) trace possible
      | str => exact settled_iff_nvsGetNum (by simp) trace possible
      | blob => exact settled_iff_nvsGetNum_of_refused (.inl rfl) trace possible
      | any => exact settled_iff_nvsGetNum_of_refused (.inr rfl) trace possible

end OperationRun

/-- Every operation closes what it opens, and after all of them no handle is open. -/
def HandlesBalanced (runs : List OperationRun) : Prop :=
  (∀ run ∈ runs, Balanced run.accesses) ∧
    Access.holdAll 0 (runs.flatMap OperationRun.accesses) = 0

/-- In a sequence of operations the handles are balanced exactly if no type is refused
with the namespace open, and no string or number of a given type is read where the
namespace could not be opened. -/
theorem handlesBalanced_iff (runs : List OperationRun) :
    HandlesBalanced runs ↔ ∀ run ∈ runs, run.Closes := by
  constructor
  · rintro ⟨balanced, _⟩ run member
    exact run.settled_iff_closes.2 (balanced run member)
  · intro closes
    have settled : ∀ run ∈ runs, Settled run.accesses :=
      fun run member => run.settled_iff_closes.1 (closes run member)
    exact ⟨fun run member => (settled run member).balanced, Access.holdAll_flatMap settled 0⟩

/-- A string is read on flash that has been erased. -/
def erasedRun : OperationRun where
  operation := .getString "settings" "ip" [0] (.ofString "") 1
  events := [⟨.nvs (.open "settings" .readonly), (.nvsNotFound, none)⟩,
    ⟨.nvs (.load (.ofString "") 1), [0]⟩, ⟨.nvs (.write 1 1), ()⟩,
    ⟨.nvs (.strSize none "ip"), .error .nvsInvalidHandle⟩, ⟨.nvs (.close none), ()⟩]
  performed := ⟨(.nvsInvalidHandle, [0]),
    .request (.request (.request (.request (.request (.pure _)))))⟩
  possible := by simp [Possible, NvsPossible]

/-- Its length is asked for, and the handle closed, although there is none. -/
theorem not_handlesBalanced_erasedRun : ¬ HandlesBalanced [erasedRun] := by
  rintro ⟨balanced, _⟩
  exact (balanced _ (List.mem_singleton_self _)).notUsedUnset (by decide)

end WifiSniffer.Nvs
