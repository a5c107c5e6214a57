import WifiSniffer.Effect.Rules
import WifiSniffer.Nvs.Numbers

/-!
# One contract for the getters

A getter is to return `ESP_OK` with the default in its output if there is nothing to be
read, and with the stored value if there is one of its type.  Four functions are written
to that contract, and each of them keeps to it on stores of its own.
-/

namespace WifiSniffer.Nvs

open WifiSniffer.Bytes WifiSniffer.Effect
open Program (Achieves)

/-! ## The contract -/

/-- The getters, with what they are given besides the namespace and the key. -/
inductive Getter where
  | string (outValue : List UInt8) (defValue : Literal) (defValueSz : Nat)
  | array (value : List UInt8) (sz : Nat) (defValue : List UInt8) (defSz : Nat)
  | num32i (defValue : Int)
  | num (type : NvsType) (outValue defValue : List UInt8)

/-- The default behind an untyped pointer. -/
def NvsType.defaultBytes (defValue : List UInt8) : NvsType → List UInt8
  | .num type => defValue.take type.size
  | .str => (CString.ofArray defValue).chars ++ [0]
  | .blob | .any => defValue

/-- The program returns `ESP_OK`, with an output as stated. -/
def Returns {α : Type} (program : NvsProgram (EspErr × α)) (store : Store)
    (holds : α → Prop) : Prop :=
  Achieves Store.handle program store fun result _ => result.1 = .ok ∧ holds result.2

namespace Getter

/-- The type of the values that a getter is for. -/
def type : Getter → NvsType
  | .string _ _ _ => .str
  | .array _ _ _ _ => .blob
  | .num32i _ => .num .i32
  | .num type _ _ => type

section Contract

variable (store : Store) (ns key : String)

def ReturnsDefault (garbage : Nat) : Getter → Prop
  | .string outValue defValue defValueSz =>
      Returns (nvsGetString ns key outValue defValue defValueSz) store fun outValue =>
        defValue.load defValueSz <+: outValue
  | .array value sz defValue defSz =>
      Returns (nvsGetArray ns key value sz defValue defSz) store fun output =>
        defValue.take defSz <+: output.1 ∧ output.2 = defSz
  | .num32i defValue =>
      Returns (nvsGetNum32i ns key defValue) store fun outValue => outValue = some defValue
  | .num type outValue defValue =>
      Returns (nvsGetNum ns key type outValue defValue garbage) store fun outValue =>
        type.defaultBytes defValue <+: outValue

def ReturnsStored (garbage : Nat) (stored : NvsValue) : Getter → Prop
  | .string outValue defValue defValueSz =>
      Returns (nvsGetString ns key outValue defValue defValueSz) store fun outValue =>
        stored.bytes <+: outValue
  | .array value sz defValue defSz =>
      Returns (nvsGetArray ns key value sz defValue defSz) store fun output =>
        stored.bytes <+: output.1 ∧ output.2 = stored.bytes.length
  | .num32i defValue =>
      Returns (nvsGetNum32i ns key defValue) store fun outValue =>
        outValue.map (NvsValue.num .i32) = some stored
  | .num type outValue defValue =>
      Returns (nvsGetNum ns key type outValue defValue garbage) store fun outValue =>
        stored.bytes <+: outValue

/-- The contract, whatever variables without a value hold.  Where the namespace is
missing there is no entry either. -/
def Meets (getter : Getter) : Prop :=
  ∀ garbage,
    (store.get ns key = none → getter.ReturnsDefault store ns key garbage) ∧
      ∀ stored, store.get ns key = some stored → stored.type = getter.type →
        getter.ReturnsStored store ns key garbage stored

/-- A value of the type that may be stored has room. -/
def HasRoom (type : NvsType) (room : Nat) : Prop :=
  ∀ stored, store.get ns key = some stored → stored.type = type → stored.bytes.length ≤ room

/-- Where a getter keeps to the contract. -/
def Works : Getter → Prop
  | .string outValue _ defValueSz =>
      (store.get ns key = none → store.Has ns ∧ defValueSz ≤ outValue.length) ∧
        HasRoom store ns key .str outValue.length
  | .array value _ defValue defSz =>
      (store.get ns key = none → defSz ≤ defValue.length ∧ defSz ≤ value.length) ∧
        HasRoom store ns key .blob value.length
  | .num32i _ => True
  | .num type outValue _ =>
      store.get ns key ≠ none ∧ HasRoom store ns key type outValue.length ∧
        ∀ stored, store.get ns key = some stored → stored.type = type → type ≠ .blob

end Contract

end Getter

/-! ## Outputs -/

section Returns

variable {α : Type} {program : NvsProgram (EspErr × α)} {store next : Store} {output : α}
  {holds : α → Prop}

theorem returns_of_run (ran : program.run Store.handle store = .ok ((.ok, output), next))
    (held : holds output) : Returns program store holds :=
  ⟨_, _, ran, rfl, held⟩

theorem not_returns_of_failed {err : EspErr} (failed : err ≠ .ok)
    (ran : program.run Store.handle store = .ok ((err, output), next)) :
    ¬ Returns program store holds := by
  rintro ⟨_, _, ran', ok, _⟩
  rw [ran] at ran'
  cases ran'
  exact failed ok

theorem not_returns_of_halt {halt : Halt}
    (ran : program.run Store.handle store = .error halt) : ¬ Returns program store holds := by
  rintro ⟨_, _, ran', _⟩
  rw [ran] at ran'
  cases ran'

end Returns

theorem prefix_overwrite (array data : List UInt8) : data <+: overwrite array data :=
  List.prefix_append _ _

/-! ## The getters -/

section Getters

variable {store : Store} {ns key : String}

/-! ### Strings -/

section String

variable {outValue : List UInt8} {defValue : Literal} {defValueSz : Nat}

/-- A default that is larger than the output is written to its end. -/
theorem run_nvsGetString_of_outside (absent : store.get ns key = none)
    (outside : ¬ defValueSz ≤ outValue.length) :
    (nvsGetString ns key outValue defValue defValueSz).run Store.handle store =
      .error ⟨.outOfBounds, store⟩ := by
  have copied : (memcpyLiteral outValue defValue defValueSz).run Store.handle store =
      .error ⟨.outOfBounds, store⟩ := by
    simp [memcpyLiteral, Store.access, outside]
  by_cases has : store.Has ns
  · simp [nvsGetString, Store.handle_open_readonly_of_has has, Store.str_of_absent absent,
      Except.map, copied]
  · simp [nvsGetString, Store.handle_open_readonly_of_not_has has, copied]

/-- The default of a string is returned if its namespace is there, and not otherwise. -/
theorem returnsDefault_string_iff (absent : store.get ns key = none) (garbage : Nat) :
    (Getter.string outValue defValue defValueSz).ReturnsDefault store ns key garbage ↔
      store.Has ns ∧ defValueSz ≤ outValue.length := by
  by_cases fits : defValueSz ≤ outValue.length
  · by_cases has : store.Has ns
    · exact iff_of_true (returns_of_run (run_nvsGetString_of_absent has absent fits)
        (prefix_overwrite _ _)) ⟨has, fits⟩
    · exact iff_of_false (not_returns_of_failed (by decide) (run_nvsGetString_of_not_has has fits))
        (fun works => has works.1)
  · exact iff_of_false (not_returns_of_halt (run_nvsGetString_of_outside absent fits))
      (fun works => fits works.2)

theorem returnsStored_string_iff {stored : NvsValue} (entry : store.get ns key = some stored)
    (same : stored.type = .str) (garbage : Nat) :
    (Getter.string outValue defValue defValueSz).ReturnsStored store ns key garbage stored ↔
      stored.bytes.length ≤ outValue.length := by
  cases stored with
  | num type value => cases same
  | blob data => cases same
  | str string =>
      have size : (NvsValue.str string).bytes.length = string.length + 1 := List.length_append
      rw [size]
      by_cases fits : string.length + 1 ≤ outValue.length
      · exact iff_of_true (returns_of_run (run_nvsGetString_of_get entry fits)
          (prefix_overwrite _ _)) fits
      · exact iff_of_false (not_returns_of_halt (run_nvsGetString_of_overflow entry
          (Nat.lt_of_not_le fits))) fits

end String

/-! ### Arrays -/

section Array

variable {value defValue : List UInt8} {sz defSz : Nat}

theorem returnsDefault_array_iff (absent : store.get ns key = none) (garbage : Nat) :
    (Getter.array value sz defValue defSz).ReturnsDefault store ns key garbage ↔
      defSz ≤ defValue.length ∧ defSz ≤ value.length := by
  constructor
  · rintro ⟨result, last, ran, _⟩
    have copies : ∃ copied, (memcpy value defValue defSz).run Store.handle store = .ok copied := by
      cases copied : (memcpy value defValue defSz).run Store.handle store with
      | ok result => exact ⟨result, rfl⟩
      | error halt =>
          by_cases has : store.Has ns
          · simp [nvsGetArray, Store.handle_open_readonly_of_has has,
              Store.blob_of_absent absent, Except.map, copied] at ran
          · simp [nvsGetArray, Store.handle_open_readonly_of_not_has has, copied] at ran
    rcases copies with ⟨copied, copies⟩
    exact inside_of_run_memcpy copies
  · rintro ⟨readable, fits⟩
    rw [Getter.ReturnsDefault]
    exact returns_of_run (run_nvsGetArray_of_absent absent readable fits)
      ⟨prefix_overwrite _ _, rfl⟩

theorem returnsStored_array_iff {stored : NvsValue} (entry : store.get ns key = some stored)
    (same : stored.type = .blob) (garbage : Nat) :
    (Getter.array value sz defValue defSz).ReturnsStored store ns key garbage stored ↔
      stored.bytes.length ≤ value.length := by
  cases stored with
  | num type number => cases same
  | str string => cases same
  | blob data =>
      rw [Getter.ReturnsStored, NvsValue.bytes]
      by_cases fits : data.length ≤ value.length
      · exact iff_of_true (returns_of_run (run_nvsGetArray_of_get entry fits)
          ⟨prefix_overwrite _ _, rfl⟩) fits
      · exact iff_of_false (not_returns_of_halt (run_nvsGetArray_of_overflow entry
          (Nat.lt_of_not_le fits))) fits

end Array

/-! ### Numbers -/

section Num

variable {outValue defValue : List UInt8}

theorem run_nvsGetNum32i_of_absent (absent : store.get ns key = none) (defValue : Int) :
    (nvsGetNum32i ns key defValue).run Store.handle store =
      .ok ((.ok, some defValue), store.create ns) := by
  simp [nvsGetNum32i, Store.num_of_absent, absent]

theorem run_nvsGetNum32i_of_get {value : Int}
    (stored : store.get ns key = some (.num .i32 value)) (defValue : Int) :
    (nvsGetNum32i ns key defValue).run Store.handle store =
      .ok ((.ok, some value), store.create ns) := by
  simp [nvsGetNum32i, Store.num_of_get, stored]

/-- It opens its namespace for writing, and so it is never missing. -/
theorem meets_num32i (defValue : Int) : (Getter.num32i defValue).Meets store ns key := by
  intro garbage
  constructor
  · intro absent
    rw [Getter.ReturnsDefault]
    exact returns_of_run (run_nvsGetNum32i_of_absent absent defValue) rfl
  · intro stored entry same
    cases stored with
    | num type value =>
        cases same
        rw [Getter.ReturnsStored]
        exact returns_of_run (run_nvsGetNum32i_of_get entry defValue) rfl
    | str value => cases same
    | blob data => cases same

/-- The default behind the untyped pointer is not returned for any type. -/
theorem not_returnsDefault_num (absent : store.get ns key = none) (type : NvsType) :
    ¬ ∀ garbage, (Getter.num type outValue defValue).ReturnsDefault store ns key garbage := by
  intro returns
  cases type with
  | num type =>
      by_cases has : store.Has ns
      · exact not_returns_of_failed (by decide) (run_nvsGetNum_of_absent has absent) (returns 0)
      · exact not_returns_of_failed (by decide) (run_nvsGetNum_of_not_has has) (returns 0)
  | str =>
      by_cases has : store.Has ns
      · -- A length that is larger than the output.
        rcases returns (outValue.length + 1) with ⟨result, last, ran, _⟩
        rw [run_nvsGetNum_str_of_absent has absent] at ran
        cases copied : (memcpy outValue defValue (outValue.length + 1)).run Store.handle store with
        | ok result =>
            have inside := (inside_of_run_memcpy copied).2
            omega
        | error halt =>
            rw [copied] at ran
            cases ran
      · exact not_returns_of_failed (by decide) (run_nvsGetNum_str_of_not_has has) (returns 0)
  | blob =>
      exact not_returns_of_failed (by decide) (run_nvsGetNum_of_refused (.inl rfl)) (returns 0)
  | any =>
      exact not_returns_of_failed (by decide) (run_nvsGetNum_of_refused (.inr rfl)) (returns 0)

theorem returnsStored_num_iff {stored : NvsValue} (entry : store.get ns key = some stored)
    (garbage : Nat) :
    (Getter.num stored.type outValue defValue).ReturnsStored store ns key garbage stored ↔
      stored.bytes.length ≤ outValue.length ∧ stored.type ≠ .blob := by
  cases stored with
  | num type value =>
      have size : (NvsValue.num type value).bytes.length = type.size :=
        NumType.bytes_length type value
      rw [size]
      by_cases fits : type.size ≤ outValue.length
      · exact iff_of_true (returns_of_run (run_nvsGetNum_of_get entry fits)
          (prefix_overwrite _ _)) ⟨fits, nofun⟩
      · exact iff_of_false (not_returns_of_halt (run_nvsGetNum_of_overflow entry
          (Nat.lt_of_not_le fits))) (fun works => fits works.1)
  | str string =>
      have size : (NvsValue.str string).bytes.length = string.length + 1 := List.length_append
      rw [size]
      by_cases fits : string.length + 1 ≤ outValue.length
      · exact iff_of_true (returns_of_run (run_nvsGetNum_str_of_get entry fits)
          (prefix_overwrite _ _)) ⟨fits, nofun⟩
      · exact iff_of_false (not_returns_of_halt (run_nvsGetNum_str_of_overflow entry
          (Nat.lt_of_not_le fits))) (fun works => fits works.1)
  | blob data =>
      exact iff_of_false
        (not_returns_of_failed (by decide) (run_nvsGetNum_of_refused (.inl rfl)))
        (fun works => works.2 rfl)

end Num

end Getters

/-! ## All of them -/

section Meets

variable {getter : Getter} {store : Store} {ns key : String} {fits : Prop} {room : Nat}

/-- A contract whose two halves are known. -/
theorem meets_iff_of_forall
    (default : store.get ns key = none → ∀ garbage,
      getter.ReturnsDefault store ns key garbage ↔ fits)
    (stored : ∀ stored, store.get ns key = some stored → stored.type = getter.type → ∀ garbage,
      getter.ReturnsStored store ns key garbage stored ↔ stored.bytes.length ≤ room) :
    getter.Meets store ns key ↔
      (store.get ns key = none → fits) ∧ Getter.HasRoom store ns key getter.type room := by
  constructor
  · intro meets
    exact ⟨fun absent => (default absent 0).mp ((meets 0).1 absent),
      fun value entry same => (stored value entry same 0).mp ((meets 0).2 value entry same)⟩
  · rintro ⟨present, hasRoom⟩ garbage
    exact ⟨fun absent => (default absent garbage).mpr (present absent),
      fun value entry same => (stored value entry same garbage).mpr (hasRoom value entry same)⟩

theorem meets_num_iff (type : NvsType) (outValue defValue : List UInt8) :
    (Getter.num type outValue defValue).Meets store ns key ↔
      store.get ns key ≠ none ∧ Getter.HasRoom store ns key type outValue.length ∧
        ∀ stored, store.get ns key = some stored → stored.type = type → type ≠ .blob := by
  constructor
  · intro meets
    refine ⟨fun absent => not_returnsDefault_num absent type fun garbage =>
      (meets garbage).1 absent, ?_, ?_⟩
    · rintro stored entry rfl
      exact ((returnsStored_num_iff entry 0).mp ((meets 0).2 _ entry rfl)).1
    · rintro stored entry rfl
      exact ((returnsStored_num_iff entry 0).mp ((meets 0).2 _ entry rfl)).2
  · rintro ⟨present, room, readable⟩ garbage
    refine ⟨fun absent => absurd absent present, ?_⟩
    rintro stored entry rfl
    exact (returnsStored_num_iff entry garbage).mpr
      ⟨room stored entry rfl, readable stored entry rfl⟩

end Meets

/-- The getters keep to their contract exactly where there is room for what they write and
moreover, a string is read from a namespace that is there, and a number of a given type
from an entry that is there and holds no blob. -/
theorem getter_meets_iff (getter : Getter) (store : Store) (ns key : String) :
    getter.Meets store ns key ↔ getter.Works store ns key := by
  cases getter with
  | string outValue defValue defValueSz =>
      exact meets_iff_of_forall returnsDefault_string_iff fun _ => returnsStored_string_iff
  | array value sz defValue defSz =>
      exact meets_iff_of_forall returnsDefault_array_iff fun _ => returnsStored_array_iff
  | num32i defValue => exact iff_of_true (meets_num32i defValue) trivial
  | num type outValue defValue => exact meets_num_iff type outValue defValue

/-- The address of a station, on flash that has been erased: the default is copied, and an
error returned. -/
theorem not_meets_erased :
    ¬ (Getter.string (List.replicate 16 0) (.ofString "192.168.19.1") 16).Meets Store.empty
      "settings" "ip" := by
  intro meets
  have missing : ¬ Store.empty.Has "settings" := by decide
  exact not_returns_of_failed (by decide) (run_nvsGetString_of_not_has missing (by decide))
    ((meets 0).1 rfl)

end WifiSniffer.Nvs
