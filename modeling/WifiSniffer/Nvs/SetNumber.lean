import WifiSniffer.Bytes.Numeral
import WifiSniffer.Nvs.Numbers
import WifiSniffer.Transition.Labelled

/-!
# Numbers from texts

`nvs_set_num_from_string` parses a text in the type that it is given, or in a wider one,
and stores the number.  A number that is out of range is found by the range of the narrow
types and by `errno`, which parsers set and nothing clears: what a call does depends on
the calls before it.
-/

namespace WifiSniffer.Nvs

open WifiSniffer.Bytes WifiSniffer.Effect WifiSniffer.Transition

/-! ## The code -/

/-- `ESP_ERR_NVS_VALUE_TOO_LONG` -/
def valueTooLong : EspErr :=
  .other 0x110e

/-- `strtol`, with a `long` of 32 bits -/
def strtol (text : CString) : Int × Bool :=
  strtoSigned 32 text

/-- `strtoul` -/
def strtoul (text : CString) : Int × Bool :=
  strtoUnsigned 32 text

/-- `strtoll` -/
def strtoll (text : CString) : Int × Bool :=
  strtoSigned 64 text

/-- `strtoull` -/
def strtoull (text : CString) : Int × Bool :=
  strtoUnsigned 64 text

namespace NumType

/-- The parser in the branch of a type. -/
def parse (type : NumType) (text : CString) : Int × Bool :=
  match type with
  | .i8 | .i16 | .i32 => strtol text
  | .u8 | .u16 | .u32 => strtoul text
  | .i64 => strtoll text
  | .u64 => strtoull text

/-- A branch stores nothing.  The wide types go by `errno` alone. -/
def rejects (type : NumType) (value : Int) (erange : Bool) : Bool :=
  match type with
  | .i8 | .u8 | .i16 | .u16 => ¬ type.InRange value || erange
  | .i32 | .u32 | .i64 | .u64 => erange

end NumType

/-- `nvs_set_num_from_string`, where `erange` says whether `errno` is `ERANGE`. -/
def nvsSetNumFromString (ns key : String) (type : NvsType) (strValue : CString)
    (erange : Bool) : NvsProgram (EspErr × Bool) := do
  let (err, nvs) ← ask (.open ns .readwrite)
  if err ≠ .ok then return (err, erange)
  else
    match type with
    | .num type => do
        let (value, overflow) := type.parse strValue
        let erange := erange || overflow
        if type.rejects value erange then do
          ask (.close nvs)
          return (valueTooLong, erange)
        else do
          let err ← ask (.setNum nvs key type value)
          let err ← if err = .ok then ask (.commit nvs) else pure err
          ask (.close nvs)
          return (err, erange)
    | .str | .blob | .any => return (.nvsTypeMismatch, erange)

/-! ## One call -/

/-- The arguments of a call -/
structure SetCall where
  ns : String
  key : String
  type : NvsType
  strValue : CString

def SetCall.program (call : SetCall) (erange : Bool) : NvsProgram (EspErr × Bool) :=
  nvsSetNumFromString call.ns call.key call.type call.strValue erange

section Run

variable {call : SetCall} {type : NumType} {store : Store} {erange : Bool}

/-- A number is stored, or answered as too long. -/
theorem SetCall.run_of_num (type_eq : call.type = .num type) :
    (call.program erange).run Store.handle store =
      if type.rejects (type.parse call.strValue).1 (erange || (type.parse call.strValue).2) then
        .ok ((valueTooLong, erange || (type.parse call.strValue).2), store.create call.ns)
      else
        .ok ((.ok, erange || (type.parse call.strValue).2),
          store.set call.ns call.key (.num type (type.parse call.strValue).1)) := by
  rw [program, type_eq]
  split
  case isTrue rejected => simp [nvsSetNumFromString, rejected]
  case isFalse accepted => simp [nvsSetNumFromString, accepted]

/-- The other types are refused. -/
theorem SetCall.run_of_not_num (other : ∀ type, call.type ≠ .num type) :
    (call.program erange).run Store.handle store =
      .ok ((.nvsTypeMismatch, erange), store.create call.ns) := by
  rw [program]
  cases type_eq : call.type with
  | num type => exact absurd type_eq (other type)
  | str | blob | any => simp [nvsSetNumFromString]

/-- A call returns. -/
theorem SetCall.run_isOk (call : SetCall) (erange : Bool) (store : Store) :
    ((call.program erange).run Store.handle store).isOk = true := by
  by_cases num : ∃ type, call.type = .num type
  · rcases num with ⟨type, type_eq⟩
    rw [run_of_num type_eq]
    split <;> rfl
  · rw [run_of_not_num fun type type_eq => num ⟨type, type_eq⟩]
    rfl

end Run

/-! ## What is parsed -/

namespace NumType

/-- The bits of the type that the parser of a branch returns. -/
def parsedBits : NumType → Nat
  | .i8 | .u8 | .i16 | .u16 | .i32 | .u32 => 32
  | .i64 | .u64 => 64

/-- A negative number that has a place in the unsigned type, once the parser has negated
its absolute value in the type that it returns. -/
def Wraps (type : NumType) (number : Int) : Prop :=
  type.signed = false ∧ -2 ^ type.parsedBits < number ∧ number < 0 ∧
    number + 2 ^ type.parsedBits ≤ type.max

instance (type : NumType) (number : Int) : Decidable (type.Wraps number) :=
  inferInstanceAs (Decidable (_ ∧ _))

variable {type : NumType} {strValue : CString} {number : Int} {erange : Bool}

/-- What is parsed from a number that is in range, which then sets no `errno`. -/
theorem parse_of_inRange (denotes : Denotes strValue.chars number)
    (inRange : type.InRange number) : type.parse strValue = (number, false) := by
  have scanned := scanInteger_of_denotes denotes
  cases type <;>
    simp only [InRange, min, max, signed, size, reduceIte, Bool.false_eq_true, parse, strtol,
      strtoul, strtoll, strtoull, strtoSigned, strtoUnsigned, scanned] at inRange ⊢ <;>
    grind

theorem rejects_eq_of_inRange (denotes : Denotes strValue.chars number)
    (inRange : type.InRange number) :
    type.rejects (type.parse strValue).1 (erange || (type.parse strValue).2) = erange := by
  rw [parse_of_inRange denotes inRange, Bool.or_false]
  cases type <;> simp [rejects, inRange]

/-- A number that is out of range is rejected, unless it wraps around. -/
theorem rejects_iff_of_not_inRange (denotes : Denotes strValue.chars number)
    (outside : ¬ type.InRange number) :
    type.rejects (type.parse strValue).1 (erange || (type.parse strValue).2) = true ↔
      erange = true ∨ ¬ type.Wraps number := by
  have scanned := scanInteger_of_denotes denotes
  cases type <;>
    simp only [rejects, InRange, min, max, signed, size, reduceIte, Bool.false_eq_true, parse,
      strtol, strtoul, strtoll, strtoull, strtoSigned, strtoUnsigned, scanned, Wraps,
      parsedBits] at outside ⊢ <;>
    grind

end NumType

/-! ## Sequences of calls -/

/-- The flash and whether `errno` is `ERANGE`. -/
structure SetState where
  store : Store
  erange : Bool

/-- One call after the other. -/
def setStep : Step SetState SetCall
  | state, call =>
      match (call.program state.erange).run Store.handle state.store with
      | .ok ((_, erange), store) => some ⟨store, erange⟩
      | .error _ => none

theorem setStep_isSome (state : SetState) (call : SetCall) :
    (setStep state call).isSome = true := by
  rcases Program.exists_of_isOk _ (call.run_isOk state.erange state.store) with
    ⟨result, store, ran⟩
  rw [setStep, ran]
  rfl

/-- The text is out of range for the parser. -/
def SetCall.overflows (call : SetCall) : Bool :=
  match call.type with
  | .num type => (type.parse call.strValue).2
  | .str | .blob | .any => false

theorem erange_of_setStep {state next : SetState} {call : SetCall}
    (taken : setStep state call = some next) :
    next.erange = (state.erange || call.overflows) := by
  rw [setStep] at taken
  cases type_eq : call.type with
  | num type =>
      rw [SetCall.run_of_num type_eq] at taken
      rw [SetCall.overflows, type_eq]
      by_cases rejected : type.rejects (type.parse call.strValue).1
          (state.erange || (type.parse call.strValue).2) = true
      · rw [if_pos rejected] at taken
        cases taken
        rfl
      · rw [if_neg rejected] at taken
        cases taken
        rfl
  | str | blob | any =>
      rw [SetCall.run_of_not_num (by simp [type_eq])] at taken
      cases taken
      rw [SetCall.overflows, type_eq, Bool.or_false]

/-- Whatever text has been out of range for its parser is remembered. -/
theorem erange_of_exec {state last : SetState} {calls : List SetCall}
    (run : exec setStep state calls = some last) :
    last.erange = (state.erange || calls.any SetCall.overflows) := by
  induction calls generalizing state with
  | nil =>
      cases run
      rw [List.any_nil, Bool.or_false]
  | cons call calls ih =>
      rcases exec_cons_eq_some_iff.mp run with ⟨next, taken, rest⟩
      rw [ih rest, erange_of_setStep taken, List.any_cons, Bool.or_assoc]

/-- The call returns such an error and leaves such a store. -/
def SetCall.Returns (call : SetCall) (state : SetState) (err : EspErr)
    (holds : Store → Prop) : Prop :=
  ∃ erange next, (call.program state.erange).run Store.handle state.store =
    .ok ((err, erange), next) ∧ holds next

/-- A number in range is stored, and another one is answered as too long with nothing
stored. -/
def StoresNumber (state : SetState) (call : SetCall) : Prop :=
  ∀ type number, call.type = .num type → Denotes call.strValue.chars number →
    (type.InRange number → call.Returns state .ok fun next =>
      next = state.store.set call.ns call.key (.num type number)) ∧
    (¬ type.InRange number → call.Returns state valueTooLong fun next =>
      ∀ ns key, next.get ns key = state.store.get ns key)

/-- A number in range comes while `errno` is not `ERANGE`, and one that wraps around
while it is. -/
def Undisturbed (state : SetState) (call : SetCall) : Prop :=
  ∀ type number, call.type = .num type → Denotes call.strValue.chars number →
    (type.InRange number → state.erange = false) ∧
    (type.Wraps number → state.erange = true)

section Calls

variable {state : SetState} {call : SetCall} {type : NumType} {number : Int}

/-- What wraps around is out of range. -/
theorem NumType.Wraps.not_inRange (wraps : type.Wraps number) : ¬ type.InRange number := by
  rcases wraps with ⟨unsigned, _, negative, _⟩
  rintro ⟨nonnegative, _⟩
  rw [min, unsigned] at nonnegative
  exact absurd nonnegative (Int.not_le.mpr negative)

/-- A number in range is stored unless `errno` has been left behind. -/
theorem returns_ok_iff (type_eq : call.type = .num type)
    (denotes : Denotes call.strValue.chars number) (inRange : type.InRange number) :
    (call.Returns state .ok fun next =>
        next = state.store.set call.ns call.key (.num type number)) ↔ state.erange = false := by
  rw [SetCall.Returns, SetCall.run_of_num type_eq, NumType.rejects_eq_of_inRange denotes inRange,
    NumType.parse_of_inRange denotes inRange]
  cases state.erange with
  | false => simp
  | true => simp [valueTooLong]

/-- A number out of range is answered as such unless it wraps around, and then only if
`errno` has been left behind. -/
theorem returns_valueTooLong_iff (type_eq : call.type = .num type)
    (denotes : Denotes call.strValue.chars number) (outside : ¬ type.InRange number) :
    (call.Returns state valueTooLong fun next =>
        ∀ ns key, next.get ns key = state.store.get ns key) ↔
      (type.Wraps number → state.erange = true) := by
  have rejects_iff : type.rejects (type.parse call.strValue).1
      (state.erange || (type.parse call.strValue).2) = true ↔
        state.erange = true ∨ ¬ type.Wraps number :=
    NumType.rejects_iff_of_not_inRange denotes outside
  rw [SetCall.Returns, SetCall.run_of_num type_eq]
  by_cases rejected : type.rejects (type.parse call.strValue).1
      (state.erange || (type.parse call.strValue).2) = true
  · rw [if_pos rejected]
    refine iff_of_true ⟨_, _, rfl, fun ns key => Store.get_create _ _ _ _⟩ ?_
    intro wraps
    exact (rejects_iff.mp rejected).resolve_right (not_not_intro wraps)
  · rw [if_neg rejected]
    refine iff_of_false ?_ ?_
    · rintro ⟨_, _, ran, _⟩
      cases ran
    · intro disturbed
      apply rejected
      rw [rejects_iff]
      by_cases wraps : type.Wraps number
      · exact .inl (disturbed wraps)
      · exact .inr wraps

/-- The exact condition of one call. -/
theorem storesNumber_iff_undisturbed (state : SetState) (call : SetCall) :
    StoresNumber state call ↔ Undisturbed state call := by
  apply forall_congr'
  intro type
  apply forall_congr'
  intro number
  apply forall_congr'
  intro type_eq
  apply forall_congr'
  intro denotes
  by_cases inRange : type.InRange number
  · rw [forall_prop_of_true inRange, forall_prop_of_false (not_not_intro inRange),
      returns_ok_iff type_eq denotes inRange, forall_prop_of_true inRange]
    exact and_congr_right fun _ => ⟨fun _ wraps => absurd inRange wraps.not_inRange,
      fun _ => trivial⟩
  · rw [forall_prop_of_false inRange, forall_prop_of_true inRange,
      returns_valueTooLong_iff type_eq denotes inRange, forall_prop_of_false inRange]

end Calls

/-- In a sequence of calls each one stores the number that is written, or answers that it
is too long, exactly if no number in range follows one that has set `errno`, and none that
wraps around comes before. -/
theorem eachStep_storesNumber_iff (state : SetState) (calls : List SetCall) :
    EachStep setStep (fun source call _ => StoresNumber source call) state calls ↔
      EachStep setStep (fun source call _ => Undisturbed source call) state calls := by
  have each_iff (source : SetState) (call : SetCall) := storesNumber_iff_undisturbed source call
  constructor
  · exact fun each => each.mono fun source call _ _ => (each_iff source call).mp
  · exact fun each => each.mono fun source call _ _ => (each_iff source call).mpr

/-- A negative number that would be stored as 1. -/
example : NumType.Wraps .u8 (-4294967295) := by decide

/-- After a number that is out of range, 1 is too long. -/
theorem not_eachStep_storesNumber :
    ¬ EachStep setStep (fun source call _ => StoresNumber source call) ⟨Store.empty, false⟩
      [⟨"ns", "first", .num .i32, .ofString "9999999999"⟩,
        ⟨"ns", "second", .num .i32, .ofString "1"⟩] := by
  intro each
  have taken : setStep ⟨Store.empty, false⟩
      ⟨"ns", "first", .num .i32, .ofString "9999999999"⟩ =
        some ⟨Store.empty.create "ns", true⟩ := by
    rw [setStep, SetCall.run_of_num rfl, if_pos (by decide +kernel)]
    rfl
  have rest := (eachStep_cons_iff.mp each _ taken).2
  have stores := (eachStep_cons_iff.mp rest _
    (Option.eq_some_of_isSome (setStep_isSome _ _))).1
  have denotes : Denotes (CString.ofString "1").chars (1 : Nat) :=
    .plain (.decimal (by decide) ⟨by decide, [1], by decide, by decide⟩)
  have inRange : NumType.InRange .i32 (1 : Nat) := by decide
  exact absurd ((returns_ok_iff rfl denotes inRange).mp ((stores _ _ rfl denotes).1 inRange))
    (by decide)

end WifiSniffer.Nvs
