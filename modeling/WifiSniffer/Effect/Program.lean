import Mathlib.Data.Option.Basic

/-!
# Programs over calls

A program either has its value or makes a call to its surroundings and goes on with
the response, whose type depends on the call.  What a call does is left to a
handler, which may also halt the program.  `EachRequest` states a property of every
call that a run makes, of the one that halts it too.
-/

namespace WifiSniffer.Effect

/-- A program that makes calls and returns a value. -/
inductive Program (call : Type) (response : call → Type) (α : Type) where
  | pure (value : α)
  | request (question : call) (next : response question → Program call response α)

namespace Program

variable {call : Type} {response : call → Type} {α β γ : Type}

/-- Go on with the value of a program. -/
def bind : Program call response α → (α → Program call response β) →
    Program call response β
  | .pure value, next => next value
  | .request question rest, next =>
      .request question fun answer => bind (rest answer) next

instance : Monad (Program call response) where
  pure := .pure
  bind := bind

/-- Make one call. -/
def ask (question : call) : Program call response (response question) :=
  .request question .pure

theorem bind_assoc (program : Program call response α) (next : α → Program call response β)
    (last : β → Program call response γ) :
    ((program >>= next) >>= last) = (program >>= fun value => next value >>= last) := by
  change (program.bind next).bind last = program.bind fun value => (next value).bind last
  induction program with
  | pure value => rfl
  | request question rest ih =>
      rw [bind, bind, bind]
      exact congrArg (Program.request question) (funext ih)

/-! ## Runs -/

section Run

variable {σ ε : Type}

/-- What calls do to a state. -/
abbrev Handler (call : Type) (response : call → Type) (σ ε : Type) :=
  (question : call) → σ → Except ε (response question × σ)

variable (handle : Handler call response σ ε)

/-- Run a program, up to its value or up to the call that halts it. -/
def run : Program call response α → σ → Except ε (α × σ)
  | .pure value, state => .ok (value, state)
  | .request question next, state =>
      match handle question state with
      | .ok (answer, state) => run (next answer) state
      | .error stop => .error stop

@[simp]
theorem run_pure (value : α) (state : σ) :
    run handle (Pure.pure value : Program call response α) state = .ok (value, state) :=
  rfl

@[simp]
theorem run_ask (question : call) (state : σ) :
    run handle (ask question) state = handle question state := by
  rw [ask, run]
  split
  case h_1 answer next handled => exact handled.symm
  case h_2 stop handled => exact handled.symm

@[simp]
theorem run_bind (program : Program call response α) (next : α → Program call response β)
    (state : σ) :
    run handle (program >>= next) state =
      match run handle program state with
      | .ok (value, state) => run handle (next value) state
      | .error stop => .error stop := by
  change run handle (program.bind next) state = _
  induction program generalizing state with
  | pure value => rfl
  | request question rest ih =>
      rw [bind, run, run]
      cases handle question state with
      | ok result => exact ih result.1 result.2
      | error stop => rfl

theorem run_bind_of_ok {program : Program call response α}
    {next : α → Program call response β} {state middle : σ} {value : α}
    (ran : run handle program state = .ok (value, middle)) :
    run handle (program >>= next) state = run handle (next value) middle := by
  rw [run_bind, ran]

theorem run_bind_eq_ok_iff {program : Program call response α}
    {next : α → Program call response β} {state last : σ} {value : β} :
    run handle (program >>= next) state = .ok (value, last) ↔
      ∃ first middle, run handle program state = .ok (first, middle) ∧
        run handle (next first) middle = .ok (value, last) := by
  rw [run_bind]
  cases ran : run handle program state with
  | ok result =>
      constructor
      · intro ended
        exact ⟨result.1, result.2, rfl, ended⟩
      · rintro ⟨first, middle, result_eq, ended⟩
        cases result_eq
        exact ended
  | error stop => simp

/-- A run that can be seen to end has a value and a last state. -/
theorem exists_of_isOk {program : Program call response α} {state : σ}
    (ends : (run handle program state).isOk = true) :
    ∃ value last, run handle program state = .ok (value, last) := by
  cases ran : run handle program state with
  | ok result => exact ⟨result.1, result.2, rfl⟩
  | error stop =>
      rw [ran] at ends
      cases ends

/-- Every call that a run makes has the property. -/
def EachRequest (property : call → Prop) : Program call response α → σ → Prop
  | .pure _, _ => True
  | .request question next, state =>
      property question ∧
        match handle question state with
        | .ok (answer, state) => EachRequest property (next answer) state
        | .error _ => True

variable {handle} {property : call → Prop}

@[simp]
theorem eachRequest_pure (value : α) (state : σ) :
    EachRequest handle property (Pure.pure value : Program call response α) state :=
  trivial

@[simp]
theorem eachRequest_ask_iff (question : call) (state : σ) :
    EachRequest handle property (ask question) state ↔ property question := by
  rw [ask, EachRequest]
  cases handle question state <;> simp [EachRequest]

/-- The calls of a sequence are those of its first part and, from where that has led
to, those of its second. -/
theorem eachRequest_bind_iff {program : Program call response α}
    {next : α → Program call response β} {state : σ} :
    EachRequest handle property (program >>= next) state ↔
      EachRequest handle property program state ∧
        ∀ value middle, run handle program state = .ok (value, middle) →
          EachRequest handle property (next value) middle := by
  change EachRequest handle property (program.bind next) state ↔ _
  induction program generalizing state with
  | pure value => simp [bind, EachRequest, run]
  | request question rest ih =>
      rw [bind, EachRequest, EachRequest, run]
      cases handled : handle question state with
      | ok result =>
          dsimp only
          rw [ih result.1, and_assoc]
      | error stop => simp

/-- A first part whose run is known. -/
theorem eachRequest_bind_iff_of_ok {program : Program call response α}
    {next : α → Program call response β} {state middle : σ} {value : α}
    (ran : run handle program state = .ok (value, middle)) :
    EachRequest handle property (program >>= next) state ↔
      EachRequest handle property program state ∧
        EachRequest handle property (next value) middle := by
  rw [eachRequest_bind_iff, ran]
  simp

/-- A second part that always has the property adds nothing. -/
theorem eachRequest_bind_iff_left {program : Program call response α}
    {next : α → Program call response β} {state : σ}
    (always : ∀ value middle, EachRequest handle property (next value) middle) :
    EachRequest handle property (program >>= next) state ↔
      EachRequest handle property program state := by
  rw [eachRequest_bind_iff]
  exact and_iff_left fun value middle _ => always value middle

/-- A run that ends has made calls only that have been answered. -/
theorem eachRequest_of_run_eq_ok (answered : ∀ question state result,
      handle question state = .ok result → property question)
    {program : Program call response α} {state : σ} {result : α × σ}
    (ran : run handle program state = .ok result) :
    EachRequest handle property program state := by
  induction program generalizing state with
  | pure value => trivial
  | request question rest ih =>
      rw [run] at ran
      rw [EachRequest]
      cases handled : handle question state with
      | ok answer =>
          rw [handled] at ran
          exact ⟨answered question state answer handled, ih answer.1 ran⟩
      | error stop =>
          rw [handled] at ran
          cases ran

end Run

end Program

end WifiSniffer.Effect
