import WifiSniffer.Effect.Pool

/-!
# Programs that go by what is answered

What a program may ask and return as long as its calls are answered as they should be,
whatever else the answers are.  Such a program makes no other calls under any handler that
answers so, neither by itself nor among other threads.
-/

namespace WifiSniffer.Effect

namespace Program

variable {call : Type} {response : call → Type} {α β : Type}
  {admits : (question : call) → response question → Prop} {property : call → Prop}

/-- As long as the answers are admitted, each call has the property, and the value is as
stated. -/
def Asks (admits : (question : call) → response question → Prop) (property : call → Prop)
    (post : α → Prop) : Program call response α → Prop
  | .pure value => post value
  | .request question next =>
      property question ∧ ∀ answer, admits question answer → Asks admits property post (next answer)

section Asks

variable {program : Program call response α} {post weaker : α → Prop}

theorem asks_pure {value : α} (holds : post value) :
    Asks admits property post (Pure.pure value : Program call response α) :=
  holds

theorem asks_ask {question : call} (holds : property question) :
    Asks admits property (admits question)
      (ask question : Program call response (response question)) :=
  ⟨holds, fun _ admitted => admitted⟩

theorem Asks.bind {next : α → Program call response β} {postNext : β → Prop}
    (first : Asks admits property post program)
    (second : ∀ value, post value → Asks admits property postNext (next value)) :
    Asks admits property postNext (program >>= next) := by
  change Asks admits property postNext (program.bind next)
  induction program with
  | pure value => exact second value first
  | request question rest ih =>
      exact ⟨first.1, fun answer admitted => ih answer (first.2 answer admitted)⟩

theorem Asks.mono (asks : Asks admits property post program)
    (imp : ∀ value, post value → weaker value) : Asks admits property weaker program := by
  induction program with
  | pure value => exact imp value asks
  | request question next ih =>
      exact ⟨asks.1, fun answer admitted => ih answer (asks.2 answer admitted)⟩

theorem Asks.imp {property' : call → Prop} (asks : Asks admits property post program)
    (imp : ∀ question, property question → property' question) :
    Asks admits property' post program := by
  induction program with
  | pure value => exact asks
  | request question next ih =>
      exact ⟨imp question asks.1, fun answer admitted => ih answer (asks.2 answer admitted)⟩

/-- A call of which nothing needs to be known but its property. -/
theorem Asks.ask_bind {question : call} {next : response question → Program call response β}
    {postNext : β → Prop} (holds : property question)
    (second : ∀ answer, admits question answer → Asks admits property postNext (next answer)) :
    Asks admits property postNext (ask question >>= next) :=
  (asks_ask holds).bind second

end Asks

/-! ## Runs -/

section Run

variable {σ ε : Type} {handle : Handler call response σ ε} {program : Program call response α}
  {post : α → Prop}

/-- Under a handler that answers so, a program makes no other calls. -/
theorem Asks.eachRequest (asks : Asks admits property post program)
    (answers : ∀ question state answer next, handle question state = .ok (answer, next) →
      admits question answer) (state : σ) : EachRequest handle property program state := by
  induction program generalizing state with
  | pure value => trivial
  | request question next ih =>
      rw [EachRequest]
      refine ⟨asks.1, ?_⟩
      cases handled : handle question state with
      | error stop => trivial
      | ok result =>
          have admitted := answers question state result.1 result.2 handled
          exact ih result.1 (asks.2 result.1 admitted) result.2

/-- What all calls keep holds at the end of a program, and where it comes to a halt. -/
theorem EachRequest.ends {invariant : σ → Prop} {halted : ε → Prop} {state : σ}
    (each : EachRequest handle property program state)
    (keeps : ∀ question state answer next, property question → invariant state →
      handle question state = .ok (answer, next) → invariant next)
    (halts : ∀ question state stop, property question → invariant state →
      handle question state = .error stop → halted stop) (initial : invariant state) :
    match run handle program state with
    | .ok (_, last) => invariant last
    | .error stop => halted stop := by
  induction program generalizing state with
  | pure value => exact initial
  | request question next ih =>
      rw [EachRequest] at each
      rw [run]
      cases handled : handle question state with
      | error stop => exact halts question state stop each.1 initial handled
      | ok result =>
          rw [handled] at each
          exact ih result.1 each.2 (keeps question state _ _ each.1 initial handled)

end Run

/-! ## Threads -/

section Thread

variable {ι σ ε : Type} {contract : Contract ι σ} {thread : ι} {act : Action call response σ ε}
  {program : Program call response α} {post : α → Prop}

/-- A program is safe if its calls are, wherever they are made, and are answered so. -/
theorem Asks.safe {good : σ → Prop} (asks : Asks admits property post program)
    (stable : ∀ first second, good first → contract.rely thread first second → good second)
    (acts : ∀ question now result, good now → property question →
      act question now = some result → ∃ answer after, result = .ok (answer, after) ∧
        admits question answer ∧ contract.guarantee thread now after ∧ good after)
    {state : σ} (holds : good state) :
    Safe contract thread act (fun value last => post value ∧ good last) program state := by
  induction program generalizing state with
  | pure value => exact ⟨asks, holds⟩
  | request question next ih =>
      intro now relied
      have here := stable state now holds relied
      cases acted : act question now with
      | none => trivial
      | some result =>
          rcases acts question now result here asks.1 acted with
            ⟨answer, after, rfl, admitted, guaranteed, good⟩
          exact ⟨guaranteed, ih answer (asks.2 answer admitted) good⟩

end Thread

end Program

end WifiSniffer.Effect
