import WifiSniffer.Effect.Program

/-!
# Rules for programs over calls

Postconditions of programs, for runs that end and as a promise that a run ends; the
frame rule, by which a program keeps what all its calls keep; and programs over one
kind of calls as programs over another kind.
-/

namespace WifiSniffer.Effect

namespace Program

variable {call : Type} {response : call → Type} {α β : Type}

/-! ## Postconditions -/

section Post

variable {σ ε : Type} {handle : Handler call response σ ε}

/-- A run that ends satisfies the postcondition. -/
def Guarantees (handle : Handler call response σ ε) (program : Program call response α)
    (state : σ) (post : α → σ → Prop) : Prop :=
  ∀ value last, run handle program state = .ok (value, last) → post value last

/-- The run ends, and satisfies the postcondition. -/
def Achieves (handle : Handler call response σ ε) (program : Program call response α)
    (state : σ) (post : α → σ → Prop) : Prop :=
  ∃ value last, run handle program state = .ok (value, last) ∧ post value last

variable {program : Program call response α} {next : α → Program call response β} {state : σ}
  {post weaker : α → σ → Prop} {postNext : β → σ → Prop}

theorem Guarantees.mono (holds : Guarantees handle program state post)
    (imp : ∀ value last, post value last → weaker value last) :
    Guarantees handle program state weaker :=
  fun value last ran => imp value last (holds value last ran)

theorem guarantees_pure {value : α} (holds : post value state) :
    Guarantees handle (Pure.pure value) state post := by
  intro value last ran
  cases ran
  exact holds

/-- A first part of which nothing needs to be known. -/
theorem Guarantees.bind_of_forall
    (holds : ∀ value middle, Guarantees handle (next value) middle postNext) :
    Guarantees handle (program >>= next) state postNext := by
  intro value last ran
  rcases (run_bind_eq_ok_iff handle).mp ran with ⟨first, middle, _, ranNext⟩
  exact holds first middle value last ranNext

/-- The rule of sequence. -/
theorem Guarantees.bind {middle : α → σ → Prop}
    (first : Guarantees handle program state middle)
    (second : ∀ value last, middle value last → Guarantees handle (next value) last postNext) :
    Guarantees handle (program >>= next) state postNext := by
  intro value last ran
  rcases (run_bind_eq_ok_iff handle).mp ran with ⟨inner, between, ranFirst, ranNext⟩
  exact second inner between (first inner between ranFirst) value last ranNext

/-- A first part whose run is known. -/
theorem Guarantees.bind_of_ok {middle : σ} {value : α}
    (ran : run handle program state = .ok (value, middle))
    (holds : Guarantees handle (next value) middle postNext) :
    Guarantees handle (program >>= next) state postNext := by
  intro last after ranBoth
  rw [run_bind_of_ok handle ran] at ranBoth
  exact holds last after ranBoth

theorem Achieves.bind_of_ok {middle : σ} {value : α}
    (ran : run handle program state = .ok (value, middle))
    (achieves : Achieves handle (next value) middle postNext) :
    Achieves handle (program >>= next) state postNext := by
  rcases achieves with ⟨last, after, ranNext, reached⟩
  exact ⟨last, after, (run_bind_of_ok handle ran).trans ranNext, reached⟩

theorem Achieves.bind {middle : α → σ → Prop} (first : Achieves handle program state middle)
    (second : ∀ value last, middle value last → Achieves handle (next value) last postNext) :
    Achieves handle (program >>= next) state postNext := by
  rcases first with ⟨value, last, ran, reached⟩
  exact (second value last reached).bind_of_ok ran

/-- A run that ends satisfies what all runs that end satisfy. -/
theorem Achieves.of_guarantees (achieves : Achieves handle program state post)
    (guarantees : Guarantees handle program state weaker) :
    Achieves handle program state weaker := by
  rcases achieves with ⟨value, last, ran, _⟩
  exact ⟨value, last, ran, guarantees value last ran⟩

/-- The program ends wherever it is started. -/
def Completes (handle : Handler call response σ ε) (program : Program call response α) : Prop :=
  ∀ state, Achieves handle program state fun _ _ => True

theorem completes_pure (value : α) :
    Completes handle (Pure.pure value : Program call response α) :=
  fun state => ⟨value, state, rfl, trivial⟩

theorem Completes.bind (first : Completes handle program)
    (second : ∀ value, Completes handle (next value)) :
    Completes handle (program >>= next) := by
  intro state
  rcases first state with ⟨value, middle, ran, _⟩
  exact (second value middle).bind_of_ok ran

end Post

/-! ## Frames -/

/-- Every call that a program may make, whatever the responses are. -/
def Calls (property : call → Prop) : Program call response α → Prop
  | .pure _ => True
  | .request question next => property question ∧ ∀ answer, Calls property (next answer)

section Calls

variable {property : call → Prop}

@[simp]
theorem calls_pure (value : α) :
    Calls property (Pure.pure value : Program call response α) :=
  trivial

theorem calls_ask {question : call} (holds : property question) :
    Calls property (ask question : Program call response (response question)) :=
  ⟨holds, fun _ => trivial⟩

theorem calls_of_forall {program : Program call response α}
    (holds : ∀ question, property question) : Calls property program := by
  induction program with
  | pure value => trivial
  | request question next ih => exact ⟨holds question, ih⟩

/-- What a call may be is implied by what it is. -/
theorem Calls.mono {weaker : call → Prop} {program : Program call response α}
    (calls : Calls property program) (imp : ∀ question, property question → weaker question) :
    Calls weaker program := by
  induction program with
  | pure value => trivial
  | request question rest ih =>
      exact ⟨imp question calls.1, fun answer => ih answer (calls.2 answer)⟩

theorem Calls.bind {program : Program call response α} {next : α → Program call response β}
    (first : Calls property program) (second : ∀ value, Calls property (next value)) :
    Calls property (program >>= next) := by
  change Calls property (program.bind next)
  induction program with
  | pure value => exact second value
  | request question rest ih => exact ⟨first.1, fun answer => ih answer (first.2 answer)⟩

/-- Two ways to a value, and one way on. -/
theorem Calls.ite_bind {condition : Prop} [Decidable condition]
    {first second : Program call response α} {next : α → Program call response β}
    (ifTrue : Calls property first) (ifFalse : Calls property second)
    (rest : ∀ value, Calls property (next value)) :
    Calls property (if condition then first >>= next else second >>= next) := by
  split
  · exact ifTrue.bind rest
  · exact ifFalse.bind rest

variable {σ ε : Type} {handle : Handler call response σ ε}

/-- What holds of every call that may be made holds of those that are made. -/
theorem Calls.eachRequest {program : Program call response α} {state : σ}
    (calls : Calls property program) : EachRequest handle property program state := by
  induction program generalizing state with
  | pure value => trivial
  | request question rest ih =>
      rw [EachRequest]
      refine ⟨calls.1, ?_⟩
      split
      · exact ih _ (calls.2 _)
      · trivial

/-- The frame rule: what every call of a program keeps holds at the end. -/
theorem Calls.guarantees {program : Program call response α} {state : σ}
    (calls : Calls property program) (invariant : σ → Prop)
    (keeps : ∀ question source answer target, property question → invariant source →
      handle question source = .ok (answer, target) → invariant target)
    (initial : invariant state) :
    Guarantees handle program state fun _ last => invariant last := by
  induction program generalizing state with
  | pure value =>
      intro _ _ ran
      cases ran
      exact initial
  | request question rest ih =>
      intro value last ran
      rw [run] at ran
      cases handled : handle question state with
      | error stop =>
          rw [handled] at ran
          cases ran
      | ok result =>
          rw [handled] at ran
          exact ih result.1 (calls.2 result.1)
            (keeps question state result.1 result.2 calls.1 initial handled) value last ran

end Calls

/-! ## Programs over other calls -/

/-- A part of a state that can be exchanged. -/
structure Part (σ' σ : Type) where
  get : σ' → σ
  set : σ' → σ → σ'
  get_set : ∀ state inner, get (set state inner) = inner
  set_set : ∀ state inner inner', set (set state inner) inner' = set state inner'
  set_get : ∀ state, set state (get state) = state

/-- What has been done to a part, done to the whole. -/
def Part.lift {σ' σ ε : Type} (part : Part σ' σ) (state : σ') :
    Except ε (α × σ) → Except ε (α × σ')
  | .ok (value, inner) => .ok (value, part.set state inner)
  | .error stop => .error stop

section Translate

variable {call' : Type} {response' : call' → Type}

/-- Every call is replaced by a program over other calls. -/
def translate (each : (question : call) → Program call' response' (response question)) :
    Program call response α → Program call' response' α
  | .pure value => .pure value
  | .request question next => each question >>= fun answer => translate each (next answer)

variable {each : (question : call) → Program call' response' (response question)}

theorem translate_bind (program : Program call response α) (next : α → Program call response β) :
    (program >>= next).translate each =
      (program.translate each >>= fun value => (next value).translate each) := by
  change (program.bind next).translate each = _
  induction program with
  | pure value => rfl
  | request question rest ih =>
      rw [bind, translate, translate, bind_assoc]
      exact congrArg (each question >>= ·) (funext ih)

theorem Calls.translate {property : call → Prop} {property' : call' → Prop}
    {program : Program call response α} (calls : Calls property program)
    (calls' : ∀ question, property question → Calls property' (each question)) :
    Calls property' (program.translate each) := by
  induction program with
  | pure value => trivial
  | request question next ih =>
      exact (calls' question calls.1).bind fun answer => ih answer (calls.2 answer)

/-- Where each translated call acts on a part of the state as the call does, so does
every program. -/
theorem run_translate {σ σ' ε : Type} {handle : Handler call response σ ε}
    {handle' : Handler call' response' σ' ε} (part : Part σ' σ)
    (acts : ∀ question state, run handle' (each question) state =
      part.lift state (handle question (part.get state)))
    (program : Program call response α) (state : σ') :
    run handle' (program.translate each) state =
      part.lift state (run handle program (part.get state)) := by
  induction program generalizing state with
  | pure value =>
      rw [translate, run, run, Part.lift, part.set_get]
  | request question next ih =>
      rw [translate, run_bind, acts, run]
      cases handle question (part.get state) with
      | error stop => rfl
      | ok result =>
          dsimp only [Part.lift]
          rw [ih, part.get_set]
          cases run handle (next result.1) result.2 with
          | error stop => rfl
          | ok last =>
              dsimp only [Part.lift]
              rw [part.set_set]

/-- The calls of a translated program are those of the program. -/
theorem eachRequest_translate_iff {σ σ' ε : Type} {handle : Handler call response σ ε}
    {handle' : Handler call' response' σ' ε} (part : Part σ' σ)
    (acts : ∀ question state, run handle' (each question) state =
      part.lift state (handle question (part.get state)))
    {property : call → Prop} {property' : call' → Prop}
    (asks : ∀ question state,
      EachRequest handle' property' (each question) state ↔ property question)
    (program : Program call response α) (state : σ') :
    EachRequest handle' property' (program.translate each) state ↔
      EachRequest handle property program (part.get state) := by
  induction program generalizing state with
  | pure value => exact Iff.rfl
  | request question next ih =>
      rw [translate, eachRequest_bind_iff, asks, acts, EachRequest]
      apply and_congr_right
      intro _
      cases handle question (part.get state) with
      | error stop => simp [Part.lift]
      | ok result =>
          constructor
          · intro each
            have rest := (ih _ _).mp (each _ _ rfl)
            rw [part.get_set] at rest
            exact rest
          · rintro each value middle lifted
            cases lifted
            rw [ih, part.get_set]
            exact each

end Translate

end Program

end WifiSniffer.Effect
