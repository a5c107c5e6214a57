import Mathlib.Data.Option.Basic
import Mathlib.Data.List.Basic

/-!
# Runs of labelled partial transitions

A system offers, in each state, a partial response to every event.  A run is a
list of events executed in order; it fails as soon as one event is not enabled.
`EachStep` states a property of every individual step of a run, so that both
assumptions about an environment and step-by-step guarantees are predicates on
the same runs.
-/

namespace WifiSniffer.Transition

universe u v w

/-- A partial transition function with labels. -/
abbrev Step (σ : Type u) (ε : Type v) :=
  σ → ε → Option σ

variable {σ : Type u} {ε : Type v}

/-- Execute a list of events, failing at the first one that is not enabled. -/
def exec (step : Step σ ε) : σ → List ε → Option σ
  | state, [] => some state
  | state, event :: events => (step state event).bind fun next => exec step next events

@[simp]
theorem exec_nil (step : Step σ ε) (state : σ) : exec step state [] = some state :=
  rfl

theorem exec_cons (step : Step σ ε) (state : σ) (event : ε) (events : List ε) :
    exec step state (event :: events) =
      (step state event).bind fun next => exec step next events :=
  rfl

theorem exec_cons_eq_some_iff {step : Step σ ε} {state last : σ} {event : ε}
    {events : List ε} :
    exec step state (event :: events) = some last ↔
      ∃ next, step state event = some next ∧ exec step next events = some last := by
  rw [exec_cons, Option.bind_eq_some_iff]

@[simp]
theorem exec_singleton (step : Step σ ε) (state : σ) (event : ε) :
    exec step state [event] = step state event := by
  simp [exec_cons]

/-- Runs split at any point of their event list. -/
theorem exec_append (step : Step σ ε) (state : σ) (first second : List ε) :
    exec step state (first ++ second) =
      (exec step state first).bind fun middle => exec step middle second := by
  induction first generalizing state with
  | nil => rfl
  | cons event events ih =>
      rw [List.cons_append, exec_cons, exec_cons, Option.bind_assoc]
      simp only [ih]

/-- Every step the run actually takes satisfies the property; whatever follows
an event that is not enabled is not taken. -/
def EachStep (step : Step σ ε) (property : σ → ε → σ → Prop) : σ → List ε → Prop
  | _, [] => True
  | state, event :: events =>
      match step state event with
      | none => True
      | some next => property state event next ∧ EachStep step property next events

section EachStep

variable {step : Step σ ε} {property other : σ → ε → σ → Prop}

@[simp]
theorem eachStep_nil (state : σ) : EachStep step property state [] :=
  trivial

theorem eachStep_cons_iff {state : σ} {event : ε} {events : List ε} :
    EachStep step property state (event :: events) ↔
      ∀ next, step state event = some next →
        property state event next ∧ EachStep step property next events := by
  rw [EachStep]
  cases step state event <;> simp

/-- Properties of every step can be tested by executing the run. -/
instance decidableEachStep [∀ source event target, Decidable (property source event target)] :
    (state : σ) → (events : List ε) → Decidable (EachStep step property state events)
  | _, [] => .isTrue trivial
  | state, event :: events =>
      match taken : step state event with
      | none => .isTrue (by simp [EachStep, taken])
      | some next =>
          letI := decidableEachStep next events
          decidable_of_iff (property state event next ∧ EachStep step property next events)
            (by simp [EachStep, taken])

/-- An invariant that holds at the start and is kept by every step satisfying
the property holds at the end of every run of such steps. -/
theorem exec_invariant {invariant : σ → Prop} {state last : σ} {events : List ε}
    (initial : invariant state)
    (preserved : ∀ source event target, invariant source →
      property source event target → step source event = some target →
      invariant target)
    (each : EachStep step property state events)
    (run : exec step state events = some last) : invariant last := by
  induction events generalizing state with
  | nil =>
      cases run
      exact initial
  | cons event events ih =>
      rcases exec_cons_eq_some_iff.mp run with ⟨next, taken, rest⟩
      rcases eachStep_cons_iff.mp each next taken with ⟨holds, later⟩
      exact ih (preserved state event next initial holds taken) later rest

/-- Exchange one property of the steps of a run for another, with the help of an
invariant of the states in between. -/
theorem EachStep.of_invariant {invariant : σ → Prop} {state : σ} {events : List ε}
    (initial : invariant state)
    (exchange : ∀ source event target, invariant source →
      property source event target → step source event = some target →
      other source event target ∧ invariant target)
    (each : EachStep step property state events) :
    EachStep step other state events := by
  induction events generalizing state with
  | nil => trivial
  | cons event events ih =>
      rw [eachStep_cons_iff] at each ⊢
      intro next taken
      rcases each next taken with ⟨holds, later⟩
      rcases exchange state event next initial holds taken with ⟨holds', initial'⟩
      exact ⟨holds', ih initial' later⟩

/-- What the property of a step implies holds of every step as well. -/
theorem EachStep.mono {state : σ} {events : List ε}
    (each : EachStep step property state events)
    (imp : ∀ source event target, step source event = some target →
      property source event target → other source event target) :
    EachStep step other state events := by
  have unconditional : ∀ source event target, (fun _ : σ => True) source →
      property source event target → step source event = some target →
      other source event target ∧ (fun _ : σ => True) target :=
    fun source event target _ holds taken => ⟨imp source event target taken holds, trivial⟩
  exact EachStep.of_invariant trivial unconditional each

/-- Two properties that an invariant makes equivalent hold of the same runs. -/
theorem eachStep_iff_of_invariant {invariant : σ → Prop} {state : σ} {events : List ε}
    (initial : invariant state)
    (exchange : ∀ source event target, invariant source → step source event = some target →
      (property source event target ↔ other source event target) ∧ invariant target) :
    EachStep step property state events ↔ EachStep step other state events := by
  constructor
  · apply EachStep.of_invariant initial
    intro source event target holds property taken
    rcases exchange source event target holds taken with ⟨iff, kept⟩
    exact ⟨iff.mp property, kept⟩
  · apply EachStep.of_invariant initial
    intro source event target holds other taken
    rcases exchange source event target holds taken with ⟨iff, kept⟩
    exact ⟨iff.mpr other, kept⟩

/-- What holds of every step of a run holds of every step of its second part. -/
theorem EachStep.of_append {state middle : σ} {first second : List ε}
    (each : EachStep step property state (first ++ second))
    (run : exec step state first = some middle) : EachStep step property middle second := by
  induction first generalizing state with
  | nil =>
      cases run
      exact each
  | cons event events ih =>
      rcases exec_cons_eq_some_iff.mp run with ⟨next, taken, rest⟩
      exact ih (eachStep_cons_iff.mp each next taken).2 rest

/-- Two properties of every step combine into one. -/
theorem EachStep.and {state : σ} {events : List ε}
    (first : EachStep step property state events)
    (second : EachStep step other state events) :
    EachStep step (fun source event target =>
      property source event target ∧ other source event target) state events := by
  induction events generalizing state with
  | nil => trivial
  | cons event events ih =>
      rw [eachStep_cons_iff] at first second ⊢
      intro next taken
      exact ⟨⟨(first next taken).1, (second next taken).1⟩,
        ih (first next taken).2 (second next taken).2⟩

/-- The unconditional property holds of every run, so plain invariants are a
special case of guarded ones. -/
theorem eachStep_true (state : σ) (events : List ε) :
    EachStep step (fun _ _ _ => True) state events := by
  induction events generalizing state with
  | nil => trivial
  | cons event events ih =>
      rw [eachStep_cons_iff]
      exact fun next _ => ⟨trivial, ih next⟩

/-- What holds of every event of a list holds at every step of its run. -/
theorem eachStep_of_forall_mem {holds : ε → Prop} {state : σ} {events : List ε}
    (each : ∀ event ∈ events, holds event) :
    EachStep step (fun _ event _ => holds event) state events := by
  induction events generalizing state with
  | nil => trivial
  | cons event events ih =>
      rw [eachStep_cons_iff]
      intro next _
      exact ⟨each event List.mem_cons_self,
        ih fun later member => each later (List.mem_cons_of_mem event member)⟩

end EachStep

/-! ## Output along a run -/

section Collect

universe x

variable {step : Step σ ε} {ω : Type x} {output : σ → ε → List ω}

/-- What the steps of a run emit, in order.  The steps after an event that is not
enabled are not taken and emit nothing. -/
def collect (step : Step σ ε) (output : σ → ε → List ω) : σ → List ε → List ω
  | _, [] => []
  | state, event :: events =>
      match step state event with
      | none => []
      | some next => output state event ++ collect step output next events

@[simp]
theorem collect_nil (state : σ) : collect step output state [] = [] :=
  rfl

theorem collect_cons_of_taken {state next : σ} {event : ε} (events : List ε)
    (taken : step state event = some next) :
    collect step output state (event :: events) =
      output state event ++ collect step output next events := by
  rw [collect, taken]

/-- The output of a run splits where the run does. -/
theorem collect_append {state middle : σ} {first : List ε} (second : List ε)
    (run : exec step state first = some middle) :
    collect step output state (first ++ second) =
      collect step output state first ++ collect step output middle second := by
  induction first generalizing state with
  | nil =>
      cases run
      rfl
  | cons event events ih =>
      rcases exec_cons_eq_some_iff.mp run with ⟨next, taken, rest⟩
      rw [List.cons_append, collect_cons_of_taken _ taken, collect_cons_of_taken _ taken,
        ih rest, List.append_assoc]

/-- What a run emits is emitted by one of its events. -/
theorem exists_of_mem_collect {item : ω} {state : σ} {events : List ε}
    (member : item ∈ collect step output state events) :
    ∃ source, ∃ event ∈ events, item ∈ output source event := by
  induction events generalizing state with
  | nil => cases member
  | cons event events ih =>
      cases taken : step state event with
      | none =>
          rw [collect, taken] at member
          cases member
      | some next =>
          rw [collect_cons_of_taken events taken, List.mem_append] at member
          rcases member with here | later
          · exact ⟨state, event, List.mem_cons_self, here⟩
          · rcases ih later with ⟨source, other, known, emits⟩
            exact ⟨source, other, List.mem_cons_of_mem event known, emits⟩

/-- An invariant that relates the state to everything emitted so far. -/
theorem exec_collect_invariant {invariant : List ω → σ → Prop}
    {property : σ → ε → σ → Prop} {emitted : List ω} {state last : σ} {events : List ε}
    (initial : invariant emitted state)
    (preserved : ∀ emitted source event target, invariant emitted source →
      property source event target → step source event = some target →
      invariant (emitted ++ output source event) target)
    (each : EachStep step property state events)
    (run : exec step state events = some last) :
    invariant (emitted ++ collect step output state events) last := by
  induction events generalizing emitted state with
  | nil =>
      cases run
      simpa using initial
  | cons event events ih =>
      rcases exec_cons_eq_some_iff.mp run with ⟨next, taken, rest⟩
      rcases eachStep_cons_iff.mp each next taken with ⟨holds, later⟩
      have reached := preserved emitted state event next initial holds taken
      rw [collect_cons_of_taken events taken, ← List.append_assoc]
      exact ih reached later rest

section Good

variable {good : List ω → Prop} {invariant : List ω → σ → Prop} {property : σ → ε → σ → Prop}

theorem append_collect_iff_eachStep (closed : ∀ front back, good (front ++ back) → good front)
    (kept : ∀ emitted source event target, invariant emitted source →
      step source event = some target → invariant (emitted ++ output source event) target)
    (exact : ∀ emitted source event target, invariant emitted source → good emitted →
      step source event = some target →
      (good (emitted ++ output source event) ↔ property source event target))
    {emitted : List ω} {state : σ} (initial : invariant emitted state) (start : good emitted)
    (events : List ε) :
    good (emitted ++ collect step output state events) ↔ EachStep step property state events := by
  induction events generalizing emitted state with
  | nil => simpa using start
  | cons event events ih =>
      rw [collect, EachStep]
      cases taken : step state event with
      | none => simpa using start
      | some next =>
          have here := exact emitted state event next initial start taken
          dsimp only
          rw [← List.append_assoc, ← here]
          constructor
          · intro all
            have first := closed _ _ all
            exact ⟨first, (ih (kept _ _ _ _ initial taken) first).mp all⟩
          · rintro ⟨first, later⟩
            exact (ih (kept _ _ _ _ initial taken) first).mpr later

/-- An output that can only be spoiled is good at the end of a run exactly if no step
spoils it. -/
theorem collect_iff_eachStep (closed : ∀ front back, good (front ++ back) → good front)
    (kept : ∀ emitted source event target, invariant emitted source →
      step source event = some target → invariant (emitted ++ output source event) target)
    (exact : ∀ emitted source event target, invariant emitted source → good emitted →
      step source event = some target →
      (good (emitted ++ output source event) ↔ property source event target))
    {state : σ} (initial : invariant [] state) (start : good []) (events : List ε) :
    good (collect step output state events) ↔ EachStep step property state events :=
  append_collect_iff_eachStep closed kept exact initial start events

end Good

end Collect

/-! ## Forward simulation -/

section Simulation

universe u' v'

variable {σ' : Type u'} {ε' : Type v'}

/-- If every coarse step is matched by a finite run of the finer system between
related states, then so is every coarse run. -/
theorem exec_simulation {coarse : Step σ ε} {fine : Step σ' ε'} {embed : σ → σ'}
    (matched : ∀ source event target, coarse source event = some target →
      ∃ events, exec fine (embed source) events = some (embed target))
    {state last : σ} {events : List ε} (run : exec coarse state events = some last) :
    ∃ fineEvents, exec fine (embed state) fineEvents = some (embed last) := by
  induction events generalizing state with
  | nil =>
      cases run
      exact ⟨[], rfl⟩
  | cons event events ih =>
      rcases exec_cons_eq_some_iff.mp run with ⟨next, taken, rest⟩
      rcases matched state event next taken with ⟨front, frontRun⟩
      rcases ih rest with ⟨back, backRun⟩
      exact ⟨front ++ back, by rw [exec_append, frontRun]; exact backRun⟩

end Simulation

end WifiSniffer.Transition
