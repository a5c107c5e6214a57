import WifiSniffer.Transition.Labelled

/-!
# Runs of a relation

What a system does at an event may be left partly open.  A relation between states, events
and states then takes the place of a partial function, and a system refines it if each of
its steps is one that the relation allows.
-/

namespace WifiSniffer.Transition

universe u v w

variable {σ : Type u} {ε : Type v} {ν : Type w} {after : ν → ε → ν → Prop}

/-- A list of events is taken one after the other. -/
inductive Along (after : ν → ε → ν → Prop) : ν → List ε → ν → Prop where
  | nil (state : ν) : Along after state [] state
  | cons {first next last : ν} {event : ε} {events : List ε} (taken : after first event next)
      (rest : Along after next events last) : Along after first (event :: events) last

/-- What every step keeps holds at the end. -/
theorem Along.invariant {first last : ν} {events : List ε} (along : Along after first events last)
    {holds : ν → Prop}
    (keeps : ∀ source event target, after source event target → holds source → holds target)
    (initial : holds first) : holds last := by
  induction along with
  | nil state => exact initial
  | cons taken rest ih => exact ih (keeps _ _ _ taken initial)

/-- A system whose steps are allowed, with the help of an invariant, has runs that are
allowed. -/
theorem along_of_exec {step : Step σ ε} {view : σ → ν} {invariant : σ → Prop}
    (matched : ∀ source event target, invariant source → step source event = some target →
      after (view source) event (view target) ∧ invariant target)
    {state last : σ} {events : List ε} (initial : invariant state)
    (run : exec step state events = some last) :
    Along after (view state) events (view last) ∧ invariant last := by
  induction events generalizing state with
  | nil =>
      cases run
      exact ⟨.nil _, initial⟩
  | cons event events ih =>
      rcases exec_cons_eq_some_iff.mp run with ⟨next, taken, rest⟩
      rcases matched state event next initial taken with ⟨allowed, kept⟩
      rcases ih kept rest with ⟨along, holds⟩
      exact ⟨.cons allowed along, holds⟩

end WifiSniffer.Transition
