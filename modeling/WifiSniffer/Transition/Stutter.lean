import WifiSniffer.Transition.Labelled

/-!
# Runs along one path

A partial function that emits lists lays out one path from every state.  The steps of a
run may follow it, at their own pace, with steps in between that change nothing and emit
nothing.  However two runs from one state are paced, one of them has come at least as far
as the other, on the same path and with the same output up to there.
-/

namespace WifiSniffer.Transition

universe u v w

variable {σ : Type u} {ε : Type v} {ω : Type w}

/-- The path from a state to another, with all that is emitted on it. -/
inductive Leads (advance : σ → Option (List ω × σ)) : σ → List ω → σ → Prop where
  | refl (state : σ) : Leads advance state [] state
  | step {state next last : σ} {emitted later : List ω}
      (taken : advance state = some (emitted, next)) (rest : Leads advance next later last) :
      Leads advance state (emitted ++ later) last

namespace Leads

variable {advance other : σ → Option (List ω × σ)} {state first second last : σ}
  {emitted later : List ω}

theorem trans (front : Leads advance state emitted first)
    (back : Leads advance first later last) :
    Leads advance state (emitted ++ later) last := by
  induction front with
  | refl => exact back
  | step taken _ ih =>
      rw [List.append_assoc]
      exact .step taken (ih back)

/-- Of two stretches of the path from one state, one continues the other. -/
theorem comparable (front : Leads advance state emitted first)
    (back : Leads advance state later second) :
    (∃ more, later = emitted ++ more ∧ Leads advance first more second) ∨
      ∃ more, emitted = later ++ more ∧ Leads advance second more first := by
  induction front generalizing later with
  | refl state => exact .inl ⟨later, rfl, back⟩
  | @step state next first emitted rest taken tail ih =>
      cases back with
      | refl => exact .inr ⟨emitted ++ rest, rfl, .step taken tail⟩
      | @step _ next' _ emitted' rest' taken' tail' =>
          rw [taken] at taken'
          cases taken'
          rcases ih tail' with ⟨more, rfl, leads⟩ | ⟨more, rfl, leads⟩
          · exact .inl ⟨more, (List.append_assoc _ _ _).symm, leads⟩
          · exact .inr ⟨more, (List.append_assoc _ _ _).symm, leads⟩

/-- What every advance keeps holds along the path. -/
theorem invariant (leads : Leads advance state emitted last) (holds : σ → Prop)
    (kept : ∀ source out target, holds source → advance source = some (out, target) →
      holds target)
    (initial : holds state) : holds last := by
  induction leads with
  | refl => exact initial
  | step taken _ ih => exact ih (kept _ _ _ initial taken)

/-- Two functions that agree on an invariant lay out the same path. -/
theorem congr (leads : Leads advance state emitted last) (holds : σ → Prop)
    (agree : ∀ source, holds source → advance source = other source)
    (kept : ∀ source out target, holds source → advance source = some (out, target) →
      holds target)
    (initial : holds state) : Leads other state emitted last := by
  induction leads with
  | refl state => exact .refl state
  | step taken _ ih =>
      have taken' := taken
      rw [agree _ initial] at taken'
      exact .step taken' (ih (kept _ _ _ initial taken))

end Leads

/-! ## Runs -/

section Runs

variable {step : Step σ ε} {output : σ → ε → List ω} {advance : σ → Option (List ω × σ)}

/-- A step that follows the path, or that changes nothing and emits nothing. -/
def Follows (output : σ → ε → List ω) (advance : σ → Option (List ω × σ)) (source : σ)
    (event : ε) (target : σ) : Prop :=
  advance source = some (output source event, target) ∨
    (target = source ∧ output source event = [])

/-- A run of such steps is a stretch of the path. -/
theorem leads_of_run {state last : σ} {events : List ε}
    (follows : EachStep step (Follows output advance) state events)
    (run : exec step state events = some last) :
    Leads advance state (collect step output state events) last := by
  induction events generalizing state with
  | nil =>
      cases run
      exact .refl _
  | cons event events ih =>
      rcases exec_cons_eq_some_iff.mp run with ⟨next, taken, rest⟩
      rcases eachStep_cons_iff.mp follows next taken with ⟨here, later⟩
      rw [collect_cons_of_taken events taken]
      rcases here with advanced | ⟨rfl, silent⟩
      · exact .step advanced (ih later rest)
      · rw [silent, List.nil_append]
        exact ih later rest

end Runs

end WifiSniffer.Transition
