import WifiSniffer.Effect.Rules

/-!
# Interrupted programs

A handler under which some calls run out: each of them uses up one unit of credit, and
without credit a fault takes the place of what the call would do.  A program that makes
no such calls runs as ever.
-/

namespace WifiSniffer.Effect

namespace Program

variable {call : Type} {response : call → Type} {α β : Type} {σ ε ε' : Type}

/-- What is done to a state, done next to a credit that stays. -/
def carry (stop : ε → ε') (credit : Nat) : Except ε (α × σ) → Except ε' (α × (σ × Nat))
  | .ok (value, state) => .ok (value, (state, credit))
  | .error halt => .error (stop halt)

section Limit

variable (critical : call → Bool)
  (fault : (question : call) → σ → Except ε' (response question × σ)) (stop : ε → ε')
  (handle : Handler call response σ ε)

/-- Critical calls are answered as long as there is credit. -/
def limit : Handler call response (σ × Nat) ε'
  | question, (state, credit) =>
      if critical question then
        match credit with
        | 0 => carry id 0 (fault question state)
        | credit + 1 => carry stop credit (handle question state)
      else carry stop credit (handle question state)

variable {critical fault stop handle} {question : call} {state : σ} {credit : Nat}

theorem limit_of_not (harmless : critical question = false) :
    limit critical fault stop handle question (state, credit) =
      carry stop credit (handle question state) :=
  if_neg (by simp [harmless])

theorem limit_zero (isCritical : critical question = true) :
    limit critical fault stop handle question (state, 0) = carry id 0 (fault question state) :=
  if_pos isCritical

theorem limit_succ (isCritical : critical question = true) :
    limit critical fault stop handle question (state, credit + 1) =
      carry stop credit (handle question state) :=
  if_pos isCritical

/-- Without critical calls a program runs as ever. -/
theorem run_limit_of_calls {program : Program call response α}
    (calls : Calls (fun question => critical question = false) program) :
    run (limit critical fault stop handle) program (state, credit) =
      carry stop credit (run handle program state) := by
  induction program generalizing state with
  | pure value => rfl
  | request question next ih =>
      rw [run, run, limit_of_not calls.1]
      cases handle question state with
      | error halt => rfl
      | ok result => exact ih result.1 (calls.2 result.1)

end Limit

end Program

end WifiSniffer.Effect
