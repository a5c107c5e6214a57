import WifiSniffer.Effect.Answers
import Mathlib.Data.List.Infix

/-!
# Writes that may be cut short

Programs seen from what they leave in a memory that outlives them.  A program performs a
list of writes: all of them if it comes to its end, and if it comes to a halt or loses its
power on the way, the first few of them.
-/

namespace WifiSniffer.Effect

universe u

/-! ## Lists of writes -/

section Writes

variable {ν : Type u}

/-- One write after the other. -/
def perform (writes : List (ν → ν)) (before : ν) : ν :=
  writes.foldl (fun reached write => write reached) before

@[simp]
theorem perform_nil (before : ν) : perform [] before = before :=
  rfl

@[simp]
theorem perform_cons (write : ν → ν) (writes : List (ν → ν)) (before : ν) :
    perform (write :: writes) before = perform writes (write before) :=
  rfl

theorem perform_append (first second : List (ν → ν)) (before : ν) :
    perform (first ++ second) before = perform second (perform first before) :=
  List.foldl_append

/-- The first few writes have been done. -/
def CutShort (writes : List (ν → ν)) (before after : ν) : Prop :=
  ∃ done, done <+: writes ∧ after = perform done before

variable {writes first second : List (ν → ν)} {before after : ν}

theorem cutShort_refl (writes : List (ν → ν)) (before : ν) : CutShort writes before before :=
  ⟨[], List.nil_prefix, rfl⟩

theorem cutShort_perform (writes : List (ν → ν)) (before : ν) :
    CutShort writes before (perform writes before) :=
  ⟨writes, List.prefix_rfl, rfl⟩

theorem CutShort.append_right (cut : CutShort first before after) (second : List (ν → ν)) :
    CutShort (first ++ second) before after := by
  rcases cut with ⟨done, begins, rfl⟩
  exact ⟨done, begins.trans (List.prefix_append first second), rfl⟩

theorem CutShort.append_left (cut : CutShort second (perform first before) after) :
    CutShort (first ++ second) before after := by
  rcases cut with ⟨done, begins, rfl⟩
  exact ⟨first ++ done, (List.prefix_append_right_inj first).mpr begins,
    (perform_append first done before).symm⟩

/-- Writes that change nothing. -/
theorem perform_of_idle (idle : ∀ write ∈ writes, write before = before) :
    perform writes before = before := by
  induction writes with
  | nil => rfl
  | cons write writes ih =>
      rw [perform_cons, idle write List.mem_cons_self]
      exact ih fun later member => idle later (List.mem_cons_of_mem write member)

theorem CutShort.of_idle (cut : CutShort writes before after)
    (idle : ∀ write ∈ writes, write before = before) : after = before := by
  rcases cut with ⟨done, begins, rfl⟩
  exact perform_of_idle fun write member => idle write (begins.subset member)

/-- What every write keeps holds however many of them have been done. -/
theorem CutShort.invariant (cut : CutShort writes before after) {holds : ν → Prop}
    (keeps : ∀ write ∈ writes, ∀ reached, holds reached → holds (write reached))
    (initial : holds before) : holds after := by
  rcases cut with ⟨done, begins, rfl⟩
  have keepsDone : ∀ write ∈ done, ∀ reached, holds reached → holds (write reached) :=
    fun write member => keeps write (begins.subset member)
  clear begins keeps
  induction done generalizing before with
  | nil => exact initial
  | cons write done ih =>
      exact ih (keepsDone write List.mem_cons_self before initial)
        fun later member => keepsDone later (List.mem_cons_of_mem write member)

end Writes

/-! ## On the way -/

namespace Program

variable {call : Type} {response : call → Type} {α β : Type} {σ ε : Type}
  {handle : Handler call response σ ε}

/-- What holds before, between and after the calls of a run. -/
def Throughout (handle : Handler call response σ ε) (holds : σ → Prop) :
    Program call response α → σ → Prop
  | .pure _, state => holds state
  | .request question next, state =>
      holds state ∧
        match handle question state with
        | .ok (answer, reached) => Throughout handle holds (next answer) reached
        | .error _ => True

/-- The state after some calls, as far as the program gets. -/
def afterCalls (handle : Handler call response σ ε) :
    Nat → Program call response α → σ → Option σ
  | 0, _, state => some state
  | _ + 1, .pure _, _ => none
  | calls + 1, .request question next, state =>
      match handle question state with
      | .ok (answer, reached) => afterCalls handle calls (next answer) reached
      | .error _ => none

section Throughout

variable {program : Program call response α} {next : α → Program call response β} {state : σ}
  {holds weaker : σ → Prop}

theorem throughout_request_iff {question : call}
    {next : response question → Program call response α} :
    Throughout handle holds (.request question next) state ↔
      holds state ∧ ∀ answer reached, handle question state = .ok (answer, reached) →
        Throughout handle holds (next answer) reached := by
  rw [Throughout]
  apply and_congr_right
  intro _
  cases handled : handle question state with
  | ok result =>
      constructor
      · rintro rest answer reached ⟨⟩
        exact rest
      · intro rest
        exact rest result.1 result.2 rfl
  | error stop => exact iff_of_true trivial nofun

theorem Throughout.initial (throughout : Throughout handle holds program state) : holds state := by
  cases program with
  | pure value => exact throughout
  | request question next => exact (throughout_request_iff.mp throughout).1

theorem Throughout.mono (throughout : Throughout handle holds program state)
    (imp : ∀ reached, holds reached → weaker reached) :
    Throughout handle weaker program state := by
  induction program generalizing state with
  | pure value => exact imp state throughout
  | request question next ih =>
      rw [throughout_request_iff] at throughout ⊢
      exact ⟨imp state throughout.1, fun answer reached handled =>
        ih answer (throughout.2 answer reached handled)⟩

/-- The rule of sequence. -/
theorem Throughout.bind (first : Throughout handle holds program state)
    (second : ∀ value last, run handle program state = .ok (value, last) →
      Throughout handle holds (next value) last) :
    Throughout handle holds (program >>= next) state := by
  change Throughout handle holds (program.bind next) state
  induction program generalizing state with
  | pure value => exact second value state rfl
  | request question rest ih =>
      rw [throughout_request_iff] at first
      refine throughout_request_iff.mpr ⟨first.1, ?_⟩
      intro answer reached handled
      refine ih answer (first.2 answer reached handled) ?_
      intro value last ran
      refine second value last ?_
      rw [run, handled]
      exact ran

/-- What holds throughout holds where a program comes to its end. -/
theorem Throughout.of_ok (throughout : Throughout handle holds program state) {value : α}
    {last : σ} (ran : run handle program state = .ok (value, last)) : holds last := by
  induction program generalizing state with
  | pure value =>
      cases ran
      exact throughout
  | request question next ih =>
      rw [run] at ran
      cases handled : handle question state with
      | error stop =>
          rw [handled] at ran
          cases ran
      | ok result =>
          rw [handled] at ran
          exact ih result.1 ((throughout_request_iff.mp throughout).2 _ _ handled) ran

/-- A halt happens in a state on the way. -/
theorem Throughout.of_error (throughout : Throughout handle holds program state) {stop : ε}
    (stopped : run handle program state = .error stop) :
    ∃ question reached, handle question reached = .error stop ∧ holds reached := by
  induction program generalizing state with
  | pure value => cases stopped
  | request question next ih =>
      rw [run] at stopped
      rw [throughout_request_iff] at throughout
      cases handled : handle question state with
      | error inner =>
          rw [handled] at stopped
          cases stopped
          exact ⟨question, state, handled, throughout.1⟩
      | ok result =>
          rw [handled] at stopped
          exact ih result.1 (throughout.2 _ _ handled) stopped

/-- So does a loss of power. -/
theorem Throughout.of_afterCalls (throughout : Throughout handle holds program state) {calls : Nat}
    {reached : σ} (lost : afterCalls handle calls program state = some reached) :
    holds reached := by
  induction calls generalizing program state with
  | zero =>
      cases lost
      exact throughout.initial
  | succ calls ih =>
      cases program with
      | pure value => cases lost
      | request question next =>
          rw [afterCalls] at lost
          cases handled : handle question state with
          | error stop =>
              rw [handled] at lost
              cases lost
          | ok result =>
              rw [handled] at lost
              exact ih ((throughout_request_iff.mp throughout).2 _ _ handled) lost

/-- What every call keeps holds throughout. -/
theorem EachRequest.throughout {property : call → Prop}
    (each : EachRequest handle property program state)
    (keeps : ∀ question source answer target, property question → holds source →
      handle question source = .ok (answer, target) → holds target)
    (initial : holds state) : Throughout handle holds program state := by
  induction program generalizing state with
  | pure value => exact initial
  | request question next ih =>
      rw [EachRequest] at each
      refine throughout_request_iff.mpr ⟨initial, ?_⟩
      intro answer reached handled
      rw [handled] at each
      exact ih answer each.2 (keeps question state _ _ each.1 initial handled)

/-- A program over a part of the state, whose calls are passed on. -/
theorem Throughout.translate {call' : Type} {response' : call' → Type} {σ' : Type}
    {handle' : Handler call' response' σ' ε} {holds' : σ' → Prop} (part : Part σ' σ)
    {each : (question : call) → Program call' response' (response question)}
    (acts : ∀ question state, run handle' (each question) state =
      part.lift state (handle question (part.get state)))
    (passed : ∀ question state, holds' state →
      (∀ answer inner, handle question (part.get state) = .ok (answer, inner) →
        holds' (part.set state inner)) → Throughout handle' holds' (each question) state)
    {state : σ'}
    (throughout : Throughout handle (fun inner => holds' (part.set state inner)) program
      (part.get state)) :
    Throughout handle' holds' (program.translate each) state := by
  induction program generalizing state with
  | pure value =>
      have here : holds' (part.set state (part.get state)) := throughout
      rw [part.set_get] at here
      exact here
  | request question next ih =>
      rw [throughout_request_iff, part.set_get] at throughout
      refine Throughout.bind (passed question state throughout.1 ?_) ?_
      · intro answer inner handled
        exact (throughout.2 answer inner handled).initial
      · intro answer last ran
        rw [acts] at ran
        cases handled : handle question (part.get state) with
        | error stop =>
            rw [handled] at ran
            cases ran
        | ok result =>
            rw [handled] at ran
            cases ran
            apply ih
            rw [part.get_set]
            refine (throughout.2 _ _ handled).mono ?_
            intro inner holds
            rw [part.set_set]
            exact holds

/-- A single call. -/
theorem throughout_ask {question : call} (initial : holds state)
    (kept : ∀ answer reached, handle question state = .ok (answer, reached) → holds reached) :
    Throughout handle holds (ask question) state :=
  throughout_request_iff.mpr ⟨initial, fun answer reached handled => kept answer reached handled⟩

end Throughout

/-! ## Programs that write -/

section Performs

variable {ν : Type u} {view : σ → ν}

/-- A program performs some writes, of which the first few are done at any time, and what
it returns and leaves is as stated. -/
structure Performs (view : σ → ν) (handle : Handler call response σ ε)
    (program : Program call response α) (state : σ) (writes : List (ν → ν))
    (post : α → σ → Prop) : Prop where
  ends : Guarantees handle program state fun value last =>
    view last = perform writes (view state) ∧ post value last
  throughout :
    Throughout handle (fun reached => CutShort writes (view state) (view reached)) program state

variable {program : Program call response α} {next : α → Program call response β} {state : σ}
  {writes later : List (ν → ν)} {post weaker : α → σ → Prop} {postNext : β → σ → Prop}

theorem performs_pure {value : α} (holds : post value state) :
    Performs view handle (Pure.pure value) state [] post where
  ends := guarantees_pure ⟨rfl, holds⟩
  throughout := cutShort_refl [] _

theorem Performs.mono (performs : Performs view handle program state writes post)
    (imp : ∀ value last, post value last → weaker value last) :
    Performs view handle program state writes weaker where
  ends := performs.ends.mono fun value last ended => ⟨ended.1, imp value last ended.2⟩
  throughout := performs.throughout

/-- The writes are seen at the end. -/
theorem Performs.seen (performs : Performs view handle program state writes post) :
    Performs view handle program state writes fun value last =>
      post value last ∧ view last = perform writes (view state) where
  ends := performs.ends.mono fun _ _ ended => ⟨ended.1, ended.2, ended.1⟩
  throughout := performs.throughout

/-- A run that ends satisfies what all runs that end satisfy. -/
theorem Performs.and (performs : Performs view handle program state writes post)
    (guarantees : Guarantees handle program state weaker) :
    Performs view handle program state writes fun value last =>
      post value last ∧ weaker value last where
  ends := by
    intro value last ran
    rcases performs.ends value last ran with ⟨wrote, holds⟩
    exact ⟨wrote, holds, guarantees value last ran⟩
  throughout := performs.throughout

/-- Writes that would change nothing need not be made. -/
theorem Performs.of_nil (performs : Performs view handle program state [] post)
    (same : perform writes (view state) = view state) :
    Performs view handle program state writes post where
  ends := performs.ends.mono fun _ _ ended => ⟨ended.1.trans same.symm, ended.2⟩
  throughout := performs.throughout.mono fun _ cut => cut.append_right writes

/-- Writes that change nothing need not be mentioned. -/
theorem Performs.to_nil (performs : Performs view handle program state writes post)
    (idle : ∀ write ∈ writes, write (view state) = view state) :
    Performs view handle program state [] post where
  ends := performs.ends.mono fun _ _ ended => ⟨ended.1.trans (perform_of_idle idle), ended.2⟩
  throughout := by
    refine performs.throughout.mono ?_
    intro reached cut
    rw [cut.of_idle idle]
    exact cutShort_refl [] _

/-- The rule of sequence. -/
theorem Performs.bind (first : Performs view handle program state writes post)
    (second : ∀ value last, post value last → view last = perform writes (view state) →
      Performs view handle (next value) last later postNext) :
    Performs view handle (program >>= next) state (writes ++ later) postNext where
  ends := by
    refine first.ends.bind ?_
    rintro value middle ⟨wrote, holds⟩
    refine (second value middle holds wrote).ends.mono ?_
    rintro last after ⟨wroteNext, holdsNext⟩
    rw [wroteNext, wrote, perform_append]
    exact ⟨rfl, holdsNext⟩
  throughout := by
    refine (first.throughout.mono fun reached cut => cut.append_right later).bind ?_
    intro value middle ran
    rcases first.ends value middle ran with ⟨wrote, holds⟩
    refine (second value middle holds wrote).throughout.mono ?_
    intro reached cut
    rw [wrote] at cut
    exact cut.append_left

/-- A first part that writes nothing. -/
theorem Performs.bind_nil (first : Performs view handle program state [] post)
    (second : ∀ value last, post value last → view last = view state →
      Performs view handle (next value) last later postNext) :
    Performs view handle (program >>= next) state later postNext :=
  first.bind second

/-- A second part that writes nothing. -/
theorem Performs.nil_bind (first : Performs view handle program state writes post)
    (second : ∀ value last, post value last → view last = perform writes (view state) →
      Performs view handle (next value) last [] postNext) :
    Performs view handle (program >>= next) state writes postNext := by
  have both := first.bind second
  rw [List.append_nil] at both
  exact both

/-- The rule of sequence for runs that come to their end. -/
theorem Performs.achieves_bind {result : β → σ → Prop}
    (performs : Performs view handle program state [] post)
    (ends : Achieves handle program state fun _ _ => True)
    (second : ∀ value last, post value last → view last = view state →
      Achieves handle (next value) last result) :
    Achieves handle (program >>= next) state result := by
  rcases ends with ⟨value, last, ran, _⟩
  rcases performs.ends value last ran with ⟨same, holds⟩
  exact (second value last holds same).bind_of_ok ran

/-- What all calls keep is seen all the way. -/
theorem EachRequest.performs {property : call → Prop}
    (each : EachRequest handle property program state)
    (keeps : ∀ question source answer target, property question →
      handle question source = .ok (answer, target) → view target = view source) :
    Performs view handle program state [] fun _ _ => True := by
  have same : Throughout handle (fun reached => view reached = view state) program state :=
    each.throughout (fun question source answer target holds kept handled =>
      (keeps question source answer target holds handled).trans kept) rfl
  constructor
  · intro value last ran
    exact ⟨same.of_ok ran, trivial⟩
  · refine same.mono ?_
    rintro reached kept
    rw [kept]
    exact cutShort_refl [] _

/-- A program over a part of the state, whose calls are passed on. -/
theorem Performs.translate {call' : Type} {response' : call' → Type} {σ' : Type}
    {handle' : Handler call' response' σ' ε} {view' : σ' → ν} (part : Part σ' σ)
    {each : (question : call) → Program call' response' (response question)}
    (acts : ∀ question state, run handle' (each question) state =
      part.lift state (handle question (part.get state)))
    (passed : ∀ question state (holds' : σ' → Prop), holds' state →
      (∀ answer inner, handle question (part.get state) = .ok (answer, inner) →
        holds' (part.set state inner)) → Throughout handle' holds' (each question) state)
    (seen : ∀ state, view' state = view (part.get state)) {state : σ'}
    (performs : Performs view handle program (part.get state) writes post) :
    Performs view' handle' (program.translate each) state writes fun value last =>
      ∃ inner, post value inner ∧ last = part.set state inner where
  ends := by
    intro value last ran
    rw [run_translate part acts] at ran
    cases inner : run handle program (part.get state) with
    | error stop =>
        rw [inner] at ran
        cases ran
    | ok result =>
        rw [inner] at ran
        cases ran
        rcases performs.ends _ _ inner with ⟨wrote, holds⟩
        rw [seen, seen, part.get_set]
        exact ⟨wrote, result.2, holds, rfl⟩
  throughout := by
    refine Throughout.translate part acts (fun question state => passed question state _) ?_
    refine performs.throughout.mono ?_
    intro inner cut
    rw [seen, seen, part.get_set]
    exact cut

end Performs

end Program

end WifiSniffer.Effect
