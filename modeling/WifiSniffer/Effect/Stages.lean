import WifiSniffer.Effect.Pool

/-!
# Stages of threads

What a thread has done so far of what it has to do is its stage.  Its calls, and what they
are answered, lead from stage to stage.  An invariant may then speak of the shared state
and of the stages of all threads, and it holds in every run if each call keeps it.
-/

namespace WifiSniffer.Effect

open Function (update)
open Transition (exec exec_invariant eachStep_of_forall_mem)

namespace Program

variable {call : Type} {response : call → Type} {ι job σ ε α β stage : Type}

/-- Which calls may be made in a stage, and to which stages their answers lead. -/
abbrev Stages (call : Type) (response : call → Type) (stage : Type) :=
  stage → (question : call) → Option (response question → stage)

/-- From a stage on, the calls of a program are allowed, and it ends as stated. -/
def Passes (leads : Stages call response stage) (post : α → stage → Prop) :
    stage → Program call response α → Prop
  | here, .pure value => post value here
  | here, .request question next =>
      ∃ after, leads here question = some after ∧
        ∀ answer, Passes leads post (after answer) (next answer)

section Passes

variable {leads : Stages call response stage} {post : α → stage → Prop} {here : stage}
  {program : Program call response α}

theorem passes_pure {value : α} (holds : post value here) :
    Passes leads post here (Pure.pure value : Program call response α) :=
  holds

theorem passes_ask {question : call} {after : response question → stage}
    (allowed : leads here question = some after) :
    Passes leads (fun answer last => last = after answer) here
      (ask question : Program call response (response question)) :=
  ⟨after, allowed, fun _ => rfl⟩

/-- The rule of sequence. -/
theorem Passes.bind {middle : α → stage → Prop} {next : α → Program call response β}
    {postNext : β → stage → Prop} (first : Passes leads middle here program)
    (second : ∀ value after, middle value after → Passes leads postNext after (next value)) :
    Passes leads postNext here (program >>= next) := by
  change Passes leads postNext here (program.bind next)
  induction program generalizing here with
  | pure value => exact second value here first
  | request question rest ih =>
      rcases first with ⟨after, allowed, passes⟩
      exact ⟨after, allowed, fun answer => ih answer (passes answer)⟩

/-- A first call, and the rest from the stage to which it leads. -/
theorem Passes.ask_bind {question : call} {after : response question → stage}
    {next : response question → Program call response β} {postNext : β → stage → Prop}
    (allowed : leads here question = some after)
    (second : ∀ answer, Passes leads postNext (after answer) (next answer)) :
    Passes leads postNext here (ask question >>= next) := by
  apply (passes_ask allowed).bind
  rintro answer _ rfl
  exact second answer

/-- Calls that keep a program in its stage. -/
theorem Calls.passes (calls : Calls (fun question => leads here question = some fun _ => here)
      program) : Passes leads (fun _ last => last = here) here program := by
  induction program with
  | pure value => exact rfl
  | request question next ih =>
      exact ⟨fun _ => here, calls.1, fun answer => ih answer (calls.2 answer)⟩

end Passes

/-! ## Runs of a pool -/

section Staged

variable {act : ι → Action call response σ ε} {code : job → Program call response Unit}
  {leads : ι → Stages call response stage} {rest : stage}
  {invariant : (ι → stage) → σ → Prop} {allowed : ι → job → Prop}
  {pool target : Pool call response ι σ} {stages : ι → stage}

/-- Each thread is at rest or on its way there, and the invariant holds. -/
structure Pool.StagedAt (leads : ι → Stages call response stage) (rest : stage)
    (invariant : (ι → stage) → σ → Prop) (stages : ι → stage)
    (pool : Pool call response ι σ) : Prop where
  resting : ∀ thread, pool.threads thread = none → stages thread = rest
  running : ∀ thread program, pool.threads thread = some program →
    Passes (leads thread) (fun _ last => last = rest) (stages thread) program
  invariant : invariant stages pool.shared

theorem Pool.StagedAt.idle {shared : σ} (holds : invariant (fun _ => rest) shared) :
    (Pool.idle shared : Pool call response ι σ).StagedAt leads rest invariant fun _ => rest :=
  ⟨fun _ _ => rfl, nofun, holds⟩

variable [DecidableEq ι]

/-- Every call that a stage allows keeps the invariant. -/
def StageInvariant (act : ι → Action call response σ ε)
    (leads : ι → Stages call response stage) (invariant : (ι → stage) → σ → Prop) : Prop :=
  ∀ stages shared thread question after answer next, invariant stages shared →
    leads thread (stages thread) question = some after →
    act thread question shared = some (.ok (answer, next)) →
    invariant (update stages thread (after answer)) next

/-- A call takes its thread to the next stage and no other thread anywhere. -/
theorem Pool.StagedAt.answered (keeps : StageInvariant act leads invariant)
    (staged : pool.StagedAt leads rest invariant stages) {thread : ι} {question : call}
    {next : response question → Program call response Unit} {answer : response question}
    {shared : σ} (running : pool.threads thread = some (.request question next))
    (acted : act thread question pool.shared = some (.ok (answer, shared))) :
    ∃ after, leads thread (stages thread) question = some after ∧
      Pool.StagedAt leads rest invariant (update stages thread (after answer))
        ⟨shared, update pool.threads thread (some (next answer))⟩ := by
  rcases staged.running thread _ running with ⟨after, leads_eq, passes⟩
  refine ⟨after, leads_eq, fun other idle => ?_, fun other program running' => ?_,
    keeps _ _ _ _ _ _ _ staged.invariant leads_eq acted⟩
  · by_cases same : other = thread
    · subst same
      simp at idle
    · rw [Function.update_of_ne same]
      exact staged.resting other (by simpa [same] using idle)
  · by_cases same : other = thread
    · subst same
      obtain rfl : next answer = program := by simpa using running'
      rw [Function.update_self]
      exact passes answer
    · rw [Function.update_of_ne same]
      exact staged.running other program (by simpa [same] using running')

/-- A thread that has come to its end is at rest. -/
theorem Pool.StagedAt.ended (staged : pool.StagedAt leads rest invariant stages) {thread : ι}
    (ended : pool.threads thread = some (.pure ())) :
    Pool.StagedAt leads rest invariant stages
      { pool with threads := update pool.threads thread none } := by
  refine ⟨fun other idle => ?_, fun other program running => ?_, staged.invariant⟩
  · by_cases same : other = thread
    · subst same
      exact staged.running other _ ended
    · exact staged.resting other (by simpa [same] using idle)
  · by_cases same : other = thread
    · subst same
      simp at running
    · exact staged.running other program (by simpa [same] using running)

/-- The stages of the threads can be named. -/
def Pool.Staged (leads : ι → Stages call response stage) (rest : stage)
    (invariant : (ι → stage) → σ → Prop) (pool : Pool call response ι σ) : Prop :=
  ∃ stages, pool.StagedAt leads rest invariant stages

theorem Pool.Staged.step (keeps : StageInvariant act leads invariant)
    (passes : ∀ thread job, allowed thread job →
      Passes (leads thread) (fun _ last => last = rest) rest (code job))
    (staged : pool.Staged leads rest invariant) {event : PoolEvent ι job}
    (within : event.Within allowed) (taken : poolStep act code pool event = some target) :
    target.Staged leads rest invariant := by
  rcases staged with ⟨stages, staged⟩
  rcases poolStep_cases taken with ⟨thread, job, rfl, idle, rfl⟩ |
    ⟨thread, rfl, ⟨ended, rfl⟩ | ⟨question, next, answer, shared, running, acted, rfl⟩⟩
  · refine ⟨stages, fun other idle' => ?_, fun other program running => ?_, staged.invariant⟩
    · by_cases same : other = thread
      · subst same
        simp at idle'
      · exact staged.resting other (by simpa [same] using idle')
    · by_cases same : other = thread
      · subst same
        obtain rfl : code job = program := by simpa using running
        rw [staged.resting other idle]
        exact passes other job within
      · exact staged.running other program (by simpa [same] using running)
  · exact ⟨stages, staged.ended ended⟩
  · rcases staged.answered keeps running acted with ⟨after, _, staged⟩
    exact ⟨_, staged⟩

/-- If every call keeps the invariant, so does every run. -/
theorem Pool.Staged.of_run (keeps : StageInvariant act leads invariant)
    (passes : ∀ thread job, allowed thread job →
      Passes (leads thread) (fun _ last => last = rest) rest (code job))
    (staged : pool.Staged leads rest invariant) {events : List (PoolEvent ι job)}
    (within : ∀ event ∈ events, event.Within allowed)
    (run : exec (poolStep act code) pool events = some target) :
    target.Staged leads rest invariant := by
  apply exec_invariant staged ?_ (eachStep_of_forall_mem within) run
  exact fun source event target staged within taken => staged.step keeps passes within taken

end Staged

end Program

end WifiSniffer.Effect
