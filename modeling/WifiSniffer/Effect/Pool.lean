import Mathlib.Logic.Function.Basic
import WifiSniffer.Effect.Rules
import WifiSniffer.Transition.Labelled

/-!
# Programs side by side

A pool of threads runs programs over one shared state, one call at a time and in any
order.  A call may have to wait, and it may halt the whole pool.

A contract says of each thread what it relies on while the others run and what it
guarantees to them.  If every job keeps to the contract as long as the others do, then so
does every run of the pool, and nothing ever halts it.  A program whose part of the state
the others leave alone runs as it does without them.
-/

namespace WifiSniffer.Effect

open Function (update)
open Transition (Step exec exec_invariant eachStep_of_forall_mem)

namespace Program

variable {call : Type} {response : call → Type} {ι job σ ε α β : Type}

/-! ## Pools -/

/-- What a call does to the shared state, or nothing as long as it has to wait. -/
abbrev Action (call : Type) (response : call → Type) (σ ε : Type) :=
  (question : call) → σ → Option (Except ε (response question × σ))

/-- Threads and what they share.  A thread is `none` while it has nothing to do. -/
structure Pool (call : Type) (response : call → Type) (ι σ : Type) where
  shared : σ
  threads : ι → Option (Program call response Unit)

/-- No thread has anything to do. -/
def Pool.idle (shared : σ) : Pool call response ι σ where
  shared := shared
  threads := fun _ => none

inductive PoolEvent (ι job : Type) where
  /-- A thread that has nothing to do begins a job. -/
  | start (thread : ι) (job : job)
  /-- A thread makes its next call, or comes to its end. -/
  | advance (thread : ι)

/-- Only such jobs are begun as the thread may have. -/
def PoolEvent.Within (allowed : ι → job → Prop) : PoolEvent ι job → Prop
  | .start thread job => allowed thread job
  | .advance _ => True

section Step

variable [DecidableEq ι]

/-- One step of a pool.  It takes none with a call that waits or halts. -/
def poolStep (act : ι → Action call response σ ε) (code : job → Program call response Unit) :
    Step (Pool call response ι σ) (PoolEvent ι job)
  | pool, .start thread job =>
      match pool.threads thread with
      | none => some { pool with threads := update pool.threads thread (some (code job)) }
      | some _ => none
  | pool, .advance thread =>
      match pool.threads thread with
      | none => none
      | some (.pure ()) => some { pool with threads := update pool.threads thread none }
      | some (.request question next) =>
          match act thread question pool.shared with
          | some (.ok (answer, shared)) =>
              some ⟨shared, update pool.threads thread (some (next answer))⟩
          | some (.error _) | none => none

/-- What a step of a pool can be: a job is begun, a thread comes to its end, or it makes a
call that is answered. -/
theorem poolStep_cases {act : ι → Action call response σ ε}
    {code : job → Program call response Unit} {pool target : Pool call response ι σ}
    {event : PoolEvent ι job} (taken : poolStep act code pool event = some target) :
    (∃ thread job, event = .start thread job ∧ pool.threads thread = none ∧
        target = { pool with threads := update pool.threads thread (some (code job)) }) ∨
      ∃ thread, event = .advance thread ∧
        ((pool.threads thread = some (.pure ()) ∧
            target = { pool with threads := update pool.threads thread none }) ∨
          ∃ question next answer shared,
            pool.threads thread = some (.request question next) ∧
              act thread question pool.shared = some (.ok (answer, shared)) ∧
              target = ⟨shared, update pool.threads thread (some (next answer))⟩) := by
  cases event with
  | start thread job =>
      rw [poolStep] at taken
      split at taken
      case h_1 idle => exact .inl ⟨thread, job, rfl, idle, (Option.some.inj taken).symm⟩
      case h_2 => cases taken
  | advance thread =>
      refine .inr ⟨thread, rfl, ?_⟩
      rw [poolStep] at taken
      split at taken
      case h_1 => cases taken
      case h_2 ended => exact .inl ⟨ended, (Option.some.inj taken).symm⟩
      case h_3 question next running =>
        split at taken
        case h_1 answer shared acted =>
          exact .inr ⟨question, next, answer, shared, running, acted,
            (Option.some.inj taken).symm⟩
        all_goals cases taken

theorem poolStep_answered {act : ι → Action call response σ ε}
    {code : job → Program call response Unit} {pool : Pool call response ι σ} {thread : ι}
    {question : call} {next : response question → Program call response Unit}
    {answer : response question} {shared : σ}
    (running : pool.threads thread = some (.request question next))
    (acted : act thread question pool.shared = some (.ok (answer, shared))) :
    poolStep act code pool (.advance thread) =
      some ⟨shared, update pool.threads thread (some (next answer))⟩ := by
  rw [poolStep, running]
  dsimp only
  rw [acted]

theorem poolStep_ended {act : ι → Action call response σ ε}
    {code : job → Program call response Unit} {pool : Pool call response ι σ} {thread : ι}
    (ended : pool.threads thread = some (.pure ())) :
    poolStep act code pool (.advance thread) =
      some { pool with threads := update pool.threads thread none } := by
  rw [poolStep, ended]

end Step

/-- The next call of a thread halts the pool. -/
def Pool.Halts (act : ι → Action call response σ ε) (pool : Pool call response ι σ)
    (thread : ι) : Prop :=
  ∃ question next stop, pool.threads thread = some (.request question next) ∧
    act thread question pool.shared = some (.error stop)

/-! ## Contracts -/

/-- What holds whenever a thread may be interrupted, what holds of a thread while it has
nothing to do, and what it may expect of others and they of it. -/
structure Contract (ι σ : Type) where
  invariant : σ → Prop
  resting : ι → σ → Prop
  rely : ι → σ → σ → Prop
  guarantee : ι → σ → σ → Prop
  rely_refl : ∀ {thread state}, invariant state → rely thread state state
  rely_trans : ∀ {thread first second third}, rely thread first second →
    rely thread second third → rely thread first third
  resting_of_rely : ∀ {thread first second}, resting thread first →
    rely thread first second → resting thread second
  invariant_of_guarantee : ∀ {thread first second}, guarantee thread first second →
    invariant second
  rely_of_guarantee : ∀ {thread other first second}, thread ≠ other →
    guarantee thread first second → rely other first second

section Safe

variable (contract : Contract ι σ) (thread : ι) (act : Action call response σ ε)

/-- Whatever the others do between two calls as far as the thread may expect it, each call
of the program does what the others may expect and halts nothing, and the program ends as
stated. -/
def Safe (post : α → σ → Prop) : Program call response α → σ → Prop
  | .pure value, state => post value state
  | .request question next, state =>
      ∀ now, contract.rely thread state now →
        match act question now with
        | none => True
        | some (.error _) => False
        | some (.ok (answer, after)) =>
            contract.guarantee thread now after ∧ Safe post (next answer) after

/-- The others do not make a postcondition false. -/
def Contract.Stable (post : α → σ → Prop) : Prop :=
  ∀ value first second, post value first → contract.rely thread first second →
    post value second

variable {contract thread act} {post weaker : α → σ → Prop} {program : Program call response α}
  {state : σ}

theorem safe_pure {value : α} (holds : post value state) :
    Safe contract thread act post (Pure.pure value) state :=
  holds

/-- A call is answered wherever it may come to be made. -/
def Contract.Answered (contract : Contract ι σ) (thread : ι) {answer : Type}
    (act : σ → Option (Except ε (answer × σ))) (post : answer → σ → Prop) (state : σ) : Prop :=
  ∀ now, contract.rely thread state now → ∀ result, act now = some result →
    ∃ answer after, result = .ok (answer, after) ∧ contract.guarantee thread now after ∧
      post answer after

theorem safe_request_iff {question : call} {next : response question → Program call response α} :
    Safe contract thread act post (.request question next) state ↔
      contract.Answered thread (act question)
        (fun answer after => Safe contract thread act post (next answer) after) state := by
  constructor
  · intro safe now relied result acted
    have here := safe now relied
    rw [acted] at here
    rcases result with stop | ⟨answer, after⟩
    · exact here.elim
    · exact ⟨answer, after, rfl, here.1, here.2⟩
  · intro answered now relied
    cases acted : act question now with
    | none => trivial
    | some result =>
        rcases answered now relied result acted with ⟨answer, after, rfl, guaranteed, safe⟩
        exact ⟨guaranteed, safe⟩

theorem safe_ask {question : call} {post : response question → σ → Prop}
    (answered : contract.Answered thread (act question) post state) :
    Safe contract thread act post (ask question) state :=
  safe_request_iff.mpr answered

theorem Safe.mono (safe : Safe contract thread act post program state)
    (imp : ∀ value last, post value last → weaker value last) :
    Safe contract thread act weaker program state := by
  induction program generalizing state with
  | pure value => exact imp value state safe
  | request question next ih =>
      intro now relied
      have here := safe now relied
      split
      case h_1 => trivial
      case h_2 acted =>
        rw [acted] at here
        exact here
      case h_3 answer after acted =>
        rw [acted] at here
        exact ⟨here.1, ih answer here.2⟩

/-- What others do before the next call takes nothing away. -/
theorem Safe.of_rely (stable : contract.Stable thread post) {now : σ}
    (safe : Safe contract thread act post program state)
    (relied : contract.rely thread state now) :
    Safe contract thread act post program now := by
  cases program with
  | pure value => exact stable value state now safe relied
  | request question next =>
      exact fun later relied' => safe later (contract.rely_trans relied relied')

/-- The rule of sequence. -/
theorem Safe.bind {middle : α → σ → Prop} {next : α → Program call response β}
    {postNext : β → σ → Prop} (first : Safe contract thread act middle program state)
    (second : ∀ value last, middle value last →
      Safe contract thread act postNext (next value) last) :
    Safe contract thread act postNext (program >>= next) state := by
  change Safe contract thread act postNext (program.bind next) state
  induction program generalizing state with
  | pure value => exact second value state first
  | request question rest ih =>
      intro now relied
      have here := first now relied
      split
      case h_1 => trivial
      case h_2 acted =>
        rw [acted] at here
        exact here
      case h_3 answer after acted =>
        rw [acted] at here
        exact ⟨here.1, ih answer here.2⟩

/-- Under another contract a program is safe if it may rely on as much and need not
guarantee more. -/
theorem Safe.adapt {other : Contract ι σ}
    (relies : ∀ first second, other.rely thread first second →
      contract.rely thread first second)
    (guarantees : ∀ first second, contract.guarantee thread first second →
      other.guarantee thread first second)
    (safe : Safe contract thread act post program state) :
    Safe other thread act post program state := by
  induction program generalizing state with
  | pure value => exact safe
  | request question next ih =>
      intro now relied
      have here := safe now (relies state now relied)
      split
      case h_1 => trivial
      case h_2 acted =>
        rw [acted] at here
        exact here
      case h_3 answer after acted =>
        rw [acted] at here
        exact ⟨guarantees now after here.1, ih answer here.2⟩

/-- A program whose calls are replaced by programs that are safe where they are. -/
theorem Safe.translate {call' : Type} {response' : call' → Type} {ε' : Type}
    {act' : Action call' response' σ ε'}
    {each : (question : call) → Program call' response' (response question)}
    (acts : ∀ question post' state, contract.Answered thread (act question) post' state →
      Safe contract thread act' post' (each question) state)
    (safe : Safe contract thread act post program state) :
    Safe contract thread act' post (program.translate each) state := by
  induction program generalizing state with
  | pure value => exact safe
  | request question next ih =>
      have first := acts question _ state (safe_request_iff.mp safe)
      exact first.bind fun answer after later => ih answer later

end Safe

/-! ## Runs of a pool -/

section Kept

variable {act : ι → Action call response σ ε} {code : job → Program call response Unit}
  {contract : Contract ι σ} {allowed : ι → job → Prop} {pool target : Pool call response ι σ}

/-- The invariant holds, idle threads are at rest, and the others are safe. -/
structure Pool.Kept (act : ι → Action call response σ ε) (contract : Contract ι σ)
    (pool : Pool call response ι σ) : Prop where
  invariant : contract.invariant pool.shared
  resting : ∀ thread, pool.threads thread = none → contract.resting thread pool.shared
  running : ∀ thread program, pool.threads thread = some program →
    Safe contract thread (act thread) (fun _ => contract.resting thread) program pool.shared

theorem Pool.Kept.idle {shared : σ} (invariant : contract.invariant shared)
    (resting : ∀ thread, contract.resting thread shared) :
    Pool.Kept act contract (Pool.idle shared) :=
  ⟨invariant, fun thread _ => resting thread, nofun⟩

/-- A job keeps to the contract wherever it may be begun. -/
def Keeps (act : ι → Action call response σ ε) (contract : Contract ι σ)
    (thread : ι) (program : Program call response Unit) : Prop :=
  ∀ state, contract.invariant state → contract.resting thread state →
    Safe contract thread (act thread) (fun _ => contract.resting thread) program state

/-- Nothing halts a pool that keeps to its contract. -/
theorem Pool.Kept.not_halts (kept : Pool.Kept act contract pool) (thread : ι) :
    ¬ pool.Halts act thread := by
  rintro ⟨question, next, stop, running, halted⟩
  have here := kept.running thread _ running pool.shared (contract.rely_refl kept.invariant)
  rw [halted] at here
  exact here

variable [DecidableEq ι]

/-- The thread that makes a call guarantees to all others what they rely on. -/
theorem Pool.Kept.step (keeps : ∀ thread job, allowed thread job →
      Keeps act contract thread (code job))
    (kept : Pool.Kept act contract pool) {event : PoolEvent ι job}
    (within : event.Within allowed) (taken : poolStep act code pool event = some target) :
    Pool.Kept act contract target := by
  rcases poolStep_cases taken with ⟨thread, job, rfl, idle, rfl⟩ |
    ⟨thread, rfl, ⟨ended, rfl⟩ | ⟨question, next, answer, shared, running, acted, rfl⟩⟩
  · refine ⟨kept.invariant, fun other idle' => ?_, fun other program running => ?_⟩
    · by_cases same : other = thread
      · subst same
        simp at idle'
      · exact kept.resting other (by simpa [same] using idle')
    · by_cases same : other = thread
      · subst same
        obtain rfl : code job = program := by simpa using running
        exact keeps other job within pool.shared kept.invariant (kept.resting other idle)
      · exact kept.running other program (by simpa [same] using running)
  · refine ⟨kept.invariant, fun other idle' => ?_, fun other program running => ?_⟩
    · by_cases same : other = thread
      · subst same
        exact kept.running other _ ended
      · exact kept.resting other (by simpa [same] using idle')
    · by_cases same : other = thread
      · subst same
        simp at running
      · exact kept.running other program (by simpa [same] using running)
  · have here := kept.running thread _ running pool.shared (contract.rely_refl kept.invariant)
    rw [acted] at here
    rcases here with ⟨guaranteed, safe⟩
    refine ⟨contract.invariant_of_guarantee guaranteed, fun other idle => ?_,
      fun other program running' => ?_⟩
    · by_cases same : other = thread
      · subst same
        simp at idle
      · have relied := contract.rely_of_guarantee (Ne.symm same) guaranteed
        exact contract.resting_of_rely (kept.resting other (by simpa [same] using idle)) relied
    · by_cases same : other = thread
      · subst same
        obtain rfl : next answer = program := by simpa using running'
        exact safe
      · have relied := contract.rely_of_guarantee (Ne.symm same) guaranteed
        refine (kept.running other program (by simpa [same] using running')).of_rely ?_ relied
        exact fun _ _ _ => contract.resting_of_rely

/-- A thread that advances keeps its guarantee, unless it comes to its end. -/
theorem Pool.Kept.advance (kept : Pool.Kept act contract pool) {thread : ι}
    (taken : poolStep act code pool (.advance thread) = some target) :
    target.shared = pool.shared ∨ contract.guarantee thread pool.shared target.shared := by
  rcases poolStep_cases taken with ⟨_, _, ⟨⟩, _⟩ |
    ⟨_, ⟨⟩, ⟨_, rfl⟩ | ⟨question, next, answer, shared, running, acted, rfl⟩⟩
  · exact .inl rfl
  · have here := kept.running thread _ running pool.shared (contract.rely_refl kept.invariant)
    rw [acted] at here
    exact .inr here.1

/-- If every job keeps to the contract, so does every run. -/
theorem Pool.Kept.of_run (keeps : ∀ thread job, allowed thread job →
      Keeps act contract thread (code job))
    (kept : Pool.Kept act contract pool) {events : List (PoolEvent ι job)}
    (within : ∀ event ∈ events, event.Within allowed)
    (run : exec (poolStep act code) pool events = some target) :
    Pool.Kept act contract target := by
  apply exec_invariant kept ?_ (eachStep_of_forall_mem within) run
  intro source event target kept within taken
  exact kept.step keeps within taken

end Kept

/-! ## Left alone -/

section Alone

variable {τ ε' : Type}

/-- As long as a condition holds, the others change nothing of what a thread sees, and
its calls do with it what they do under a handler of their own. -/
structure Alone (contract : Contract ι σ) (thread : ι) (act : Action call response σ ε)
    (good : σ → Prop) (view : σ → τ) (handle : Handler call response τ ε')
    (property : call → Prop) : Prop where
  undisturbed : ∀ {first second}, good first → contract.rely thread first second →
    good second ∧ view second = view first
  acts : ∀ {question state answer seen}, good state → property question →
    handle question (view state) = .ok (answer, seen) →
      ∃ after, act question state = some (.ok (answer, after)) ∧
        contract.guarantee thread state after ∧ good after ∧ view after = seen

/-- A program that is left alone runs as it does without the others. -/
theorem Alone.safe {contract : Contract ι σ} {thread : ι} {act : Action call response σ ε}
    {good : σ → Prop} {view : σ → τ} {handle : Handler call response τ ε'}
    {property : call → Prop} (alone : Alone contract thread act good view handle property)
    {program : Program call response α} {state : σ} {value : α} {last : τ} (holds : good state)
    (each : EachRequest handle property program (view state))
    (ran : run handle program (view state) = .ok (value, last)) :
    Safe contract thread act
      (fun result reached => result = value ∧ good reached ∧ view reached = last)
      program state := by
  induction program generalizing state with
  | pure result =>
      cases ran
      exact ⟨rfl, holds, rfl⟩
  | request question next ih =>
      intro now relied
      rcases alone.undisturbed holds relied with ⟨holds, view_eq⟩
      rw [← view_eq, run] at ran
      rw [← view_eq, EachRequest] at each
      cases handled : handle question (view now) with
      | error stop =>
          rw [handled] at ran
          cases ran
      | ok result =>
          rcases result with ⟨answer, seen⟩
          rw [handled] at ran each
          rcases alone.acts holds each.1 handled with ⟨after, acted, guaranteed, good, rfl⟩
          rw [acted]
          exact ⟨guaranteed, ih answer good each.2 ran⟩

end Alone

end Program

end WifiSniffer.Effect
