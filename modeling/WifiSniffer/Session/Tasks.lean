import WifiSniffer.Session.Machine

/-!
# Sniffer tasks

`sniffer_start` creates a task and overwrites the handle of the one before, and
`sniffer_stop` deletes the task of the handle instead of its caller.  Both are
right only while at most one task is alive.  This is the case exactly in the runs
in which no task is created before the last one is gone, which the accept handler
does not take care of.
-/

namespace WifiSniffer.Session

open WifiSniffer.Bytes WifiSniffer.Capture WifiSniffer.Handler WifiSniffer.Transition
open Function (update)

variable {cfg : SdkConfig}

/-- No sniffer task is alive. -/
def Idle (state : State cfg) : Prop :=
  ∀ task, state.tasks task = none

/-- A sniffer task is created only when none is alive. -/
def CreatesIdle (source : State cfg) : Event → Prop
  | .accept _ created => created = true → Idle source
  | .run _ _ | .frame _ => True

/-- A write of the given task fails in this step. -/
def SendFails (source : State cfg) (event : Event) (task : Nat) : Prop :=
  ∃ buffer result, Sends source event task buffer result ∧ result < 0

/-- The only sniffer task that can be alive is the one of the handle. -/
def Owned (state : State cfg) : Prop :=
  ∀ task, state.tasks task ≠ none → state.xHandleSniff = some task

/-- Task numbers are not in use before they are given out. -/
def TasksFresh (state : State cfg) : Prop :=
  ∀ task, state.nextTask ≤ task → state.tasks task = none

/-! ## Effects on the set of live tasks -/

/-- A running task creates no task, and leaves alone the handle and the numbers
of tasks to come. -/
theorem run_tasks {state next : State cfg} {task : Nat} {result : Int}
    (taken : step state (.run task result) = some next) :
    next.xHandleSniff = state.xHandleSniff ∧ next.nextTask = state.nextTask ∧
      ∀ other, state.tasks other = none → next.tasks other = none := by
  rcases run_cases taken with ⟨phase, alive, outcome⟩
  rcases outcome with ⟨_, rfl⟩ | ⟨buffer, requested, _, ⟨_, rfl⟩ | ⟨_, rfl⟩⟩
  · refine ⟨?_, ?_, fun other absent => ?_⟩
    · simp [enterLoop]
    · simp [enterLoop]
    · simpa using absent
  · refine ⟨?_, ?_, fun other absent => ?_⟩
    · simp [enterLoop, write]
    · simp [enterLoop, write]
    · simpa [write] using absent
  · rw [endSession_eq]
    refine ⟨?_, ?_, fun other absent => ?_⟩
    · simp [enterLoop, write]
    · simp [enterLoop, write]
    · rw [enterLoop_tasks_eq_none_iff]
      simp [write, Function.update_apply, absent]

/-- A task that has run is in its loop, if it is still alive. -/
theorem run_started {state next : State cfg} {task : Nat} {result : Int}
    (taken : step state (.run task result) = some next) :
    next.tasks task ≠ some .created := by
  rcases run_cases taken with ⟨phase, alive, outcome⟩
  intro created
  rcases outcome with ⟨_, rfl⟩ | ⟨buffer, _, _, ⟨_, rfl⟩ | ⟨_, rfl⟩⟩ <;>
    simp [enterLoop_tasks_eq_some_iff] at created

/-- The only task that `sniffer_stop` can delete is its caller. -/
theorem Owned.deleted {source target : State cfg} {event : Event} {task : Nat}
    (owned : Owned source) (fails : SendFails source event task)
    (taken : step source event = some target) : target.tasks task = none := by
  rcases fails with ⟨buffer, result, ⟨phase, rfl, alive, requested⟩, failed⟩
  have handle_eq : source.xHandleSniff = some task := owned task (by simp [alive])
  rcases run_cases taken with ⟨phase', alive', outcome⟩
  obtain rfl : phase = phase' := Option.some.inj (alive.symm.trans alive')
  rcases outcome with ⟨unrequested, _⟩ | ⟨_, _, _, ⟨accepted, _⟩ | ⟨_, rfl⟩⟩
  · rw [requested] at unrequested
    cases unrequested
  · exact absurd failed (Int.not_lt.mpr accepted)
  · rw [enterLoop_tasks_eq_none_iff, endSession_eq]
    simp [write, handle_eq]

/-! ## Invariants -/

theorem owned_initial : Owned (initial cfg) := by
  intro task alive
  rw [initial] at alive ⊢
  split at alive
  case isTrue liligo =>
    have first : task = 0 := by
      by_contra other
      simp [snifferStart, xTaskCreate, other] at alive
    rw [if_pos liligo, first]
    rfl
  case isFalse => exact absurd rfl alive

theorem tasksFresh_initial : TasksFresh (initial cfg) := by
  intro task unused
  rw [initial] at unused ⊢
  split at unused
  case isTrue liligo =>
    have other : task ≠ 0 := Nat.ne_of_gt unused
    simp [snifferStart, xTaskCreate, other, liligo]
  case isFalse liligo => simp [liligo]

/-- Creating tasks only while none is alive keeps the handle in charge. -/
theorem Owned.step {source target : State cfg} {event : Event} (owned : Owned source)
    (idle : CreatesIdle source event) (taken : step source event = some target) :
    Owned target := by
  intro task alive
  cases event with
  | accept sock created =>
      rcases accept_cases taken with ⟨_, rfl⟩
      rw [onSocketAcceptHandler_eq] at alive ⊢
      cases created with
      | false => exact owned task alive
      | true =>
          by_contra other
          simp only [if_true, Option.some.injEq] at other alive
          rw [Function.update_of_ne (Ne.symm other)] at alive
          exact alive (idle rfl task)
  | run caller result =>
      rcases run_tasks taken with ⟨handle_eq, _, absent⟩
      rw [handle_eq]
      exact owned task fun gone => alive (absent task gone)
  | frame call =>
      rcases frame_cases taken with ⟨queue, rfl, _⟩
      exact owned task alive

theorem TasksFresh.step {source target : State cfg} {event : Event}
    (fresh : TasksFresh source) (taken : step source event = some target) :
    TasksFresh target := by
  intro task unused
  cases event with
  | accept sock created =>
      rcases accept_cases taken with ⟨_, rfl⟩
      rw [onSocketAcceptHandler_eq] at unused ⊢
      cases created with
      | false => exact fresh task unused
      | true =>
          have other : task ≠ source.nextTask := Nat.ne_of_gt unused
          simpa [other] using fresh task (Nat.le_of_succ_le unused)
  | run caller result =>
      rcases run_tasks taken with ⟨_, nextTask_eq, absent⟩
      exact absent task (fresh task (nextTask_eq ▸ unused))
  | frame call =>
      rcases frame_cases taken with ⟨queue, rfl, _⟩
      exact fresh task unused

/-! ## One task at a time -/

/-- At most one sniffer task is alive. -/
def AtMostOneTask (state : State cfg) : Prop :=
  ∀ first second, state.tasks first ≠ none → state.tasks second ≠ none → first = second

theorem Owned.atMostOneTask {state : State cfg} (owned : Owned state) :
    AtMostOneTask state := by
  intro first second firstAlive secondAlive
  exact Option.some.inj ((owned first firstAlive).symm.trans (owned second secondAlive))

/-- Creating a task beside a live one makes two. -/
theorem AtMostOneTask.createsIdle {source target : State cfg} {event : Event}
    (fresh : TasksFresh source) (single : AtMostOneTask target)
    (taken : step source event = some target) : CreatesIdle source event := by
  cases event with
  | run caller result => trivial
  | frame call => trivial
  | accept sock created =>
      rintro rfl task
      by_contra alive
      rcases accept_cases taken with ⟨_, rfl⟩
      have older : task ≠ source.nextTask := by
        rintro rfl
        exact alive (fresh _ (Nat.le_refl _))
      rw [onSocketAcceptHandler_eq] at single
      exact older (single task source.nextTask (by simpa [older] using alive) (by simp))

/-- In every run, at most one sniffer task is ever alive and a task whose write
fails is gone afterwards if and only if no task is ever created while another one
is alive. -/
theorem single_sniffer_task_iff (events : List Event) :
    EachStep step (fun source event target =>
        AtMostOneTask target ∧
          ∀ task, SendFails source event task → target.tasks task = none)
        (initial cfg) events ↔
      EachStep step (fun source event _ => CreatesIdle source event) (initial cfg) events := by
  constructor
  · -- a new task has a fresh number, so it is another one than any that is alive
    apply EachStep.of_invariant tasksFresh_initial ?_
    rintro source event target fresh ⟨single, _⟩ taken
    exact ⟨single.createsIdle fresh taken, fresh.step taken⟩
  · -- while the handle names the only live task, `sniffer_stop` deletes its caller
    apply EachStep.of_invariant owned_initial ?_
    intro source event target owned idle taken
    have ownedAfter := owned.step idle taken
    have deleted : ∀ task, SendFails source event task → target.tasks task = none :=
      fun task fails => owned.deleted fails taken
    exact ⟨⟨ownedAfter.atMostOneTask, deleted⟩, ownedAfter⟩

/-- Two clients in a row leave two sniffer tasks alive. -/
theorem two_clients_two_tasks :
    ∃ last : State SdkConfig.smallest,
      exec step (initial _) [.accept 54 true, .run 0 24, .accept 55 true] = some last ∧
        ¬ AtMostOneTask last := by
  refine ⟨_, rfl, fun single => ?_⟩
  have same := single 0 1 (by decide) (by decide)
  cases same

end WifiSniffer.Session
