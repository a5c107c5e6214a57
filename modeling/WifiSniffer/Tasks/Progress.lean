import WifiSniffer.Effect.Stages
import WifiSniffer.Tasks.Filters

/-!
# No task waits for ever

A task that holds `_filter_sem` only assigns the address filter, goes to the flash and
gives the semaphore back, and none of that has to wait.  So whoever waits for the
semaphore can get it, and any job can be brought to its end, unless it waits for an event
and there is none.
-/

namespace WifiSniffer.Tasks

open Function (update)
open WifiSniffer.Effect WifiSniffer.Handler WifiSniffer.Nvs WifiSniffer.Settings
open WifiSniffer.Transition (exec exec_append exec_cons)
open Program (Calls Passes Stages)

variable {ι : Type}

/-! ## The semaphore -/

/-- Whether a task holds the semaphore, as its calls tell.  It holds it to assign and
store an address filter, and does nothing else meanwhile. -/
def lockStages : Stages SnifferCall SnifferCall.Response Bool
  | false, .semTake => some fun taken => taken
  | true, .semGive => some fun _ => false
  | true, .storeAddr2 _ | true, .nvs _ => some fun _ => true
  | true, _ => none
  | false, .semGive | false, .storeAddr2 _ => none
  | false, _ => some fun _ => false

/-- The tasks agree with the semaphore on who holds it. -/
def Locked (holds : ι → Bool) (shared : Shared ι) : Prop :=
  ∀ task, holds task = true ↔ shared.holder = some task

theorem passes_nvs {α : Type} (holds : Bool) (program : NvsProgram α) :
    Passes lockStages (fun _ last => last = holds) holds (nvs program) := by
  have calls : Calls (fun _ => True) program := Program.calls_of_forall fun _ => trivial
  have calls : Calls (fun call => lockStages holds call = some fun _ => holds) (nvs program) := by
    apply calls.translate
    intro call _
    cases holds <;> exact Program.calls_ask rfl
  exact calls.passes

theorem passes_snifferPostEvent (event : SnifferEvent) :
    Passes lockStages (fun _ last => last = false) false (snifferPostEvent event) := by
  apply Passes.ask_bind rfl
  intro err
  split
  · exact Program.passes_pure rfl
  · exact passes_nvs false (espErrorCheck err)

theorem passes_snifferDisplayFilter :
    Passes lockStages (fun _ last => last = false) false snifferDisplayFilter := by
  apply Passes.ask_bind rfl
  intro addrFilter
  apply Passes.ask_bind rfl
  intro rssi
  exact Program.passes_ask rfl

theorem passes_snifferSetFilter (key : String) (addrFilter : AddrFilter) :
    Passes lockStages (fun _ last => last = false) false (snifferSetFilter key addrFilter) := by
  apply Passes.ask_bind rfl
  intro taken
  cases taken with
  | false => exact Program.passes_pure rfl
  | true =>
      apply Passes.ask_bind rfl
      intro _
      apply (passes_nvs true _).bind
      rintro _ _ rfl
      apply Passes.ask_bind rfl
      exact fun _ => Program.passes_pure rfl

theorem passes_snifferSetRssiFilter (rssi : Int8) :
    Passes lockStages (fun _ last => last = false) false (snifferSetRssiFilter rssi) := by
  apply Passes.ask_bind rfl
  intro _
  apply (passes_nvs false _).bind
  rintro _ _ rfl
  exact passes_snifferPostEvent .filterChanged

theorem passes_wifiSnifferPacketHandler (full : Bool) :
    Passes lockStages (fun _ last => last = false) false (wifiSnifferPacketHandler full) := by
  have counted : Passes lockStages (fun _ last => last = false) false
      (if full then snifferPostEvent .queueFull else pure ()) := by
    split
    · exact passes_snifferPostEvent .queueFull
    · exact Program.passes_pure rfl
  apply Passes.ask_bind rfl
  intro _
  apply Passes.ask_bind rfl
  intro taken
  cases taken with
  | false => exact counted
  | true =>
      apply Passes.ask_bind rfl
      intro _
      apply Passes.ask_bind rfl
      exact fun _ => counted

/-- Every job begins and ends without the semaphore. -/
theorem passes_job (job : Job) :
    Passes lockStages (fun _ last => last = false) false job.code := by
  cases job with
  | setAddr2 addrFilter =>
      apply (passes_snifferSetFilter addr2Key addrFilter).bind
      rintro set _ rfl
      split
      · exact passes_snifferPostEvent .filterChanged
      · exact Program.passes_pure rfl
  | setRssi rssi => exact passes_snifferSetRssiFilter rssi
  | click =>
      apply Passes.ask_bind rfl
      exact fun rssi => passes_snifferSetRssiFilter (clickedRssi rssi)
  | packet full => exact passes_wifiSnifferPacketHandler full
  | captureStarted => exact passes_snifferPostEvent .captureStarted
  | event =>
      apply Passes.ask_bind rfl
      intro event
      cases event with
      | filterChanged => exact passes_snifferDisplayFilter
      | _ => exact Program.passes_pure rfl
  | wifiLibEvent => exact passes_snifferDisplayFilter

/-! ## Runs -/

section Runs

variable [DecidableEq ι] {holds : ι → Bool} {shared next : Shared ι} {pool : TaskPool ι}
  {task : ι}

/-- A call neither takes nor gives the semaphore. -/
def Stays : SnifferCall → Prop
  | .semTake | .semGive => False
  | _ => True

theorem lockStages_stays {here : Bool} {call : SnifferCall} (stays : Stays call)
    {after : call.Response → Bool} (allowed : lockStages here call = some after)
    (answer : call.Response) : after answer = here := by
  cases here <;> cases call <;> first | exact stays.elim | cases allowed <;> rfl

theorem holder_of_stays {call : SnifferCall} (stays : Stays call) {answer : call.Response}
    (acted : act task call shared = some (.ok (answer, next))) :
    next.holder = shared.holder := by
  cases call
  case semTake => exact stays.elim
  case semGive => exact stays.elim
  case nvs call =>
    rw [act] at acted
    cases handled : Store.handle call shared.store with
    | error stop =>
        rw [handled] at acted
        cases acted
    | ok result =>
        rw [handled] at acted
        cases acted
        rfl
  case eventPostTo event =>
    rw [act] at acted
    split at acted <;> cases acted <;> rfl
  case eventReceive =>
    rw [act] at acted
    split at acted <;> cases acted
    rfl
  all_goals
    cases acted
    rfl

theorem locked_invariant :
    Program.StageInvariant act (fun _ => lockStages) (@Locked ι) := by
  intro holds shared task call after answer next locked allowed acted
  by_cases stays : Stays call
  · intro other
    rw [lockStages_stays stays allowed answer, Function.update_eq_self,
      holder_of_stays stays acted]
    exact locked other
  cases call
  case semTake =>
    rw [act] at acted
    split at acted
    case h_2 => cases acted
    case h_1 free =>
      cases acted
      cases held : holds task with
      | true => simp [(locked task).mp held] at free
      | false =>
          rw [held] at allowed
          cases allowed
          intro other
          by_cases same : other = task
          · subst same
            simp
          · have notHeld : ¬ holds other = true := by
              rw [locked other, free]
              exact (Option.some_ne_none other).symm
            simpa [same, Ne.symm same] using notHeld
  case semGive =>
    cases held : holds task with
    | false =>
        rw [held] at allowed
        cases allowed
    | true =>
        rw [held] at allowed
        cases allowed
        have holder := (locked task).mp held
        rw [act, if_pos holder] at acted
        cases acted
        intro other
        by_cases same : other = task
        · subst same
          simp
        · have notHeld : ¬ holds other = true := by
            rw [locked other, holder, Option.some.injEq]
            exact Ne.symm same
          simpa [same] using notHeld
  all_goals exact absurd trivial stays

/-- A task waits for the semaphore or for an event. -/
theorem act_eq_none_iff {call : SnifferCall} :
    act task call shared = none ↔
      (call = .semTake ∧ shared.holder ≠ none) ∨ (call = .eventReceive ∧ shared.queue = []) := by
  cases call
  case semTake =>
    rw [act]
    split
    case h_1 free => simp [free]
    case h_2 held => simp [held]
  case eventReceive =>
    rw [act]
    split
    case h_1 empty => simp [empty]
    case h_2 waiting => simp [waiting]
  case semGive =>
    rw [act]
    split <;> simp
  case eventPostTo event =>
    rw [act]
    split <;> simp
  all_goals simp [act]

/-- A task waits for an event, and there is none. -/
def AwaitsEvent (pool : TaskPool ι) (task : ι) : Prop :=
  ∃ next, pool.threads task = some (.request .eventReceive next) ∧ pool.shared.queue = []

/-- What holds in every run of the tasks. -/
structure Running (holds : ι → Bool) (pool : TaskPool ι) : Prop where
  kept : pool.Kept act (filterContract fun _ => True)
  staged : pool.StagedAt (fun _ => lockStages) false Locked holds

theorem Running.answered (running : Running holds pool) {call : SnifferCall}
    {next : call.Response → SnifferProgram Unit} {answer : call.Response} {shared : Shared ι}
    (thread : pool.threads task = some (.request call next))
    (acted : act task call pool.shared = some (.ok (answer, shared))) :
    ∃ after, lockStages (holds task) call = some after ∧
      Running (update holds task (after answer))
        ⟨shared, update pool.threads task (some (next answer))⟩ := by
  rcases running.staged.answered locked_invariant thread acted with ⟨after, allowed, staged⟩
  have within : Program.PoolEvent.Within (Allowed fun _ => True) (.advance task) := trivial
  have taken : taskStep pool (.advance task) = _ := Program.poolStep_answered thread acted
  exact ⟨after, allowed, running.kept.step keeps_job within taken, staged⟩

/-- Once its holder has done with it, the semaphore is free. -/
theorem Running.free_of_released (running : Running holds pool) (held : holds task = true)
    {here : Bool} {after : TaskPool ι} (released : here = false)
    (running' : Running (update holds task here) after) : after.shared.holder = none := by
  cases holder : after.shared.holder with
  | none => rfl
  | some other =>
      have holds' := (running'.staged.invariant other).mpr holder
      by_cases same : other = task
      · subst same
        simp [released] at holds'
      · rw [Function.update_of_ne same] at holds'
        have before := (running.staged.invariant other).mp holds'
        rw [(running.staged.invariant task).mp held] at before
        exact absurd (Option.some.inj before).symm same

/-- The holder of the semaphore is never kept waiting, and by itself it comes to give the
semaphore back. -/
theorem Running.can_release (running : Running holds pool) (held : holds task = true) :
    ∃ later target holds', (∀ event ∈ later, event = .advance task) ∧
      exec taskStep pool later = some target ∧ Running holds' target ∧
      target.shared.holder = none ∧
      ∀ other, other ≠ task → target.threads other = pool.threads other := by
  cases thread : pool.threads task with
  | none => simp [running.staged.resting task thread] at held
  | some program =>
      induction program generalizing pool holds with
      | pure value =>
          have rested := running.staged.running task _ thread
          exact absurd (held.symm.trans rested) nofun
      | request call next ih =>
          cases acted : act task call pool.shared with
          | none =>
              rcases running.staged.running task _ thread with ⟨after, allowed, _⟩
              rw [held] at allowed
              rcases act_eq_none_iff.mp acted with ⟨rfl, _⟩ | ⟨rfl, _⟩ <;> cases allowed
          | some result =>
              rcases result with stop | ⟨answer, shared⟩
              · exact absurd ⟨call, next, stop, thread, acted⟩ (running.kept.not_halts task)
              · rcases running.answered thread acted with ⟨after, allowed, running'⟩
                have taken : taskStep pool (.advance task) = _ :=
                  Program.poolStep_answered thread acted
                have others : ∀ other, other ≠ task →
                    update pool.threads task (some (next answer)) other = pool.threads other :=
                  fun other ne => Function.update_of_ne ne _ _
                cases keeps : after answer with
                | true =>
                    have held' : update holds task (after answer) task = true := by
                      rw [Function.update_self, keeps]
                    rcases ih answer running' held' (Function.update_self ..) with
                      ⟨later, target, holds', alone, run, running'', free, others'⟩
                    refine ⟨.advance task :: later, target, holds', ?_, ?_, running'', free, ?_⟩
                    · simpa using alone
                    · rw [exec_cons, taken]
                      exact run
                    · exact fun other ne => (others' other ne).trans (others other ne)
                | false =>
                    refine ⟨[.advance task], _, _, by simp, ?_, running', ?_, others⟩
                    · rw [exec_cons, taken]
                      rfl
                    · exact running.free_of_released held keeps running'

/-- A job can be brought to its end, unless it waits for an event. -/
theorem Running.can_finish (running : Running holds pool) (task : ι) :
    ∃ later target, (∀ event ∈ later, ∃ other, event = .advance other) ∧
      exec taskStep pool later = some target ∧
      (target.threads task = none ∨ AwaitsEvent target task) := by
  cases thread : pool.threads task with
  | none => exact ⟨[], pool, nofun, rfl, .inl thread⟩
  | some program =>
      induction program generalizing pool holds with
      | pure value =>
          have taken : taskStep pool (.advance task) = _ := Program.poolStep_ended thread
          refine ⟨[.advance task], { pool with threads := update pool.threads task none },
            by simp, ?_, .inl (Function.update_self ..)⟩
          rw [exec_cons, taken]
          rfl
      | request call next ih =>
          -- once the call can be made, the rest of the program follows
          have proceed : ∀ {holds pool answer shared}, Running holds pool →
              pool.threads task = some (.request call next) →
              act task call pool.shared = some (.ok (answer, shared)) →
              ∃ later target, (∀ event ∈ later, ∃ other, event = .advance other) ∧
                exec taskStep pool later = some target ∧
                (target.threads task = none ∨ AwaitsEvent target task) := by
            intro holds pool answer shared running thread acted
            rcases running.answered thread acted with ⟨_, _, running'⟩
            rcases ih answer running' (Function.update_self ..) with
              ⟨later, target, advances, run, ended⟩
            have taken : taskStep pool (.advance task) = _ :=
              Program.poolStep_answered thread acted
            refine ⟨.advance task :: later, target, ?_, ?_, ended⟩
            · rintro event (_ | ⟨_, later⟩)
              · exact ⟨task, rfl⟩
              · exact advances event later
            · rw [exec_cons, taken]
              exact run
          cases acted : act task call pool.shared with
          | some result =>
              rcases result with stop | ⟨answer, shared⟩
              · exact absurd ⟨call, next, stop, thread, acted⟩ (running.kept.not_halts task)
              · exact proceed running thread acted
          | none =>
              rcases act_eq_none_iff.mp acted with ⟨rfl, held⟩ | ⟨rfl, empty⟩
              · rcases Option.ne_none_iff_exists'.mp held with ⟨holder, held⟩
                have holds_eq := (running.staged.invariant holder).mpr held
                have ne : task ≠ holder := by
                  rintro rfl
                  rcases running.staged.running task _ thread with ⟨after, allowed, _⟩
                  rw [holds_eq] at allowed
                  cases allowed
                rcases running.can_release holds_eq with
                  ⟨first, middle, holds', alone, run, running', free, others⟩
                have acted : act task .semTake middle.shared =
                    some (.ok (true, { middle.shared with holder := some task })) := by
                  rw [act]
                  simp [free]
                rcases proceed running' ((others task ne).trans thread) acted with
                  ⟨later, target, advances, run', ended⟩
                refine ⟨first ++ later, target, ?_, ?_, ended⟩
                · intro event inEvents
                  rcases List.mem_append.mp inEvents with inFirst | inLater
                  · exact ⟨holder, alone event inFirst⟩
                  · exact advances event inLater
                · rw [exec_append, run]
                  exact run'
              · exact ⟨[], pool, nofun, rfl, .inr ⟨next, thread, empty⟩⟩

/-- Whatever tasks have begun whatever jobs, and wherever they have come, each job can be
brought to its end by letting tasks advance, except one that waits for an event while
there is none. -/
theorem every_job_can_finish (booted : Booted shared) {events : List (TaskEvent ι)}
    (fits : Fits events) (run : exec taskStep (.idle shared) events = some pool) (task : ι) :
    ∃ later target, (∀ event ∈ later, ∃ other, event = .advance other) ∧
      exec taskStep pool later = some target ∧
      (target.threads task = none ∨ AwaitsEvent target task) := by
  have kept : pool.Kept act (filterContract fun _ => True) :=
    (booted.kept _).of_run keeps_job fits.within run
  have unlocked : Locked (fun _ => false) shared := by
    intro task
    rw [booted.free]
    simp
  have initial : (Program.Pool.idle shared : TaskPool ι).Staged (fun _ => lockStages) false
      Locked := ⟨_, .idle unlocked⟩
  rcases initial.of_run locked_invariant (fun _ job _ => passes_job job) fits.within run with
    ⟨holds, staged⟩
  exact Running.can_finish ⟨kept, staged⟩ task

/-- The packet handler has to wait while the console stores an address filter. -/
theorem every_job_can_finish_blocked :
    let events := [.start .console (.setAddr2 (.filled [170])), .start .wifi (.packet false)] ++
      advances .console 3 ++ advances .wifi 1
    ∃ pool, exec taskStep (.idle sharedAtBoot) events = some pool ∧
      taskStep pool (.advance .wifi) = none ∧
      ∃ later target, exec taskStep pool later = some target ∧
        (target.threads .wifi = none ∨ AwaitsEvent target .wifi) := by
  intro events
  have ran : (exec taskStep (.idle sharedAtBoot) events).isSome = true := rfl
  have blocked : exec taskStep (.idle sharedAtBoot) (events ++ advances .wifi 1) = none := rfl
  rcases Option.isSome_iff_exists.mp ran with ⟨pool, run⟩
  rw [exec_append, run] at blocked
  have fits : Fits events := by
    intro task addrFilter inEvents
    simp [events, advances] at inEvents
    rcases inEvents with ⟨_, rfl⟩
    decide
  rcases every_job_can_finish booted_sharedAtBoot fits run .wifi with
    ⟨later, target, _, run', ended⟩
  refine ⟨pool, run, ?_, later, target, run', ended⟩
  simpa [advances] using blocked

end Runs

end WifiSniffer.Tasks
