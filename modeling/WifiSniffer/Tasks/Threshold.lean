import WifiSniffer.Tasks.Filters

/-!
# A threshold set by several tasks

A threshold is assigned and stored without a semaphore.  The flash and the variable agree
whenever nobody is setting it, as long as no task begins with that while another one is
at it.  A click that comes while the console sets the threshold leaves them apart.
-/

namespace WifiSniffer.Tasks

open WifiSniffer.Handler WifiSniffer.Nvs WifiSniffer.Settings
open WifiSniffer.Transition (eachStep_of_forall_mem exec)
open WifiSniffer.Effect

variable {ι : Type} [DecidableEq ι]

/-- The job sets the threshold. -/
def Job.tunes : Job → Bool
  | .setRssi _ | .click => true
  | .setAddr2 _ | .packet _ | .captureStarted | .event | .wifiLibEvent => false

/-- One step of the tasks, along with the task that is setting the threshold.  Nobody
begins with that before the other one is through. -/
def tunerStep : Transition.Step (TaskPool ι × Option ι) (TaskEvent ι)
  | (pool, tuner), .start task job =>
      if job.tunes then
        match tuner with
        | none => (taskStep pool (.start task job)).map fun target => (target, some task)
        | some _ => none
      else (taskStep pool (.start task job)).map fun target => (target, tuner)
  | (pool, tuner), .advance task =>
      (taskStep pool (.advance task)).map fun target =>
        (target, if (target.threads task).isNone ∧ tuner = some task then none else tuner)

/-- At most one task may set thresholds. -/
def Only (tuner : Option ι) (task : ι) : Prop :=
  tuner = some task

variable {tuner tuner' : Option ι} {task : ι} {pool target : TaskPool ι}

omit [DecidableEq ι] in
theorem sole_only_iff : Sole (Only tuner) task ↔ tuner = some task := by
  constructor
  · intro sole
    exact (sole task).mpr rfl
  · rintro rfl other
    rw [Only, Option.some.injEq, eq_comm]

/-- While the threshold is stored, the right to set it may be given to a task that has
nothing to do, or taken from it. -/
theorem retune (kept : pool.Kept act (filterContract (Only tuner)))
    (others : ∀ other, other ≠ task → tuner ≠ some other ∧ tuner' ≠ some other)
    (idle : pool.threads task = none) (synced : RssiSynced pool.shared) :
    pool.Kept act (filterContract (Only tuner')) where
  invariant := kept.invariant
  resting other idle := ⟨(kept.resting other idle).free, fun _ => synced⟩
  running other program running := by
    have ne : other ≠ task := by
      rintro rfl
      simp [idle] at running
    rcases others other ne with ⟨before, after⟩
    have relies : ∀ first second, Rely (Only tuner') other first second →
        Rely (Only tuner) other first second := fun _ _ relied =>
      ⟨relied.consistent, relied.held, relied.free,
        fun sole => absurd (sole_only_iff.mp sole) before⟩
    have guarantees : ∀ first second, Guarantee (Only tuner) other first second →
        Guarantee (Only tuner') other first second := fun _ _ guaranteed =>
      ⟨guaranteed.consistent, guaranteed.held, guaranteed.free,
        fun _ => guaranteed.tuned before⟩
    refine ((kept.running other program running).adapt relies guarantees).mono ?_
    exact fun _ last resting =>
      ⟨resting.free, fun sole => absurd (sole_only_iff.mp sole) after⟩

/-- The threshold is stored while nobody is setting it. -/
structure Tuned (tuner : Option ι) (pool : TaskPool ι) : Prop where
  kept : pool.Kept act (filterContract (Only tuner))
  stored : tuner = none → RssiSynced pool.shared

def TunedState (state : TaskPool ι × Option ι) : Prop :=
  Tuned state.2 state.1

theorem Tuned.start (tuned : Tuned tuner pool) {job : Job}
    (allowed : Allowed (Only tuner) task job)
    (taken : taskStep pool (.start task job) = some target) : Tuned tuner target where
  kept := by
    have within : Program.PoolEvent.Within (Allowed (Only tuner)) (.start task job) := allowed
    exact tuned.kept.step keeps_job within taken
  stored none := by
    rcases Program.poolStep_cases taken with ⟨_, _, ⟨⟩, _, rfl⟩ | ⟨_, ⟨⟩, _⟩
    exact tuned.stored none

theorem Tuned.advance (tuned : Tuned tuner pool)
    (taken : taskStep pool (.advance task) = some target) : Tuned tuner target where
  kept := by
    have within : Program.PoolEvent.Within (Allowed (Only tuner)) (.advance task) := trivial
    exact tuned.kept.step keeps_job within taken
  stored none := by
    subst none
    rcases tuned.kept.advance taken with same | guaranteed
    · rw [same]
      exact tuned.stored rfl
    · exact (tuned.stored rfl).of_same (guaranteed.tuned nofun)

theorem Tuned.step (tuned : Tuned tuner pool) {event : TaskEvent ι}
    (within : event.Within (Allowed fun _ => True))
    (taken : tunerStep (pool, tuner) event = some (target, tuner')) :
    Tuned tuner' target := by
  cases event with
  | start task job =>
      unfold tunerStep at taken
      dsimp only at taken
      split at taken
      case isTrue tunes =>
        split at taken
        case h_2 => cases taken
        case h_1 =>
          rcases Option.map_eq_some_iff.mp taken with ⟨target, begun, ⟨⟩⟩
          rcases Program.poolStep_cases begun with ⟨_, _, ⟨⟩, idle, _⟩ | ⟨_, ⟨⟩, _⟩
          have others : ∀ other, other ≠ task → (none : Option ι) ≠ some other ∧
              some task ≠ some other := by
            intro other ne
            exact ⟨nofun, fun same => ne (Option.some.inj same).symm⟩
          have kept := retune tuned.kept others idle (tuned.stored rfl)
          have allowed : Allowed (Only (some task)) task job := by
            cases job <;> first | exact within | exact rfl
          exact Tuned.start ⟨kept, nofun⟩ allowed begun
      case isFalse other =>
        rcases Option.map_eq_some_iff.mp taken with ⟨target, begun, ⟨⟩⟩
        have allowed : Allowed (Only tuner) task job := by
          cases job <;> first | exact within | exact absurd rfl other
        exact tuned.start allowed begun
  | advance task =>
      rcases Option.map_eq_some_iff.mp taken with ⟨target, advanced, ⟨⟩⟩
      have tuned := tuned.advance advanced
      split
      case isFalse => exact tuned
      case isTrue ended =>
        rcases ended with ⟨idle, rfl⟩
        have idle := Option.isNone_iff_eq_none.mp idle
        have synced := (tuned.kept.resting task idle).rssi (sole_only_iff.mpr rfl)
        have others : ∀ other, other ≠ task → some task ≠ some other ∧
            (none : Option ι) ≠ some other := by
          intro other ne
          exact ⟨fun same => ne (Option.some.inj same).symm, nofun⟩
        exact ⟨retune tuned.kept others idle synced, fun _ => synced⟩

/-- As long as no task begins to set the threshold while another one is at it, no call
halts the firmware, and whenever nobody is setting it, the flash holds the threshold in
use, so that it is what a restart would read. -/
theorem threshold_stored_when_settled {shared : Shared ι} (booted : Booted shared)
    {events : List (TaskEvent ι)} (fits : Fits events)
    (run : exec tunerStep (.idle shared, none) events = some (pool, tuner)) :
    (∀ task, ¬ pool.Halts act task) ∧
      (tuner = none → ∃ store,
        wifiSnifferNvsGetFilterRssi.run Store.handle pool.shared.store =
          .ok (pool.shared.rssiFilter, store)) := by
  have initial : TunedState (.idle shared, none) := ⟨booted.kept _, fun _ => booted.rssi⟩
  have tuned : TunedState (pool, tuner) := by
    apply Transition.exec_invariant initial ?_ (eachStep_of_forall_mem fits.within) run
    exact fun source event target tuned within taken => Tuned.step tuned within taken
  exact ⟨tuned.kept.not_halts, fun settled =>
    ⟨_, run_wifiSnifferNvsGetFilterRssi (tuned.stored settled)⟩⟩

/-- A click while the console is at rest, and a threshold set by the console. -/
theorem threshold_stored_when_settled_click :
    let events := .start .button .click :: advances .button 11 ++
      .start .console (.setRssi (-60)) :: advances .console 10
    ∃ pool, exec tunerStep (.idle sharedAtBoot, none) events = some (pool, none) ∧
      pool.shared.rssiFilter = -60 ∧ ∃ store,
        wifiSnifferNvsGetFilterRssi.run Store.handle pool.shared.store = .ok (-60, store) := by
  intro events
  have ran : (exec tunerStep (.idle sharedAtBoot, none) events).map (fun state =>
      (state.1.shared.rssiFilter, state.2)) = some (-60, none) := rfl
  rcases Option.map_eq_some_iff.mp ran with ⟨⟨pool, tuner⟩, run, last⟩
  rcases Prod.mk.inj last with ⟨assigned, rfl⟩
  have fits : Fits events := by
    intro task addrFilter inEvents
    simp [events, advances] at inEvents
  have stored := (threshold_stored_when_settled booted_sharedAtBoot fits run).2 rfl
  rw [assigned] at stored
  exact ⟨pool, run, assigned, stored⟩

/-- A click that comes while the console sets the threshold.  Once both are through, the
threshold in use is not the one a restart would read. -/
theorem threshold_lost_by_overlap :
    let events := .start .console (.setRssi (-60)) :: advances .console 1 ++
      .start .button .click :: advances .button 7 ++ advances .console 9
    ∃ pool, exec taskStep (.idle sharedAtBoot) events = some pool ∧
      (∀ task, pool.threads task = none) ∧ pool.shared.rssiFilter = -96 ∧
      storedRssi pool.shared.store = -60 := by
  intro events
  have ran : (exec taskStep (.idle sharedAtBoot) events).map (fun pool =>
      (pool.shared.rssiFilter, storedRssi pool.shared.store)) = some (-96, -60) := rfl
  have ended : ∀ task, (exec taskStep (.idle sharedAtBoot) events).map
      (fun pool => (pool.threads task).isNone) = some true := by
    intro task
    cases task <;> rfl
  rcases Option.map_eq_some_iff.mp ran with ⟨pool, run, last⟩
  rcases Prod.mk.inj last with ⟨assigned, stored⟩
  exact ⟨pool, run, rested_of_run run ended, assigned, stored⟩

end WifiSniffer.Tasks
