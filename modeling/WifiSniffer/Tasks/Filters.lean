import WifiSniffer.Settings.Entries
import WifiSniffer.Tasks.Contract

/-!
# Filters set by several tasks

Whatever tasks set address filters, and however their calls come to lie between one
another, the flash and the variable agree whenever the semaphore is free, and nothing is
halted.
-/

namespace WifiSniffer.Tasks

open WifiSniffer.Effect WifiSniffer.Handler WifiSniffer.Nvs WifiSniffer.Settings
open WifiSniffer.Transition (eachStep_of_forall_mem exec)
open Program (Alone Asks Keeps Safe)

variable {ι : Type}

/-! ## An address filter is set -/

section SetAddr2

variable {tuners : ι → Prop} {task : ι}

/-- A task has the semaphore. -/
structure Holding (tuners : ι → Prop) (task : ι) (shared : Shared ι) : Prop where
  created : shared.store.Has snifferNs
  held : shared.holder = some task
  rssi : Sole tuners task → RssiSynced shared

theorem Holding.of_rely {before after : Shared ι} (holding : Holding tuners task before)
    (relied : Rely tuners task before after) : Holding tuners task after where
  created := relied.consistent.created
  held := (relied.held holding.held).1
  rssi tuned := (holding.rssi tuned).of_same (relied.tuned tuned)

/-- As long as it keeps the semaphore, a task may do with the address filter what it
likes. -/
theorem Holding.guarantee {before after : Shared ι} (holding : Holding tuners task before)
    (holding' : Holding tuners task after) (same : SameRssi before after) :
    Guarantee tuners task before after where
  consistent := ⟨holding'.created, fun free => by simp [holding'.held] at free⟩
  held other ne held := absurd (Option.some.inj (holding.held.symm.trans held)) ne
  free other ne _ held := absurd (Option.some.inj (holding'.held.symm.trans held)) ne
  tuned _ := same

variable [DecidableEq ι] {shared : Shared ι} {addrFilter : AddrFilter}

theorem safe_semTake (resting : Resting tuners task shared) :
    Safe (filterContract tuners) task (act task)
      (fun taken last => taken = true ∧ Holding tuners task last ∧ AddrSynced last)
      (ask .semTake) shared := by
  apply Program.safe_ask
  intro now relied result acted
  have resting := resting.of_rely relied
  rw [act] at acted
  split at acted
  case h_1 free =>
    cases acted
    have synced := relied.consistent.addr2 free
    have taken : some task ≠ none := Option.some_ne_none task
    refine ⟨_, _, rfl, ⟨⟨relied.consistent.created, (absurd · taken)⟩, ?_, ?_, ?_⟩, rfl,
      ⟨relied.consistent.created, rfl, resting.rssi⟩, synced⟩
    · intro other _ held
      rw [free] at held
      cases held
    · intro other ne _ held
      exact ne (Option.some.inj held)
    · exact fun _ => .refl now
  case h_2 => cases acted

/-- The semaphore may be given back once the address filter is stored. -/
theorem safe_semGive (holding : Holding tuners task shared) (synced : AddrSynced shared) :
    Safe (filterContract tuners) task (act task)
      (fun _ last => Consistent last ∧ Resting tuners task last) (ask .semGive) shared := by
  apply Program.safe_ask
  intro now relied result acted
  have holding' := holding.of_rely relied
  have synced' : AddrSynced now := synced.of_same (relied.held holding.held).2
  rw [act, if_pos holding'.held] at acted
  cases acted
  have consistent : Consistent { now with holder := none } :=
    ⟨holding'.created, fun _ => synced'⟩
  refine ⟨_, _, rfl, ⟨consistent, ?_, ?_, ?_⟩, consistent,
    (Option.some_ne_none task).symm, holding'.rssi⟩
  · intro other ne held
    exact absurd (Option.some.inj (holding'.held.symm.trans held)) ne
  · exact fun other _ _ => (Option.some_ne_none other).symm
  · exact fun _ => ⟨rfl, rfl⟩

theorem safe_storeAddr2 (holding : Holding tuners task shared) (synced : AddrSynced shared) :
    Safe (filterContract tuners) task (act task)
      (fun _ last => Holding tuners task last ∧ last.addr2Filter = addrFilter ∧
        ∃ data, FilterEntry last.store addr2Key data)
      (ask (.storeAddr2 addrFilter)) shared := by
  apply Program.safe_ask
  intro now relied result acted
  have holding' := holding.of_rely relied
  have synced' : AddrSynced now := synced.of_same (relied.held holding.held).2
  cases acted
  have after : Holding tuners task { now with addr2Filter := addrFilter } :=
    ⟨holding'.created, holding'.held, holding'.rssi⟩
  exact ⟨_, _, rfl, holding'.guarantee after ⟨rfl, rfl⟩, after, rfl, _, synced'⟩

/-- Under the semaphore, an address filter is stored as if nobody else were there. -/
theorem safe_wifiSnifferNvsSetFilterMac (fits : addrFilter.size ≤ 6)
    (holding : Holding tuners task shared) (assigned : shared.addr2Filter = addrFilter)
    (entry : ∃ data, FilterEntry shared.store addr2Key data) :
    Safe (filterContract tuners) task (act task)
      (fun _ last => Holding tuners task last ∧ AddrSynced last)
      (nvs (wifiSnifferNvsSetFilterMac addr2Key addrFilter)) shared := by
  rcases entry with ⟨data, entry⟩
  have alone : Alone (filterContract tuners) task (nvsAct task)
      (fun state => Holding tuners task state ∧ state.addr2Filter = addrFilter)
      (entryView addr2Key) Store.handle (NvsCall.Local snifferNs addr2Key) := by
    apply alone_of_entry
    · exact fun state good => good.1.created
    · rintro before after ⟨holding, assigned⟩ relied
      have same := (relied.held holding.held).2
      exact ⟨⟨holding.of_rely relied, same.1.trans assigned⟩, same.2⟩
    · rintro before after ⟨holding, assigned⟩ wrote
      have same : SameRssi before after := ⟨wrote.rssiFilter, wrote.others rssiKey (by decide)⟩
      have after' : Holding tuners task after :=
        ⟨wrote.created holding.created, wrote.holder.trans holding.held,
          fun tuned => (holding.rssi tuned).of_same same⟩
      exact ⟨holding.guarantee after' same, after', wrote.addr2Filter.trans assigned⟩
  have seen : FilterEntry (entryView addr2Key shared) addr2Key data :=
    entry.of_get_eq (Store.get_only _ _ _)
  rcases run_wifiSnifferNvsSetFilterMac seen fits with ⟨next, ran, stored, _⟩
  have each : Program.EachRequest Store.handle (NvsCall.Local snifferNs addr2Key)
      (wifiSnifferNvsSetFilterMac addr2Key addrFilter) (entryView addr2Key shared) :=
    (asks_wifiSnifferNvsSetFilterMac addr2Key addrFilter).eachRequest
      (fun _ _ _ _ => Store.answers_of_handle) _
  refine safe_nvs ((alone.safe ⟨holding, assigned⟩ each ran).mono ?_)
  rintro _ last ⟨rfl, ⟨holding, rfl⟩, rfl⟩
  exact ⟨holding, stored.of_get_eq (Store.get_only _ _ _).symm⟩

theorem keeps_setAddr2 (fits : addrFilter.size ≤ 6) :
    Keeps act (filterContract tuners) task (snifferSetAddr2Filter addrFilter) := by
  intro state _ resting
  have set : Safe (filterContract tuners) task (act task)
      (fun _ last => Consistent last ∧ Resting tuners task last)
      (snifferSetFilter addr2Key addrFilter) state := by
    apply (safe_semTake resting).bind
    rintro taken last ⟨rfl, holding, synced⟩
    apply (safe_storeAddr2 holding synced).bind
    rintro _ last ⟨holding, assigned, entry⟩
    apply (safe_wifiSnifferNvsSetFilterMac fits holding assigned entry).bind
    rintro _ last ⟨holding, synced⟩
    exact (safe_semGive holding synced).bind fun _ _ rested => Program.safe_pure rested
  apply set.bind
  rintro set last ⟨consistent, resting⟩
  cases set with
  | false => exact Program.safe_pure resting
  | true =>
      refine (safe_of_quiet (asks_snifferPostEvent .filterChanged) consistent resting).mono ?_
      exact fun _ _ ended => ended.2.2

end SetAddr2

/-! ## A threshold is set -/

section SetRssi

variable {tuners : ι → Prop} {task : ι}

/-- A task has assigned a threshold and not yet stored it. -/
structure Tuning (tuners : ι → Prop) (task : ι) (rssi : Int8) (shared : Shared ι) : Prop where
  consistent : Consistent shared
  free : shared.holder ≠ some task
  assigned : Sole tuners task → shared.rssiFilter = rssi

theorem Tuning.of_rely {before after : Shared ι} {rssi : Int8}
    (tuning : Tuning tuners task rssi before) (relied : Rely tuners task before after) :
    Tuning tuners task rssi after where
  consistent := relied.consistent
  free := relied.free tuning.free
  assigned tuned := (relied.tuned tuned).1.trans (tuning.assigned tuned)

/-- What a task that may set thresholds does with them is nothing that another task relies
on. -/
theorem guarantee_of_tunes {before after : Shared ι} (tunes : tuners task)
    (consistent : Consistent before) (has : after.store.Has snifferNs)
    (same : SameAddr before after) (holder : after.holder = before.holder) :
    Guarantee tuners task before after where
  consistent := ⟨has, fun free => (consistent.addr2 (holder ▸ free)).of_same same⟩
  held _ _ held := ⟨holder.trans held, same⟩
  free _ _ free := holder ▸ free
  tuned notTunes := absurd tunes notTunes

theorem Wrote.tuning {before after : Shared ι} {rssi : Int8} (wrote : Wrote rssiKey before after)
    (tunes : tuners task) (tuning : Tuning tuners task rssi before) :
    Guarantee tuners task before after ∧ Tuning tuners task rssi after := by
  have same : SameAddr before after := ⟨wrote.addr2Filter, wrote.others addr2Key (by decide)⟩
  have guaranteed : Guarantee tuners task before after := guarantee_of_tunes tunes
    tuning.consistent (wrote.created tuning.consistent.created) same wrote.holder
  exact ⟨guaranteed, guaranteed.consistent, wrote.holder ▸ tuning.free,
    fun tuned => wrote.rssiFilter.trans (tuning.assigned tuned)⟩

variable [DecidableEq ι] {shared : Shared ι} {rssi : Int8}

theorem safe_storeRssi (tunes : tuners task) (resting : Resting tuners task shared) :
    Safe (filterContract tuners) task (act task)
      (fun _ last => Tuning tuners task rssi last ∧
        (Sole tuners task → ∃ prevRssi, RssiEntry last.store prevRssi))
      (ask (.storeRssi rssi)) shared := by
  apply Program.safe_ask
  intro now relied result acted
  have resting := resting.of_rely relied
  cases acted
  have guaranteed : Guarantee tuners task now { now with rssiFilter := rssi } :=
    guarantee_of_tunes tunes relied.consistent relied.consistent.created ⟨rfl, rfl⟩ rfl
  exact ⟨_, _, rfl, guaranteed, ⟨guaranteed.consistent, resting.free, fun _ => rfl⟩,
    fun tuned => ⟨_, resting.rssi tuned⟩⟩

/-- Storing a threshold goes well among other tasks, and if nobody else sets thresholds,
the threshold is then stored. -/
theorem safe_wifiSnifferNvsSetFilterRssi (nonzero : rssi ≠ 0) (tunes : tuners task)
    (tuning : Tuning tuners task rssi shared)
    (entry : Sole tuners task → ∃ prevRssi, RssiEntry shared.store prevRssi) :
    Safe (filterContract tuners) task (act task)
      (fun _ last => Consistent last ∧ Resting tuners task last)
      (nvs (wifiSnifferNvsSetFilterRssi rssi)) shared := by
  apply safe_nvs
  by_cases tuned : Sole tuners task
  · rcases entry tuned with ⟨prevRssi, entry⟩
    have alone : Alone (filterContract tuners) task (nvsAct task) (Tuning tuners task rssi)
        (entryView rssiKey) Store.handle (NvsCall.Local snifferNs rssiKey) := by
      apply alone_of_entry
      · exact fun state good => good.consistent.created
      · exact fun before after tuning relied => ⟨tuning.of_rely relied, (relied.tuned tuned).2⟩
      · exact fun before after tuning wrote => wrote.tuning tunes tuning
    have seen : RssiEntry (entryView rssiKey shared) prevRssi :=
      entry.of_get_eq (Store.get_only _ _ _)
    rcases run_wifiSnifferNvsSetFilterRssi seen nonzero with ⟨next, ran, stored, _⟩
    have each : Program.EachRequest Store.handle (NvsCall.Local snifferNs rssiKey)
        (wifiSnifferNvsSetFilterRssi rssi) (entryView rssiKey shared) :=
      ((asks_wifiSnifferNvsSetFilterRssi rssi).imp fun _ => And.left).eachRequest
        (fun _ _ _ _ => Store.answers_of_handle) _
    refine (alone.safe tuning each ran).mono ?_
    rintro _ last ⟨rfl, tuning, rfl⟩
    have synced : RssiSynced last := by
      rw [RssiSynced, tuning.assigned tuned]
      exact stored.of_get_eq (Store.get_only _ _ _).symm
    exact ⟨tuning.consistent, tuning.free, fun _ => synced⟩
  · refine ((asks_wifiSnifferNvsSetFilterRssi rssi).safe
      (fun _ _ => Tuning.of_rely) ?_ tuning).mono ?_
    · rintro call now result tuning ⟨isLocal, unfailing⟩ acted
      rcases unfailing.handle now.store with ⟨answer, store, handled⟩
      rw [nvsAct_of_handle handled] at acted
      cases acted
      rcases (wrote_of_handle isLocal handled).tuning tunes tuning with ⟨guaranteed, tuning⟩
      exact ⟨answer, _, rfl, Store.answers_of_handle handled, guaranteed, tuning⟩
    · rintro _ last ⟨_, tuning⟩
      exact ⟨tuning.consistent, tuning.free, fun tuned' => absurd tuned' tuned⟩

theorem keeps_setRssi (tunes : tuners task) :
    Keeps act (filterContract tuners) task (snifferSetRssiFilter rssi) := by
  intro state _ resting
  apply (safe_storeRssi tunes resting).bind
  rintro _ last ⟨tuning, entry⟩
  have nonzero : (if rssi = 0 then snifferRssiFilterDefault else rssi) ≠ 0 :=
    effectiveRssi_ne_zero rssi
  apply (safe_wifiSnifferNvsSetFilterRssi nonzero tunes tuning entry).bind
  rintro _ last ⟨consistent, resting⟩
  refine (safe_of_quiet (asks_snifferPostEvent .filterChanged) consistent resting).mono ?_
  exact fun _ _ ended => ended.2.2

theorem keeps_click (tunes : tuners task) :
    Keeps act (filterContract tuners) task buttonSingleClickCb := by
  intro state consistent resting
  have reads : Asks Admits Quiet (fun _ => True) (ask .loadRssi) :=
    (Program.asks_ask trivial).mono fun _ _ => trivial
  apply (safe_of_quiet reads consistent resting).bind
  rintro rssi last ⟨_, consistent, resting⟩
  exact keeps_setRssi tunes last consistent resting

end SetRssi

/-! ## The other jobs -/

section Jobs

variable [DecidableEq ι] {tuners : ι → Prop} {task : ι}

theorem keeps_of_quiet {program : SnifferProgram Unit}
    (quiet : Asks Admits Quiet (fun _ => True) program) :
    Keeps act (filterContract tuners) task program := by
  intro state consistent resting
  exact (safe_of_quiet quiet consistent resting).mono fun _ _ ended => ended.2.2

/-- The packet handler takes the semaphore and gives it back at once. -/
theorem keeps_packet (full : Bool) :
    Keeps act (filterContract tuners) task (wifiSnifferPacketHandler full) := by
  intro state consistent resting
  have reads : ∀ call, Quiet call → Asks Admits Quiet (fun _ => True) (ask call) :=
    fun _ quiet => (Program.asks_ask quiet).mono fun _ _ => trivial
  apply (safe_of_quiet (reads .loadRssi trivial) consistent resting).bind
  rintro _ last ⟨_, _, resting⟩
  apply (safe_semTake resting).bind
  rintro taken last ⟨rfl, holding, synced⟩
  apply (safe_semGive holding synced).bind
  rintro _ last ⟨consistent, resting⟩
  apply (safe_of_quiet (reads .loadAddr2 trivial) consistent resting).bind
  rintro _ last ⟨_, consistent, resting⟩
  split
  · exact keeps_of_quiet (asks_snifferPostEvent .queueFull) last consistent resting
  · exact Program.safe_pure resting

/-- An address filter that is set has room in its array, and thresholds are set by tasks
that may do so. -/
def Allowed (tuners : ι → Prop) (task : ι) : Job → Prop
  | .setAddr2 addrFilter => addrFilter.size ≤ 6
  | .setRssi _ | .click => tuners task
  | .packet _ | .captureStarted | .event | .wifiLibEvent => True

theorem keeps_job (task : ι) (job : Job) (allowed : Allowed tuners task job) :
    Keeps act (filterContract tuners) task job.code := by
  cases job with
  | setAddr2 addrFilter => exact keeps_setAddr2 allowed
  | setRssi rssi => exact keeps_setRssi allowed
  | click => exact keeps_click allowed
  | packet full => exact keeps_packet full
  | captureStarted => exact keeps_of_quiet (asks_snifferPostEvent .captureStarted)
  | event => exact keeps_of_quiet asks_eventLoopRound
  | wifiLibEvent => exact keeps_of_quiet asks_snifferDisplayFilter

end Jobs

/-! ## Runs -/

section Runs

variable [DecidableEq ι] {shared : Shared ι} {pool : TaskPool ι}

/-- The filters that are set have room in their array. -/
def Fits (events : List (TaskEvent ι)) : Prop :=
  ∀ task addrFilter, .start task (.setAddr2 addrFilter) ∈ events → addrFilter.size ≤ 6

omit [DecidableEq ι] in
theorem Fits.within {events : List (TaskEvent ι)} (fits : Fits events) :
    ∀ event ∈ events, event.Within (Allowed fun _ => True) := by
  intro event inEvents
  cases event with
  | advance task => trivial
  | start task job =>
      cases job with
      | setAddr2 addrFilter => exact fits task addrFilter inEvents
      | _ => trivial

/-- What is shared once the boot has read the filters. -/
structure Booted (shared : Shared ι) : Prop where
  created : shared.store.Has snifferNs
  free : shared.holder = none
  addr2 : AddrSynced shared
  rssi : RssiSynced shared

omit [DecidableEq ι] in
/-- A boot that comes through leaves the tasks what they need. -/
theorem booted_of_snifferInitConfig {store booted : Store} {ram : Filters} {ownMac : AddrFilter}
    (full : ownMac.size = 6) (addr2 : ∃ data, FilterEntry store addr2Key data)
    (threshold : ∃ rssi, RssiEntry store rssi)
    (boot : (snifferInitConfig filtersAtPowerUp ownMac).run Store.handle store =
      .ok (ram, booted))
    (store_eq : shared.store = booted) (addr2_eq : shared.addr2Filter = ram.addr2Filter)
    (rssi_eq : shared.rssiFilter = ram.rssiFilter) (free : shared.holder = none) :
    Booted shared := by
  rcases addr2 with ⟨data, addr2⟩
  rcases threshold with ⟨rssi, threshold⟩
  have created := guarantees_has_snifferInitConfig filtersAtPowerUp ownMac ram booted boot
  have readable : Readable store data rssi := ⟨ownEntry_of_boot boot, addr2, threshold⟩
  rcases readable.boot full with ⟨next, ran, readable⟩
  rw [boot] at ran
  cases ran
  constructor
  · rw [store_eq]
    exact created
  · exact free
  · rw [AddrSynced, store_eq, addr2_eq, AddrFilter.filled_bytes]
    exact readable.addr2
  · rw [RssiSynced, store_eq, rssi_eq]
    exact readable.rssi

/-- Erased flash, on which only the namespace has been created. -/
def sharedAtBoot : Shared SnifferTask where
  store := Store.empty.create snifferNs
  addr2Filter := .filled []
  rssiFilter := snifferRssiFilterDefault
  holder := none
  queue := []
  refused := []
  shown := []

theorem booted_sharedAtBoot : Booted sharedAtBoot where
  created := Store.has_create _ _
  free := rfl
  addr2 := ⟨Nat.zero_le 6, .inr ⟨rfl, rfl⟩⟩
  rssi := ⟨by decide, .inr ⟨rfl, rfl⟩⟩

theorem Booted.kept (booted : Booted shared) (tuners : ι → Prop) :
    Program.Pool.Kept act (filterContract tuners) (.idle shared) := by
  have free : ∀ task, shared.holder ≠ some task := by
    intro task
    rw [booted.free]
    nofun
  exact .idle ⟨booted.created, fun _ => booted.addr2⟩ fun task => ⟨free task, fun _ => booted.rssi⟩

/-- However many tasks set filters, and in whatever order their calls come, no call halts
the firmware, and whenever `_filter_sem` is free, the flash holds the address filter in
use, so that it is what a restart would read. -/
theorem address_filter_stored_when_free (booted : Booted shared) {events : List (TaskEvent ι)}
    (fits : Fits events) (run : exec taskStep (.idle shared) events = some pool) :
    (∀ task, ¬ pool.Halts act task) ∧
      (pool.shared.holder = none →
        (wifiSnifferNvsGetFilterMac addr2Key).run Store.handle pool.shared.store =
          .ok (.filled pool.shared.addr2Filter.bytes, pool.shared.store)) := by
  have kept : pool.Kept act (filterContract fun _ => True) :=
    (booted.kept _).of_run keeps_job fits.within run
  exact ⟨kept.not_halts, fun free =>
    run_wifiSnifferNvsGetFilterMac (kept.invariant.addr2 free)⟩

/-- Calls of one task in a row. -/
def advances (task : SnifferTask) (count : Nat) : List (TaskEvent SnifferTask) :=
  List.replicate count (.advance task)

/-- All tasks of the firmware are at rest after a run. -/
theorem rested_of_run {shared : Shared SnifferTask} {events : List (TaskEvent SnifferTask)}
    {pool : TaskPool SnifferTask} (run : exec taskStep (.idle shared) events = some pool)
    (ended : ∀ task, (exec taskStep (.idle shared) events).map
      (fun pool => (pool.threads task).isNone) = some true) (task : SnifferTask) :
    pool.threads task = none := by
  have ended := ended task
  rw [run] at ended
  exact Option.isNone_iff_eq_none.mp (Option.some.inj ended)

/-- Two address filters are set one into the other, with a packet in between. -/
theorem address_filter_stored_when_free_overlap :
    let events := [.start .console (.setAddr2 (.filled [170, 187])),
      .start .button (.setAddr2 (.filled [204])), .start .wifi (.packet false)] ++
      advances .console 2 ++ advances .wifi 1 ++ advances .console 13 ++ advances .wifi 4 ++
      advances .button 15
    ∃ pool, exec taskStep (.idle sharedAtBoot) events = some pool ∧
      pool.shared.addr2Filter.bytes = [204] ∧
      (wifiSnifferNvsGetFilterMac addr2Key).run Store.handle pool.shared.store =
        .ok (.filled [204], pool.shared.store) := by
  intro events
  have ran : (exec taskStep (.idle sharedAtBoot) events).map (fun pool =>
      (pool.shared.holder, pool.shared.addr2Filter.bytes)) = some (none, [204]) := rfl
  rcases Option.map_eq_some_iff.mp ran with ⟨pool, run, last⟩
  rcases Prod.mk.inj last with ⟨free, assigned⟩
  have fits : Fits events := by
    intro task addrFilter inEvents
    simp [events, advances] at inEvents
    rcases inEvents with ⟨_, rfl⟩ | ⟨_, rfl⟩
    · decide
    · decide
  have stored := (address_filter_stored_when_free booted_sharedAtBoot fits run).2 free
  rw [assigned] at stored
  exact ⟨pool, run, assigned, stored⟩

end Runs

end WifiSniffer.Tasks
