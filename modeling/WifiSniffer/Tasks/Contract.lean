import WifiSniffer.Tasks.Code

/-!
# What tasks owe one another

An address filter is assigned and stored under `_filter_sem`, a threshold without it.  The
contract of the tasks says what each may do to the filters and to their entries in the
flash, so that the flash and the variables agree whenever nobody is between the two.

A task under the contract that goes by one entry of the flash runs there as it does by
itself.
-/

namespace WifiSniffer.Tasks

open WifiSniffer.Effect WifiSniffer.Handler WifiSniffer.Nvs WifiSniffer.Settings
open Program (Alone Asks Contract Safe)

variable {ι : Type}

/-! ## The contract -/

/-- The flash holds the address filter in use. -/
def AddrSynced (shared : Shared ι) : Prop :=
  FilterEntry shared.store addr2Key shared.addr2Filter.bytes

/-- The flash holds the threshold in use. -/
def RssiSynced (shared : Shared ι) : Prop :=
  RssiEntry shared.store shared.rssiFilter

/-- The variable and the entry of the address filter are as before. -/
def SameAddr (before after : Shared ι) : Prop :=
  after.addr2Filter = before.addr2Filter ∧
    after.store.get snifferNs addr2Key = before.store.get snifferNs addr2Key

/-- The variable and the entry of the threshold are as before. -/
def SameRssi (before after : Shared ι) : Prop :=
  after.rssiFilter = before.rssiFilter ∧
    after.store.get snifferNs rssiKey = before.store.get snifferNs rssiKey

/-- The namespace is there, and the address filter is stored unless somebody holds the
semaphore. -/
structure Consistent (shared : Shared ι) : Prop where
  created : shared.store.Has snifferNs
  addr2 : shared.holder = none → AddrSynced shared

/-- Of all tasks this one alone may set thresholds. -/
def Sole (tuners : ι → Prop) (task : ι) : Prop :=
  ∀ other, tuners other ↔ other = task

/-- Nobody touches the address filter of a task that holds the semaphore, nor takes or
gives it in its place, and nobody touches the threshold of a task that alone may set
it. -/
structure Rely (tuners : ι → Prop) (task : ι) (before after : Shared ι) : Prop where
  consistent : Consistent after
  held : before.holder = some task → after.holder = some task ∧ SameAddr before after
  free : before.holder ≠ some task → after.holder ≠ some task
  tuned : Sole tuners task → SameRssi before after

/-- A task does to all others what they rely on. -/
structure Guarantee (tuners : ι → Prop) (task : ι) (before after : Shared ι) : Prop where
  consistent : Consistent after
  held : ∀ other, task ≠ other → before.holder = some other →
    after.holder = some other ∧ SameAddr before after
  free : ∀ other, task ≠ other → before.holder ≠ some other → after.holder ≠ some other
  tuned : ¬ tuners task → SameRssi before after

/-- A task at rest has given the semaphore back, and stored the threshold if it alone may
set it. -/
structure Resting (tuners : ι → Prop) (task : ι) (shared : Shared ι) : Prop where
  free : shared.holder ≠ some task
  rssi : Sole tuners task → RssiSynced shared

section Relations

variable {first second third : Shared ι} {tuners : ι → Prop} {task : ι}

theorem SameAddr.refl (shared : Shared ι) : SameAddr shared shared :=
  ⟨rfl, rfl⟩

theorem SameRssi.refl (shared : Shared ι) : SameRssi shared shared :=
  ⟨rfl, rfl⟩

theorem SameAddr.trans (front : SameAddr first second) (back : SameAddr second third) :
    SameAddr first third :=
  ⟨back.1.trans front.1, back.2.trans front.2⟩

theorem SameRssi.trans (front : SameRssi first second) (back : SameRssi second third) :
    SameRssi first third :=
  ⟨back.1.trans front.1, back.2.trans front.2⟩

theorem AddrSynced.of_same (synced : AddrSynced first) (same : SameAddr first second) :
    AddrSynced second := by
  rw [AddrSynced, same.1]
  exact synced.of_get_eq same.2

theorem RssiSynced.of_same (synced : RssiSynced first) (same : SameRssi first second) :
    RssiSynced second := by
  rw [RssiSynced, same.1]
  exact synced.of_get_eq same.2

theorem Rely.refl (consistent : Consistent first) : Rely tuners task first first :=
  ⟨consistent, fun held => ⟨held, .refl first⟩, id, fun _ => .refl first⟩

theorem Rely.trans (front : Rely tuners task first second) (back : Rely tuners task second third) :
    Rely tuners task first third where
  consistent := back.consistent
  held held := by
    rcases front.held held with ⟨held', same⟩
    rcases back.held held' with ⟨held'', same'⟩
    exact ⟨held'', same.trans same'⟩
  free free := back.free (front.free free)
  tuned tuned := (front.tuned tuned).trans (back.tuned tuned)

theorem Resting.of_rely (resting : Resting tuners task first)
    (relied : Rely tuners task first second) : Resting tuners task second :=
  ⟨relied.free resting.free, fun tuned => (resting.rssi tuned).of_same (relied.tuned tuned)⟩

end Relations

/-- The contract of all tasks, of which some may set thresholds. -/
def filterContract (tuners : ι → Prop) : Contract ι (Shared ι) where
  invariant := Consistent
  resting := Resting tuners
  rely := Rely tuners
  guarantee := Guarantee tuners
  rely_refl := Rely.refl
  rely_trans := Rely.trans
  resting_of_rely := Resting.of_rely
  invariant_of_guarantee guaranteed := guaranteed.consistent
  rely_of_guarantee ne guaranteed :=
    ⟨guaranteed.consistent, guaranteed.held _ ne, guaranteed.free _ ne,
      fun sole => guaranteed.tuned fun tunes => ne ((sole _).mp tunes)⟩

/-! ## Calls that leave the filters alone -/

/-- A call neither assigns a filter nor goes to the flash or for the semaphore. -/
def Quiet : SnifferCall → Prop
  | .loadAddr2 | .loadRssi | .eventPostTo _ | .eventReceive | .show _ _ => True
  | .semTake | .semGive | .storeAddr2 _ | .storeRssi _ | .nvs _ => False

/-- What a post is answered. -/
def Admits : (call : SnifferCall) → call.Response → Prop
  | .eventPostTo _, err => err = .ok ∨ err = Wifi.espErrTimeout
  | _, _ => True

/-- What concerns the filters is the same. -/
structure SameFilters (before after : Shared ι) : Prop where
  store : after.store = before.store
  addr2Filter : after.addr2Filter = before.addr2Filter
  rssiFilter : after.rssiFilter = before.rssiFilter
  holder : after.holder = before.holder

section Quiet

variable {before after : Shared ι} {tuners : ι → Prop} {task : ι}

theorem SameFilters.addr (same : SameFilters before after) : SameAddr before after :=
  ⟨same.addr2Filter, congrArg (·.get snifferNs addr2Key) same.store⟩

theorem SameFilters.rssi (same : SameFilters before after) : SameRssi before after :=
  ⟨same.rssiFilter, congrArg (·.get snifferNs rssiKey) same.store⟩

theorem SameFilters.consistent (same : SameFilters before after)
    (consistent : Consistent before) : Consistent after where
  created := by
    rw [same.store]
    exact consistent.created
  addr2 free := (consistent.addr2 (same.holder ▸ free)).of_same same.addr

theorem SameFilters.guarantee (same : SameFilters before after)
    (consistent : Consistent before) : Guarantee tuners task before after where
  consistent := same.consistent consistent
  held _ _ held := ⟨same.holder.trans held, same.addr⟩
  free _ _ free := same.holder ▸ free
  tuned _ := same.rssi

theorem SameFilters.rely (same : SameFilters before after)
    (consistent : Consistent before) : Rely tuners task before after where
  consistent := same.consistent consistent
  held held := ⟨same.holder.trans held, same.addr⟩
  free free := same.holder ▸ free
  tuned _ := same.rssi

variable [DecidableEq ι]

theorem act_of_quiet {call : SnifferCall} (quiet : Quiet call)
    {result : Except Halt (call.Response × Shared ι)} (acted : act task call before = some result) :
    ∃ answer after, result = .ok (answer, after) ∧ Admits call answer ∧
      SameFilters before after := by
  cases call with
  | loadAddr2 =>
      cases acted
      exact ⟨_, before, rfl, trivial, rfl, rfl, rfl, rfl⟩
  | loadRssi =>
      cases acted
      exact ⟨_, before, rfl, trivial, rfl, rfl, rfl, rfl⟩
  | eventPostTo event =>
      rw [act] at acted
      split at acted
      · cases acted
        exact ⟨_, _, rfl, .inl rfl, rfl, rfl, rfl, rfl⟩
      · cases acted
        exact ⟨_, _, rfl, .inr rfl, rfl, rfl, rfl, rfl⟩
  | eventReceive =>
      rw [act] at acted
      split at acted
      · cases acted
      · cases acted
        exact ⟨_, _, rfl, trivial, rfl, rfl, rfl, rfl⟩
  | «show» addrFilter rssi =>
      cases acted
      exact ⟨_, _, rfl, trivial, rfl, rfl, rfl, rfl⟩
  | semTake => exact quiet.elim
  | semGive => exact quiet.elim
  | storeAddr2 addrFilter => exact quiet.elim
  | storeRssi rssi => exact quiet.elim
  | nvs call => exact quiet.elim

variable {α : Type} {program : SnifferProgram α} {post : α → Prop}

/-- A program of quiet calls leaves a task at rest. -/
theorem safe_of_quiet (quiet : Asks Admits Quiet post program) {shared : Shared ι}
    (consistent : Consistent shared) (resting : Resting tuners task shared) :
    Safe (filterContract tuners) task (act task)
      (fun value last => post value ∧ Consistent last ∧ Resting tuners task last)
      program shared := by
  refine quiet.safe ?_ ?_ ⟨consistent, resting⟩
  · rintro first second ⟨_, resting⟩ relied
    exact ⟨relied.consistent, resting.of_rely relied⟩
  · rintro call now result ⟨consistent, resting⟩ isQuiet acted
    rcases act_of_quiet isQuiet acted with ⟨answer, after, rfl, admitted, same⟩
    have relied : Rely tuners task now after := same.rely consistent
    exact ⟨answer, after, rfl, admitted, same.guarantee consistent, relied.consistent,
      resting.of_rely relied⟩

end Quiet

theorem asks_snifferPostEvent (event : SnifferEvent) :
    Asks Admits Quiet (fun _ => True) (snifferPostEvent event) := by
  apply Asks.ask_bind trivial
  rintro err (rfl | rfl)
  · exact Program.asks_pure trivial
  · exact Program.asks_pure trivial

theorem asks_snifferDisplayFilter :
    Asks Admits Quiet (fun _ => True) snifferDisplayFilter := by
  apply Asks.ask_bind trivial
  intro addrFilter _
  apply Asks.ask_bind trivial
  intro rssi _
  exact (Program.asks_ask trivial).mono fun _ _ => trivial

theorem asks_eventLoopRound : Asks Admits Quiet (fun _ => True) eventLoopRound := by
  apply Asks.ask_bind trivial
  intro event _
  cases event
  case filterChanged => exact asks_snifferDisplayFilter
  all_goals exact Program.asks_pure trivial

/-! ## Programs of the settings code -/

section Nvs

variable [DecidableEq ι] {tuners : ι → Prop} {task : ι} {α : Type} {program : NvsProgram α}
  {shared : Shared ι}

/-- What a call of the settings code does among the tasks. -/
def nvsAct (task : ι) : Program.Action NvsCall NvsCall.Response (Shared ι) Halt :=
  fun call shared => act task (.nvs call) shared

/-- A program of the settings code does among the tasks what its calls do. -/
theorem safe_nvs {post : α → Shared ι → Prop}
    (safe : Safe (filterContract tuners) task (nvsAct task) post program shared) :
    Safe (filterContract tuners) task (act task) post (nvs program) shared :=
  safe.translate fun _ _ _ answered => Program.safe_ask answered

theorem nvsAct_of_handle {call : NvsCall} {answer : call.Response} {store : Store}
    (handled : Store.handle call shared.store = .ok (answer, store)) :
    nvsAct task call shared = some (.ok (answer, { shared with store })) := by
  change some (Shared.storePart.lift shared (Store.handle call shared.store)) = _
  rw [handled]
  rfl

/-- A call of the settings code with one entry. -/
structure Wrote (key : String) (before after : Shared ι) : Prop where
  created : before.store.Has snifferNs → after.store.Has snifferNs
  others : ∀ other, other ≠ key →
    after.store.get snifferNs other = before.store.get snifferNs other
  addr2Filter : after.addr2Filter = before.addr2Filter
  rssiFilter : after.rssiFilter = before.rssiFilter
  holder : after.holder = before.holder

omit [DecidableEq ι] in
theorem wrote_of_handle {key : String} {call : NvsCall} {answer : call.Response} {store : Store}
    (isLocal : call.Local snifferNs key)
    (handled : Store.handle call shared.store = .ok (answer, store)) :
    Wrote key shared { shared with store } where
  created has := Store.has_of_handle has handled
  others _ ne := Store.get_of_handle_local isLocal handled (.inr ne)
  addr2Filter := rfl
  rssiFilter := rfl
  holder := rfl

/-- What a task sees of the flash while it goes by one entry. -/
def entryView (key : String) (shared : Shared ι) : Store :=
  shared.store.only snifferNs key

/-- While the others leave an entry alone, a program of the settings code that goes by it
runs as it does by itself. -/
theorem alone_of_entry {key : String} {good : Shared ι → Prop}
    (created : ∀ state, good state → state.store.Has snifferNs)
    (undisturbed : ∀ before after, good before → Rely tuners task before after →
      good after ∧ after.store.get snifferNs key = before.store.get snifferNs key)
    (wrote : ∀ before after, good before → Wrote key before after →
      Guarantee tuners task before after ∧ good after) :
    Alone (filterContract tuners) task (nvsAct task) good (entryView key) Store.handle
      (NvsCall.Local snifferNs key) where
  undisturbed := by
    intro before after holds relied
    rcases undisturbed before after holds relied with ⟨holds', get_eq⟩
    exact ⟨holds', Store.only_eq_of_get_eq (created before holds) (created after holds') get_eq⟩
  acts := by
    intro call state answer seen holds isLocal handled
    rcases Store.handle_only isLocal handled with ⟨store, handled', rfl⟩
    rcases wrote state _ holds (wrote_of_handle isLocal handled') with ⟨guaranteed, holds'⟩
    exact ⟨_, nvsAct_of_handle handled', guaranteed, holds', rfl⟩

end Nvs

end WifiSniffer.Tasks
