import WifiSniffer.Tasks.Progress

/-!
# What is shown of the filters

Whoever assigns a filter owes a `FILTER_CHANGED`.  The loop that gets it reads the filters
one after the other, while others may assign them again, and puts out what it has read.
If none of these events was refused, the last line of the loop names the filters in use
as soon as all tasks have come to rest.

The loop of the Wi-Fi library shows the filters as well, and nobody tells it that they
have changed.
-/

namespace WifiSniffer.Tasks

open Function (update)
open WifiSniffer.Effect WifiSniffer.Handler WifiSniffer.Nvs WifiSniffer.Settings
open WifiSniffer.Transition (exec)
open Program (Calls Passes Stages)

variable {ι : Type} [DecidableEq ι]

/-! ## Stages -/

/-- What a task has still to do about the line with the filters. -/
inductive DisplayStage where
  | clear
  /-- It has assigned a filter and not yet said so. -/
  | owes
  /-- It has got a `FILTER_CHANGED`. -/
  | told
  /-- It has read the address filter. -/
  | readAddr (addrFilter : AddrFilter)
  /-- It has read both filters. -/
  | readBoth (addrFilter : AddrFilter) (rssi : Int8)

open Classical in
/-- How calls lead on.  Only the task that reads the events receives them, and it puts out
nothing but what it has read. -/
noncomputable def displayStages (reader task : ι) :
    Stages SnifferCall SnifferCall.Response DisplayStage
  | .told, .loadAddr2 => some fun addrFilter => .readAddr addrFilter
  | .told, _ => none
  | .readAddr addrFilter, .loadRssi => some fun rssi => .readBoth addrFilter rssi
  | .readAddr _, _ => none
  | .readBoth addrFilter rssi, .show addrFilter' rssi' =>
      if addrFilter' = addrFilter ∧ rssi' = rssi then some fun _ => .clear else none
  | .readBoth _ _, _ => none
  | .clear, .eventReceive =>
      if task = reader then
        some fun event => if event = .filterChanged then .told else .clear
      else none
  | .owes, .eventReceive => none
  | _, .storeAddr2 _ | _, .storeRssi _ => some fun _ => .owes
  | here, .eventPostTo event => some fun _ => if event = .filterChanged then .clear else here
  | here, .show _ _ => if task = reader then none else some fun _ => here
  | here, _ => some fun _ => here

/-- A task that has nothing to show. -/
def DisplayStage.Open (here : DisplayStage) : Prop :=
  here = .clear ∨ here = .owes

section Passes

variable {reader task : ι} {here : DisplayStage}

theorem display_nvs {α : Type} (isOpen : here.Open) (program : NvsProgram α) :
    Passes (displayStages reader task) (fun _ last => last = here) here (nvs program) := by
  have calls : Calls (fun _ => True) program := Program.calls_of_forall fun _ => trivial
  have calls : Calls (fun call => displayStages reader task here call = some fun _ => here)
      (nvs program) := by
    apply calls.translate
    intro call _
    rcases isOpen with rfl | rfl <;> exact Program.calls_ask rfl
  exact calls.passes

theorem display_snifferPostEvent (isOpen : here.Open) (event : SnifferEvent) :
    Passes (displayStages reader task)
      (fun _ last => last = if event = .filterChanged then .clear else here) here
      (snifferPostEvent event) := by
  have allowed : displayStages reader task here (.eventPostTo event) =
      some fun _ => if event = .filterChanged then .clear else here := by
    rcases isOpen with rfl | rfl <;> rfl
  have isOpen' : DisplayStage.Open (if event = .filterChanged then .clear else here) := by
    split
    · exact .inl rfl
    · exact isOpen
  apply Passes.ask_bind allowed
  intro err
  by_cases timeout : err = Wifi.espErrTimeout
  · rw [if_pos timeout]
    exact Program.passes_pure rfl
  · rw [if_neg timeout]
    exact display_nvs isOpen' _

theorem display_snifferSetFilter (key : String) (addrFilter : AddrFilter) :
    Passes (displayStages reader task)
      (fun set last => last = if set then .owes else .clear) .clear
      (snifferSetFilter key addrFilter) := by
  apply Passes.ask_bind rfl
  intro taken
  cases taken with
  | false => exact Program.passes_pure rfl
  | true =>
      apply Passes.ask_bind rfl
      intro _
      apply (display_nvs (.inr rfl) _).bind
      rintro _ _ rfl
      apply Passes.ask_bind rfl
      exact fun _ => Program.passes_pure rfl

theorem display_snifferSetRssiFilter (rssi : Int8) :
    Passes (displayStages reader task) (fun _ last => last = .clear) .clear
      (snifferSetRssiFilter rssi) := by
  apply Passes.ask_bind rfl
  intro _
  apply (display_nvs (.inr rfl) _).bind
  rintro _ _ rfl
  exact display_snifferPostEvent (.inr rfl) .filterChanged

theorem display_wifiSnifferPacketHandler (full : Bool) :
    Passes (displayStages reader task) (fun _ last => last = .clear) .clear
      (wifiSnifferPacketHandler full) := by
  have counted : Passes (displayStages reader task) (fun _ last => last = .clear) .clear
      (if full then snifferPostEvent .queueFull else pure ()) := by
    split
    · exact display_snifferPostEvent (.inl rfl) .queueFull
    · exact Program.passes_pure rfl
  apply Passes.ask_bind rfl
  intro _
  apply Passes.ask_bind rfl
  intro taken
  cases taken with
  | false => exact counted
  | true =>
      apply Passes.ask_bind rfl
      intro _
      apply Passes.ask_bind rfl
      exact fun _ => counted

/-- The reader shows what it has read. -/
theorem display_told :
    Passes (displayStages reader task) (fun _ last => last = .clear) .told
      snifferDisplayFilter := by
  apply Passes.ask_bind rfl
  intro addrFilter
  apply Passes.ask_bind rfl
  intro rssi
  have allowed : displayStages reader task (.readBoth addrFilter rssi) (.show addrFilter rssi) =
      some fun _ => .clear := if_pos ⟨rfl, rfl⟩
  exact Program.passes_ask allowed

/-- One task reads the events, and shows the filters for no other reason. -/
def Reads (reader task : ι) : Job → Prop
  | .event => task = reader
  | .wifiLibEvent => task ≠ reader
  | .setAddr2 _ | .setRssi _ | .click | .packet _ | .captureStarted => True

theorem display_job (task : ι) (job : Job) (reads : Reads reader task job) :
    Passes (displayStages reader task) (fun _ last => last = .clear) .clear job.code := by
  cases job with
  | setAddr2 addrFilter =>
      apply (display_snifferSetFilter addr2Key addrFilter).bind
      rintro set _ rfl
      cases set with
      | false => exact Program.passes_pure rfl
      | true => exact display_snifferPostEvent (.inr rfl) .filterChanged
  | setRssi rssi => exact display_snifferSetRssiFilter rssi
  | click =>
      apply Passes.ask_bind rfl
      exact fun rssi => display_snifferSetRssiFilter (clickedRssi rssi)
  | packet full => exact display_wifiSnifferPacketHandler full
  | captureStarted => exact display_snifferPostEvent (.inl rfl) .captureStarted
  | event =>
      have allowed : displayStages reader task .clear .eventReceive =
          some fun event => if event = .filterChanged then .told else .clear := if_pos reads
      apply Passes.ask_bind allowed
      intro event
      cases event with
      | filterChanged => exact display_told
      | _ => exact Program.passes_pure rfl
  | wifiLibEvent =>
      apply Passes.ask_bind rfl
      intro addrFilter
      apply Passes.ask_bind rfl
      intro rssi
      have allowed : displayStages reader task .clear (.show addrFilter rssi) =
          some fun _ => .clear := if_neg reads
      exact Program.passes_ask allowed

end Passes

/-! ## The last line -/

section Fresh

variable {reader task : ι} {stages : ι → DisplayStage} {shared next : Shared ι}

/-- The last line that a task has put out. -/
def lastLine (task : ι) (shared : Shared ι) : Option (AddrFilter × Int8) :=
  ((shared.shown.filter fun line => line.1 = task).getLast?).map Prod.snd

/-- Somebody is still to be told of a change, or was to be told and there was no room. -/
def Pending (stages : ι → DisplayStage) (shared : Shared ι) : Prop :=
  .filterChanged ∈ shared.queue ∨ .filterChanged ∈ shared.refused ∨
    ∃ task, stages task = .owes

/-- What the reader has read of the filters is up to date, or else its last line is. -/
def Current (reader : ι) (shared : Shared ι) : DisplayStage → Prop
  | .told => True
  | .readAddr addrFilter => addrFilter = shared.addr2Filter
  | .readBoth addrFilter rssi => addrFilter = shared.addr2Filter ∧ rssi = shared.rssiFilter
  | .clear | .owes => lastLine reader shared = some (shared.addr2Filter, shared.rssiFilter)

def Fresh (reader : ι) (stages : ι → DisplayStage) (shared : Shared ι) : Prop :=
  Pending stages shared ∨ Current reader shared (stages reader)

/-- A line of another task is not the reader's. -/
theorem lastLine_of_ne {shown : List (ι × AddrFilter × Int8)} {line : AddrFilter × Int8}
    (ne : task ≠ reader) (shown_eq : next.shown = shown ++ [(task, line)])
    (before : shared.shown = shown) : lastLine reader next = lastLine reader shared := by
  rw [lastLine, lastLine, shown_eq, before, List.filter_append]
  simp [ne]

theorem lastLine_self {shown : List (ι × AddrFilter × Int8)} {line : AddrFilter × Int8}
    (shown_eq : next.shown = shown ++ [(reader, line)]) : lastLine reader next = some line := by
  rw [lastLine, shown_eq, List.filter_append]
  simp

/-- A call changes neither the filters nor the lines of the reader. -/
structure SameLine (reader : ι) (before after : Shared ι) : Prop where
  addr2Filter : after.addr2Filter = before.addr2Filter
  rssiFilter : after.rssiFilter = before.rssiFilter
  line : lastLine reader after = lastLine reader before

theorem SameLine.current (same : SameLine reader shared next) {here : DisplayStage}
    (current : Current reader shared here) : Current reader next here := by
  rcases same with ⟨addr, rssi, line⟩
  cases here <;> simp only [Current, addr, rssi, line] at current ⊢ <;> exact current

/-- A task that owes nothing goes on to a stage in which it owes nothing. -/
theorem Pending.update (pending : Pending stages shared) {here : DisplayStage}
    (queue : .filterChanged ∈ shared.queue → .filterChanged ∈ next.queue)
    (refused : next.refused = shared.refused) (clear : stages task ≠ .owes) :
    Pending (update stages task here) next := by
  rcases pending with waiting | waiting | ⟨other, owes⟩
  · exact .inl (queue waiting)
  · exact .inr (.inl (refused ▸ waiting))
  · have ne : other ≠ task := by
      rintro rfl
      exact clear owes
    exact .inr (.inr ⟨other, by rw [Function.update_of_ne ne, owes]⟩)

/-- A task stays in its stage. -/
theorem Fresh.stay (fresh : Fresh reader stages shared) {here : DisplayStage}
    (stays : here = stages task)
    (queue : .filterChanged ∈ shared.queue → .filterChanged ∈ next.queue)
    (refused : .filterChanged ∈ shared.refused → .filterChanged ∈ next.refused)
    (same : SameLine reader shared next) : Fresh reader (update stages task here) next := by
  rw [stays, Function.update_eq_self]
  rcases fresh with (waiting | waiting | owes) | current
  · exact .inl (.inl (queue waiting))
  · exact .inl (.inr (.inl (refused waiting)))
  · exact .inl (.inr (.inr owes))
  · exact .inr (same.current current)

/-- A task that owes nothing goes on, and if it is the reader, it stays up to date. -/
theorem Fresh.move (fresh : Fresh reader stages shared) {here : DisplayStage}
    (clear : stages task ≠ .owes)
    (queue : .filterChanged ∈ shared.queue → .filterChanged ∈ next.queue)
    (refused : next.refused = shared.refused)
    (same : task ≠ reader → SameLine reader shared next)
    (current : task = reader → Current reader shared (stages reader) →
      Current reader next here) : Fresh reader (update stages task here) next := by
  rcases fresh with pending | before
  · exact .inl (pending.update queue refused clear)
  · by_cases isReader : task = reader
    · subst isReader
      refine .inr ?_
      rw [Function.update_self]
      exact current rfl before
    · refine .inr ?_
      rw [Function.update_of_ne (Ne.symm isReader)]
      exact (same isReader).current before

theorem fresh_assigned : Fresh reader (update stages task .owes) next :=
  .inl (.inr (.inr ⟨task, Function.update_self ..⟩))

/-- Who posts a `FILTER_CHANGED` has paid what it owes, whether there is room or not. -/
theorem Fresh.of_post (fresh : Fresh reader stages shared) {event : SnifferEvent}
    {here : DisplayStage} {answer : (SnifferCall.eventPostTo event).Response}
    (here_eq : here = if event = .filterChanged then .clear else stages task)
    (acted : act task (.eventPostTo event) shared = some (.ok (answer, next))) :
    Fresh reader (update stages task here) next := by
  by_cases changed : event = .filterChanged
  · subst changed
    rw [act] at acted
    split at acted
    · cases acted
      exact .inl (.inl (List.mem_append_right _ (List.mem_singleton_self _)))
    · cases acted
      exact .inl (.inr (.inl (List.mem_append_right _ (List.mem_singleton_self _))))
  · rw [if_neg changed] at here_eq
    rw [act] at acted
    split at acted
    · cases acted
      exact fresh.stay here_eq (List.mem_append_left _) id ⟨rfl, rfl, rfl⟩
    · cases acted
      exact fresh.stay here_eq id (List.mem_append_left _) ⟨rfl, rfl, rfl⟩

/-- The reader is told, or gets an event that is not about the filters. -/
theorem Fresh.of_receive (fresh : Fresh task stages shared) (isClear : stages task = .clear)
    {event : SnifferEvent}
    (acted : act task .eventReceive shared = some (.ok (event, next))) :
    Fresh task (update stages task (if event = .filterChanged then .told else .clear)) next := by
  rw [act] at acted
  split at acted
  case h_1 => cases acted
  case h_2 queue waiting =>
    cases acted
    by_cases changed : event = .filterChanged
    · subst changed
      refine .inr ?_
      rw [Function.update_self]
      trivial
    · have queue : .filterChanged ∈ shared.queue → .filterChanged ∈ queue := by
        rw [waiting]
        rintro (_ | ⟨_, later⟩)
        · exact absurd rfl changed
        · exact later
      exact fresh.stay ((if_neg changed).trans isClear.symm) queue id ⟨rfl, rfl, rfl⟩

/-- A task with nothing to show makes a call. -/
theorem Fresh.of_open (fresh : Fresh reader stages shared) (isOpen : (stages task).Open)
    {call : SnifferCall} {after : call.Response → DisplayStage} {answer : call.Response}
    (allowed : displayStages reader task (stages task) call = some after)
    (acted : act task call shared = some (.ok (answer, next))) :
    Fresh reader (update stages task (after answer)) next := by
  cases call
  case storeAddr2 addrFilter =>
    rcases isOpen with here | here <;> rw [here] at allowed <;> cases allowed <;>
      exact fresh_assigned
  case storeRssi rssi =>
    rcases isOpen with here | here <;> rw [here] at allowed <;> cases allowed <;>
      exact fresh_assigned
  case eventPostTo event =>
    have after_eq : after answer = if event = .filterChanged then .clear else stages task := by
      rcases isOpen with here | here <;> rw [here] at allowed ⊢ <;> cases allowed <;> rfl
    exact fresh.of_post after_eq acted
  case eventReceive =>
    rcases isOpen with here | here <;> rw [here] at allowed
    · rw [displayStages] at allowed
      split at allowed
      case isFalse => cases allowed
      case isTrue isReader =>
        subst isReader
        cases allowed
        exact fresh.of_receive here acted
    · cases allowed
  case «show» addrFilter rssi =>
    have allowed' : (if task = reader then none else some fun _ => stages task) =
        some after := by
      rcases isOpen with here | here <;> rw [here] at allowed ⊢ <;> exact allowed
    split at allowed'
    case isTrue => cases allowed'
    case isFalse ne =>
      cases allowed'
      cases acted
      exact fresh.stay rfl id id ⟨rfl, rfl, lastLine_of_ne ne rfl rfl⟩
  case nvs call =>
    have stays : after answer = stages task := by
      rcases isOpen with here | here <;> rw [here] at allowed ⊢ <;> cases allowed <;> rfl
    rw [act] at acted
    cases handled : Store.handle call shared.store with
    | error stop =>
        rw [handled] at acted
        cases acted
    | ok result =>
        rw [handled] at acted
        cases acted
        exact fresh.stay stays id id ⟨rfl, rfl, rfl⟩
  all_goals
    have stays : after answer = stages task := by
      rcases isOpen with here | here <;> rw [here] at allowed ⊢ <;> cases allowed <;> rfl
    rw [act] at acted
  case semTake =>
    split at acted <;> cases acted
    exact fresh.stay stays id id ⟨rfl, rfl, rfl⟩
  case semGive =>
    split at acted <;> cases acted <;> exact fresh.stay stays id id ⟨rfl, rfl, rfl⟩
  case loadAddr2 =>
    cases acted
    exact fresh.stay stays id id ⟨rfl, rfl, rfl⟩
  case loadRssi =>
    cases acted
    exact fresh.stay stays id id ⟨rfl, rfl, rfl⟩

/-- Every call of a task keeps the last line up to date, or somebody is still to see to
it. -/
theorem fresh_invariant :
    Program.StageInvariant act (displayStages reader) (Fresh reader) := by
  intro stages shared task call after answer next fresh allowed acted
  cases here : stages task with
  | clear => exact fresh.of_open (.inl here) allowed acted
  | owes => exact fresh.of_open (.inr here) allowed acted
  | told =>
      have clear : stages task ≠ .owes := by simp [here]
      rw [here] at allowed
      cases call <;> cases allowed
      cases acted
      exact fresh.move clear id rfl (fun _ => ⟨rfl, rfl, rfl⟩) fun _ _ => rfl
  | readAddr addrFilter =>
      have clear : stages task ≠ .owes := by simp [here]
      rw [here] at allowed
      cases call <;> cases allowed
      cases acted
      apply fresh.move clear id rfl (fun _ => ⟨rfl, rfl, rfl⟩)
      rintro rfl current
      rw [here] at current
      exact ⟨current, rfl⟩
  | readBoth addrFilter rssi =>
      have clear : stages task ≠ .owes := by simp [here]
      rw [here] at allowed
      cases call
      case «show» addrFilter' rssi' =>
        rw [displayStages] at allowed
        split at allowed
        case isFalse => cases allowed
        case isTrue read =>
          rcases read with ⟨rfl, rfl⟩
          cases allowed
          cases acted
          refine fresh.move clear (fun waiting => waiting) rfl ?_ ?_
          · exact fun ne => ⟨rfl, rfl, lastLine_of_ne ne rfl rfl⟩
          · rintro rfl current
            rw [here] at current
            rcases current with ⟨rfl, rfl⟩
            exact lastLine_self rfl
      all_goals cases allowed

end Fresh

/-! ## Runs -/

section Runs

variable {reader : ι} {shared : Shared ι} {pool : TaskPool ι}

/-- Whatever tasks assign filters, and however the loop's reading lies between, once all
tasks are at rest and no `FILTER_CHANGED` waits or was refused, the last line of the loop
has both filters in use. -/
theorem last_line_current_at_rest
    (initially : .filterChanged ∈ shared.queue ∨
      lastLine reader shared = some (shared.addr2Filter, shared.rssiFilter))
    {events : List (TaskEvent ι)}
    (reads : ∀ task job, .start task job ∈ events → Reads reader task job)
    (run : exec taskStep (.idle shared) events = some pool)
    (rested : ∀ task, pool.threads task = none)
    (delivered : .filterChanged ∉ pool.shared.queue)
    (room : .filterChanged ∉ pool.shared.refused) :
    lastLine reader pool.shared = some (pool.shared.addr2Filter, pool.shared.rssiFilter) := by
  have fresh : Fresh reader (fun _ => .clear) shared := by
    rcases initially with waiting | current
    · exact .inl (.inl waiting)
    · exact .inr current
  have initial : (Program.Pool.idle shared : TaskPool ι).Staged (displayStages reader) .clear
      (Fresh reader) := ⟨_, .idle fresh⟩
  have within : ∀ event ∈ events, event.Within (Reads reader) := by
    intro event inEvents
    cases event with
    | start task job => exact reads task job inEvents
    | advance task => trivial
  rcases initial.of_run fresh_invariant display_job within run with
    ⟨stages, staged⟩
  have clear : ∀ task, stages task = .clear := fun task => staged.resting task (rested task)
  rcases staged.invariant with (waiting | waiting | ⟨task, owes⟩) | current
  · exact absurd waiting delivered
  · exact absurd waiting room
  · simp [clear task] at owes
  · rwa [clear reader] at current

/-- The button is clicked while the loop reads, and the loop reads again. -/
theorem last_line_current_at_rest_click :
    let events := .start .snifferLoop .event :: advances .snifferLoop 3 ++
      .start .button .click :: advances .button 11 ++ advances .snifferLoop 2 ++
      .start .snifferLoop .event :: advances .snifferLoop 5
    let shared := { sharedAtBoot with queue := [.filterChanged] }
    ∃ pool, exec taskStep (.idle shared) events = some pool ∧
      pool.shared.shown.map (fun line => line.2.2) = [-96, -50] ∧
      lastLine .snifferLoop pool.shared =
        some (pool.shared.addr2Filter, pool.shared.rssiFilter) := by
  intro events shared
  have ran : (exec taskStep (.idle shared) events).map (fun pool => (pool.shared.queue,
      pool.shared.refused, pool.shared.shown.map fun line => line.2.2)) =
      some ([], [], [-96, -50]) := rfl
  have ended : ∀ task, (exec taskStep (.idle shared) events).map
      (fun pool => (pool.threads task).isNone) = some true := by
    intro task
    cases task <;> rfl
  rcases Option.map_eq_some_iff.mp ran with ⟨pool, run, last⟩
  simp only [Prod.mk.injEq] at last
  rcases last with ⟨queue, refused, shown⟩
  have reads : ∀ task job, .start task job ∈ events → Reads .snifferLoop task job := by
    intro task job inEvents
    simp [events, advances] at inEvents
    rcases inEvents with ⟨rfl, rfl⟩ | ⟨rfl, rfl⟩ | ⟨rfl, rfl⟩
    · exact rfl
    · trivial
    · exact rfl
  have current := last_line_current_at_rest (.inl (List.mem_singleton_self _)) reads run
    (rested_of_run run ended) (by simp [queue]) (by simp [refused])
  exact ⟨pool, run, shown, current⟩

/-- The loop of the Wi-Fi library has read the filters when the button is clicked, and puts
them out after the other loop.  The last line of all then names a threshold that is no
longer in use, and nothing is left that would put it right. -/
theorem last_line_stale_at_rest :
    let events := .start .wifiLibLoop .wifiLibEvent :: advances .wifiLibLoop 2 ++
      .start .button .click :: advances .button 11 ++
      .start .snifferLoop .event :: advances .snifferLoop 5 ++ advances .wifiLibLoop 2
    ∃ pool, exec taskStep (.idle sharedAtBoot) events = some pool ∧
      (∀ task, pool.threads task = none) ∧ pool.shared.queue = [] ∧
      pool.shared.refused = [] ∧ pool.shared.rssiFilter = -50 ∧
      pool.shared.shown.map (fun line => line.2.2) = [-50, -96] := by
  intro events
  have ran : (exec taskStep (.idle sharedAtBoot) events).map (fun pool => (pool.shared.queue,
      pool.shared.refused, pool.shared.rssiFilter,
      pool.shared.shown.map fun line => line.2.2)) = some ([], [], -50, [-50, -96]) := rfl
  have ended : ∀ task, (exec taskStep (.idle sharedAtBoot) events).map
      (fun pool => (pool.threads task).isNone) = some true := by
    intro task
    cases task <;> rfl
  rcases Option.map_eq_some_iff.mp ran with ⟨pool, run, last⟩
  simp only [Prod.mk.injEq] at last
  exact ⟨pool, run, rested_of_run run ended, last⟩

end Runs

end WifiSniffer.Tasks
