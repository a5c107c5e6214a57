import WifiSniffer.Console.Filter
import WifiSniffer.Session.Machine
import Mathlib.Data.List.Infix

/-!
# Boot

`setup` starts the console and the TCP server before it registers the capture
callbacks and creates the packet queue and the filter semaphore.  From then on
commands and clients come in between any two of its calls, and each client brings a
sniffer task with it.  This module is the session machine with `setup` in front.

The calls of `setup` itself and the packet handler never come too early.  A `filter`
command and a sniffer task can.
-/

namespace WifiSniffer.Boot

open WifiSniffer.Bytes WifiSniffer.Capture WifiSniffer.Handler WifiSniffer.Session
open WifiSniffer.Transition
open Effect.Program (Guarantees)

variable {cfg : SdkConfig}

/-! ## The calls of `setup` -/

/-- The calls that `setup` and `sniffer_init_config` are made of, but for `display_init`,
which boards with a display make behind `initButton`. -/
inductive SetupCall where
  | nvsInitFlash
  | initButton
  | ledInitDefault
  | consoleInit
  | configWifiInit
  | tcpServer
  | wifiGetMac
  | captureSetCb
  | snifferCreateQueue
  | xSemaphoreCreateMutex
  | snifferSetOwnMacFilter
  | espWifiSetPromiscuousRxCb
  | snifferStartEventLoop
  | snifferRegisterEventHandler
  | snifferPostEvent
  | wifiSnifferNvsGetFilterRssi
  | snifferSetRssiFilter
  | wifiSnifferNvsGetFilterMac
  | snifferSetAddr2Filter
  | snifferSetNoFilter
  | snifferStart
  deriving DecidableEq

/-- `sniffer_init_config` -/
def snifferInitConfig : List SetupCall :=
  [.snifferCreateQueue, .xSemaphoreCreateMutex, .snifferSetOwnMacFilter,
    .espWifiSetPromiscuousRxCb, .snifferStartEventLoop, .snifferRegisterEventHandler,
    .snifferPostEvent, .wifiSnifferNvsGetFilterRssi, .snifferSetRssiFilter,
    .wifiSnifferNvsGetFilterMac, .snifferSetAddr2Filter]

/-- `setup` -/
def setup (cfg : SdkConfig) : List SetupCall :=
  [.nvsInitFlash] ++ (if cfg.liligoS3 then [.initButton] else []) ++
    [.ledInitDefault, .consoleInit, .configWifiInit, .tcpServer, .wifiGetMac,
      .captureSetCb] ++
    snifferInitConfig ++ [.snifferSetNoFilter] ++
    (if cfg.liligoS3 then [.snifferStart] else [])

/-! ## State -/

/-- Something was used before it was there. -/
inductive BootFault where
  /-- `xSemaphoreTake` of `_filter_sem` -/
  | semTakenBeforeCreated
  /-- `xQueueSend` or `xQueueReceive` on `_packet_queue` -/
  | queueUsedBeforeCreated
  /-- `capture_start` of a task, which then sends no header -/
  | headerSkipped (task : Nat)
  deriving DecidableEq

/-- The firmware while `setup` is running, and after. -/
structure BootState (cfg : SdkConfig) where
  /-- the calls of `setup` still to come -/
  remaining : List SetupCall
  session : State cfg
  /-- whether `_packet_queue` has been created -/
  packetQueue : Bool
  /-- whether `_filter_sem` has been created -/
  filterSem : Bool
  /-- whether the capture callbacks are registered -/
  captureCb : Bool
  /-- whether the driver knows the packet handler -/
  promiscuousRxCb : Bool
  faults : List BootFault

inductive BootEvent where
  /-- `setup` goes on by one call. -/
  | setup
  /-- The `filter` command is given, with or without a source argument.  What it does
  with its other arguments needs neither the semaphore nor the queue. -/
  | filter (source : Option CString)
  | accept (sock : Nat) (created : Bool)
  | run (task : Nat) (result : Int)
  | frame (call : Reception)

/-- The variables and the operating system at power-up. -/
def powerUp : State cfg where
  sock := 0
  xHandleSniff := none
  packetQueue := []
  promiscuous := false
  tasks := fun _ => none
  nextTask := 0
  files := fun _ => none
  nextConn := 0
  writes := fun _ => []
  captured := []
  faults := []

/-- `app_main` is about to call `setup`. -/
def BootState.start (cfg : SdkConfig) : BootState cfg where
  remaining := setup cfg
  session := powerUp
  packetQueue := false
  filterSem := false
  captureCb := false
  promiscuousRxCb := false
  faults := []

def BootState.misuse (boot : BootState cfg) (fault : BootFault) : BootState cfg :=
  { boot with faults := boot.faults ++ [fault] }

def BootState.withSession (boot : BootState cfg) (session : State cfg) : BootState cfg :=
  { boot with session := session }

/-! ## Steps -/

/-- `sniffer_set_filter`, as far as it needs the semaphore. -/
def snifferSetFilter (boot : BootState cfg) : BootState cfg :=
  if boot.filterSem then boot else boot.misuse .semTakenBeforeCreated

/-- One call of `setup`. -/
def runSetupCall (boot : BootState cfg) : SetupCall → BootState cfg
  | .captureSetCb => { boot with captureCb := true }
  | .snifferCreateQueue => { boot with packetQueue := true }
  | .xSemaphoreCreateMutex => { boot with filterSem := true }
  | .espWifiSetPromiscuousRxCb => { boot with promiscuousRxCb := true }
  | .snifferSetOwnMacFilter | .snifferSetAddr2Filter => snifferSetFilter boot
  | .snifferStart => boot.withSession (snifferStart boot.session true)
  | .nvsInitFlash | .initButton | .ledInitDefault | .consoleInit | .configWifiInit
  | .tcpServer | .wifiGetMac | .snifferStartEventLoop | .snifferRegisterEventHandler
  | .snifferPostEvent | .wifiSnifferNvsGetFilterRssi | .snifferSetRssiFilter
  | .wifiSnifferNvsGetFilterMac | .snifferSetNoFilter => boot

/-- Whether `console_read_filter` makes a filter of a source argument. -/
def consoleReadFilterOk (mac : CString) : Bool :=
  let readBytes := mac.length
  if readBytes > 0 then
    if readBytes % 2 = 0 then true
    else false
  else true

/-- What `console_read_filter` returns. -/
theorem guarantees_consoleReadFilter_ok (mac : CString) (addrFilter : AddrFilter)
    (store : Nvs.Store) :
    Guarantees Nvs.Store.handle (Console.consoleReadFilter mac mac.length addrFilter) store
      fun result _ => result.1 = consoleReadFilterOk mac := by
  refine Console.guarantees_consoleReadFilter.mono ?_
  intro result _ returned
  rw [returned, consoleReadFilterOk]
  by_cases empty : mac.length = 0
  · simp [empty]
  · simp [Nat.pos_of_ne_zero empty]

/-- `console_sniffer_filter_source_arg` -/
def consoleSnifferFilterSourceArg (boot : BootState cfg) (source : Option CString) :
    BootState cfg :=
  if source.any consoleReadFilterOk then snifferSetFilter boot else boot

/-- A task runs.  Before the callbacks are registered `capture_start` and
`capture_on_send` do nothing. -/
def runSnifferTask (boot : BootState cfg) (task : Nat) (result : Int) :
    TaskPhase → Option (BootState cfg)
  | .created =>
      if boot.captureCb then (step boot.session (.run task result)).map boot.withSession
      else
        some
          ((boot.withSession (enterLoop (wifiSnifferInit boot.session) task)).misuse
            (.headerSkipped task))
  | .looping =>
      if boot.packetQueue then
        if boot.captureCb then (step boot.session (.run task result)).map boot.withSession
        else
          some
            (boot.withSession
              { boot.session with packetQueue := boot.session.packetQueue.tail })
      else some (boot.misuse .queueUsedBeforeCreated)

/-- `wifi_sniffer_packet_handler`, as far as it needs the semaphore and the queue. -/
def packetHandler (boot : BootState cfg) (call : Reception) : BootState cfg :=
  if call.type ≠ .misc ∧ call.pkt.rxCtrl.rxState = 0 ∧ !boot.filterSem then
    boot.misuse .semTakenBeforeCreated
  else if (call.record cfg).isSome ∧ !boot.packetQueue then
    boot.misuse .queueUsedBeforeCreated
  else boot.withSession (receive boot.session call)

/-- One step of the firmware.  Commands are read once `console_init` has returned,
clients accepted once `tcp_server` has, and frames handed over once the driver knows
the handler. -/
def bootStep : Step (BootState cfg) BootEvent
  | boot, .setup =>
      match boot.remaining with
      | [] => none
      | call :: rest => some (runSetupCall { boot with remaining := rest } call)
  | boot, .filter source =>
      if .consoleInit ∉ boot.remaining then some (consoleSnifferFilterSourceArg boot source)
      else none
  | boot, .accept sock created =>
      if .tcpServer ∉ boot.remaining then
        (step boot.session (.accept sock created)).map boot.withSession
      else none
  | boot, .run task result =>
      (boot.session.tasks task).bind fun phase => runSnifferTask boot task result phase
  | boot, .frame call =>
      if boot.promiscuousRxCb then some (packetHandler boot call) else none

/-! ## Order of the calls -/

/-- No call is made twice. -/
theorem setup_nodup (cfg : SdkConfig) : (setup cfg).Nodup := by
  rw [setup]
  cases cfg.liligoS3 <;> decide

/-- `setup` sets filters only behind the creation of the semaphore. -/
theorem xSemaphoreCreateMutex_before_set {remaining : List SetupCall}
    (reached : remaining ∈ (setup cfg).tails) {call : SetupCall}
    (next : call ∈ remaining.head?)
    (sets : call = .snifferSetOwnMacFilter ∨ call = .snifferSetAddr2Filter) :
    .xSemaphoreCreateMutex ∉ remaining := by
  have all : ∀ remaining ∈ (setup cfg).tails, ∀ call ∈ remaining.head?,
      call = .snifferSetOwnMacFilter ∨ call = .snifferSetAddr2Filter →
        .xSemaphoreCreateMutex ∉ remaining := by
    rw [setup]
    cases cfg.liligoS3 <;> decide
  exact all remaining reached call next sets

/-- The driver gets to know the handler when semaphore and queue are there. -/
theorem created_before_rxCb {remaining : List SetupCall}
    (reached : remaining ∈ (setup cfg).tails)
    (known : .espWifiSetPromiscuousRxCb ∉ remaining) :
    .xSemaphoreCreateMutex ∉ remaining ∧ .snifferCreateQueue ∉ remaining := by
  have all : ∀ remaining ∈ (setup cfg).tails, .espWifiSetPromiscuousRxCb ∉ remaining →
      .xSemaphoreCreateMutex ∉ remaining ∧ .snifferCreateQueue ∉ remaining := by
    rw [setup]
    cases cfg.liligoS3 <;> decide
  exact all remaining reached known

/-! ## What has been created -/

/-- Everything is there exactly from its own call in `setup` on. -/
structure Placed (boot : BootState cfg) : Prop where
  reached : boot.remaining ∈ (setup cfg).tails
  captureCb_iff : boot.captureCb = true ↔ .captureSetCb ∉ boot.remaining
  packetQueue_iff : boot.packetQueue = true ↔ .snifferCreateQueue ∉ boot.remaining
  filterSem_iff : boot.filterSem = true ↔ .xSemaphoreCreateMutex ∉ boot.remaining
  promiscuousRxCb_iff :
    boot.promiscuousRxCb = true ↔ .espWifiSetPromiscuousRxCb ∉ boot.remaining

theorem placed_start : Placed (BootState.start cfg) := by
  have member : ∀ call ∈ [SetupCall.captureSetCb, .snifferCreateQueue,
      .xSemaphoreCreateMutex, .espWifiSetPromiscuousRxCb], call ∈ setup cfg := by
    rw [setup]
    cases cfg.liligoS3 <;> decide
  constructor
  · exact (List.mem_tails _ _).mpr (List.suffix_refl _)
  all_goals simp [BootState.start, member]

/-- An event that is no call of `setup` changes the tasks and the log only. -/
structure Beside (source target : BootState cfg) : Prop where
  remaining_eq : target.remaining = source.remaining
  captureCb_eq : target.captureCb = source.captureCb
  packetQueue_eq : target.packetQueue = source.packetQueue
  filterSem_eq : target.filterSem = source.filterSem
  promiscuousRxCb_eq : target.promiscuousRxCb = source.promiscuousRxCb

theorem Beside.refl (boot : BootState cfg) : Beside boot boot :=
  ⟨rfl, rfl, rfl, rfl, rfl⟩

theorem beside_misuse (boot : BootState cfg) (fault : BootFault) :
    Beside boot (boot.misuse fault) :=
  ⟨rfl, rfl, rfl, rfl, rfl⟩

theorem beside_withSession (boot : BootState cfg) (session : State cfg) :
    Beside boot (boot.withSession session) :=
  ⟨rfl, rfl, rfl, rfl, rfl⟩

theorem beside_snifferSetFilter (boot : BootState cfg) : Beside boot (snifferSetFilter boot) := by
  rw [snifferSetFilter]
  split
  · exact .refl boot
  · exact beside_misuse boot _

theorem Placed.beside {source target : BootState cfg} (placed : Placed source)
    (beside : Beside source target) : Placed target := by
  rcases beside with ⟨remaining_eq, captureCb_eq, packetQueue_eq, filterSem_eq, rxCb_eq⟩
  constructor
  · rw [remaining_eq]
    exact placed.reached
  · rw [captureCb_eq, remaining_eq]
    exact placed.captureCb_iff
  · rw [packetQueue_eq, remaining_eq]
    exact placed.packetQueue_iff
  · rw [filterSem_eq, remaining_eq]
    exact placed.filterSem_iff
  · rw [rxCb_eq, remaining_eq]
    exact placed.promiscuousRxCb_iff

/-- A call that is made once is behind when it has just been made or was behind
already. -/
theorem not_mem_rest_iff {call made : SetupCall} {rest : List SetupCall}
    (nodup : (made :: rest).Nodup) : call ∉ rest ↔ call = made ∨ call ∉ made :: rest := by
  have unmade := (List.nodup_cons.mp nodup).1
  by_cases same : call = made
  · subst same
    simpa using unmade
  · simp [same]

section RunSetupCall

variable (boot : BootState cfg) (call : SetupCall)

theorem runSetupCall_remaining : (runSetupCall boot call).remaining = boot.remaining := by
  cases call
  case snifferSetOwnMacFilter => exact (beside_snifferSetFilter boot).remaining_eq
  case snifferSetAddr2Filter => exact (beside_snifferSetFilter boot).remaining_eq
  all_goals rfl

theorem runSetupCall_captureCb_iff :
    (runSetupCall boot call).captureCb = true ↔
      .captureSetCb = call ∨ boot.captureCb = true := by
  have set := (beside_snifferSetFilter boot).captureCb_eq
  cases call <;> simp [runSetupCall, BootState.withSession, set]

theorem runSetupCall_packetQueue_iff :
    (runSetupCall boot call).packetQueue = true ↔
      .snifferCreateQueue = call ∨ boot.packetQueue = true := by
  have set := (beside_snifferSetFilter boot).packetQueue_eq
  cases call <;> simp [runSetupCall, BootState.withSession, set]

theorem runSetupCall_filterSem_iff :
    (runSetupCall boot call).filterSem = true ↔
      .xSemaphoreCreateMutex = call ∨ boot.filterSem = true := by
  have set := (beside_snifferSetFilter boot).filterSem_eq
  cases call <;> simp [runSetupCall, BootState.withSession, set]

theorem runSetupCall_promiscuousRxCb_iff :
    (runSetupCall boot call).promiscuousRxCb = true ↔
      .espWifiSetPromiscuousRxCb = call ∨ boot.promiscuousRxCb = true := by
  have set := (beside_snifferSetFilter boot).promiscuousRxCb_eq
  cases call <;> simp [runSetupCall, BootState.withSession, set]

/-- A call misuses nothing unless it sets a filter without the semaphore. -/
theorem runSetupCall_faults
    (ready : call = .snifferSetOwnMacFilter ∨ call = .snifferSetAddr2Filter →
      boot.filterSem = true) : (runSetupCall boot call).faults = boot.faults := by
  cases call
  case snifferSetOwnMacFilter =>
    rw [runSetupCall, snifferSetFilter, if_pos (ready (.inl rfl))]
  case snifferSetAddr2Filter =>
    rw [runSetupCall, snifferSetFilter, if_pos (ready (.inr rfl))]
  all_goals rfl

end RunSetupCall

theorem Placed.setup {source target : BootState cfg} (placed : Placed source)
    (taken : bootStep source .setup = some target) : Placed target := by
  rw [bootStep] at taken
  split at taken
  case h_1 => cases taken
  case h_2 made rest remaining_eq =>
    cases taken
    have reached := (List.mem_tails _ _).mp (remaining_eq ▸ placed.reached)
    have nodup := (setup_nodup cfg).sublist reached.sublist
    constructor
    · rw [runSetupCall_remaining]
      exact (List.mem_tails _ _).mpr ((List.suffix_cons made rest).trans reached)
    · rw [runSetupCall_captureCb_iff, runSetupCall_remaining, not_mem_rest_iff nodup,
        ← remaining_eq, placed.captureCb_iff]
    · rw [runSetupCall_packetQueue_iff, runSetupCall_remaining, not_mem_rest_iff nodup,
        ← remaining_eq, placed.packetQueue_iff]
    · rw [runSetupCall_filterSem_iff, runSetupCall_remaining, not_mem_rest_iff nodup,
        ← remaining_eq, placed.filterSem_iff]
    · rw [runSetupCall_promiscuousRxCb_iff, runSetupCall_remaining, not_mem_rest_iff nodup,
        ← remaining_eq, placed.promiscuousRxCb_iff]

/-- `setup` takes the semaphore only once it is there. -/
theorem Placed.setup_faults {source target : BootState cfg} (placed : Placed source)
    (taken : bootStep source .setup = some target) : target.faults = source.faults := by
  rw [bootStep] at taken
  split at taken
  case h_1 => cases taken
  case h_2 made rest remaining_eq =>
    cases taken
    apply runSetupCall_faults
    intro sets
    rw [placed.filterSem_iff]
    exact xSemaphoreCreateMutex_before_set placed.reached (by rw [remaining_eq]; rfl) sets

/-! ## Events beside `setup` -/

/-- A command that sets a filter comes behind the creation of the semaphore, a task
starts up behind the registration of the callbacks, and it goes through its loop
behind the creation of the queue. -/
def InTime (source : BootState cfg) : BootEvent → Prop
  | .filter mac =>
      mac.any consoleReadFilterOk = true → .xSemaphoreCreateMutex ∉ source.remaining
  | .run task _ =>
      (source.session.tasks task = some .created → .captureSetCb ∉ source.remaining) ∧
        (source.session.tasks task = some .looping → .snifferCreateQueue ∉ source.remaining)
  | .setup | .accept _ _ | .frame _ => True

theorem misuse_faults_ne (boot : BootState cfg) (fault : BootFault) :
    (boot.misuse fault).faults ≠ boot.faults := by
  simp [BootState.misuse]

theorem filter_step {source target : BootState cfg} {mac : Option CString}
    (placed : Placed source) (taken : bootStep source (.filter mac) = some target) :
    Beside source target ∧
      (target.faults = source.faults ↔ InTime source (.filter mac)) := by
  rw [bootStep] at taken
  split at taken
  case isFalse => cases taken
  case isTrue =>
    cases taken
    rw [consoleSnifferFilterSourceArg, InTime, ← placed.filterSem_iff]
    by_cases sets : mac.any consoleReadFilterOk = true
    · rw [if_pos sets]
      refine ⟨beside_snifferSetFilter source, ?_⟩
      rw [snifferSetFilter]
      by_cases created : source.filterSem = true
      · simp [created]
      · rw [if_neg created]
        simp [misuse_faults_ne, sets, created]
    · rw [if_neg sets]
      exact ⟨.refl source, iff_of_true rfl fun sets' => absurd sets' sets⟩

theorem accept_step {source target : BootState cfg} {sock : Nat} {created : Bool}
    (taken : bootStep source (.accept sock created) = some target) :
    Beside source target ∧ target.faults = source.faults := by
  rw [bootStep] at taken
  split at taken
  case isFalse => cases taken
  case isTrue =>
    rcases Option.map_eq_some_iff.mp taken with ⟨session, _, rfl⟩
    exact ⟨beside_withSession source session, rfl⟩

theorem run_step {source target : BootState cfg} {task : Nat} {result : Int}
    (placed : Placed source) (taken : bootStep source (.run task result) = some target) :
    Beside source target ∧
      (target.faults = source.faults ↔ InTime source (.run task result)) := by
  rcases Option.bind_eq_some_iff.mp taken with ⟨phase, alive, ran⟩
  rw [InTime, ← placed.captureCb_iff, ← placed.packetQueue_iff, alive]
  cases phase with
  | created =>
      rw [runSnifferTask] at ran
      split at ran
      case isTrue registered =>
        rcases Option.map_eq_some_iff.mp ran with ⟨session, _, rfl⟩
        refine ⟨beside_withSession source session, iff_of_true rfl ?_⟩
        simp [registered]
      case isFalse unregistered =>
        cases ran
        refine ⟨⟨rfl, rfl, rfl, rfl, rfl⟩, iff_of_false (misuse_faults_ne _ _) ?_⟩
        simp [unregistered]
  | looping =>
      rw [runSnifferTask] at ran
      split at ran
      case isFalse uncreated =>
        cases ran
        refine ⟨beside_misuse source _, iff_of_false (misuse_faults_ne _ _) ?_⟩
        simp [uncreated]
      case isTrue created =>
        have inTime : (some TaskPhase.looping = some .created → source.captureCb = true) ∧
            (some TaskPhase.looping = some .looping → source.packetQueue = true) := by
          simp [created]
        split at ran
        case isTrue =>
          rcases Option.map_eq_some_iff.mp ran with ⟨session, _, rfl⟩
          exact ⟨beside_withSession source session, iff_of_true rfl inTime⟩
        case isFalse =>
          cases ran
          exact ⟨beside_withSession source _, iff_of_true rfl inTime⟩

theorem frame_step {source target : BootState cfg} {call : Reception}
    (placed : Placed source) (taken : bootStep source (.frame call) = some target) :
    Beside source target ∧ target.faults = source.faults := by
  rw [bootStep] at taken
  split at taken
  case isFalse => cases taken
  case isTrue known =>
    have created := created_before_rxCb placed.reached (placed.promiscuousRxCb_iff.mp known)
    rw [← placed.filterSem_iff, ← placed.packetQueue_iff] at created
    cases taken
    have handled : packetHandler source call =
        source.withSession (receive source.session call) := by
      simp [packetHandler, created]
    rw [handled]
    exact ⟨beside_withSession source _, rfl⟩

theorem Placed.step {source target : BootState cfg} {event : BootEvent}
    (placed : Placed source) (taken : bootStep source event = some target) :
    Placed target := by
  cases event with
  | setup => exact placed.setup taken
  | filter mac => exact placed.beside (filter_step placed taken).1
  | accept sock created => exact placed.beside (accept_step taken).1
  | run task result => exact placed.beside (run_step placed taken).1
  | frame call => exact placed.beside (frame_step placed taken).1

/-- A step misuses nothing if and only if it comes in time. -/
theorem Placed.faults_iff {source target : BootState cfg} {event : BootEvent}
    (placed : Placed source) (taken : bootStep source event = some target) :
    target.faults = source.faults ↔ InTime source event := by
  cases event with
  | setup => exact iff_of_true (placed.setup_faults taken) trivial
  | filter mac => exact (filter_step placed taken).2
  | accept sock created => exact iff_of_true (accept_step taken).2 trivial
  | run task result => exact (run_step placed taken).2
  | frame call => exact iff_of_true (frame_step placed taken).2 trivial

/-- No step of a run uses the semaphore, the queue or the callbacks too early if and
only if no command and no task does; the calls of `setup` and received frames are
always in time. -/
theorem boot_order_safe_iff (cfg : SdkConfig) (events : List BootEvent) :
    EachStep bootStep (fun source _ target => target.faults = source.faults)
        (BootState.start cfg) events ↔
      EachStep bootStep (fun source event _ => InTime source event)
        (BootState.start cfg) events := by
  apply eachStep_iff_of_invariant placed_start
  intro source event target placed taken
  exact ⟨placed.faults_iff taken, placed.step taken⟩

/-- Between `tcp_server` and the rest of `setup` a filter is set, and a client comes
whose task starts up and looks into the queue. -/
theorem early_command_and_client :
    ∃ last : BootState SdkConfig.smallest,
      exec bootStep (BootState.start _)
          [.setup, .setup, .setup, .setup, .setup, .filter (some (.ofArray [])), .accept 54 true,
            .run 0 24, .run 0 60] = some last ∧
        last.faults = [.semTakenBeforeCreated, .headerSkipped 0, .queueUsedBeforeCreated] := by
  have runs : (exec bootStep (BootState.start SdkConfig.smallest)
      [.setup, .setup, .setup, .setup, .setup, .filter (some (.ofArray [])), .accept 54 true,
        .run 0 24, .run 0 60]).map (fun last => last.faults) =
      some [.semTakenBeforeCreated, .headerSkipped 0, .queueUsedBeforeCreated] := by
    decide +kernel
  exact Option.map_eq_some_iff.mp runs

/-! ## After `setup` -/

/-- `setup` has returned. -/
def booted (session : State cfg) : BootState cfg where
  remaining := []
  session := session
  packetQueue := true
  filterSem := true
  captureCb := true
  promiscuousRxCb := true
  faults := []

/-- An event of the session machine. -/
def BootEvent.ofEvent : Event → BootEvent
  | .accept sock created => .accept sock created
  | .run task result => .run task result
  | .frame call => .frame call

/-- Undisturbed, `setup` ends where the session machine begins. -/
theorem exec_setup (cfg : SdkConfig) :
    exec bootStep (BootState.start cfg) (List.replicate (setup cfg).length .setup) =
      some (booted (initial cfg)) := by
  obtain ⟨snapLen, _, _, queueSize, _, _, liligoS3⟩ := cfg
  cases liligoS3 <;> rfl

/-- From there on both machines take the same steps. -/
theorem bootStep_booted (session : State cfg) (event : Event) :
    bootStep (booted session) (.ofEvent event) = (step session event).map booted := by
  cases event with
  | accept sock created =>
      have listening : .tcpServer ∉ (booted session).remaining := List.not_mem_nil
      rw [BootEvent.ofEvent, bootStep, if_pos listening]
      rfl
  | frame call =>
      have handled : packetHandler (booted session) call =
          booted (receive session call) := by
        simp [packetHandler, booted, BootState.withSession]
      rw [BootEvent.ofEvent, bootStep, handled]
      rfl
  | run task result =>
      rw [BootEvent.ofEvent, bootStep]
      cases alive : session.tasks task with
      | none =>
          have blocked : step session (.run task result) = none := by
            rw [step, alive]
            rfl
          rw [blocked, booted, alive]
          rfl
      | some phase =>
          rw [booted, alive]
          cases phase <;> rfl

/-- Every run of the session machine continues a boot, and without a misuse. -/
theorem boot_exec_of_exec {events : List Event} {last : State cfg}
    (run : exec step (initial cfg) events = some last) :
    exec bootStep (BootState.start cfg)
        (List.replicate (setup cfg).length .setup ++ events.map .ofEvent) =
      some (booted last) := by
  have continued : ∀ session, exec step session events = some last →
      exec bootStep (booted session) (events.map .ofEvent) = some (booted last) := by
    clear run
    induction events with
    | nil =>
        intro session run
        cases run
        rfl
    | cons event events ih =>
        intro session run
        rcases exec_cons_eq_some_iff.mp run with ⟨next, taken, rest⟩
        rw [List.map_cons, exec_cons, bootStep_booted, taken]
        exact ih next rest
  rw [exec_append, exec_setup]
  exact continued _ run

end WifiSniffer.Boot
