import WifiSniffer.Session.State
import WifiSniffer.Transition.Labelled

/-!
# The session machine

The firmware as a transition system at call granularity.  Clients are accepted,
live sniffer tasks run until they come to wait again, and frames are received, in
any order.  The environment chooses the event and, for a task, the result of the
one `write` it can make on the way.

`run_cases` says everything a running task can do to the state.  Invariants of
the machine are proved from it and never unfold the code.
-/

namespace WifiSniffer.Session

open WifiSniffer.Bytes WifiSniffer.Capture WifiSniffer.Handler WifiSniffer.Transition
open Function (update)

variable {cfg : SdkConfig}

/-! ## Events -/

/-- What can happen next. -/
inductive Event where
  /-- A client is accepted on a descriptor, and its task is created or not. -/
  | accept (sock : Nat) (created : Bool)
  /-- A live task runs: its start-up if it is new, otherwise one round of its loop. -/
  | run (task : Nat) (result : Int)
  /-- The packet handler is called. -/
  | frame (call : Reception)

/-- The buffer that a task in the given phase writes to `_sock` when it runs. -/
def request (state : State cfg) : TaskPhase → Option (List UInt8)
  | .created => if state.sock ≠ 0 then some (pcapHdr cfg).bytes else none
  | .looping =>
      match state.packetQueue with
      | [] => none
      | msg :: _ =>
          if state.sock ≠ 0 ∧ msg.pcapRecHdr.origLen > 0 then some msg.sentBytes else none

/-- The given task makes a write in this step, with this buffer and result. -/
def Sends (source : State cfg) (event : Event) (task : Nat) (buffer : List UInt8)
    (result : Int) : Prop :=
  ∃ phase, event = .run task result ∧ source.tasks task = some phase ∧
    request source phase = some buffer

/-- A write transfers all its bytes or fails. -/
def WholeOrFails (source : State cfg) : Event → Prop
  | .run task result =>
      ∀ phase ∈ source.tasks task, ∀ buffer ∈ request source phase,
        result < 0 ∨ result = buffer.length
  | .accept _ _ | .frame _ => True

instance (source : State cfg) : (event : Event) → Decidable (WholeOrFails source event)
  | .run task result =>
      inferInstanceAs (Decidable (∀ phase ∈ source.tasks task,
        ∀ buffer ∈ request source phase, result < 0 ∨ result = buffer.length))
  | .accept _ _ | .frame _ => .isTrue trivial

/-- A task runs. -/
def runTask (state : State cfg) (task : Nat) (result : Int) : TaskPhase → State cfg
  | .created => snifferTaskStartup state task result
  | .looping => snifferTaskIterate state task result

/-- The packet handler passes on the record it has built, if any. -/
def receive (state : State cfg) (call : Reception) : State cfg :=
  match call.record cfg with
  | some record => snifferAddQueue state record
  | none => state

/-- One step of the firmware.  The new descriptor of a client is not in use, only
live tasks run, and a write returns what it may return. -/
def step : Step (State cfg) Event
  | state, .accept sock created =>
      if state.files sock = none then
        some (onSocketAcceptHandler (accept state sock) sock created)
      else none
  | state, .run task result =>
      (state.tasks task).bind fun phase =>
        if ∀ buffer ∈ request state phase,
            WriteResult (state.files state.sock) buffer result then
          some (runTask state task result phase)
        else none
  | state, .frame call => some (receive state call)

/-! ## A running task -/

/-- The part of a task's run that lies before its write: a new task switches
promiscuous mode on, a looping one takes the oldest record, if any, and hands it
to `on_capture`. -/
def prepare (state : State cfg) : TaskPhase → State cfg
  | .created => wifiSnifferInit state
  | .looping =>
      { state with
        packetQueue := state.packetQueue.tail
        captured := state.captured ++ state.packetQueue.head?.toList }

/-- The error path of `on_start_capture` and `on_capture` after a write to `sock`:
that socket is closed, `_sock` is forgotten, and `sniffer_stop` is called. -/
def endSession (state : State cfg) (sock caller : Nat) : State cfg :=
  snifferStop { disconnectSocket state sock with sock := 0 } caller

section Prepare

variable (state : State cfg) (phase : TaskPhase)

@[simp]
theorem prepare_sock : (prepare state phase).sock = state.sock := by
  cases phase <;> rfl

@[simp]
theorem prepare_xHandleSniff : (prepare state phase).xHandleSniff = state.xHandleSniff := by
  cases phase <;> rfl

@[simp]
theorem prepare_tasks : (prepare state phase).tasks = state.tasks := by
  cases phase <;> rfl

@[simp]
theorem prepare_nextTask : (prepare state phase).nextTask = state.nextTask := by
  cases phase <;> rfl

@[simp]
theorem prepare_files : (prepare state phase).files = state.files := by
  cases phase <;> rfl

@[simp]
theorem prepare_nextConn : (prepare state phase).nextConn = state.nextConn := by
  cases phase <;> rfl

@[simp]
theorem prepare_writes : (prepare state phase).writes = state.writes := by
  cases phase <;> rfl

@[simp]
theorem prepare_faults : (prepare state phase).faults = state.faults := by
  cases phase <;> rfl

/-- Nothing enters the queue on the way to a write. -/
theorem mem_of_mem_prepare_packetQueue {record : PcapRec cfg.snapLen}
    (member : record ∈ (prepare state phase).packetQueue) : record ∈ state.packetQueue := by
  cases phase with
  | created => exact member
  | looping => exact List.mem_of_mem_tail member

end Prepare

/-- The error path in full. -/
theorem endSession_eq (state : State cfg) (sock caller : Nat) :
    endSession state sock caller =
      { state with
        sock := 0
        promiscuous := false
        files := if sock ≠ 0 then update state.files sock none else state.files
        tasks := update state.tasks (state.xHandleSniff.getD caller) none
        faults := (endSession state sock caller).faults } := by
  rw [endSession, disconnectSocket]
  split <;> rfl

/-- The error path misuses nothing if the socket is open and the task that
`sniffer_stop` deletes is alive. -/
theorem endSession_faults {state : State cfg} {sock caller : Nat}
    (opened : state.files sock ≠ none)
    (alive : state.tasks (state.xHandleSniff.getD caller) ≠ none) :
    (endSession state sock caller).faults = state.faults := by
  by_cases installed : sock ≠ 0
  · rw [endSession, disconnectSocket, if_pos installed]
    simp [snifferStop, wifiSnifferDeinit, vTaskDelete, opened, alive]
  · rw [endSession, disconnectSocket, if_neg installed]
    simp [snifferStop, wifiSnifferDeinit, vTaskDelete, alive]

/-- Coming back from a write ends the session exactly if the write has failed. -/
theorem afterSend_onSendReturn (state : State cfg) (sock : Nat) (result : Int)
    (caller : Nat) :
    afterSend (onSendReturn state sock result) caller =
      if result < 0 then endSession state sock caller else state := by
  unfold onSendReturn
  split <;> rfl

theorem afterSend_onSend (state : State cfg) (sock : Nat) (buffer : List UInt8)
    (result : Int) (caller : Nat) :
    afterSend (onSend state sock buffer result) caller =
      if result < 0 then endSession (write state (state.files sock) buffer result) sock caller
      else write state (state.files sock) buffer result :=
  afterSend_onSendReturn (write state (state.files sock) buffer result) sock result caller

/-- A task that is in its loop already, or has been deleted, does not move. -/
theorem enterLoop_of_ne_created {state : State cfg} {task : Nat}
    (entered : state.tasks task ≠ some .created) : enterLoop state task = state := by
  have phase_eq : (state.tasks task).map (fun _ => TaskPhase.looping) = state.tasks task := by
    cases phase : state.tasks task with
    | none => rfl
    | some current =>
        cases current with
        | created => exact absurd phase entered
        | looping => rfl
  rw [enterLoop, phase_eq, Function.update_eq_self]

/-- Entering the loop neither starts nor stops a task. -/
@[simp]
theorem enterLoop_tasks_eq_none_iff {state : State cfg} {task other : Nat} :
    (enterLoop state task).tasks other = none ↔ state.tasks other = none := by
  by_cases same : other = task
  · subst same
    simp [enterLoop]
  · simp [enterLoop, same]

/-- Only the running task itself changes its phase, and it ends up in its loop. -/
theorem enterLoop_tasks_eq_some_iff {state : State cfg} {task other : Nat}
    {phase : TaskPhase} :
    (enterLoop state task).tasks other = some phase ↔
      if other = task then phase = .looping ∧ state.tasks other ≠ none
      else state.tasks other = some phase := by
  by_cases same : other = task
  · subst same
    cases alive : state.tasks other <;> simp [enterLoop, alive, eq_comm]
  · simp [enterLoop, same]

/-- Only a client that is installed is written to. -/
theorem sock_ne_zero_of_request {state : State cfg} {phase : TaskPhase}
    {buffer : List UInt8} (requested : request state phase = some buffer) :
    state.sock ≠ 0 := by
  intro uninstalled
  cases phase with
  | created => simp [request, uninstalled] at requested
  | looping => cases queue : state.packetQueue <;> simp [request, uninstalled, queue] at requested

/-- The start-up of a task splits at its write. -/
theorem snifferTaskStartup_eq (state : State cfg) (task : Nat) (result : Int) :
    snifferTaskStartup state task result =
      enterLoop
        (match request state .created with
          | none => prepare state .created
          | some buffer =>
              afterSend (onSend (prepare state .created) state.sock buffer result) task)
        task := by
  by_cases installed : state.sock = 0
  · simp [snifferTaskStartup, captureStart, onStartCapture, request, prepare,
      wifiSnifferInit, installed]
  · simp [snifferTaskStartup, captureStart, onStartCapture, request, prepare,
      wifiSnifferInit, installed]

/-- One round of the loop splits at its write. -/
theorem snifferTaskIterate_eq (state : State cfg) (task : Nat) (result : Int) :
    snifferTaskIterate state task result =
      match request state .looping with
      | none => prepare state .looping
      | some buffer =>
          afterSend (onSend (prepare state .looping) state.sock buffer result) task := by
  cases queue : state.packetQueue with
  | nil =>
      cases state
      subst queue
      simp [snifferTaskIterate, request, prepare]
  | cons msg rest =>
      by_cases sending : state.sock ≠ 0 ∧ msg.pcapRecHdr.origLen > 0
      · simp only [snifferTaskIterate, queue, captureOnSend, onCapture, if_pos sending, request,
          prepare]
        rfl
      · simp only [snifferTaskIterate, queue, captureOnSend, onCapture, if_neg sending, request,
          prepare]
        rfl

/-- A task that runs is in its loop afterwards, or has been deleted. -/
theorem runTask_eq {state : State cfg} {task : Nat} {phase : TaskPhase} (result : Int)
    (alive : state.tasks task = some phase) :
    runTask state task result phase =
      enterLoop
        (match request state phase with
          | none => prepare state phase
          | some buffer =>
              afterSend (onSend (prepare state phase) state.sock buffer result) task)
        task := by
  cases phase with
  | created => exact snifferTaskStartup_eq state task result
  | looping =>
      have looping : ∀ target : State cfg,
          (target.tasks = state.tasks ∨
            ∃ victim, target.tasks = update state.tasks victim none) →
          enterLoop target task = target := by
        rintro target (same | ⟨victim, deleted⟩) <;> apply enterLoop_of_ne_created
        · rw [same, alive]
          decide
        · rw [deleted, Function.update_apply, alive]
          split <;> decide
      rw [looping]
      · exact snifferTaskIterate_eq state task result
      · cases requested : request state .looping with
        | none => exact .inl (prepare_tasks state .looping)
        | some buffer =>
            simp only [afterSend_onSend]
            split
            · rw [endSession_eq]
              exact .inr ⟨_, rfl⟩
            · exact .inl rfl

/-- Everything a running task can do.  It prepares and, if it makes no write, is
then in its loop; a write that is accepted adds to the connection behind `_sock`;
a write that fails also takes the error path. -/
theorem run_cases {state next : State cfg} {task : Nat} {result : Int}
    (taken : step state (.run task result) = some next) :
    ∃ phase, state.tasks task = some phase ∧
      ((request state phase = none ∧ next = enterLoop (prepare state phase) task) ∨
        ∃ buffer, request state phase = some buffer ∧
          WriteResult (state.files state.sock) buffer result ∧
          ((0 ≤ result ∧
              next = enterLoop
                (write (prepare state phase) (state.files state.sock) buffer result) task) ∨
            (result < 0 ∧
              next = enterLoop
                (endSession
                  (write (prepare state phase) (state.files state.sock) buffer result)
                  state.sock task)
                task))) := by
  rcases Option.bind_eq_some_iff.mp taken with ⟨phase, alive, taken⟩
  refine ⟨phase, alive, ?_⟩
  split at taken
  case isFalse => cases taken
  case isTrue allowed =>
    rw [Option.some.injEq, runTask_eq result alive] at taken
    cases requested : request state phase with
    | none =>
        rw [requested] at taken
        exact .inl ⟨rfl, taken.symm⟩
    | some buffer =>
        simp only [requested, afterSend_onSend, prepare_files] at taken
        refine .inr ⟨buffer, rfl, allowed buffer (by rw [requested]; rfl), ?_⟩
        by_cases failed : result < 0
        · exact .inr ⟨failed, by rw [← taken, if_pos failed]⟩
        · exact .inl ⟨Int.not_lt.mp failed, by rw [← taken, if_neg failed]⟩

/-- What a running task takes out of the queue and hands to `on_capture` is
decided before its write. -/
theorem run_buffers {state next : State cfg} {task : Nat} {result : Int}
    {phase : TaskPhase} (alive : state.tasks task = some phase)
    (taken : step state (.run task result) = some next) :
    next.captured = (prepare state phase).captured ∧
      next.packetQueue = (prepare state phase).packetQueue := by
  rcases run_cases taken with ⟨phase', alive', outcome⟩
  obtain rfl : phase = phase' := Option.some.inj (alive.symm.trans alive')
  rcases outcome with ⟨_, rfl⟩ | ⟨buffer, _, _, ⟨_, rfl⟩ | ⟨_, rfl⟩⟩
  · exact ⟨rfl, rfl⟩
  · exact ⟨rfl, rfl⟩
  · rw [endSession_eq]
    exact ⟨rfl, rfl⟩

/-! ## Clients and frames -/

/-- The accept handler in full, for a client on a descriptor that was not open. -/
theorem onSocketAcceptHandler_eq (state : State cfg) (sock : Nat) (created : Bool) :
    onSocketAcceptHandler (accept state sock) sock created =
      { state with
        sock := sock
        xHandleSniff := if created then some state.nextTask else state.xHandleSniff
        tasks :=
          if created then update state.tasks state.nextTask (some .created)
          else state.tasks
        nextTask := if created then state.nextTask + 1 else state.nextTask
        files :=
          if state.sock ≠ 0 then
            update (update state.files sock (some state.nextConn)) state.sock none
          else update state.files sock (some state.nextConn)
        nextConn := state.nextConn + 1
        faults := (onSocketAcceptHandler (accept state sock) sock created).faults } := by
  rw [onSocketAcceptHandler, disconnectSocket, snifferStart, xTaskCreate]
  cases created <;> by_cases installed : state.sock = 0 <;> simp [installed, accept]

/-- The accept handler closes nothing that is not open. -/
theorem onSocketAcceptHandler_faults {state : State cfg} (sock : Nat) (created : Bool)
    (opened : state.sock ≠ 0 → state.files state.sock ≠ none) :
    (onSocketAcceptHandler (accept state sock) sock created).faults = state.faults := by
  have opened' : state.sock ≠ 0 → (accept state sock).files state.sock ≠ none := by
    intro installed
    simp only [accept, Function.update_apply]
    split
    · exact Option.some_ne_none _
    · exact opened installed
  rw [onSocketAcceptHandler, disconnectSocket, snifferStart, xTaskCreate]
  cases created <;> by_cases installed : state.sock = 0 <;>
    simp_all [accept]

theorem accept_cases {state next : State cfg} {sock : Nat} {created : Bool}
    (taken : step state (.accept sock created) = some next) :
    state.files sock = none ∧
      next = onSocketAcceptHandler (accept state sock) sock created := by
  rw [step] at taken
  split at taken
  case isTrue unused => exact ⟨unused, (Option.some.inj taken).symm⟩
  case isFalse => cases taken

/-- A received frame changes nothing but the queue, and what it adds is the record
built for it. -/
theorem frame_cases {state next : State cfg} {call : Reception}
    (taken : step state (.frame call) = some next) :
    ∃ queue, next = { state with packetQueue := queue } ∧
      ∀ record ∈ queue, record ∈ state.packetQueue ∨ record = builtRecord cfg call.pkt := by
  have next_eq : receive state call = next := Option.some.inj taken
  rw [receive, Reception.record_eq] at next_eq
  split at next_eq
  case h_2 => exact ⟨state.packetQueue, next_eq.symm, fun record member => .inl member⟩
  case h_1 record accepted =>
    split at accepted
    case isFalse => cases accepted
    case isTrue =>
      cases accepted
      rw [snifferAddQueue] at next_eq
      split at next_eq
      · refine ⟨_, next_eq.symm, fun record member => ?_⟩
        simpa using member
      · exact ⟨state.packetQueue, next_eq.symm, fun record member => .inl member⟩

/-! ## A frame to run on -/

/-- A beacon with a checksum, received one second after power-up while no source
filter and no threshold is set. -/
def beacon : Reception where
  filters :=
    { addrOwnMac := AddrFilter.ofBytes [2, 2, 2, 2, 2, 2]
      addr2Filter := AddrFilter.ofBytes []
      rssiFilter := 0 }
  semaphore := ⟨true, true⟩
  type := .mgmt
  pkt :=
    { rxCtrl :=
        { rssi := -30
          noiseFloor := -90
          channel := 1
          ant := 0
          timestamp := 1000000
          sigLen := 28
          rxState := 0 }
      payload := fun index => if index = 0 then 0x80 else 0 }

end WifiSniffer.Session
