import WifiSniffer.Capture.RoundTrip
import WifiSniffer.Session.Machine
import Mathlib.Data.List.Forall2

/-!
# Received bytes

What the writes of a session add up to.  A client that is served without failures
gets a capture that decodes to the packets the handler has accepted.  In the
machine, a connection that has not been made yet has received nothing, a running
task adds to one connection only, and all it can add are records of packets.
-/

namespace WifiSniffer.Session

open WifiSniffer.Bytes WifiSniffer.Capture WifiSniffer.Handler WifiSniffer.Transition
open Format (decodeCapture)
open Function (update)

variable {cfg : SdkConfig}

/-! ## Received bytes -/

section Received

variable (state : State cfg) (conn : Nat)

@[simp]
theorem received_prepare (phase : TaskPhase) :
    (prepare state phase).received conn = state.received conn := by
  rw [State.received, prepare_writes]
  rfl

@[simp]
theorem received_enterLoop (task : Nat) :
    (enterLoop state task).received conn = state.received conn :=
  rfl

@[simp]
theorem received_endSession (sock caller : Nat) :
    (endSession state sock caller).received conn = state.received conn := by
  rw [endSession_eq]
  rfl

/-- A write adds what was accepted of it to its own connection. -/
theorem received_write (target : Option Nat) (buffer : List UInt8) (result : Int) :
    (write state target buffer result).received conn =
      if target = some conn then state.received conn ++ buffer.take result.toNat
      else state.received conn := by
  cases target with
  | none => rfl
  | some other =>
      by_cases same : other = conn
      · subst same
        simp [State.received, write, delivered_concat]
      · simp [State.received, write, same, Function.update_of_ne (Ne.symm same)]

end Received

/-! ## A session without failures -/

/-- `capture_on_send` for one record after the other, every write taking all its
bytes. -/
def captureAll (state : State cfg) (caller : Nat) (records : List (PcapRec cfg.snapLen)) :
    State cfg :=
  records.foldl
    (fun state record => captureOnSend state caller record record.sentBytes.length) state

/-- `capture_start` and then `capture_on_send` for every record, every write taking
all its bytes. -/
def serve (state : State cfg) (caller : Nat) (records : List (PcapRec cfg.snapLen)) :
    State cfg :=
  captureAll (captureStart state caller (pcapHdr cfg).bytes.length) caller records

theorem builtRecord_origLen_pos (pkt : WifiPromiscuousPkt) :
    (builtRecord cfg pkt).pcapRecHdr.origLen > 0 := by
  have origLen_eq := createPcapRecHdr_origLen_toNat cfg pkt.rxCtrl.withoutFcs
  rw [gt_iff_lt, UInt32.lt_iff_toNat_lt]
  change 0 < (createPcapRecHdr cfg pkt.rxCtrl.withoutFcs).origLen.toNat
  omega

/-- A write that takes everything does not end the session. -/
theorem afterSend_onSend_whole (state : State cfg) (buffer : List UInt8) (caller : Nat) :
    afterSend (onSend state state.sock buffer buffer.length) caller =
      write state (state.files state.sock) buffer buffer.length := by
  rw [afterSend_onSend, if_neg (Int.not_lt.mpr (Int.natCast_nonneg _))]

theorem captureStart_whole {state : State cfg} (installed : state.sock ≠ 0) (caller : Nat) :
    captureStart state caller (pcapHdr cfg).bytes.length =
      write state (state.files state.sock) (pcapHdr cfg).bytes (pcapHdr cfg).bytes.length := by
  rw [captureStart, onStartCapture, if_pos installed, afterSend_onSend_whole]

theorem captureOnSend_whole {state : State cfg} (installed : state.sock ≠ 0)
    {record : PcapRec cfg.snapLen} (nonempty : record.pcapRecHdr.origLen > 0)
    (caller : Nat) :
    captureOnSend state caller record record.sentBytes.length =
      write { state with captured := state.captured ++ [record] }
        (state.files state.sock) record.sentBytes record.sentBytes.length := by
  rw [captureOnSend, onCapture, if_pos ⟨installed, nonempty⟩]
  exact afterSend_onSend_whole { state with captured := state.captured ++ [record] }
    record.sentBytes caller

/-- All records arrive one behind the other. -/
theorem received_captureAll {state : State cfg} {conn : Nat} (installed : state.sock ≠ 0)
    (opened : state.files state.sock = some conn) (caller : Nat)
    {records : List (PcapRec cfg.snapLen)}
    (nonempty : ∀ record ∈ records, record.pcapRecHdr.origLen > 0) :
    (captureAll state caller records).received conn =
      state.received conn ++ records.flatMap PcapRec.sentBytes := by
  induction records generalizing state with
  | nil => simp [captureAll]
  | cons record records ih =>
      have sent := captureOnSend_whole installed (nonempty record List.mem_cons_self) caller
      have rest_nonempty : ∀ other ∈ records, other.pcapRecHdr.origLen > 0 :=
        fun other member => nonempty other (List.mem_cons_of_mem record member)
      obtain ⟨next, next_eq⟩ : ∃ next, next = captureOnSend state caller record
          record.sentBytes.length := ⟨_, rfl⟩
      have received_eq : next.received conn = state.received conn ++ record.sentBytes := by
        rw [next_eq, sent, received_write, if_pos opened]
        simp [State.received]
      rw [sent] at next_eq
      have installed' : next.sock ≠ 0 := by rwa [next_eq]
      have opened' : next.files next.sock = some conn := by rwa [next_eq]
      rw [captureAll, List.foldl_cons, sent, ← next_eq, ← captureAll,
        ih installed' opened' rest_nonempty, received_eq]
      simp

/-- Serving a fresh client sends it the capture of the packets. -/
theorem received_serve {state : State cfg} {conn : Nat} (installed : state.sock ≠ 0)
    (opened : state.files state.sock = some conn) (unwritten : state.received conn = [])
    (caller : Nat) (packets : List WifiPromiscuousPkt) :
    (serve state caller (packets.map (builtRecord cfg))).received conn =
      captureStream cfg packets := by
  have header_eq : (captureStart state caller (pcapHdr cfg).bytes.length).received conn =
      (pcapHdr cfg).bytes := by
    rw [captureStart_whole installed, received_write, if_pos opened, unwritten,
      Int.toNat_natCast, List.take_length, List.nil_append]
  have nonempty : ∀ record ∈ packets.map (builtRecord cfg),
      record.pcapRecHdr.origLen > 0 := by
    intro record member
    rcases List.mem_map.mp member with ⟨pkt, _, rfl⟩
    exact builtRecord_origLen_pos pkt
  obtain ⟨started, started_eq⟩ : ∃ started,
    started = captureStart state caller (pcapHdr cfg).bytes.length := ⟨_, rfl⟩
  rw [serve, ← started_eq]
  rw [← started_eq] at header_eq
  rw [captureStart_whole installed] at started_eq
  have installed' : started.sock ≠ 0 := by rwa [started_eq]
  have opened' : started.files started.sock = some conn := by rwa [started_eq]
  rw [received_captureAll installed' opened' caller nonempty, header_eq, captureStream,
    List.flatMap_map]

/-- The records offered for a list of calls are those built for the packets that
were accepted. -/
theorem filterMap_record (calls : List Reception) :
    calls.filterMap (Reception.record cfg) =
      ((calls.filter fun call => call.Accepted).map Reception.pkt).map (builtRecord cfg) := by
  induction calls with
  | nil => rfl
  | cons call calls ih =>
      have record_eq := call.record_eq cfg
      by_cases accepted : call.Accepted
      · rw [if_pos accepted] at record_eq
        simp [record_eq, accepted, ih]
      · rw [if_neg accepted] at record_eq
        simp [record_eq, accepted, ih]

/-- The part of a built record that is sent lies inside the record. -/
theorem captureGetSize_builtRecord_le (pkt : WifiPromiscuousPkt) :
    (captureGetSize (builtRecord cfg pkt).pcapRecHdr).toNat ≤
      (builtRecord cfg pkt).bytes.length := by
  have size_eq := captureGetSize_createPcapRecHdr_toNat cfg pkt.rxCtrl.withoutFcs
  rw [PcapRec.bytes_length]
  change (captureGetSize (createPcapRecHdr cfg pkt.rxCtrl.withoutFcs)).toNat ≤ _
  omega

/-- Whatever is received, the bytes sent for the header and for the accepted
packets decode to their end, to these packets in order, and no write reads past
its record. -/
theorem served_capture_decodes {state : State cfg} {conn : Nat}
    (installed : state.sock ≠ 0) (opened : state.files state.sock = some conn)
    (unwritten : state.received conn = []) (caller : Nat) {calls : List Reception}
    (covers : ∀ call ∈ calls, 4 ≤ call.pkt.rxCtrl.sigLen.toNat) :
    (∃ frames,
      decodeCapture
          ((serve state caller (calls.filterMap (Reception.record cfg))).received conn) =
        some (fileHeader cfg, frames) ∧
      List.Forall₂ (fun call frame => Describes cfg call.pkt frame)
        (calls.filter fun call => call.Accepted) frames) ∧
      ∀ record ∈ calls.filterMap (Reception.record cfg),
        (captureGetSize record.pcapRecHdr).toNat ≤ record.bytes.length := by
  rw [filterMap_record, received_serve installed opened unwritten,
    decodeCapture_captureStream]
  constructor
  · refine ⟨_, rfl, ?_⟩
    rw [List.map_map, List.forall₂_map_right_iff, List.forall₂_same]
    intro call member
    exact describes_frameOf cfg (covers call (List.mem_of_mem_filter member))
  · intro record member
    rcases List.mem_map.mp member with ⟨pkt, _, rfl⟩
    exact captureGetSize_builtRecord_le pkt

/-- A beacon that is longer than the smallest record has room for. -/
def longBeacon : Reception :=
  { beacon with
    pkt := { beacon.pkt with rxCtrl := { beacon.pkt.rxCtrl with sigLen := 300 } } }

/-- A client that has just been accepted, served two beacons of which the second is
truncated. -/
theorem served_capture_decodes_beacon :
    (∀ call ∈ [beacon, longBeacon], call.Accepted) ∧
      SdkConfig.smallest.snapLen < 20 + (longBeacon.pkt.rxCtrl.sigLen.toNat - 4) ∧
      ∃ state : State SdkConfig.smallest,
        exec step (initial _) [.accept 54 true] = some state ∧
          (∃ frames,
            decodeCapture
                ((serve state 0 ([beacon, longBeacon].filterMap (Reception.record _))).received
                  0) =
              some (fileHeader SdkConfig.smallest, frames) ∧
            List.Forall₂ (fun call frame => Describes SdkConfig.smallest call.pkt frame)
              ([beacon, longBeacon].filter fun call => call.Accepted) frames) ∧
          ∀ record ∈ [beacon, longBeacon].filterMap (Reception.record SdkConfig.smallest),
            (captureGetSize record.pcapRecHdr).toNat ≤ record.bytes.length := by
  refine ⟨by decide, by decide, _, rfl, ?_⟩
  exact served_capture_decodes (by decide) (by decide) rfl 0 (by decide)

/-! ## What holds of every run -/

/-- Connection numbers are given out in order, the installed socket is open, and
only built records are queued. -/
structure Allocated (state : State cfg) : Prop where
  opened : state.sock ≠ 0 → state.files state.sock ≠ none
  used : ∀ sock conn, state.files sock = some conn → conn < state.nextConn
  unused : ∀ conn, state.nextConn ≤ conn → state.received conn = []
  queued : ∀ record ∈ state.packetQueue, ∃ pkt, record = builtRecord cfg pkt

/-- A running task opens no socket, queues no record and writes to no other
connection than the one behind `_sock`.  It leaves that socket alone unless it
also deletes the task of the handle. -/
theorem run_connections {state next : State cfg} {task : Nat} {result : Int}
    (taken : step state (.run task result) = some next) :
    next.nextConn = state.nextConn ∧
      (next.sock = 0 ∧ next.tasks (state.xHandleSniff.getD task) = none ∨
        next.sock = state.sock ∧ next.files = state.files) ∧
      (∀ sock conn, next.files sock = some conn → state.files sock = some conn) ∧
      (∀ record ∈ next.packetQueue, record ∈ state.packetQueue) ∧
      ∀ conn, state.files state.sock ≠ some conn →
        next.received conn = state.received conn := by
  rcases run_cases taken with ⟨phase, alive, outcome⟩
  have queue_sub : ∀ record ∈ (prepare state phase).packetQueue,
      record ∈ state.packetQueue :=
    fun record member => mem_of_mem_prepare_packetQueue state phase member
  rcases outcome with
    ⟨_, rfl⟩ | ⟨buffer, _, _, ⟨_, rfl⟩ | ⟨_, rfl⟩⟩
  · refine ⟨?_, .inr ?_, ?_, queue_sub, fun conn _ => ?_⟩
    · simp [enterLoop]
    · simp [enterLoop]
    · simp [enterLoop]
    · simp
  · refine ⟨?_, .inr ?_, ?_, queue_sub, fun conn different => ?_⟩
    · simp [enterLoop, write]
    · simp [enterLoop, write]
    · simp [enterLoop, write]
    · rw [received_enterLoop, received_write, if_neg different, received_prepare]
  · refine ⟨?_, .inl ?_, ?_, ?_, fun conn different => ?_⟩
    · rw [endSession_eq]
      simp [enterLoop, write]
    · rw [endSession_eq]
      refine ⟨rfl, ?_⟩
      rw [enterLoop_tasks_eq_none_iff]
      simp [write]
    · intro sock conn opened
      rw [endSession_eq] at opened
      simp only [enterLoop, write, prepare_files, prepare_sock] at opened
      grind [Function.update_apply]
    · rw [endSession_eq]
      exact queue_sub
    · rw [received_enterLoop, received_endSession, received_write, if_neg different,
        received_prepare]

/-- Accepting a client writes nothing. -/
theorem received_onSocketAcceptHandler (state : State cfg) (sock : Nat) (created : Bool)
    (conn : Nat) :
    (onSocketAcceptHandler (accept state sock) sock created).received conn =
      state.received conn := by
  rw [onSocketAcceptHandler_eq]
  rfl

theorem allocated_initial : Allocated (initial cfg) := by
  rw [initial]
  constructor
  · intro installed
    split at installed <;> exact absurd rfl installed
  · intro sock conn opened
    split at opened <;> cases opened
  · intro conn _
    split <;> rfl
  · split <;> exact fun _ member => absurd member List.not_mem_nil

theorem Allocated.accept {source target : State cfg} {sock : Nat} {created : Bool}
    (allocated : Allocated source) (taken : step source (.accept sock created) = some target) :
    Allocated target := by
  rcases accept_cases taken with ⟨unopened, rfl⟩
  constructor
  · intro _
    have opened := allocated.opened
    rw [onSocketAcceptHandler_eq]
    grind [Function.update_apply]
  · intro other conn opened
    have used := allocated.used other conn
    rw [onSocketAcceptHandler_eq] at opened ⊢
    grind [Function.update_apply]
  · intro conn later
    rw [onSocketAcceptHandler_eq] at later
    rw [received_onSocketAcceptHandler]
    exact allocated.unused conn (Nat.le_of_succ_le later)
  · rw [onSocketAcceptHandler_eq]
    exact allocated.queued

theorem Allocated.run {source target : State cfg} {task : Nat} {result : Int}
    (allocated : Allocated source) (taken : step source (.run task result) = some target) :
    Allocated target := by
  rcases run_connections taken with ⟨nextConn_eq, sock_eq, files_sub, queue_sub, received_eq⟩
  constructor
  · intro installed
    rcases sock_eq with ⟨sock_eq, _⟩ | ⟨sock_eq, files_eq⟩
    · exact absurd sock_eq installed
    · rw [sock_eq] at installed
      rw [files_eq, sock_eq]
      exact allocated.opened installed
  · intro sock conn opened
    rw [nextConn_eq]
    exact allocated.used sock conn (files_sub sock conn opened)
  · intro conn later
    rw [nextConn_eq] at later
    rw [received_eq]
    · exact allocated.unused conn later
    · intro opened
      exact absurd (allocated.used _ conn opened) (Nat.not_lt.mpr later)
  · intro record member
    exact allocated.queued record (queue_sub record member)

theorem Allocated.step {source target : State cfg} {event : Event}
    (allocated : Allocated source) (taken : step source event = some target) :
    Allocated target := by
  cases event with
  | accept sock created => exact allocated.accept taken
  | run task result => exact allocated.run taken
  | frame call =>
      rcases frame_cases taken with ⟨queue, rfl, queued⟩
      refine ⟨allocated.opened, allocated.used, allocated.unused, fun record member => ?_⟩
      rcases queued record member with older | rfl
      · exact allocated.queued record older
      · exact ⟨call.pkt, rfl⟩

theorem allocated_of_run {events : List Event} {last : State cfg}
    (run : exec step (initial cfg) events = some last) : Allocated last := by
  apply exec_invariant allocated_initial ?_ (eachStep_true _ _) run
  intro source event target allocated _ taken
  exact allocated.step taken

/-- A task that writes sends the header when it is new, and otherwise the oldest
record of the queue. -/
theorem Allocated.request_cases {state : State cfg} {phase : TaskPhase}
    {buffer : List UInt8} (allocated : Allocated state)
    (requested : request state phase = some buffer) :
    (phase = .created ∧ buffer = (pcapHdr cfg).bytes) ∨
      (phase = .looping ∧ ∃ pkt rest, state.packetQueue = builtRecord cfg pkt :: rest ∧
        buffer = (builtRecord cfg pkt).sentBytes) := by
  have installed := sock_ne_zero_of_request requested
  cases phase with
  | created =>
      simp only [request, if_pos installed, Option.some.injEq] at requested
      exact .inl ⟨rfl, requested.symm⟩
  | looping =>
      cases queue : state.packetQueue with
      | nil => simp [request, queue] at requested
      | cons msg rest =>
          obtain ⟨pkt, rfl⟩ := allocated.queued msg (by simp [queue])
          have sending : state.sock ≠ 0 ∧ (builtRecord cfg pkt).pcapRecHdr.origLen > 0 :=
            ⟨installed, builtRecord_origLen_pos pkt⟩
          simp only [request, queue, if_pos sending, Option.some.injEq] at requested
          exact .inr ⟨rfl, pkt, rest, rfl, requested.symm⟩

/-- While a client is installed, a task writes nothing only if it finds the queue
empty. -/
theorem Allocated.no_request {state : State cfg} {phase : TaskPhase}
    (allocated : Allocated state) (installed : state.sock ≠ 0)
    (unrequested : request state phase = none) :
    phase = .looping ∧ state.packetQueue = [] := by
  cases phase with
  | created => simp [request, installed] at unrequested
  | looping =>
      refine ⟨rfl, ?_⟩
      cases queue : state.packetQueue with
      | nil => rfl
      | cons msg rest =>
          obtain ⟨pkt, rfl⟩ := allocated.queued msg (by simp [queue])
          have sending : state.sock ≠ 0 ∧ (builtRecord cfg pkt).pcapRecHdr.origLen > 0 :=
            ⟨installed, builtRecord_origLen_pos pkt⟩
          simp [request, queue, if_pos sending] at unrequested

/-- A task that has nothing to write leaves sockets and streams alone. -/
theorem run_silent {state next : State cfg} {task : Nat} {result : Int}
    {phase : TaskPhase} (alive : state.tasks task = some phase)
    (unrequested : request state phase = none)
    (taken : step state (.run task result) = some next) :
    next.sock = state.sock ∧ next.files = state.files ∧
      ∀ conn, next.received conn = state.received conn := by
  rcases run_cases taken with ⟨phase', alive', outcome⟩
  obtain rfl : phase = phase' := Option.some.inj (alive.symm.trans alive')
  rcases outcome with ⟨_, rfl⟩ | ⟨buffer, requested, _⟩
  · exact ⟨prepare_sock state phase, prepare_files state phase,
      fun conn => received_prepare state conn phase⟩
  · rw [unrequested] at requested
    cases requested

/-- What a task writes arrives as far as it is accepted; if the write fails, nobody
is installed any more and the task of the handle is gone. -/
theorem run_sends {state next : State cfg} {task conn : Nat} {result : Int}
    {phase : TaskPhase} {buffer : List UInt8} (alive : state.tasks task = some phase)
    (requested : request state phase = some buffer)
    (opened : state.files state.sock = some conn)
    (taken : step state (.run task result) = some next) :
    result ≤ buffer.length ∧
      next.received conn = state.received conn ++ buffer.take result.toNat ∧
      (result < 0 → next.sock = 0 ∧ next.tasks (state.xHandleSniff.getD task) = none) := by
  rcases run_cases taken with ⟨phase', alive', outcome⟩
  obtain rfl : phase = phase' := Option.some.inj (alive.symm.trans alive')
  rcases outcome with ⟨unrequested, _⟩ | ⟨buffer', requested', allowed, outcome⟩
  · rw [requested] at unrequested
    cases unrequested
  · obtain rfl : buffer = buffer' := Option.some.inj (requested.symm.trans requested')
    refine ⟨allowed.1, ?_⟩
    rcases outcome with ⟨accepted, rfl⟩ | ⟨failed, rfl⟩
    · constructor
      · rw [received_enterLoop, received_write, if_pos opened, received_prepare]
      · intro failed
        exact absurd failed (Int.not_lt.mpr accepted)
    · constructor
      · rw [received_enterLoop, received_endSession, received_write, if_pos opened,
          received_prepare]
      · intro _
        rw [endSession_eq]
        refine ⟨rfl, ?_⟩
        rw [enterLoop_tasks_eq_none_iff]
        simp [write]

end WifiSniffer.Session
