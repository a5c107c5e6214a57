import WifiSniffer.Session.Received
import WifiSniffer.Session.Tasks

/-!
# Partial writes

`onSend` takes every result of `write` that is not negative for success, although
a write may accept fewer bytes than it was given.  Within the session of one
client, the stream and what `onSend` reports about it are right in exactly those
runs in which no write stops short.
-/

namespace WifiSniffer.Session

open WifiSniffer.Bytes WifiSniffer.Capture WifiSniffer.Handler WifiSniffer.Transition
open Function (update)

variable {cfg : SdkConfig}

/-! ## The session of one client -/

/-- The event is not another client. -/
def Event.Internal : Event → Prop
  | .accept _ _ => False
  | .run _ _ | .frame _ => True

/-- The state belongs to the session of one connection, served by one task: no
other task is alive, and while it is alive its client is installed. -/
structure Serving (conn task : Nat) (state : State cfg) : Prop where
  allocated : Allocated state
  alone : ∀ other, state.tasks other ≠ none → other = task
  handle_eq : state.xHandleSniff = some task
  installed : state.tasks task ≠ none →
    state.sock ≠ 0 ∧ state.files state.sock = some conn

/-- A client accepted while no task is alive starts a session. -/
theorem serving_of_accept {idle start : State cfg} {sock : Nat}
    (allocated : Allocated idle) (nobody : Idle idle) (installed : sock ≠ 0)
    (accepted : step idle (.accept sock true) = some start) :
    Serving idle.nextConn idle.nextTask start := by
  have allocatedAfter := allocated.step accepted
  rcases accept_cases accepted with ⟨unopened, rfl⟩
  have opened := allocated.opened
  rw [onSocketAcceptHandler_eq] at allocatedAfter ⊢
  constructor
  · exact allocatedAfter
  · intro other alive
    have absent := nobody other
    grind [Function.update_apply]
  · rfl
  · intro _
    exact ⟨installed, by grind [Function.update_apply]⟩

theorem Serving.step {conn task : Nat} {source target : State cfg} {event : Event}
    (serving : Serving conn task source) (internal : event.Internal)
    (taken : step source event = some target) : Serving conn task target := by
  have allocated := serving.allocated.step taken
  cases event with
  | accept sock created => exact internal.elim
  | run caller result =>
      rcases run_tasks taken with ⟨handle_eq, _, absent⟩
      refine ⟨allocated, fun other alive => ?_, handle_eq.trans serving.handle_eq,
        fun alive => ?_⟩
      · exact serving.alone other fun gone => alive (absent other gone)
      · rcases run_connections taken with ⟨_, sock_eq, _⟩
        rw [serving.handle_eq, Option.getD_some] at sock_eq
        rcases sock_eq with ⟨_, deleted⟩ | ⟨sock_eq, files_eq⟩
        · exact absurd deleted alive
        · rw [sock_eq, files_eq]
          exact serving.installed fun gone => alive (absent task gone)
  | frame call =>
      rcases frame_cases taken with ⟨queue, rfl, _⟩
      exact ⟨allocated, serving.alone, serving.handle_eq, serving.installed⟩

/-! ## What the session has recorded -/

/-- The header and the records handed to `on_capture` since the session started. -/
def sessionStream (start state : State cfg) : List UInt8 :=
  (pcapHdr cfg).bytes ++
    (state.captured.drop start.captured.length).flatMap PcapRec.sentBytes

/-- The state of a session all of whose writes were whole until one failed. -/
structure Recorded (start : State cfg) (conn task : Nat) (state : State cfg) : Prop where
  serving : Serving conn task state
  extended : start.captured <+: state.captured
  fresh : state.tasks task = some .created →
    state.received conn = [] ∧ state.captured = start.captured
  started : state.tasks task = some .looping → state.received conn = sessionStream start state
  framed : state.received conn <+: sessionStream start state

/-- Handing over one more record extends the stream by it. -/
theorem sessionStream_concat {start state next : State cfg} {record : PcapRec cfg.snapLen}
    (extended : start.captured <+: state.captured)
    (captured_eq : next.captured = state.captured ++ [record]) :
    sessionStream start next = sessionStream start state ++ record.sentBytes := by
  rw [sessionStream, sessionStream, captured_eq, List.drop_append_of_le_length extended.length_le,
    List.flatMap_append, List.flatMap_singleton, List.append_assoc]

/-- The buffer a task writes is what the stream of its session goes on with. -/
theorem Recorded.continues {start state next : State cfg} {conn task : Nat}
    {phase : TaskPhase} {buffer : List UInt8} (recorded : Recorded start conn task state)
    (alive : state.tasks task = some phase) (requested : request state phase = some buffer)
    (captured_eq : next.captured = (prepare state phase).captured) :
    start.captured <+: next.captured ∧
      sessionStream start next = state.received conn ++ buffer := by
  rcases recorded.serving.allocated.request_cases requested with
    ⟨rfl, rfl⟩ | ⟨rfl, pkt, rest, queue_eq, rfl⟩
  · rcases recorded.fresh alive with ⟨empty, same⟩
    have captured_eq : next.captured = start.captured := captured_eq.trans same
    refine ⟨captured_eq ▸ List.prefix_refl _, ?_⟩
    rw [sessionStream, captured_eq, List.drop_length, List.flatMap_nil, List.append_nil, empty,
      List.nil_append]
  · have captured_eq : next.captured = state.captured ++ [builtRecord cfg pkt] := by
      rw [captured_eq]
      simp [prepare, queue_eq]
    refine ⟨captured_eq ▸ recorded.extended.trans (List.prefix_append _ _), ?_⟩
    rw [sessionStream_concat recorded.extended captured_eq, recorded.started alive]

theorem Recorded.run {start state next : State cfg} {conn task caller : Nat}
    {result : Int} (recorded : Recorded start conn task state)
    (whole : WholeOrFails state (.run caller result))
    (taken : step state (.run caller result) = some next) :
    Recorded start conn task next := by
  have internal : (Event.run caller result).Internal := trivial
  have serving := recorded.serving.step internal taken
  rcases run_cases taken with ⟨phase, alive, _⟩
  obtain rfl : caller = task := recorded.serving.alone caller (by simp [alive])
  obtain ⟨installed, opened⟩ := recorded.serving.installed (by simp [alive])
  have captured_eq := (run_buffers alive taken).1
  have created_ne := run_started taken
  cases requested : request state phase with
  | none =>
      rcases recorded.serving.allocated.no_request installed requested with ⟨rfl, queue_eq⟩
      have captured_eq : next.captured = state.captured := by
        rw [captured_eq]
        simp [prepare, queue_eq]
      have stream_eq : sessionStream start next = sessionStream start state := by
        rw [sessionStream, sessionStream, captured_eq]
      have received_eq := (run_silent alive requested taken).2.2 conn
      refine ⟨serving, captured_eq ▸ recorded.extended,
        fun created => absurd created created_ne, fun _ => ?_, ?_⟩
      · rw [received_eq, stream_eq, recorded.started alive]
      · rw [received_eq, stream_eq]
        exact recorded.framed
  | some buffer =>
      rcases run_sends alive requested opened taken with ⟨_, received_eq, ended⟩
      rcases recorded.continues alive requested captured_eq with ⟨extended, stream_eq⟩
      rcases whole phase alive buffer requested with failed | result_eq
      · -- nothing of the buffer was accepted, and the task is gone
        rcases ended failed with ⟨_, deleted⟩
        rw [recorded.serving.handle_eq, Option.getD_some] at deleted
        refine ⟨serving, extended, fun created => absurd created created_ne,
          fun looping => ?_, ?_⟩
        · rw [deleted] at looping
          cases looping
        · rw [received_eq, stream_eq, Int.toNat_of_nonpos (Int.le_of_lt failed), List.take_zero,
            List.append_nil]
          exact List.prefix_append _ _
      · -- the stream goes on by the whole buffer
        have received_eq : next.received conn = sessionStream start next := by
          rw [received_eq, stream_eq, result_eq, Int.toNat_natCast, List.take_length]
        exact ⟨serving, extended, fun created => absurd created created_ne, fun _ => received_eq,
          received_eq ▸ List.prefix_refl _⟩

theorem Recorded.step {start source target : State cfg} {event : Event} {conn task : Nat}
    (recorded : Recorded start conn task source) (internal : event.Internal)
    (whole : WholeOrFails source event) (taken : step source event = some target) :
    Recorded start conn task target := by
  have serving := recorded.serving.step internal taken
  cases event with
  | accept sock created => exact internal.elim
  | run caller result => exact recorded.run whole taken
  | frame call =>
      rcases frame_cases taken with ⟨queue, rfl, _⟩
      exact ⟨serving, recorded.extended, recorded.fresh, recorded.started, recorded.framed⟩

/-! ## Reliable sending -/

/-- After the step the connection has received a leading part of the session's
stream, and `onSend` has told the truth: true only if the whole buffer was
accepted, and otherwise the session is over. -/
def Reliable (start : State cfg) (conn : Nat) (source : State cfg) (event : Event)
    (target : State cfg) : Prop :=
  target.received conn <+: sessionStream start target ∧
    ∀ task buffer result, Sends source event task buffer result →
      ((onSend source source.sock buffer result).2 = true →
        target.received conn = source.received conn ++ buffer) ∧
      ((onSend source source.sock buffer result).2 = false →
        target.sock = 0 ∧ target.tasks task = none)

theorem onSend_snd (state : State cfg) (sock : Nat) (buffer : List UInt8) (result : Int) :
    (onSend state sock buffer result).2 = decide (0 ≤ result) := by
  unfold onSend onSendReturn
  split <;> rename_i failed <;> simp <;> omega

theorem Recorded.reliable {start source target : State cfg} {event : Event}
    {conn task : Nat} (recorded : Recorded start conn task source) (internal : event.Internal)
    (whole : WholeOrFails source event) (taken : Session.step source event = some target) :
    Reliable start conn source event target := by
  constructor
  · exact (recorded.step internal whole taken).framed
  rintro caller buffer result ⟨phase, rfl, alive, requested⟩
  obtain rfl : caller = task := recorded.serving.alone caller (by simp [alive])
  obtain ⟨_, opened⟩ := recorded.serving.installed (by simp [alive])
  rcases run_sends alive requested opened taken with ⟨_, received_eq, ended⟩
  rw [recorded.serving.handle_eq, Option.getD_some] at ended
  rw [onSend_snd]
  constructor
  · intro accepted
    have result_eq : result = buffer.length := by
      have outcome := whole phase alive buffer requested
      have accepted : 0 ≤ result := by simpa using accepted
      omega
    rw [received_eq, result_eq, Int.toNat_natCast, List.take_length]
  · intro failed
    exact ended (by simpa using failed)

/-- A send that was reported as successful and has arrived was whole. -/
theorem Reliable.wholeOrFails {start source target : State cfg} {event : Event}
    {conn task : Nat} (serving : Serving conn task source)
    (reliable : Reliable start conn source event target)
    (taken : Session.step source event = some target) : WholeOrFails source event := by
  cases event with
  | accept sock created => trivial
  | frame call => trivial
  | run caller result =>
      intro phase alive buffer requested
      obtain rfl : caller = task := serving.alone caller (by simp_all)
      obtain ⟨_, opened⟩ := serving.installed (by simp_all)
      rcases run_sends alive requested opened taken with ⟨result_le, received_eq, _⟩
      obtain ⟨arrived, _⟩ := reliable.2 caller buffer result ⟨phase, rfl, alive, requested⟩
      by_contra short
      have accepted : 0 ≤ result := by omega
      rw [received_eq, onSend_snd] at arrived
      have all := List.append_cancel_left (arrived (by simpa using accepted))
      have covered := congrArg List.length all
      rw [List.length_take] at covered
      omega

/-- A session starts with nothing received and nothing handed over. -/
theorem recorded_of_accept {idle start : State cfg} {sock : Nat}
    (allocated : Allocated idle) (nobody : Idle idle) (installed : sock ≠ 0)
    (accepted : step idle (.accept sock true) = some start) :
    Recorded start idle.nextConn idle.nextTask start := by
  have serving := serving_of_accept allocated nobody installed accepted
  rcases accept_cases accepted with ⟨_, rfl⟩
  have received_eq : (onSocketAcceptHandler (accept idle sock) sock true).received
      idle.nextConn = [] := by
    rw [received_onSocketAcceptHandler]
    exact allocated.unused idle.nextConn (Nat.le_refl _)
  refine ⟨serving, List.prefix_refl _, fun _ => ⟨received_eq, rfl⟩, fun looping => ?_, ?_⟩
  · rw [onSocketAcceptHandler_eq] at looping
    simp at looping
  · rw [received_eq]
    exact List.nil_prefix

/-- In the session of one client, whatever the results of its writes: at every
moment the connection has received a leading part of the header and the records
handed to `on_capture`, and every `onSend` tells the truth about its buffer, if
and only if no write accepts only a part of its buffer. -/
theorem session_reliable_iff {before events : List Event} {idle start : State cfg}
    {sock : Nat} (reached : exec step (initial cfg) before = some idle) (nobody : Idle idle)
    (installed : sock ≠ 0) (accepted : step idle (.accept sock true) = some start)
    (internal : ∀ event ∈ events, event.Internal) :
    EachStep step (Reliable start idle.nextConn) start events ↔
      EachStep step (fun source event _ => WholeOrFails source event) start events := by
  have recorded := recorded_of_accept (allocated_of_run reached) nobody installed accepted
  have sessionEvents : EachStep step (fun _ event _ => event.Internal) start events :=
    eachStep_of_forall_mem internal
  constructor
  · intro reliable
    apply EachStep.of_invariant recorded.serving ?_ (sessionEvents.and reliable)
    rintro source event target serving ⟨internal, reliable⟩ taken
    exact ⟨reliable.wholeOrFails serving taken, serving.step internal taken⟩
  · intro whole
    apply EachStep.of_invariant recorded ?_ (sessionEvents.and whole)
    rintro source event target recorded ⟨internal, whole⟩ taken
    exact ⟨recorded.reliable internal whole taken, recorded.step internal whole taken⟩

/-- The condition for a client that gets its header and a beacon before its
connection breaks. -/
theorem session_reliable_iff_beacon :
    ∃ start : State SdkConfig.smallest,
      step (initial _) (.accept 54 true) = some start ∧
        (EachStep step (Reliable start (initial SdkConfig.smallest).nextConn) start
            [.run 0 24, .frame beacon, .run 0 60, .frame beacon, .run 0 (-1)] ↔
          EachStep step (fun source event _ => WholeOrFails source event) start
            [.run 0 24, .frame beacon, .run 0 60, .frame beacon, .run 0 (-1)]) := by
  refine ⟨_, rfl, ?_⟩
  have reached : exec step (initial SdkConfig.smallest) [] = some (initial _) := rfl
  exact session_reliable_iff reached (fun _ => rfl) (by decide) rfl
    (by simp [Event.Internal])

/-- The socket accepts ten bytes of the header and then a whole record, and the
record arrives where the rest of the header should have been. -/
theorem short_header_breaks_stream :
    ∃ start last : State SdkConfig.smallest,
      step (initial _) (.accept 54 true) = some start ∧
        exec step start [.run 0 10, .frame beacon, .run 0 60] = some last ∧
        last.files 54 = some 0 ∧ ¬ last.received 0 <+: sessionStream start last := by
  have runs : ((step (initial SdkConfig.smallest) (.accept 54 true)).bind fun start =>
      (exec step start [.run 0 10, .frame beacon, .run 0 60]).map fun last =>
        decide (last.files 54 = some 0 ∧ ¬ last.received 0 <+: sessionStream start last)) =
        some true := by
    decide +kernel
  rcases Option.bind_eq_some_iff.mp runs with ⟨start, accepted, session⟩
  rcases Option.map_eq_some_iff.mp session with ⟨last, run, broken⟩
  exact ⟨start, last, accepted, run, of_decide_eq_true broken⟩

end WifiSniffer.Session
