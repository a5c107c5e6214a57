import WifiSniffer.Session.Machine

/-!
# The packet queue

Whatever clients and tasks do, the queue passes records on in the order in which
it took them in.  The records handed to `on_capture` so far, followed by those
still queued, are exactly the records of the calls that were admitted, and a call
is admitted when the handler accepts its packet while the queue has room.
-/

namespace WifiSniffer.Session

open WifiSniffer.Capture WifiSniffer.Handler WifiSniffer.Transition

variable {cfg : SdkConfig}

/-- The call, if its packet is accepted and the queue has room for its record. -/
def admittedCall (state : State cfg) (call : Reception) : List Reception :=
  if call.Accepted ∧ state.packetQueue.length < cfg.queueSize then [call] else []

/-- The call that an event of the session machine admits, if any. -/
def admittedBy (source : State cfg) : Event → List Reception
  | .frame call => admittedCall source call
  | .accept _ _ | .run _ _ => []

/-- The record of a call. -/
def callRecord (cfg : SdkConfig) (call : Reception) : PcapRec cfg.snapLen :=
  builtRecord cfg call.pkt

/-- A received frame adds the record of its call if the call is admitted. -/
theorem receive_eq (state : State cfg) (call : Reception) :
    receive state call =
      { state with
        packetQueue :=
          state.packetQueue ++ (admittedCall state call).map (callRecord cfg) } := by
  rw [receive, admittedCall, Reception.record_eq]
  by_cases accepted : call.Accepted
  · by_cases room : state.packetQueue.length < cfg.queueSize
    · simp [snifferAddQueue, accepted, room, callRecord]
    · simp [snifferAddQueue, accepted, room]
  · simp [accepted]

/-- On the way to its write a task moves the oldest record, if it takes one. -/
theorem prepare_buffers (state : State cfg) (phase : TaskPhase) :
    (prepare state phase).captured ++ (prepare state phase).packetQueue =
      state.captured ++ state.packetQueue := by
  cases phase with
  | created => rfl
  | looping => cases queue : state.packetQueue <;> simp [prepare, queue]

/-- One step hands on records in order and adds at the end. -/
theorem step_buffers {source target : State cfg} {event : Event}
    (taken : step source event = some target) :
    target.captured ++ target.packetQueue =
      source.captured ++ source.packetQueue ++
        (admittedBy source event).map (callRecord cfg) := by
  cases event with
  | accept sock created =>
      rcases accept_cases taken with ⟨_, rfl⟩
      rw [onSocketAcceptHandler_eq]
      simp [admittedBy]
  | run task result =>
      rcases run_cases taken with ⟨phase, alive, _⟩
      rcases run_buffers alive taken with ⟨captured_eq, queue_eq⟩
      rw [captured_eq, queue_eq, prepare_buffers]
      simp [admittedBy]
  | frame call =>
      obtain rfl : receive source call = target := Option.some.inj taken
      rw [receive_eq]
      simp [admittedBy]

/-- The records that have left and entered the queue are those of the admitted calls,
in their order. -/
def InOrder (admitted : List Reception) (state : State cfg) : Prop :=
  state.captured ++ state.packetQueue = admitted.map (callRecord cfg)

theorem inOrder_initial : InOrder [] (initial cfg) := by
  rw [InOrder, initial]
  split <;> rfl

theorem InOrder.step {admitted : List Reception} {source target : State cfg} {event : Event}
    (ordered : InOrder admitted source) (taken : step source event = some target) :
    InOrder (admitted ++ admittedBy source event) target := by
  rw [InOrder] at ordered ⊢
  rw [step_buffers taken, ordered, List.map_append]

/-- In every run, the records handed to `on_capture` followed by the queue are the
records of the admitted calls, in their order. -/
theorem inOrder_of_run {events : List Event} {last : State cfg}
    (run : exec step (initial cfg) events = some last) :
    InOrder (collect step admittedBy (initial cfg) events) last := by
  rw [← List.nil_append (collect step admittedBy (initial cfg) events)]
  apply exec_collect_invariant inOrder_initial ?_ (eachStep_true _ _) run
  intro admitted source event target ordered _ taken
  exact ordered.step taken

end WifiSniffer.Session
