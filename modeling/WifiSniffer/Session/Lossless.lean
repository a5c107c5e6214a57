import WifiSniffer.Session.Blocking
import WifiSniffer.Session.Queue
import WifiSniffer.Session.Received

/-!
# Nothing lost, repeated or reordered

With one client and writes that take all their bytes, the stream of the client is
the header followed by the records of the admitted calls in their order, of which
the last ones are still on their way: at most one is in a write that has not
returned, and the others are queued.  Tasks and the packet handler are interleaved
in any way; the write of a task is split into its call and its return.
-/

namespace WifiSniffer.Session

open WifiSniffer.Bytes WifiSniffer.Capture WifiSniffer.Handler WifiSniffer.Transition
open Function (update)

variable {cfg : SdkConfig}

/-- The call that an event admits to the queue, if any. -/
def blockingAdmittedBy (source : BlockingState cfg) : BlockingEvent → List Reception
  | .frame call => admittedCall source.state call
  | .accept _ _ | .call _ | .ret _ _ => []

/-- A write that returns has taken all its bytes. -/
def ReturnsWhole (source : BlockingState cfg) : BlockingEvent → Prop
  | .ret task result => ∀ blocked ∈ source.pending task, result = blocked.buffer.length
  | .accept _ _ | .call _ | .frame _ => True

instance (source : BlockingState cfg) :
    (event : BlockingEvent) → Decidable (ReturnsWhole source event)
  | .ret task result =>
      inferInstanceAs (Decidable (∀ blocked ∈ source.pending task,
        result = blocked.buffer.length))
  | .accept _ _ | .call _ | .frame _ => .isTrue trivial

theorem blocking_frame_eq {source target : BlockingState cfg} {call : Reception}
    (taken : blockingStep source (.frame call) = some target) :
    target =
      ⟨{ source.state with
          packetQueue := source.state.packetQueue ++
            (admittedCall source.state call).map (callRecord cfg) }, source.pending⟩ := by
  rw [← receive_eq]
  exact (Option.some.inj taken).symm

/-! ## Before the client -/

/-- Nobody has come yet: frames are queued and nothing else happens. -/
structure Unvisited (admitted : List Reception) (source : BlockingState cfg) : Prop where
  sock_eq : source.state.sock = 0
  tasks_eq : ∀ task, source.state.tasks task = none
  pending_eq : ∀ task, source.pending task = none
  received_eq : source.state.received 0 = []
  nextConn_eq : source.state.nextConn = 0
  nextTask_eq : source.state.nextTask = 0
  queue_eq : source.state.packetQueue = admitted.map (callRecord cfg)

theorem unvisited_initial (plain : cfg.liligoS3 = false) :
    Unvisited [] (BlockingState.ofState (initial cfg)) := by
  constructor <;> simp [BlockingState.ofState, initial, plain, State.received, delivered]

theorem Unvisited.step {admitted : List Reception} {source target : BlockingState cfg}
    {event : BlockingEvent} (unvisited : Unvisited admitted source)
    (internal : event.Internal) (taken : blockingStep source event = some target) :
    Unvisited (admitted ++ blockingAdmittedBy source event) target := by
  cases event with
  | accept sock created => exact internal.elim
  | call task =>
      rcases call_cases taken with ⟨phase, alive, _⟩
      rw [unvisited.tasks_eq task] at alive
      cases alive
  | ret task result =>
      rcases ret_cases taken with ⟨blocked, waiting, _⟩
      rw [unvisited.pending_eq task] at waiting
      cases waiting
  | frame call =>
      rw [blocking_frame_eq taken]
      constructor
      · exact unvisited.sock_eq
      · exact unvisited.tasks_eq
      · exact unvisited.pending_eq
      · exact unvisited.received_eq
      · exact unvisited.nextConn_eq
      · exact unvisited.nextTask_eq
      · simp [unvisited.queue_eq, blockingAdmittedBy]

/-! ## With the client -/

/-- How far the stream of the client has come. -/
inductive Stage (admitted : List Reception) (source : BlockingState cfg) : Prop where
  /-- The header is still to be sent, or on its way. -/
  | fresh (notLooping : source.state.tasks 0 ≠ some .looping)
      (unwritten : source.state.received 0 = [])
      (header : ∀ blocked ∈ source.pending 0, blocked.buffer = (pcapHdr cfg).bytes)
      (queue_eq : source.state.packetQueue = admitted.map (callRecord cfg))
  /-- Records follow the header, and at most one is on its way. -/
  | serving (looping : source.state.tasks 0 = some .looping)
      (sent flight : List (PcapRec cfg.snapLen))
      (received_eq : source.state.received 0 =
        (pcapHdr cfg).bytes ++ sent.flatMap PcapRec.sentBytes)
      (flight_eq : (source.pending 0).toList.map PendingWrite.buffer =
        flight.map PcapRec.sentBytes)
      (queue_eq : sent ++ flight ++ source.state.packetQueue =
        admitted.map (callRecord cfg))

/-- The only client is installed on the first connection and served by the first
task. -/
structure Visited (admitted : List Reception) (source : BlockingState cfg) : Prop where
  installed : source.state.sock ≠ 0
  opened : source.state.files source.state.sock = some 0
  alone : ∀ task, source.state.tasks task ≠ none → task = 0
  waiting : ∀ task, ∀ blocked ∈ source.pending task, task = 0 ∧ blocked.conn = some 0
  stage : Stage admitted source

theorem Unvisited.accept {admitted : List Reception} {source target : BlockingState cfg}
    {sock : Nat} {created : Bool} (unvisited : Unvisited admitted source)
    (installed : sock ≠ 0)
    (taken : blockingStep source (.accept sock created) = some target) :
    Visited admitted target := by
  have pending_eq : target.pending = source.pending := by
    rw [blockingStep] at taken
    split at taken
    case isTrue =>
      cases taken
      rfl
    case isFalse => cases taken
  rcases blocking_accept_cases taken with ⟨_, state_eq⟩
  have waiting : ∀ task, ∀ blocked, ¬ target.pending task = some blocked := by
    intro task blocked pending
    rw [pending_eq, unvisited.pending_eq task] at pending
    cases pending
  have received_eq : target.state.received 0 = [] := by
    rw [state_eq, received_onSocketAcceptHandler]
    exact unvisited.received_eq
  rw [onSocketAcceptHandler_eq, unvisited.sock_eq, unvisited.nextTask_eq,
    unvisited.nextConn_eq] at state_eq
  have tasks_eq := unvisited.tasks_eq
  constructor
  · rw [state_eq]
    exact installed
  · rw [state_eq]
    simp
  · intro task alive
    rw [state_eq] at alive
    grind [Function.update_apply]
  · intro task blocked pending
    exact absurd pending (waiting task blocked)
  · apply Stage.fresh
    · rw [state_eq]
      grind [Function.update_apply]
    · exact received_eq
    · intro blocked pending
      exact absurd pending (waiting 0 blocked)
    · rw [state_eq]
      exact unvisited.queue_eq

/-- A queue of records of calls yields the record of a call. -/
theorem origLen_pos_of_queue {admitted : List Reception}
    {sent queue : List (PcapRec cfg.snapLen)} {record : PcapRec cfg.snapLen}
    (queue_eq : sent ++ queue = admitted.map (callRecord cfg)) (member : record ∈ queue) :
    record.pcapRecHdr.origLen > 0 := by
  have listed : record ∈ admitted.map (callRecord cfg) := by
    rw [← queue_eq]
    exact List.mem_append_right sent member
  rcases List.mem_map.mp listed with ⟨call, _, rfl⟩
  exact builtRecord_origLen_pos call.pkt

/-- A task that calls a write for the client leaves all but the stage as it was. -/
theorem Visited.of_stage {admitted : List Reception} {source : BlockingState cfg}
    (visited : Visited admitted source) {phase : TaskPhase} {buffer : List UInt8}
    (stage : Stage admitted ⟨prepare source.state phase,
      update source.pending 0
        (some ⟨source.state.sock, source.state.files source.state.sock, buffer⟩)⟩) :
    Visited admitted ⟨prepare source.state phase,
      update source.pending 0
        (some ⟨source.state.sock, source.state.files source.state.sock, buffer⟩)⟩ := by
  constructor
  · simpa using visited.installed
  · simpa using visited.opened
  · simpa using visited.alone
  · intro task blocked pending
    by_cases same : task = 0
    · subst same
      simp only [Function.update_self, Option.mem_def, Option.some.injEq] at pending
      subst pending
      exact ⟨rfl, visited.opened⟩
    · simp only [Function.update_of_ne same] at pending
      exact visited.waiting task blocked pending
  · exact stage

/-- A task that starts up for the client calls the write of the header. -/
theorem Visited.startUp {admitted : List Reception} {source : BlockingState cfg}
    (visited : Visited admitted source) (alive : source.state.tasks 0 = some .created)
    {buffer : List UInt8} (requested : request source.state .created = some buffer) :
    Visited admitted ⟨prepare source.state .created,
      update source.pending 0
        (some ⟨source.state.sock, source.state.files source.state.sock, buffer⟩)⟩ := by
  have buffer_eq : buffer = (pcapHdr cfg).bytes := by
    rw [request, if_pos visited.installed] at requested
    exact (Option.some.inj requested).symm
  apply visited.of_stage
  · rcases visited.stage with
      ⟨notLooping, unwritten, _, queue_eq⟩ | ⟨looping, _, _, _, _, _⟩
    · apply Stage.fresh
      · simpa using notLooping
      · simpa using unwritten
      · intro blocked pending
        simp only [Function.update_self, Option.mem_def, Option.some.injEq] at pending
        subst pending
        exact buffer_eq
      · exact queue_eq
    · rw [alive] at looping
      cases looping

/-- A task in its loop takes the oldest record, if there is one, and calls its
write. -/
theorem Visited.iterate {admitted : List Reception} {source : BlockingState cfg}
    (visited : Visited admitted source) (alive : source.state.tasks 0 = some .looping)
    (ready : source.pending 0 = none) {buffer : List UInt8}
    (requested : request source.state .looping = some buffer) :
    Visited admitted ⟨prepare source.state .looping,
      update source.pending 0
        (some ⟨source.state.sock, source.state.files source.state.sock, buffer⟩)⟩ := by
  apply visited.of_stage
  · rcases visited.stage with
      ⟨notLooping, _, _, _⟩ | ⟨_, sent, flight, received_eq, flight_eq, queue_eq⟩
    · exact absurd alive notLooping
    · -- nothing was on its way, so the record that leaves the queue is the only one
      have flight_nil : flight = [] := by
        rw [ready] at flight_eq
        exact List.map_eq_nil_iff.mp flight_eq.symm
      subst flight_nil
      cases queue : source.state.packetQueue with
      | nil => simp [request, queue] at requested
      | cons record rest =>
          have buffer_eq : record.sentBytes = buffer := by
            simp only [request, queue] at requested
            split at requested
            case isTrue => exact Option.some.inj requested
            case isFalse => cases requested
          apply Stage.serving (by simpa using alive) sent [record]
          · simpa using received_eq
          · simp [buffer_eq]
          · rw [← queue_eq, queue]
            simp [prepare, queue]

/-- A task in its loop that makes no write has found the queue empty. -/
theorem Visited.idle {admitted : List Reception} {source : BlockingState cfg}
    (visited : Visited admitted source) (alive : source.state.tasks 0 = some .looping)
    (unrequested : request source.state .looping = none) :
    prepare source.state .looping = source.state := by
  cases queue : source.state.packetQueue with
  | nil =>
      rw [prepare, queue, List.tail_nil, List.head?_nil, Option.toList_none,
        List.append_nil, ← queue]
  | cons record rest =>
      rcases visited.stage with
        ⟨notLooping, _, _, _⟩ | ⟨_, sent, flight, _, _, queue_eq⟩
      · exact absurd alive notLooping
      · have positive : record.pcapRecHdr.origLen > 0 :=
          origLen_pos_of_queue queue_eq (by simp [queue])
        simp only [request, queue, if_pos (And.intro visited.installed positive)] at unrequested
        cases unrequested

theorem Visited.call {admitted : List Reception} {source target : BlockingState cfg}
    {task : Nat} (visited : Visited admitted source)
    (taken : blockingStep source (.call task) = some target) : Visited admitted target := by
  rcases call_cases taken with ⟨phase, alive, ready, outcome⟩
  obtain rfl : task = 0 := visited.alone task (by simp [alive])
  cases phase with
  | created =>
      rcases outcome with ⟨unrequested, _⟩ | ⟨buffer, requested, rfl⟩
      · have installed := visited.installed
        simp [request, installed] at unrequested
      · exact visited.startUp alive requested
  | looping =>
      rcases outcome with ⟨unrequested, rfl⟩ | ⟨buffer, requested, rfl⟩
      · have entered : enterLoop source.state 0 = source.state :=
          enterLoop_of_ne_created (by simp [alive])
        rw [visited.idle alive unrequested, entered]
        exact visited
      · exact visited.iterate alive ready requested

/-- A write that returns has put its header or its record on the stream. -/
theorem Visited.ret {admitted : List Reception} {source target : BlockingState cfg}
    {task : Nat} {result : Int} (visited : Visited admitted source)
    (whole : ReturnsWhole source (.ret task result))
    (taken : blockingStep source (.ret task result) = some target) :
    Visited admitted target := by
  rcases ret_cases taken with ⟨blocked, waiting, alive, rfl⟩
  rcases visited.waiting task blocked waiting with ⟨rfl, conn_eq⟩
  obtain rfl : result = blocked.buffer.length := whole blocked waiting
  rw [if_neg (Int.not_lt.mpr (Int.natCast_nonneg _))]
  have received_eq :
      (write source.state blocked.conn blocked.buffer blocked.buffer.length).received 0 =
        source.state.received 0 ++ blocked.buffer := by
    rw [received_write, if_pos conn_eq, Int.toNat_natCast, List.take_length]
  have looping : (enterLoop (write source.state blocked.conn blocked.buffer
      blocked.buffer.length) 0).tasks 0 = some .looping := by
    rw [enterLoop_tasks_eq_some_iff, if_pos rfl]
    exact ⟨rfl, alive⟩
  constructor
  · exact visited.installed
  · exact visited.opened
  · intro task alive
    rw [ne_eq, enterLoop_tasks_eq_none_iff] at alive
    exact visited.alone task alive
  · intro task blocked pending
    by_cases same : task = 0
    · subst same
      simp at pending
    · simp only [Function.update_of_ne same] at pending
      exact visited.waiting task blocked pending
  · rcases visited.stage with
      ⟨_, unwritten, header, queue_eq⟩ |
        ⟨_, sent, flight, sent_eq, flight_eq, queue_eq⟩
    · apply Stage.serving looping [] []
      · rw [received_enterLoop, received_eq, unwritten, header blocked waiting,
          List.flatMap_nil, List.append_nil, List.nil_append]
      · simp
      · exact queue_eq
    · rw [waiting, Option.toList_some, List.map_singleton] at flight_eq
      rcases List.map_eq_singleton_iff.mp flight_eq.symm with ⟨record, rfl, buffer_eq⟩
      apply Stage.serving looping (sent ++ [record]) []
      · rw [received_enterLoop, received_eq, sent_eq, ← buffer_eq]
        simp
      · simp
      · rw [List.append_nil]
        exact queue_eq

theorem Visited.frame {admitted : List Reception} {source target : BlockingState cfg}
    {call : Reception} (visited : Visited admitted source)
    (taken : blockingStep source (.frame call) = some target) :
    Visited (admitted ++ admittedCall source.state call) target := by
  rw [blocking_frame_eq taken]
  constructor
  · exact visited.installed
  · exact visited.opened
  · exact visited.alone
  · exact visited.waiting
  · rcases visited.stage with
      ⟨notLooping, unwritten, header, queue_eq⟩ |
        ⟨looping, sent, flight, received_eq, flight_eq, queue_eq⟩
    · refine .fresh notLooping unwritten header ?_
      rw [List.map_append, queue_eq]
    · refine .serving looping sent flight received_eq flight_eq ?_
      rw [List.map_append, ← queue_eq, List.append_assoc (sent ++ flight)]

theorem Visited.step {admitted : List Reception} {source target : BlockingState cfg}
    {event : BlockingEvent} (visited : Visited admitted source)
    (internal : event.Internal) (whole : ReturnsWhole source event)
    (taken : blockingStep source event = some target) :
    Visited (admitted ++ blockingAdmittedBy source event) target := by
  cases event with
  | accept sock created => exact internal.elim
  | call task =>
      rw [blockingAdmittedBy, List.append_nil]
      exact visited.call taken
  | ret task result =>
      rw [blockingAdmittedBy, List.append_nil]
      exact visited.ret whole taken
  | frame call => exact visited.frame taken

/-! ## Whole runs -/

/-- The stream of the client, what is on its way to it, and the queue hold the
records of the given calls, once each and in order.  `sent` are the records the
client has got, and `flight` is the one, if any, whose write has not returned. -/
def Delivers (admitted : List Reception) (last : BlockingState cfg)
    (sent flight : List (PcapRec cfg.snapLen)) : Prop :=
  flight.length ≤ 1 ∧
    sent ++ flight ++ last.state.packetQueue = admitted.map (callRecord cfg) ∧
    ((last.state.received 0 = [] ∧ sent = [] ∧ flight = []) ∨
      (last.state.received 0 = (pcapHdr cfg).bytes ++ sent.flatMap PcapRec.sentBytes ∧
        (last.pending 0).toList.map PendingWrite.buffer = flight.map PcapRec.sentBytes))

theorem Visited.delivers {admitted : List Reception} {last : BlockingState cfg}
    (visited : Visited admitted last) : ∃ sent flight, Delivers admitted last sent flight := by
  rcases visited.stage with
    ⟨_, unwritten, _, queue_eq⟩ | ⟨_, sent, flight, received_eq, flight_eq, queue_eq⟩
  · exact ⟨[], [], Nat.zero_le 1, queue_eq, .inl ⟨unwritten, rfl, rfl⟩⟩
  · have single : flight.length ≤ 1 := by
      have length_eq := congrArg List.length flight_eq
      rw [List.length_map, List.length_map] at length_eq
      rw [← length_eq]
      exact Option.length_toList_le
    exact ⟨sent, flight, single, queue_eq, .inr ⟨received_eq, flight_eq⟩⟩

theorem unvisited_of_run (plain : cfg.liligoS3 = false) {before : List BlockingEvent}
    {source : BlockingState cfg}
    (run : exec blockingStep (BlockingState.ofState (initial cfg)) before = some source)
    (internal : ∀ event ∈ before, event.Internal) :
    Unvisited
      (collect blockingStep blockingAdmittedBy (BlockingState.ofState (initial cfg)) before)
      source := by
  rw [← List.nil_append (collect blockingStep _ _ _)]
  apply exec_collect_invariant (unvisited_initial plain) ?_
    (eachStep_of_forall_mem internal) run
  intro admitted source event target unvisited internal taken
  exact unvisited.step internal taken

/-- In every run with one client and whole writes, the records the client has got,
the one on its way and the queue are the records of the admitted calls in their
order.  A descriptor of 0 stands for no client. -/
theorem delivers_of_run (plain : cfg.liligoS3 = false) {before after : List BlockingEvent}
    {sock : Nat} {created : Bool} {last : BlockingState cfg} (installed : sock ≠ 0)
    (quiet : ∀ event ∈ before ++ after, event.Internal)
    (whole : EachStep blockingStep (fun source event _ => ReturnsWhole source event)
      (BlockingState.ofState (initial cfg)) (before ++ .accept sock created :: after))
    (run : exec blockingStep (BlockingState.ofState (initial cfg))
      (before ++ .accept sock created :: after) = some last) :
    ∃ sent flight,
      Delivers
        (collect blockingStep blockingAdmittedBy (BlockingState.ofState (initial cfg))
          (before ++ .accept sock created :: after))
        last sent flight := by
  rw [exec_append] at run
  rcases Option.bind_eq_some_iff.mp run with ⟨source, reached, rest⟩
  rcases exec_cons_eq_some_iff.mp rest with ⟨target, accepted, served⟩
  have unvisited := unvisited_of_run plain reached
    fun event member => quiet event (List.mem_append_left after member)
  have whole' := (eachStep_cons_iff.mp (whole.of_append reached) target accepted).2
  have internal : EachStep blockingStep (fun _ event _ => event.Internal) target after :=
    eachStep_of_forall_mem fun event member => quiet event (List.mem_append_right before member)
  have visited : Visited
      (collect blockingStep blockingAdmittedBy (BlockingState.ofState (initial cfg)) before ++
        collect blockingStep blockingAdmittedBy target after) last := by
    apply exec_collect_invariant (unvisited.accept installed accepted) ?_
      (internal.and whole') served
    rintro admitted source event target visited ⟨internal, whole⟩ taken
    exact visited.step internal whole taken
  rw [collect_append _ reached, collect_cons_of_taken _ accepted]
  exact visited.delivers

/-- A beacon is queued before the client comes, and on its way when the next one
arrives.  Both are admitted. -/
theorem delivers_of_run_beacons :
    ∃ last : BlockingState SdkConfig.smallest,
      exec blockingStep (BlockingState.ofState (initial _))
          ([.frame beacon] ++ .accept 54 true ::
            [.call 0, .ret 0 24, .call 0, .frame beacon]) =
        some last ∧
      collect blockingStep blockingAdmittedBy
          (BlockingState.ofState (initial SdkConfig.smallest))
          ([.frame beacon] ++ .accept 54 true ::
            [.call 0, .ret 0 24, .call 0, .frame beacon]) =
        [beacon, beacon] ∧
      ∃ sent flight,
        Delivers
          (collect blockingStep blockingAdmittedBy
            (BlockingState.ofState (initial SdkConfig.smallest))
            ([.frame beacon] ++ .accept 54 true ::
              [.call 0, .ret 0 24, .call 0, .frame beacon]))
          last sent flight := by
  have runs : (exec blockingStep (BlockingState.ofState (initial SdkConfig.smallest))
      ([.frame beacon] ++ .accept 54 true ::
        [.call 0, .ret 0 24, .call 0, .frame beacon])).isSome := by
    decide +kernel
  rcases Option.isSome_iff_exists.mp runs with ⟨last, run⟩
  exact ⟨last, run, rfl, delivers_of_run rfl (by decide) (by decide) (by decide +kernel) run⟩

end WifiSniffer.Session
