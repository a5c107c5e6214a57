import WifiSniffer.Capture.Live
import WifiSniffer.Handler.Decision
import WifiSniffer.Session.Backlog
import WifiSniffer.Session.Stream
import Mathlib.Data.List.Range

/-!
# What the clients get

The frames that the board receives are handed out to its clients: none is sent to two of
them or twice to one, and none is made up or comes out of turn.  This holds of all runs in
which a task takes a record and writes it in one step; where two tasks are alive and a
write blocks, another record can overtake the one that waits to be written.

When writes are whole and clients come one at a time, what a client sees of its capture,
however far it has arrived, is exactly the frames it has been given.  None of them is from
the interface that serves the clients, or to it.
-/

namespace WifiSniffer.Session

open WifiSniffer.Bytes WifiSniffer.Capture WifiSniffer.Handler WifiSniffer.Transition
open Format (Reader)
open Function (update)

/-! ## Handing out -/

section Share

variable {α : Type} {items more : List α} {given : Nat → List α} {count : Nat}

/-- Some items, in their order, have been handed out to clients that came one after the
other. -/
structure Shares (items : List α) (given : Nat → List α) (count : Nat) : Prop where
  ungiven : ∀ client, count ≤ client → given client = []
  shared : ((List.range count).flatMap given).Sublist items

theorem shares_nil : Shares ([] : List α) (fun _ => []) 0 :=
  ⟨fun _ _ => rfl, .slnil⟩

theorem Shares.client (shares : Shares items given count) : Shares items given (count + 1) := by
  constructor
  · exact fun client later => shares.ungiven client (Nat.le_of_succ_le later)
  · rw [List.range_succ, List.flatMap_append, List.flatMap_singleton,
      shares.ungiven count (Nat.le_refl _), List.append_nil]
    exact shares.shared

theorem Shares.skip (shares : Shares items given count) (larger : items.Sublist more) :
    Shares more given count :=
  ⟨shares.ungiven, shares.shared.trans larger⟩

/-- The next item goes to the client that came last. -/
theorem Shares.give (shares : Shares items given (count + 1)) (item : α) :
    Shares (items ++ [item]) (update given count (given count ++ [item])) (count + 1) := by
  have earlier : (List.range count).flatMap (update given count (given count ++ [item])) =
      (List.range count).flatMap given := by
    apply List.flatMap_congr
    intro client member
    rw [Function.update_of_ne (Nat.ne_of_lt (List.mem_range.mp member))]
  have shared := shares.shared
  rw [List.range_succ, List.flatMap_append, List.flatMap_singleton] at shared
  constructor
  · intro client later
    rw [Function.update_of_ne (Nat.ne_of_gt later)]
    exact shares.ungiven client later
  · rw [List.range_succ, List.flatMap_append, List.flatMap_singleton, earlier,
      Function.update_self, ← List.append_assoc]
    exact shared.append_right [item]

theorem Shares.mem (shares : Shares items given count) {client : Nat} {item : α}
    (member : item ∈ given client) : item ∈ items := by
  by_cases known : client < count
  · exact shares.shared.subset
      (List.mem_flatMap.mpr ⟨client, List.mem_range.mpr known, member⟩)
  · rw [shares.ungiven client (Nat.not_lt.mp known)] at member
    cases member

end Share

variable {cfg : SdkConfig}

/-! ## The last client -/

/-- The installed client is the last one that came. -/
def LastInstalled (state : State cfg) : Prop :=
  state.sock ≠ 0 → ∃ conn, state.files state.sock = some conn ∧ state.nextConn = conn + 1

theorem lastInstalled_initial : LastInstalled (initial cfg) := by
  intro installed
  rw [initial] at installed
  split at installed <;> exact absurd rfl installed

theorem LastInstalled.step {source target : State cfg} {event : Event}
    (last : LastInstalled source) (allocated : Allocated source)
    (taken : step source event = some target) : LastInstalled target := by
  intro installed
  cases event with
  | accept sock created =>
      rcases accept_cases taken with ⟨unopened, rfl⟩
      have opened := allocated.opened
      rw [onSocketAcceptHandler_eq]
      refine ⟨source.nextConn, ?_, rfl⟩
      grind [Function.update_apply]
  | run task result =>
      rcases run_connections taken with ⟨nextConn_eq, ⟨gone, _⟩ | ⟨sock_eq, files_eq⟩, _⟩
      · exact absurd gone installed
      · rw [sock_eq] at installed ⊢
        rw [files_eq, nextConn_eq]
        exact last installed
  | frame call =>
      rcases frame_cases taken with ⟨queue, rfl, _⟩
      exact last installed

/-! ## What is handed on -/

/-- The calls whose records have been handed to `on_capture`. -/
def handedOn (admitted : List Reception) (state : State cfg) : List Reception :=
  admitted.take state.captured.length

theorem InOrder.length_le {admitted : List Reception} {state : State cfg}
    (ordered : InOrder admitted state) : state.captured.length ≤ admitted.length := by
  have lengths := congrArg List.length ordered
  rw [List.length_append, List.length_map] at lengths
  omega

/-- A record that is taken out of the queue is that of the next call. -/
theorem InOrder.next {admitted : List Reception} {state : State cfg}
    (ordered : InOrder admitted state) {record : PcapRec cfg.snapLen}
    {rest : List (PcapRec cfg.snapLen)} (queued : state.packetQueue = record :: rest) :
    ∃ call, admitted.take (state.captured.length + 1) = handedOn admitted state ++ [call] ∧
      record = callRecord cfg call := by
  rw [InOrder, queued] at ordered
  have bound : state.captured.length < admitted.length := by
    have lengths := congrArg List.length ordered
    rw [List.length_append, List.length_cons, List.length_map] at lengths
    omega
  refine ⟨admitted[state.captured.length], ?_, ?_⟩
  · rw [handedOn, List.take_add_one, List.getElem?_eq_getElem bound]
    rfl
  · have found : (state.captured ++ record :: rest)[state.captured.length]? = some record := by
      simp
    rw [ordered, List.getElem?_map, List.getElem?_eq_getElem bound] at found
    exact (Option.some.inj found).symm

/-- The calls that have been given to the connections are among those handed on, each to
one connection at most, and in their order. -/
structure Handing (admitted : List Reception) (given : Nat → List Reception)
    (state : State cfg) : Prop where
  ordered : InOrder admitted state
  allocated : Allocated state
  last : LastInstalled state
  shares : Shares (handedOn admitted state) given state.nextConn

section Handing

variable {admitted : List Reception} {given : Nat → List Reception}
  {source target : State cfg}

theorem handing_initial : Handing [] (fun _ => []) (initial cfg) := by
  have nextConn_eq : (initial cfg).nextConn = 0 := by
    rw [initial]
    split <;> rfl
  refine ⟨inOrder_initial, allocated_initial, lastInstalled_initial, ?_⟩
  rw [handedOn, List.take_nil, nextConn_eq]
  exact shares_nil

/-- Nothing has to be given. -/
theorem Handing.step {event : Event} (handing : Handing admitted given source)
    (taken : step source event = some target) :
    Handing (admitted ++ admittedBy source event) given target := by
  refine ⟨handing.ordered.step taken, handing.allocated.step taken,
    handing.last.step handing.allocated taken, ?_⟩
  cases event with
  | accept sock created =>
      rcases accept_cases taken with ⟨_, rfl⟩
      rw [onSocketAcceptHandler_eq, admittedBy, List.append_nil]
      exact handing.shares.client
  | run task result =>
      rcases run_connections taken with ⟨nextConn_eq, _⟩
      rw [admittedBy, List.append_nil, nextConn_eq]
      exact handing.shares.skip (List.take_sublist_take_left (run_captured_length taken))
  | frame call =>
      rcases frame_cases taken with ⟨queue, rfl, _⟩
      apply handing.shares.skip
      rw [handedOn, handedOn, List.take_append_of_le_length handing.ordered.length_le]

/-- A record that is written may count as given to the installed client. -/
theorem Handing.give {task conn : Nat} {result : Int} {buffer : List UInt8}
    (handing : Handing admitted given source) (alive : source.tasks task = some .looping)
    (requested : request source .looping = some buffer)
    (opened : source.files source.sock = some conn)
    (taken : Session.step source (.run task result) = some target) :
    ∃ call, buffer = sentFor cfg call.pkt ∧
      Handing admitted (update given conn (given conn ++ [call])) target := by
  have stepped := handing.step taken
  rw [admittedBy, List.append_nil] at stepped
  rcases handing.allocated.request_cases requested with
    ⟨created, _⟩ | ⟨_, pkt, rest, queued, buffer_eq⟩
  · cases created
  · rcases handing.ordered.next queued with ⟨call, handed_eq, record_eq⟩
    rw [record_eq] at buffer_eq
    refine ⟨call, buffer_eq, stepped.ordered, stepped.allocated, stepped.last, ?_⟩
    rcases handing.last (sock_ne_zero_of_request requested) with ⟨newest, opened', nextConn_eq⟩
    obtain rfl : conn = newest := Option.some.inj (opened.symm.trans opened')
    have captured_eq : target.captured.length = source.captured.length + 1 := by
      rw [(run_buffers alive taken).1]
      simp [prepare, queued]
    have shares := handing.shares
    rw [nextConn_eq] at shares
    rw [handedOn, captured_eq, handed_eq, (run_connections taken).1, nextConn_eq]
    exact shares.give call

end Handing

/-! ## What is written -/

/-- The records among the buffers of some writes. -/
def recordBuffers (cfg : SdkConfig) (writes : List (List UInt8 × Nat)) : List (List UInt8) :=
  (writes.map Prod.fst).filter fun buffer => buffer ≠ (pcapHdr cfg).bytes

/-- No record is as short as the global header. -/
theorem sentFor_ne_header (cfg : SdkConfig) (pkt : WifiPromiscuousPkt) :
    sentFor cfg pkt ≠ (pcapHdr cfg).bytes := by
  intro same
  have sent_eq := sentBytes_captureCreatePcapRecord cfg pkt.rxCtrl.withoutFcs pkt.payload
  have lengths := congrArg List.length (sent_eq.symm.trans same)
  rw [PcapHdr.bytes_length] at lengths
  simp only [List.length_append, PcapRecHdr.bytes_length, Ieee80211RadiotapHeader.bytes_length,
    RTapdata.bytes_length] at lengths
  omega

/-- The records that have been written to each client are those of the calls that it has
been given. -/
structure Offered (admitted : List Reception) (given : Nat → List Reception)
    (state : State cfg) : Prop where
  handing : Handing admitted given state
  buffers : ∀ conn, recordBuffers cfg (state.writes conn) =
    (given conn).map fun call => sentFor cfg call.pkt

section Offered

variable {admitted : List Reception} {given : Nat → List Reception}
  {source target : State cfg}

theorem offered_initial : Offered [] (fun _ => []) (initial cfg) := by
  have writes_eq : (initial cfg).writes = fun _ => [] := by
    rw [initial]
    split <;> rfl
  refine ⟨handing_initial, fun conn => ?_⟩
  rw [writes_eq]
  rfl

/-- What a running task writes is added to the log of the installed client. -/
theorem run_writes {task : Nat} {result : Int} {phase : TaskPhase}
    (alive : source.tasks task = some phase)
    (taken : step source (.run task result) = some target) :
    target.writes =
      match request source phase with
      | none => source.writes
      | some buffer =>
          (write source (source.files source.sock) buffer result).writes := by
  rcases run_cases taken with ⟨phase', alive', outcome⟩
  obtain rfl : phase = phase' := Option.some.inj (alive.symm.trans alive')
  rcases outcome with ⟨unrequested, rfl⟩ | ⟨buffer, requested, _, ⟨_, rfl⟩ | ⟨_, rfl⟩⟩
  · rw [unrequested]
    exact prepare_writes source phase
  · rw [requested]
    simp only [enterLoop, write, prepare_writes]
  · rw [requested, endSession_eq]
    simp only [enterLoop, write, prepare_writes]

/-- A global header is no record. -/
theorem recordBuffers_header (writes : List (List UInt8 × Nat)) (count : Nat) :
    recordBuffers cfg (writes ++ [((pcapHdr cfg).bytes, count)]) = recordBuffers cfg writes := by
  simp [recordBuffers]

theorem recordBuffers_record (writes : List (List UInt8 × Nat)) (pkt : WifiPromiscuousPkt)
    (count : Nat) :
    recordBuffers cfg (writes ++ [(sentFor cfg pkt, count)]) =
      recordBuffers cfg writes ++ [sentFor cfg pkt] := by
  simp [recordBuffers, sentFor_ne_header]

/-- A write to one connection is not seen on the others. -/
theorem Offered.buffers_of_write {next : Nat → List Reception} {conn count : Nat}
    {buffer : List UInt8} (offered : Offered admitted given source)
    (others : ∀ other, other ≠ conn → next other = given other)
    (own : recordBuffers cfg (source.writes conn ++ [(buffer, count)]) =
      (next conn).map fun call => sentFor cfg call.pkt) (other : Nat) :
    recordBuffers cfg
        (update source.writes conn (source.writes conn ++ [(buffer, count)]) other) =
      (next other).map fun call => sentFor cfg call.pkt := by
  by_cases same : other = conn
  · subst same
    rw [Function.update_self]
    exact own
  · rw [Function.update_of_ne same, others other same]
    exact offered.buffers other

theorem Offered.run {task : Nat} {result : Int} (offered : Offered admitted given source)
    (taken : step source (.run task result) = some target) :
    ∃ given, Offered admitted given target := by
  have stepped := offered.handing.step taken
  rw [admittedBy, List.append_nil] at stepped
  rcases run_cases taken with ⟨phase, alive, _⟩
  have writes_eq := run_writes alive taken
  cases requested : request source phase with
  | none =>
      rw [requested] at writes_eq
      exact ⟨given, stepped, writes_eq ▸ offered.buffers⟩
  | some buffer =>
      rcases offered.handing.last (sock_ne_zero_of_request requested) with ⟨conn, opened, _⟩
      simp only [requested, write, opened] at writes_eq
      rcases offered.handing.allocated.request_cases requested with
        ⟨rfl, rfl⟩ | ⟨rfl, _⟩
      · refine ⟨given, stepped, fun other => ?_⟩
        rw [writes_eq]
        refine offered.buffers_of_write (fun _ _ => rfl) ?_ other
        rw [recordBuffers_header]
        exact offered.buffers conn
      · rcases offered.handing.give alive requested opened taken with ⟨call, rfl, handing⟩
        refine ⟨_, handing, fun other => ?_⟩
        rw [writes_eq]
        refine offered.buffers_of_write (fun _ ne => Function.update_of_ne ne _ _) ?_ other
        rw [recordBuffers_record, offered.buffers conn, Function.update_self, List.map_append]
        rfl

theorem Offered.step {event : Event} (offered : Offered admitted given source)
    (taken : Session.step source event = some target) :
    ∃ given, Offered (admitted ++ admittedBy source event) given target := by
  have stepped := offered.handing.step taken
  cases event with
  | accept sock created =>
      rcases accept_cases taken with ⟨_, rfl⟩
      refine ⟨given, stepped, ?_⟩
      rw [onSocketAcceptHandler_eq]
      exact offered.buffers
  | run task result =>
      rw [admittedBy, List.append_nil]
      exact offered.run taken
  | frame call =>
      rcases frame_cases taken with ⟨queue, rfl, _⟩
      exact ⟨given, stepped, offered.buffers⟩

theorem offered_of_run {events : List Event} {last : State cfg}
    (run : exec step (initial cfg) events = some last) :
    ∃ given, Offered (collect step admittedBy (initial cfg) events) given last := by
  let IsOffered (admitted : List Reception) (state : State cfg) : Prop :=
    ∃ given, Offered admitted given state
  have start : IsOffered [] (initial cfg) := ⟨_, offered_initial⟩
  have reached : IsOffered ([] ++ collect step admittedBy (initial cfg) events) last := by
    refine exec_collect_invariant start ?_ (eachStep_true _ _) run
    rintro admitted source event target ⟨given, offered⟩ _ taken
    exact offered.step taken
  exact reached

/-- Whatever clients, tasks and writes do, while a task takes a record and writes it in one
step, each record that is written to a client is that of one received frame, and no frame
is written to two clients or twice to one: the frames that were written to the clients, one
client after the other, are some of those that the queue has taken in, in the order of
their reception. -/
theorem frames_are_shared_out {events : List Event} {last : State cfg}
    (run : exec step (initial cfg) events = some last) :
    ∃ given : Nat → List Reception,
      (∀ conn, recordBuffers cfg (last.writes conn) =
        (given conn).map fun call => sentFor cfg call.pkt) ∧
      ((List.range last.nextConn).flatMap given).Sublist
        (collect step admittedBy (initial cfg) events) := by
  rcases offered_of_run run with ⟨given, offered⟩
  exact ⟨given, offered.buffers,
    offered.handing.shares.shared.trans (List.take_sublist _ _)⟩

/-- A second client comes while the task of the first one is alive, and is sent a record by
each of the two tasks, the last one cut short. -/
def twoTasks : List Event :=
  [.accept 54 true, .run 0 24, .frame beacon, .run 0 60, .frame beacon, .frame beacon,
    .accept 55 true, .run 1 24, .run 0 60, .run 1 10]

theorem frames_are_shared_out_two :
    ∃ last : State SdkConfig.smallest, exec step (initial _) twoTasks = some last ∧
      last.tasks 0 = some .looping ∧ last.tasks 1 = some .looping ∧
      (recordBuffers SdkConfig.smallest (last.writes 0)).length = 1 ∧
      (recordBuffers SdkConfig.smallest (last.writes 1)).length = 2 ∧
      ∃ given : Nat → List Reception,
        (∀ conn, recordBuffers SdkConfig.smallest (last.writes conn) =
          (given conn).map fun call => sentFor SdkConfig.smallest call.pkt) ∧
        ((List.range last.nextConn).flatMap given).Sublist
          (collect step admittedBy (initial SdkConfig.smallest) twoTasks) := by
  have runs : (exec step (initial SdkConfig.smallest) twoTasks).map (fun last =>
      (last.tasks 0, last.tasks 1, (recordBuffers SdkConfig.smallest (last.writes 0)).length,
        (recordBuffers SdkConfig.smallest (last.writes 1)).length)) =
      some (some .looping, some .looping, 1, 2) := by
    decide +kernel
  rcases Option.map_eq_some_iff.mp runs with ⟨last, run, outcome⟩
  simp only [Prod.mk.injEq] at outcome
  rcases outcome with ⟨first, second, one, two⟩
  exact ⟨last, run, first, second, one, two, frames_are_shared_out run⟩

end Offered

/-! ## What is seen -/

/-- Each stream is the capture of the calls that its client has been given, if it has
begun. -/
structure Streamed (admitted : List Reception) (given : Nat → List Reception)
    (state : State cfg) : Prop where
  handing : Handing admitted given state
  framed : Framed state
  streams : ∀ conn, state.received conn = [] ∧ given conn = [] ∨
    state.received conn = captureStream cfg ((given conn).map Reception.pkt)

section Streamed

variable {admitted : List Reception} {given : Nat → List Reception}
  {source target : State cfg}

theorem captureStream_ne_nil (packets : List WifiPromiscuousPkt) :
    captureStream cfg packets ≠ [] := by
  apply List.ne_nil_of_length_pos
  rw [captureStream, List.length_append, PcapHdr.bytes_length]
  omega

theorem streamed_initial : Streamed [] (fun _ => []) (initial cfg) := by
  refine ⟨handing_initial, framed_initial, fun conn => .inl ⟨?_, rfl⟩⟩
  rw [initial]
  split <;> rfl

/-- A client from which nothing has been received has been given nothing. -/
theorem Streamed.given_eq_nil (streamed : Streamed admitted given source) {conn : Nat}
    (unwritten : source.received conn = []) : given conn = [] := by
  rcases streamed.streams conn with ⟨_, ungiven⟩ | stream_eq
  · exact ungiven
  · exact absurd (stream_eq.symm.trans unwritten) (captureStream_ne_nil _)

/-- A write that is whole is received on the connection of the installed client; nothing is
received of one that fails. -/
theorem run_received {task conn : Nat} {result : Int} {phase : TaskPhase} {buffer : List UInt8}
    (alive : source.tasks task = some phase) (requested : request source phase = some buffer)
    (opened : source.files source.sock = some conn)
    (whole : WholeOrFails source (.run task result))
    (taken : step source (.run task result) = some target) :
    target.received = source.received ∨
      target.received = update source.received conn (source.received conn ++ buffer) := by
  rcases run_sends alive requested opened taken with ⟨_, received_eq, _⟩
  rcases run_connections taken with ⟨_, _, _, _, others_eq⟩
  have update_eq : target.received =
      update source.received conn (source.received conn ++ buffer.take result.toNat) := by
    funext other
    by_cases same : other = conn
    · rw [same, received_eq, Function.update_self]
    · rw [Function.update_of_ne same]
      apply others_eq
      rw [opened]
      exact fun found => same (Option.some.inj found).symm
  rcases whole phase alive buffer requested with failed | result_eq
  · left
    rw [update_eq, Int.toNat_of_nonpos (Int.le_of_lt failed), List.take_zero, List.append_nil,
      Function.update_eq_self]
  · right
    rw [update_eq, result_eq, Int.toNat_natCast, List.take_length]

/-- A write that is received lengthens one stream and leaves the others as they are. -/
theorem Streamed.streams_of_write {next : Nat → List Reception} {conn : Nat}
    {buffer : List UInt8} (streamed : Streamed admitted given source)
    (others : ∀ other, other ≠ conn → next other = given other)
    (own : source.received conn ++ buffer = captureStream cfg ((next conn).map Reception.pkt))
    (other : Nat) :
    update source.received conn (source.received conn ++ buffer) other = [] ∧ next other = [] ∨
      update source.received conn (source.received conn ++ buffer) other =
        captureStream cfg ((next other).map Reception.pkt) := by
  by_cases same : other = conn
  · subst same
    rw [Function.update_self]
    exact .inr own
  · rw [Function.update_of_ne same, others other same]
    exact streamed.streams other

/-- The stream of a client whose task is in its loop has begun. -/
theorem Streamed.begun {task conn : Nat} (streamed : Streamed admitted given source)
    (installed : source.sock ≠ 0) (opened : source.files source.sock = some conn)
    (alive : source.tasks task = some .looping) :
    source.received conn = captureStream cfg ((given conn).map Reception.pkt) := by
  rcases streamed.framed.started conn task installed opened alive with ⟨packets, started⟩
  exact (streamed.streams conn).resolve_left fun unwritten =>
    captureStream_ne_nil packets (started.symm.trans unwritten.1)

theorem Streamed.run {task : Nat} {result : Int} (streamed : Streamed admitted given source)
    (whole : WholeOrFails source (.run task result))
    (taken : step source (.run task result) = some target) :
    ∃ given, Streamed admitted given target := by
  have stepped := streamed.handing.step taken
  rw [admittedBy, List.append_nil] at stepped
  have framed := streamed.framed.run whole taken
  rcases run_cases taken with ⟨phase, alive, _⟩
  cases requested : request source phase with
  | none =>
      have received_eq := (run_silent alive requested taken).2.2
      refine ⟨given, stepped, framed, fun conn => ?_⟩
      rw [received_eq]
      exact streamed.streams conn
  | some buffer =>
      have installed := sock_ne_zero_of_request requested
      rcases streamed.handing.last installed with ⟨conn, opened, _⟩
      rcases run_received alive requested opened whole taken with received_eq | received_eq
      · exact ⟨given, stepped, framed, received_eq ▸ streamed.streams⟩
      · rcases streamed.handing.allocated.request_cases requested with
          ⟨rfl, rfl⟩ | ⟨rfl, _⟩
        · -- the task has begun to run: nothing has been received from its client
          have unwritten := streamed.framed.fresh conn task installed opened alive
          refine ⟨given, stepped, framed, fun other => ?_⟩
          rw [received_eq]
          refine streamed.streams_of_write (fun _ _ => rfl) ?_ other
          rw [unwritten, streamed.given_eq_nil unwritten, List.map_nil, captureStream,
            List.flatMap_nil, List.append_nil, List.nil_append]
        · rcases streamed.handing.give alive requested opened taken with ⟨call, rfl, handing⟩
          refine ⟨_, handing, framed, fun other => ?_⟩
          rw [received_eq]
          refine streamed.streams_of_write (fun _ ne => Function.update_of_ne ne _ _) ?_ other
          rw [streamed.begun installed opened alive, Function.update_self, List.map_append,
            ← captureStream_append, List.map_singleton, List.flatMap_singleton]

theorem Streamed.step {event : Event} (streamed : Streamed admitted given source)
    (idle : AcceptsIdle source event) (whole : WholeOrFails source event)
    (taken : Session.step source event = some target) :
    ∃ given, Streamed (admitted ++ admittedBy source event) given target := by
  have stepped := streamed.handing.step taken
  have framed := streamed.framed.step idle whole taken
  cases event with
  | accept sock created =>
      rcases accept_cases taken with ⟨_, rfl⟩
      refine ⟨given, stepped, framed, fun conn => ?_⟩
      rw [received_onSocketAcceptHandler]
      exact streamed.streams conn
  | run task result =>
      rw [admittedBy, List.append_nil]
      exact streamed.run whole taken
  | frame call =>
      rcases frame_cases taken with ⟨queue, rfl, _⟩
      exact ⟨given, stepped, framed, streamed.streams⟩

/-- In every run in which writes are whole or fail and no client is accepted while a
sniffer task is alive, each client sees its share of the received frames and nothing else:
whatever pieces the beginning of its stream arrives in, its reader has exactly the frames
of its share whose records have arrived whole. -/
theorem clients_see_their_share {events : List Event} {last : State cfg}
    (idle : EachStep step (fun source event _ => AcceptsIdle source event)
      (initial cfg) events)
    (whole : EachStep step (fun source event _ => WholeOrFails source event)
      (initial cfg) events)
    (run : exec step (initial cfg) events = some last) :
    ∃ given : Nat → List Reception,
      ((List.range last.nextConn).flatMap given).Sublist
          (collect step admittedBy (initial cfg) events) ∧
        ∀ conn pieces, pieces.flatten <+: last.received conn →
          ∃ reader, Reader.start.feedAll pieces = some reader ∧
            HasRead cfg ((given conn).map Reception.pkt) pieces.flatten reader := by
  let IsStreamed (admitted : List Reception) (state : State cfg) : Prop :=
    ∃ given, Streamed admitted given state
  have start : IsStreamed [] (initial cfg) := ⟨_, streamed_initial⟩
  have reached : IsStreamed ([] ++ collect step admittedBy (initial cfg) events) last := by
    refine exec_collect_invariant start ?_ (idle.and whole) run
    rintro admitted source event target ⟨given, streamed⟩ ⟨idle, whole⟩ taken
    exact streamed.step idle whole taken
  rcases reached with ⟨given, streamed⟩
  refine ⟨given, streamed.handing.shares.shared.trans (List.take_sublist _ _), ?_⟩
  intro conn pieces front
  have stream : last.received conn <+: captureStream cfg ((given conn).map Reception.pkt) := by
    rcases streamed.streams conn with ⟨unwritten, _⟩ | stream_eq
    · rw [unwritten]
      exact List.nil_prefix
    · exact stream_eq ▸ List.prefix_refl _
  exact hasRead_of_prefix (front.trans stream)

/-- Two clients, the second one after a write to the first has failed. -/
theorem clients_see_their_share_failure :
    ∃ last : State SdkConfig.smallest,
      exec step (initial _) twoClients = some last ∧
      ∃ given : Nat → List Reception,
        ((List.range last.nextConn).flatMap given).Sublist
            (collect step admittedBy (initial SdkConfig.smallest) twoClients) ∧
          ∀ conn pieces, pieces.flatten <+: last.received conn →
            ∃ reader, Reader.start.feedAll pieces = some reader ∧
              HasRead SdkConfig.smallest ((given conn).map Reception.pkt) pieces.flatten
                reader := by
  rcases Option.map_eq_some_iff.mp runs_twoClients with ⟨last, run, _⟩
  exact ⟨last, run, clients_see_their_share (eachStep_acceptsIdle (by decide +kernel))
    (by decide +kernel) run⟩

end Streamed

/-! ## Own traffic -/

open Dot11 (Address fromDs toDs sourceAddress addresses)

/-- Which address field of a data frame holds the destination address. -/
def destinationAddress (frame : Nat → UInt8) : Address :=
  if toDs frame then .address3 else .address1

/-- A management frame that has the address in one of its fields, or a data frame from it
or to it that does not go from one distribution system to another. -/
inductive Concerns (own : List UInt8) (type : WifiPromiscuousPktType) (frame : Nat → UInt8) : Prop
  | mgmt (isMgmt : type = .mgmt) (address : Address) (field : address ∈ addresses .mgmt frame)
      (same : address.bytes frame = own)
  | source (isData : type = .data) (oneSystem : ¬ (toDs frame = true ∧ fromDs frame = true))
      (same : (sourceAddress frame).bytes frame = own)
  | destination (isData : type = .data)
      (oneSystem : ¬ (toDs frame = true ∧ fromDs frame = true))
      (same : (destinationAddress frame).bytes frame = own)

section Own

variable {filters : Filters} {semaphore : SemaphoreOutcome} {type : WifiPromiscuousPktType}
  {frame : Nat → UInt8} {ctrl : WifiPktRxCtrl}

/-- Source and destination are compared with the own address. -/
theorem mem_dataOwn (oneSystem : ¬ (toDs frame = true ∧ fromDs frame = true)) :
    sourceAddress frame ∈ dataOwn frame ∧ destinationAddress frame ∈ dataOwn frame := by
  rw [sourceAddress, destinationAddress, dataOwn]
  cases leaves : fromDs frame with
  | false => cases enters : toDs frame <;> simp
  | true =>
      cases enters : toDs frame with
      | false => simp
      | true => exact absurd ⟨enters, leaves⟩ oneSystem

/-- What an event admits is its own call, if the handler accepts it. -/
theorem mem_admittedBy {source : State cfg} {event : Event} {call : Reception}
    (admits : call ∈ admittedBy source event) : event = .frame call ∧ call.Accepted := by
  cases event with
  | accept sock created => cases admits
  | run task result => cases admits
  | frame other =>
      rw [admittedBy, admittedCall] at admits
      split at admits
      case isFalse => cases admits
      case isTrue admitted =>
          rcases List.mem_singleton.mp admits with rfl
          exact ⟨rfl, admitted.1⟩

/-- The handler keeps a record only of frames that do not concern the own interface. -/
theorem not_concerns_of_accepts (full : filters.addrOwnMac.size = 6)
    (succeeds : semaphore.Succeeds) (accepts : Accepts filters semaphore type frame ctrl) :
    ¬ Concerns filters.addrOwnMac.bytes type frame := by
  have notOwn := (accepts.2.2 succeeds).1
  intro concerns
  cases concerns with
  | mgmt isMgmt address field same =>
      subst isMgmt
      rw [ownMatches_iff filters frame .mgmt [.address2, .address1, .address3] full
        (by rw [comparedFields_mgmt])] at notOwn
      refine notOwn ⟨address, ?_, same⟩
      cases address with
      | address1 | address2 | address3 => decide
      | address4 => simp [addresses] at field
  | source isData oneSystem same =>
      subst isData
      rw [ownMatches_iff filters frame .data (dataOwn frame) full
        (by rw [comparedFields_data])] at notOwn
      exact notOwn ⟨_, (mem_dataOwn oneSystem).1, same⟩
  | destination isData oneSystem same =>
      subst isData
      rw [ownMatches_iff filters frame .data (dataOwn frame) full
        (by rw [comparedFields_data])] at notOwn
      exact notOwn ⟨_, (mem_dataOwn oneSystem).2, same⟩

end Own

/-- The board does not record what it sends itself: whatever clients, tasks and writes do,
every record that is written to a client is that of a received frame which does not concern
the interface over which the clients are served. -/
theorem own_traffic_not_written {own : List UInt8} {events : List Event} {last : State cfg}
    (guarded : ∀ call, Event.frame call ∈ events → call.semaphore.Succeeds ∧
      call.filters.addrOwnMac.size = 6 ∧ call.filters.addrOwnMac.bytes = own)
    (run : exec step (initial cfg) events = some last) :
    ∀ conn, ∀ buffer ∈ recordBuffers cfg (last.writes conn),
      ∃ call, Event.frame call ∈ events ∧ buffer = sentFor cfg call.pkt ∧
        ¬ Concerns own call.type call.pkt.payload := by
  intro conn buffer written
  rcases offered_of_run run with ⟨given, offered⟩
  rw [offered.buffers conn] at written
  rcases List.mem_map.mp written with ⟨call, isGiven, rfl⟩
  have admitted := List.mem_of_mem_take (offered.handing.shares.mem isGiven)
  rcases exists_of_mem_collect admitted with ⟨source, event, known, admits⟩
  rcases mem_admittedBy admits with ⟨rfl, accepts⟩
  rcases guarded call known with ⟨succeeds, full, rfl⟩
  exact ⟨call, known, rfl, not_concerns_of_accepts full succeeds accepts⟩

theorem own_traffic_not_written_two :
    ∃ last : State SdkConfig.smallest, exec step (initial _) twoClients = some last ∧
      ∀ conn, ∀ buffer ∈ recordBuffers SdkConfig.smallest (last.writes conn),
        ∃ call, Event.frame call ∈ twoClients ∧
          buffer = sentFor SdkConfig.smallest call.pkt ∧
          ¬ Concerns [2, 2, 2, 2, 2, 2] call.type call.pkt.payload := by
  rcases Option.map_eq_some_iff.mp runs_twoClients with ⟨last, run, _⟩
  refine ⟨last, run, own_traffic_not_written ?_ run⟩
  intro call known
  have isBeacon : call = beacon := by simpa [twoClients] using known
  subst isBeacon
  exact ⟨by decide, rfl, AddrFilter.ofBytes_bytes _⟩

end WifiSniffer.Session
