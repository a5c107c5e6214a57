import WifiSniffer.Session.Received
import WifiSniffer.Session.Tasks

/-!
# Streams of many clients

Every client gets a global header and then whole records, cut off where its
session ends, in every run in which writes are never short and no client is
accepted while a sniffer task is still alive.  The accept handler does not see to
the latter: it leaves the task of the previous client in its loop, and the next
record that task sends may reach the new client before the header.
-/

namespace WifiSniffer.Session

open WifiSniffer.Bytes WifiSniffer.Capture WifiSniffer.Handler WifiSniffer.Transition
open Function (update)

variable {cfg : SdkConfig}

/-! ## Whole writes -/

/-- A client is accepted only when no sniffer task is alive. -/
def AcceptsIdle (source : State cfg) : Event → Prop
  | .accept _ _ => Idle source
  | .run _ _ | .frame _ => True

theorem AcceptsIdle.createsIdle {source : State cfg} {event : Event}
    (idle : AcceptsIdle source event) : CreatesIdle source event := by
  cases event with
  | accept sock created => exact fun _ => idle
  | run task result => trivial
  | frame call => trivial

/-- The task that was created last is gone when a client is accepted. -/
def AcceptsAfterTask (source : State cfg) : Event → Prop
  | .accept _ _ => ∀ task ∈ source.xHandleSniff, source.tasks task = none
  | .run _ _ | .frame _ => True

instance (source : State cfg) : (event : Event) → Decidable (AcceptsAfterTask source event)
  | .accept _ _ =>
      inferInstanceAs (Decidable (∀ task ∈ source.xHandleSniff, source.tasks task = none))
  | .run _ _ | .frame _ => .isTrue trivial

/-- As long as the handle names the only task that can be alive, no other one needs to be
looked at. -/
theorem Owned.acceptsIdle {source : State cfg} {event : Event} (owned : Owned source)
    (after : AcceptsAfterTask source event) : AcceptsIdle source event := by
  cases event with
  | accept sock created =>
      intro task
      by_contra alive
      exact alive (after task (owned task alive))
  | run task result => trivial
  | frame call => trivial

theorem eachStep_acceptsIdle {events : List Event}
    (after : EachStep step (fun source event _ => AcceptsAfterTask source event)
      (initial cfg) events) :
    EachStep step (fun source event _ => AcceptsIdle source event) (initial cfg) events := by
  refine EachStep.of_invariant owned_initial ?_ after
  intro source event target owned after taken
  have idle := owned.acceptsIdle after
  exact ⟨idle, owned.step idle.createsIdle taken⟩

/-- Every stream so far is empty or a whole capture; the one of the installed
client is empty before its task has started and a capture from then on. -/
structure Framed (state : State cfg) : Prop where
  owned : Owned state
  allocated : Allocated state
  framed : ∀ conn, state.received conn = [] ∨
    ∃ packets, state.received conn = captureStream cfg packets
  fresh : ∀ conn task, state.sock ≠ 0 → state.files state.sock = some conn →
    state.tasks task = some .created → state.received conn = []
  started : ∀ conn task, state.sock ≠ 0 → state.files state.sock = some conn →
    state.tasks task = some .looping →
      ∃ packets, state.received conn = captureStream cfg packets

theorem framed_initial : Framed (initial cfg) := by
  have received_eq : ∀ conn, (initial cfg).received conn = [] := by
    intro conn
    rw [initial]
    split <;> rfl
  have sock_eq : (initial cfg).sock = 0 := by
    rw [initial]
    split <;> rfl
  exact ⟨owned_initial, allocated_initial, fun conn => .inl (received_eq conn),
    fun conn _ _ _ _ => received_eq conn, fun _ _ installed => absurd sock_eq installed⟩

/-- What a task requests continues a capture. -/
theorem Framed.continues {state : State cfg} (framed : Framed state) {conn task : Nat}
    {phase : TaskPhase} {buffer : List UInt8} (alive : state.tasks task = some phase)
    (opened : state.files state.sock = some conn)
    (requested : request state phase = some buffer) :
    ∃ packets, state.received conn ++ buffer = captureStream cfg packets := by
  have installed := sock_ne_zero_of_request requested
  rcases framed.allocated.request_cases requested with ⟨rfl, rfl⟩ | ⟨rfl, pkt, rest, _, rfl⟩
  · refine ⟨[], ?_⟩
    rw [framed.fresh conn task installed opened alive, captureStream, List.flatMap_nil,
      List.append_nil, List.nil_append]
  · rcases framed.started conn task installed opened alive with ⟨packets, stream_eq⟩
    refine ⟨packets ++ [pkt], ?_⟩
    rw [stream_eq, captureStream, captureStream, List.flatMap_append,
      List.flatMap_singleton, List.append_assoc]

theorem Framed.accept {state next : State cfg} {sock : Nat} {created : Bool}
    (framed : Framed state) (idle : AcceptsIdle state (.accept sock created))
    (taken : step state (.accept sock created) = some next) : Framed next := by
  have owned := framed.owned.step idle.createsIdle taken
  have allocated := framed.allocated.step taken
  rcases accept_cases taken with ⟨_, rfl⟩
  constructor
  · exact owned
  · exact allocated
  · intro conn
    rw [received_onSocketAcceptHandler]
    exact framed.framed conn
  · intro conn task installed opened _
    rw [received_onSocketAcceptHandler]
    rw [onSocketAcceptHandler_eq] at opened
    apply framed.allocated.unused
    grind [Function.update_apply]
  · intro conn task _ _ looping
    have absent := idle task
    rw [onSocketAcceptHandler_eq] at looping
    grind [Function.update_apply]

section Run

variable {state next : State cfg} {task : Nat} {result : Int}

/-- The running task is the only one alive, before and after, and not about to start up
any more. -/
theorem Framed.fresh_of_run (framed : Framed state)
    (taken : step state (.run task result) = some next) :
    ∀ conn other, next.sock ≠ 0 → next.files next.sock = some conn →
      next.tasks other = some .created → next.received conn = [] := by
  have idle : CreatesIdle state (.run task result) := trivial
  have owned := framed.owned.step idle taken
  rcases run_cases taken with ⟨phase, alive, _⟩
  intro conn other _ _ created
  have handle_eq := framed.owned task (by simp [alive])
  rw [← (run_tasks taken).1, owned other (by simp [created])] at handle_eq
  obtain rfl : other = task := Option.some.inj handle_eq
  exact absurd created (run_started taken)

/-- Streams stay as they are on all connections but one. -/
theorem Framed.framed_of_others (framed : Framed state) {conn : Nat}
    (own : next.received conn = [] ∨ ∃ packets, next.received conn = captureStream cfg packets)
    (others : ∀ other, conn ≠ other → next.received other = state.received other) (other : Nat) :
    next.received other = [] ∨ ∃ packets, next.received other = captureStream cfg packets := by
  by_cases same : conn = other
  · subst same
    exact own
  · rw [others other same]
    exact framed.framed other

theorem Framed.silent (framed : Framed state) {phase : TaskPhase}
    (alive : state.tasks task = some phase) (unrequested : request state phase = none)
    (taken : step state (.run task result) = some next) : Framed next := by
  rcases run_silent alive unrequested taken with ⟨sock_eq, files_eq, received_eq⟩
  have idle : CreatesIdle state (.run task result) := trivial
  constructor
  · exact framed.owned.step idle taken
  · exact framed.allocated.step taken
  · intro conn
    rw [received_eq]
    exact framed.framed conn
  · exact framed.fresh_of_run taken
  · intro conn other installed opened _
    rw [sock_eq] at installed
    rw [sock_eq, files_eq] at opened
    rcases framed.allocated.no_request installed unrequested with ⟨rfl, _⟩
    rw [received_eq]
    exact framed.started conn task installed opened alive

theorem Framed.run (framed : Framed state) (whole : WholeOrFails state (.run task result))
    (taken : step state (.run task result) = some next) : Framed next := by
  have idle : CreatesIdle state (.run task result) := trivial
  have owned := framed.owned.step idle taken
  have allocated := framed.allocated.step taken
  have fresh := framed.fresh_of_run taken
  rcases run_cases taken with ⟨phase, alive, _⟩
  cases requested : request state phase with
  | none => exact framed.silent alive requested taken
  | some buffer =>
      have installed := sock_ne_zero_of_request requested
      rcases Option.ne_none_iff_exists'.mp (framed.allocated.opened installed) with
        ⟨conn, opened⟩
      rcases run_sends alive requested opened taken with ⟨_, received_eq, ended⟩
      rcases run_connections taken with ⟨_, sock_eq, _, _, others_eq⟩
      have others : ∀ other, conn ≠ other → next.received other = state.received other := by
        intro other ne
        exact others_eq other (by simpa [opened] using ne)
      rcases whole phase alive buffer requested with failed | result_eq
      · -- a failed write accepts nothing and leaves no client behind
        have uninstalled := (ended failed).1
        rw [Int.toNat_of_nonpos (Int.le_of_lt failed), List.take_zero, List.append_nil]
          at received_eq
        have own := framed.framed conn
        rw [← received_eq] at own
        exact ⟨owned, allocated, framed.framed_of_others own others, fresh,
          fun _ _ reinstalled => absurd uninstalled reinstalled⟩
      · -- a whole write has extended the capture
        rcases framed.continues alive opened requested with ⟨packets, stream_eq⟩
        rw [result_eq, Int.toNat_natCast, List.take_length, stream_eq] at received_eq
        refine ⟨owned, allocated, framed.framed_of_others (.inr ⟨packets, received_eq⟩) others,
          fresh, ?_⟩
        intro other _ reinstalled opened' _
        rcases sock_eq with ⟨uninstalled, _⟩ | ⟨sock_eq, files_eq⟩
        · exact absurd uninstalled reinstalled
        · rw [sock_eq, files_eq, opened] at opened'
          cases opened'
          exact ⟨packets, received_eq⟩

end Run

theorem Framed.step {source target : State cfg} {event : Event} (framed : Framed source)
    (idle : AcceptsIdle source event) (whole : WholeOrFails source event)
    (taken : step source event = some target) : Framed target := by
  cases event with
  | accept sock created => exact framed.accept idle taken
  | run task result => exact framed.run whole taken
  | frame call =>
      have allocated := framed.allocated.step taken
      rcases frame_cases taken with ⟨queue, rfl, _⟩
      exact ⟨framed.owned, allocated, framed.framed, framed.fresh, framed.started⟩

theorem framed_of_run {events : List Event} {last : State cfg}
    (idle : EachStep step (fun source event _ => AcceptsIdle source event)
      (initial cfg) events)
    (whole : EachStep step (fun source event _ => WholeOrFails source event)
      (initial cfg) events)
    (run : exec step (initial cfg) events = some last) : Framed last := by
  apply exec_invariant framed_initial ?_ (idle.and whole) run
  rintro source event target framed ⟨idle, whole⟩ taken
  exact framed.step idle whole taken

/-- In every run in which writes are whole or fail and no client is accepted while
a sniffer task is alive, every client has received a leading part of one global
header followed by whole records. -/
theorem received_prefix_captureStream {events : List Event} {last : State cfg}
    (idle : EachStep step (fun source event _ => AcceptsIdle source event)
      (initial cfg) events)
    (whole : EachStep step (fun source event _ => WholeOrFails source event)
      (initial cfg) events)
    (run : exec step (initial cfg) events = some last) (conn : Nat) :
    ∃ packets, last.received conn <+: captureStream cfg packets := by
  rcases (framed_of_run idle whole run).framed conn with empty | ⟨packets, stream_eq⟩
  · exact ⟨[], empty ▸ List.nil_prefix⟩
  · exact ⟨packets, stream_eq ▸ List.prefix_refl _⟩

/-- The first client gets its header and one beacon before the write of the next beacon
fails.  Another one comes after it. -/
def twoClients : List Event :=
  [.accept 54 true, .run 0 24, .frame beacon, .run 0 60, .frame beacon, .run 0 (-1),
    .accept 55 true, .run 1 24, .frame beacon, .run 1 60]

/-- Each of the two clients has received its header and a record. -/
theorem runs_twoClients :
    (exec step (initial SdkConfig.smallest) twoClients).map
      (fun last => ((last.received 0).length, (last.received 1).length)) = some (84, 84) := by
  decide +kernel

theorem received_prefix_captureStream_failure :
    ∃ last : State SdkConfig.smallest,
      exec step (initial _) twoClients = some last ∧
        (last.received 0).length = 84 ∧ (last.received 1).length = 84 ∧
        ∀ conn, ∃ packets, last.received conn <+: captureStream SdkConfig.smallest packets := by
  rcases Option.map_eq_some_iff.mp runs_twoClients with ⟨last, run, lengths⟩
  rcases Prod.mk.inj lengths with ⟨first, second⟩
  exact ⟨last, run, first, second, received_prefix_captureStream
    (eachStep_acceptsIdle (by decide +kernel)) (by decide +kernel) run⟩

/-- The task of the first client, still in its loop, sends a record to the second
client, which has not got its header yet. -/
theorem record_before_header :
    ∃ last : State SdkConfig.smallest,
      exec step (initial _)
          [.accept 54 true, .run 0 24, .accept 55 true, .frame beacon, .run 0 60] =
        some last ∧
      EachStep step (fun source event _ => WholeOrFails source event)
        (initial SdkConfig.smallest)
        [.accept 54 true, .run 0 24, .accept 55 true, .frame beacon, .run 0 60] ∧
      ∀ packets, ¬ last.received 1 <+: captureStream SdkConfig.smallest packets := by
  have runs : (exec step (initial SdkConfig.smallest)
      [.accept 54 true, .run 0 24, .accept 55 true, .frame beacon, .run 0 60]).map
        (fun last => (last.received 1).head?) = some (some 1) := by
    decide +kernel
  rcases Option.map_eq_some_iff.mp runs with ⟨last, run, head_eq⟩
  refine ⟨last, run, by decide +kernel, ?_⟩
  rintro packets ⟨rest, stream_eq⟩
  have magic_eq : (captureStream SdkConfig.smallest packets).head? = some 0xd4 := rfl
  rw [← stream_eq, List.head?_append, head_eq, Option.some_or] at magic_eq
  exact absurd magic_eq (by decide)

end WifiSniffer.Session
