import WifiSniffer.Session.Queue
import WifiSniffer.Session.Received

/-!
# Records from before a client

The packet queue outlives the sessions.  Records are numbered in the order in which
they enter it, and the machine is run together with two books: how many records had
entered when a client was accepted, and which records were written to it.  A client
gets no record from before its time in every run in which the queue is empty
whenever a client is accepted, which no part of the code takes care of.
-/

namespace WifiSniffer.Session

open WifiSniffer.Bytes WifiSniffer.Capture WifiSniffer.Handler WifiSniffer.Transition
open Function (update)

variable {cfg : SdkConfig}

/-! ## The machine with its books -/

/-- The session state together with the books. -/
structure BookedState (cfg : SdkConfig) where
  state : State cfg
  /-- how many records had entered the queue when a connection was accepted -/
  enteredBefore : Nat → Nat
  /-- the numbers of the records written to a connection -/
  writtenTo : Nat → List Nat

/-- The number of records that have entered the queue.  They have left it for
`on_capture` or are still there. -/
def entered (state : State cfg) : Nat :=
  state.captured.length + state.packetQueue.length

/-- The connection that the given task writes a record to when it runs, if any. -/
def recordTarget (state : State cfg) (task : Nat) : Option Nat :=
  if state.tasks task = some .looping ∧ (request state .looping).isSome then
    state.files state.sock
  else none

/-- The first book after an event. -/
def noteEntered (source : BookedState cfg) : Event → Nat → Nat
  | .accept _ _ => update source.enteredBefore source.state.nextConn (entered source.state)
  | .run _ _ | .frame _ => source.enteredBefore

/-- The second book after an event.  A task writes the oldest record of the queue,
before which only those handed to `on_capture` have entered. -/
def noteWritten (source : BookedState cfg) : Event → Nat → List Nat
  | .run task _ =>
      match recordTarget source.state task with
      | some conn =>
          update source.writtenTo conn
            (source.writtenTo conn ++ [source.state.captured.length])
      | none => source.writtenTo
  | .accept _ _ | .frame _ => source.writtenTo

/-- A step of the machine, noted in the books. -/
def bookedStep : Step (BookedState cfg) Event
  | source, event =>
      (step source.state event).map fun next =>
        ⟨next, noteEntered source event, noteWritten source event⟩

/-- Empty books. -/
def BookedState.ofState (state : State cfg) : BookedState cfg :=
  ⟨state, fun _ => 0, fun _ => []⟩

theorem bookedStep_eq_some_iff {source target : BookedState cfg} {event : Event} :
    bookedStep source event = some target ↔
      step source.state event = some target.state ∧
        target.enteredBefore = noteEntered source event ∧
        target.writtenTo = noteWritten source event := by
  rw [bookedStep, Option.map_eq_some_iff]
  constructor
  · rintro ⟨next, taken, rfl⟩
    exact ⟨taken, rfl, rfl⟩
  · rintro ⟨taken, entered_eq, written_eq⟩
    refine ⟨target.state, taken, ?_⟩
    rw [← entered_eq, ← written_eq]

/-- Every record written to a client entered the queue after the client was
accepted. -/
def NoBacklog (source : BookedState cfg) : Prop :=
  ∀ conn number, number ∈ source.writtenTo conn → source.enteredBefore conn ≤ number

/-- A client is accepted only when the queue is empty. -/
def AcceptsEmpty (source : BookedState cfg) : Event → Prop
  | .accept _ _ => source.state.packetQueue = []
  | .run _ _ | .frame _ => True

instance (source : BookedState cfg) : (event : Event) → Decidable (AcceptsEmpty source event)
  | .accept _ _ => inferInstanceAs (Decidable (source.state.packetQueue = []))
  | .run _ _ | .frame _ => .isTrue trivial

/-! ## Runs without a backlog -/

/-- Nothing from before the time of the installed client is left in the queue. -/
structure Current (source : BookedState cfg) : Prop where
  allocated : Allocated source.state
  noBacklog : NoBacklog source
  unwritten : ∀ conn, source.state.nextConn ≤ conn → source.writtenTo conn = []
  current : ∀ conn, source.state.sock ≠ 0 → source.state.files source.state.sock = some conn →
    source.enteredBefore conn ≤ source.state.captured.length

theorem current_initial : Current (BookedState.ofState (initial cfg)) := by
  constructor
  · exact allocated_initial
  · intro conn number written
    exact absurd written List.not_mem_nil
  · intro conn _
    rfl
  · intro conn _ _
    exact Nat.zero_le _

/-- A running task hands over records but never takes one back. -/
theorem run_captured_length {state next : State cfg} {task : Nat} {result : Int}
    (taken : step state (.run task result) = some next) :
    state.captured.length ≤ next.captured.length := by
  rcases run_cases taken with ⟨phase, alive, _⟩
  rw [(run_buffers alive taken).1]
  cases phase <;> simp [prepare, wifiSnifferInit]

/-- Only the connection behind `_sock` is written to. -/
theorem recordTarget_eq_some {state : State cfg} {task conn : Nat}
    (target : recordTarget state task = some conn) :
    state.sock ≠ 0 ∧ state.files state.sock = some conn := by
  rw [recordTarget] at target
  split at target
  case isFalse => cases target
  case isTrue writes =>
    rcases Option.isSome_iff_exists.mp writes.2 with ⟨buffer, requested⟩
    exact ⟨sock_ne_zero_of_request requested, target⟩

/-- What is written to a connection, before and after a task has run. -/
theorem mem_noteWritten_run {source : BookedState cfg} {task conn number : Nat} {result : Int}
    (written : number ∈ noteWritten source (.run task result) conn) :
    number ∈ source.writtenTo conn ∨
      source.state.sock ≠ 0 ∧ source.state.files source.state.sock = some conn ∧
        number = source.state.captured.length := by
  cases target : recordTarget source.state task with
  | none =>
      simp only [noteWritten, target] at written
      exact .inl written
  | some other =>
      rcases recordTarget_eq_some target with ⟨installed, opened⟩
      simp only [noteWritten, target] at written
      by_cases same : conn = other
      · subst same
        rw [Function.update_self, List.mem_append, List.mem_singleton] at written
        rcases written with older | newest
        · exact .inl older
        · exact .inr ⟨installed, opened, newest⟩
      · rw [Function.update_of_ne same] at written
        exact .inl written

theorem Current.accept {source target : BookedState cfg} {sock : Nat} {created : Bool}
    (current : Current source) (empty : source.state.packetQueue = [])
    (taken : bookedStep source (.accept sock created) = some target) : Current target := by
  rcases bookedStep_eq_some_iff.mp taken with ⟨stepped, entered_eq, written_eq⟩
  have allocated := current.allocated.step stepped
  rcases accept_cases stepped with ⟨_, state_eq⟩
  constructor
  · exact allocated
  · intro conn number written
    rw [written_eq] at written
    have written : number ∈ source.writtenTo conn := written
    have known : conn ≠ source.state.nextConn := by
      rintro rfl
      rw [current.unwritten _ (Nat.le_refl _)] at written
      cases written
    rw [entered_eq, noteEntered, Function.update_of_ne known]
    exact current.noBacklog conn number written
  · intro conn later
    rw [state_eq, onSocketAcceptHandler_eq] at later
    rw [written_eq]
    exact current.unwritten conn (Nat.le_of_succ_le later)
  · intro conn installed opened
    have conn_eq : conn = source.state.nextConn := by
      rw [state_eq, onSocketAcceptHandler_eq] at opened
      grind [Function.update_apply]
    rw [entered_eq, conn_eq, noteEntered, Function.update_self, entered, empty, state_eq,
      onSocketAcceptHandler_eq]
    rfl

theorem Current.run {source target : BookedState cfg} {task : Nat} {result : Int}
    (current : Current source) (taken : bookedStep source (.run task result) = some target) :
    Current target := by
  rcases bookedStep_eq_some_iff.mp taken with ⟨stepped, entered_eq, written_eq⟩
  have allocated := current.allocated.step stepped
  rcases run_connections stepped with ⟨nextConn_eq, sock_eq, _, _, _⟩
  have grown := run_captured_length stepped
  have entered_eq : target.enteredBefore = source.enteredBefore := entered_eq
  constructor
  · exact allocated
  · intro conn number written
    rw [written_eq] at written
    rw [entered_eq]
    rcases mem_noteWritten_run written with older | ⟨installed, opened, rfl⟩
    · exact current.noBacklog conn number older
    · exact current.current conn installed opened
  · intro conn later
    rw [nextConn_eq] at later
    rw [List.eq_nil_iff_forall_not_mem]
    intro number written
    rw [written_eq] at written
    rcases mem_noteWritten_run written with older | ⟨_, opened, _⟩
    · rw [current.unwritten conn later] at older
      cases older
    · exact absurd (current.allocated.used _ conn opened) (Nat.not_lt.mpr later)
  · intro conn installed opened
    rcases sock_eq with ⟨uninstalled, _⟩ | ⟨sock_eq, files_eq⟩
    · exact absurd uninstalled installed
    · rw [sock_eq] at installed
      rw [sock_eq, files_eq] at opened
      rw [entered_eq]
      exact Nat.le_trans (current.current conn installed opened) grown

theorem Current.step {source target : BookedState cfg} {event : Event}
    (current : Current source) (empty : AcceptsEmpty source event)
    (taken : bookedStep source event = some target) : Current target := by
  cases event with
  | accept sock created => exact current.accept empty taken
  | run task result => exact current.run taken
  | frame call =>
      rcases bookedStep_eq_some_iff.mp taken with ⟨stepped, entered_eq, written_eq⟩
      have allocated := current.allocated.step stepped
      rcases frame_cases stepped with ⟨queue, state_eq, _⟩
      constructor
      · exact allocated
      · rw [NoBacklog, entered_eq, written_eq]
        exact current.noBacklog
      · rw [state_eq, written_eq]
        exact current.unwritten
      · rw [state_eq, entered_eq]
        exact current.current

/-- In every run in which a client is accepted only when the queue is empty, no
client is sent a record that entered the queue before it was accepted. -/
theorem no_backlog_of_accepts_empty {events : List Event} {last : BookedState cfg}
    (empty : EachStep bookedStep (fun source event _ => AcceptsEmpty source event)
      (BookedState.ofState (initial cfg)) events)
    (run : exec bookedStep (BookedState.ofState (initial cfg)) events = some last) :
    NoBacklog last := by
  have current : Current last := by
    apply exec_invariant current_initial ?_ empty run
    intro source event target current empty taken
    exact current.step empty taken
  exact current.noBacklog

/-- The first client has got its only record when its connection breaks and the
second one comes. -/
theorem no_backlog_of_accepts_empty_second :
    ∃ last : BookedState SdkConfig.smallest,
      exec bookedStep (BookedState.ofState (initial _))
          [.accept 54 true, .run 0 24, .frame beacon, .run 0 (-1), .accept 55 true, .run 1 24,
            .frame beacon, .run 1 60] = some last ∧
        NoBacklog last := by
  have runs : (exec bookedStep (BookedState.ofState (initial SdkConfig.smallest))
      [.accept 54 true, .run 0 24, .frame beacon, .run 0 (-1), .accept 55 true, .run 1 24,
        .frame beacon, .run 1 60]).isSome := by
    decide +kernel
  rcases Option.isSome_iff_exists.mp runs with ⟨last, run⟩
  exact ⟨last, run, no_backlog_of_accepts_empty (by decide +kernel) run⟩

/-- The connection of the first client breaks while two records are queued.  The
second one of them goes to the second client. -/
theorem backlog_sent_to_next_client :
    ∃ last : BookedState SdkConfig.smallest,
      exec bookedStep (BookedState.ofState (initial _))
          [.accept 54 true, .run 0 24, .frame beacon, .frame beacon, .run 0 (-1),
            .accept 55 true, .run 1 24, .run 1 60] = some last ∧
        ¬ NoBacklog last := by
  have runs : (exec bookedStep (BookedState.ofState (initial SdkConfig.smallest))
      [.accept 54 true, .run 0 24, .frame beacon, .frame beacon, .run 0 (-1),
        .accept 55 true, .run 1 24, .run 1 60]).map
        (fun last => (last.writtenTo 1, last.enteredBefore 1)) = some ([1], 2) := by
    decide +kernel
  rcases Option.map_eq_some_iff.mp runs with ⟨last, run, books_eq⟩
  rcases Prod.mk.inj books_eq with ⟨written_eq, entered_eq⟩
  refine ⟨last, run, fun noBacklog => ?_⟩
  have late := noBacklog 1 1 (by simp [written_eq])
  rw [entered_eq] at late
  exact absurd late (by decide)

end WifiSniffer.Session
