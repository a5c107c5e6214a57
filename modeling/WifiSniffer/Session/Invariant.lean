import WifiSniffer.Session.Machine

/-!
# The session invariant

As long as every task can be created, the global variables agree with the
operating system: the one open client socket is `_sock`, the task of the handle
is alive while a client is installed, and no descriptor or task is given back
twice.  Tasks left over from earlier clients may go on running and failing; they
only ever end the session that is installed.
-/

namespace WifiSniffer.Session

open WifiSniffer.Bytes WifiSniffer.Capture WifiSniffer.Handler WifiSniffer.Transition
open Function (update)

variable {cfg : SdkConfig}

/-- The invariant of the session state. -/
structure SessionInvariant (state : State cfg) : Prop where
  /-- The open client sockets are `_sock`, if it is set. -/
  opened_iff : ∀ sock, state.files sock ≠ none ↔ state.sock ≠ 0 ∧ sock = state.sock
  /-- An installed client has a live task, which has switched promiscuous mode on
  once it is in its loop. -/
  served : state.sock ≠ 0 →
    ∃ task phase, state.xHandleSniff = some task ∧ state.tasks task = some phase ∧
      (phase = .looping → state.promiscuous = true)
  /-- Nothing has been closed or deleted that was not there. -/
  faults_eq : state.faults = []

/-- A client is accepted on a nonzero descriptor, and its task can be created. -/
def Event.Provided : Event → Prop
  | .accept sock created => sock ≠ 0 ∧ created = true
  | .run _ _ | .frame _ => True

theorem sessionInvariant_initial : SessionInvariant (initial cfg) := by
  rw [initial]
  split
  case isTrue =>
    exact ⟨by simp [snifferStart, xTaskCreate], by simp [snifferStart, xTaskCreate], rfl⟩
  case isFalse => exact ⟨by simp, by simp, rfl⟩

/-- Installing a client gives it the only open socket and a new task. -/
theorem SessionInvariant.accept {state next : State cfg} {sock : Nat} {created : Bool}
    (invariant : SessionInvariant state) (provided : (Event.accept sock created).Provided)
    (taken : step state (.accept sock created) = some next) : SessionInvariant next := by
  rcases accept_cases taken with ⟨unused, rfl⟩
  rcases provided with ⟨sock_ne, rfl⟩
  have opened : state.sock ≠ 0 → state.files state.sock ≠ none :=
    fun installed => (invariant.opened_iff state.sock).mpr ⟨installed, rfl⟩
  have faults_eq := (onSocketAcceptHandler_faults sock true opened).trans invariant.faults_eq
  rw [onSocketAcceptHandler_eq] at faults_eq ⊢
  constructor
  · intro other
    have opened_iff := invariant.opened_iff other
    grind [Function.update_apply]
  · intro _
    exact ⟨state.nextTask, .created, rfl, by simp, by simp⟩
  · exact faults_eq

theorem SessionInvariant.prepare {state : State cfg} (invariant : SessionInvariant state)
    (phase : TaskPhase) : SessionInvariant (prepare state phase) := by
  constructor
  · simpa using invariant.opened_iff
  · intro installed
    rw [prepare_sock] at installed
    rcases invariant.served installed with ⟨task, current, handle_eq, alive, promiscuous⟩
    refine ⟨task, current, by simpa using handle_eq, by simpa using alive, fun looping => ?_⟩
    cases phase with
    | created => rfl
    | looping => exact promiscuous looping
  · simpa using invariant.faults_eq

theorem SessionInvariant.write {state : State cfg} (invariant : SessionInvariant state)
    (conn : Option Nat) (buffer : List UInt8) (result : Int) :
    SessionInvariant (write state conn buffer result) :=
  ⟨invariant.opened_iff, invariant.served, invariant.faults_eq⟩

/-- A task may enter its loop once it has switched promiscuous mode on, or when
nobody is installed any more. -/
theorem SessionInvariant.enterLoop {state : State cfg} (invariant : SessionInvariant state)
    {task : Nat}
    (started : state.sock ≠ 0 → state.tasks task = some .created → state.promiscuous = true) :
    SessionInvariant (enterLoop state task) := by
  refine ⟨invariant.opened_iff, fun installed => ?_, invariant.faults_eq⟩
  rcases invariant.served installed with ⟨served, phase, handle_eq, alive, promiscuous⟩
  by_cases same : served = task
  · subst served
    refine ⟨task, .looping, handle_eq, by simp [Session.enterLoop, alive], fun _ => ?_⟩
    cases phase with
    | created => exact started installed alive
    | looping => exact promiscuous rfl
  · exact ⟨served, phase, handle_eq, by simp [Session.enterLoop, same, alive], promiscuous⟩

/-- The error path, taken by whichever task, ends the session completely. -/
theorem SessionInvariant.endSession {state : State cfg} {sock : Nat}
    (invariant : SessionInvariant state) (sock_eq : state.sock = sock) (installed : sock ≠ 0)
    (caller : Nat) : SessionInvariant (endSession state sock caller) := by
  subst sock_eq
  rcases invariant.served installed with ⟨task, phase, handle_eq, alive, _⟩
  have opened := (invariant.opened_iff state.sock).mpr ⟨installed, rfl⟩
  have faults_eq : (Session.endSession state state.sock caller).faults = [] := by
    rw [endSession_faults opened (by simp [handle_eq, alive]), invariant.faults_eq]
  rw [endSession_eq] at faults_eq ⊢
  refine ⟨fun other => ?_, fun reinstalled => absurd rfl reinstalled, faults_eq⟩
  have opened_iff := invariant.opened_iff other
  grind [Function.update_apply]

theorem SessionInvariant.run {state next : State cfg} {task : Nat} {result : Int}
    (invariant : SessionInvariant state)
    (taken : step state (.run task result) = some next) : SessionInvariant next := by
  rcases run_cases taken with ⟨phase, alive, outcome⟩
  have prepared := invariant.prepare phase
  have started : (Session.prepare state phase).tasks task = some .created →
      (Session.prepare state phase).promiscuous = true := by
    rw [prepare_tasks, alive]
    rintro ⟨⟩
    rfl
  rcases outcome with ⟨_, rfl⟩ | ⟨buffer, requested, _, ⟨_, rfl⟩ | ⟨_, rfl⟩⟩
  · exact prepared.enterLoop fun _ => started
  · exact (prepared.write _ buffer result).enterLoop fun _ => started
  · have installed := sock_ne_zero_of_request requested
    have written := prepared.write (state.files state.sock) buffer result
    refine (written.endSession (by simp [Session.write]) installed task).enterLoop ?_
    intro reinstalled
    rw [endSession_eq] at reinstalled
    exact absurd rfl reinstalled

theorem SessionInvariant.frame {state next : State cfg} {call : Reception}
    (invariant : SessionInvariant state)
    (taken : step state (.frame call) = some next) : SessionInvariant next := by
  rcases frame_cases taken with ⟨queue, rfl, _⟩
  exact ⟨invariant.opened_iff, invariant.served, invariant.faults_eq⟩

/-- Every step of the firmware keeps the invariant. -/
theorem SessionInvariant.step {state next : State cfg} {event : Event}
    (invariant : SessionInvariant state) (provided : event.Provided)
    (taken : step state event = some next) : SessionInvariant next := by
  cases event with
  | accept sock created => exact invariant.accept provided taken
  | run task result => exact invariant.run taken
  | frame call => exact invariant.frame taken

theorem sessionInvariant_of_run {events : List Event} {last : State cfg}
    (provided : ∀ event ∈ events, event.Provided)
    (run : exec step (initial cfg) events = some last) : SessionInvariant last := by
  apply exec_invariant sessionInvariant_initial ?_ (eachStep_of_forall_mem provided) run
  intro source event target invariant provided taken
  exact invariant.step provided taken

/-- In every reachable state, whatever the order of events and whichever writes
have failed: the open client sockets are exactly `_sock`, or none if it is zero;
the task of the handle is alive while a client is installed, and in its loop only
in promiscuous mode; and nothing was closed or deleted that was not there. -/
theorem session_state_consistent {events : List Event} {last : State cfg}
    (provided : ∀ event ∈ events, event.Provided)
    (run : exec step (initial cfg) events = some last) :
    (∀ sock, last.files sock ≠ none ↔ last.sock ≠ 0 ∧ sock = last.sock) ∧
      (last.sock ≠ 0 →
        ∃ task phase, last.xHandleSniff = some task ∧ last.tasks task = some phase ∧
          (phase = .looping → last.promiscuous = true)) ∧
      last.faults = [] := by
  have invariant := sessionInvariant_of_run provided run
  exact ⟨invariant.opened_iff, invariant.served, invariant.faults_eq⟩

/-- A second client takes over and its task starts; then the task of the first one,
still in its loop, fails to send. -/
theorem session_state_consistent_takeover :
    ∃ last : State SdkConfig.smallest,
      exec step (initial _)
          [.accept 54 true, .run 0 24, .accept 55 true, .run 1 24,
            .frame beacon, .run 0 (-1)] = some last ∧
        (∀ sock, last.files sock ≠ none ↔ last.sock ≠ 0 ∧ sock = last.sock) ∧
        (last.sock ≠ 0 →
          ∃ task phase, last.xHandleSniff = some task ∧ last.tasks task = some phase ∧
            (phase = .looping → last.promiscuous = true)) ∧
        last.faults = [] := by
  have runs : (exec step (initial SdkConfig.smallest)
      [.accept 54 true, .run 0 24, .accept 55 true, .run 1 24, .frame beacon,
        .run 0 (-1)]).isSome := by
    decide +kernel
  rcases Option.isSome_iff_exists.mp runs with ⟨last, run⟩
  exact ⟨last, run, session_state_consistent (by simp [Event.Provided]) run⟩

end WifiSniffer.Session
