import WifiSniffer.Session.Tasks

/-!
# Blocking writes

The session machine with every write split into its call and its return.  While a
task waits for its write to return, clients can be accepted, frames received and
other tasks run.  The descriptor a task writes to is fixed by the call; what it
does to the global state after a failure is not.

Every run of the session machine is one of this machine.  The converse fails, and
with it the protection of a new client from the failures of an old one.
-/

namespace WifiSniffer.Session

open WifiSniffer.Bytes WifiSniffer.Capture WifiSniffer.Handler WifiSniffer.Transition
open Function (update)

variable {cfg : SdkConfig}

/-! ## The machine -/

/-- A write that has been called and has not returned. -/
structure PendingWrite where
  sock : Nat
  /-- the connection behind the descriptor at the time of the call -/
  conn : Option Nat
  buffer : List UInt8

/-- The session state and the writes that tasks wait for. -/
structure BlockingState (cfg : SdkConfig) where
  state : State cfg
  pending : Nat → Option PendingWrite

inductive BlockingEvent where
  | accept (sock : Nat) (created : Bool)
  /-- A task runs until its write blocks, or until it has nothing to write. -/
  | call (task : Nat)
  /-- The write of a task returns, and the task runs on. -/
  | ret (task : Nat) (result : Int)
  | frame (call : Reception)

/-- No write is pending. -/
def BlockingState.ofState (state : State cfg) : BlockingState cfg :=
  ⟨state, fun _ => none⟩

/-- One step of the machine.  A task whose write is pending does not run, and one
that has been deleted in the meantime never returns. -/
def blockingStep : Step (BlockingState cfg) BlockingEvent
  | ⟨state, pending⟩, .accept sock created =>
      if state.files sock = none then
        some ⟨onSocketAcceptHandler (accept state sock) sock created, pending⟩
      else none
  | ⟨state, pending⟩, .call task =>
      if pending task = none then
        (state.tasks task).map fun phase =>
          match request state phase with
          | none => ⟨enterLoop (prepare state phase) task, pending⟩
          | some buffer =>
              ⟨prepare state phase,
                update pending task (some ⟨state.sock, state.files state.sock, buffer⟩)⟩
      else none
  | ⟨state, pending⟩, .ret task result =>
      -- the bytes go to the connection of the call, but `disconnect_socket` and
      -- `sniffer_stop` act on what the descriptor and the handle name by now
      (pending task).bind fun blocked =>
        if state.tasks task ≠ none ∧ WriteResult blocked.conn blocked.buffer result then
          some
            ⟨enterLoop
              (afterSend
                (onSendReturn (write state blocked.conn blocked.buffer result) blocked.sock
                  result)
                task)
              task,
              update pending task none⟩
        else none
  | ⟨state, pending⟩, .frame call => some ⟨receive state call, pending⟩

/-! ## The session machine as a special case -/

/-- A step of the session machine is a call with its return right behind it. -/
theorem blockingStep_of_step {source target : State cfg} {event : Event}
    (taken : step source event = some target) :
    ∃ events, exec blockingStep (BlockingState.ofState source) events =
      some (BlockingState.ofState target) := by
  cases event with
  | accept sock created =>
      rcases accept_cases taken with ⟨unused, rfl⟩
      refine ⟨[.accept sock created], ?_⟩
      simp [BlockingState.ofState, blockingStep, unused]
  | frame call =>
      refine ⟨[.frame call], ?_⟩
      rw [exec_singleton]
      exact congrArg (Option.map BlockingState.ofState) taken
  | run task result =>
      rcases Option.bind_eq_some_iff.mp taken with ⟨phase, alive, taken⟩
      split at taken
      case isFalse => cases taken
      case isTrue allowed =>
        rw [Option.some.injEq, runTask_eq result alive] at taken
        cases requested : request source phase with
        | none =>
            rw [requested] at taken
            refine ⟨[.call task], ?_⟩
            simp [BlockingState.ofState, blockingStep, alive, requested, ← taken]
        | some buffer =>
            rw [requested] at taken
            have result_ok := allowed buffer requested
            refine ⟨[.call task, .ret task result], ?_⟩
            simp [BlockingState.ofState, exec_cons, blockingStep, alive, requested, result_ok,
              ← taken, onSend]

/-- Every run of the session machine is a run with blocking writes. -/
theorem blocking_exec_of_exec {state last : State cfg} {events : List Event}
    (run : exec step state events = some last) :
    ∃ blockingEvents, exec blockingStep (BlockingState.ofState state) blockingEvents =
      some (BlockingState.ofState last) :=
  exec_simulation (fun _ _ _ taken => blockingStep_of_step taken) run

/-! ## What a step can do -/

theorem blocking_accept_cases {source target : BlockingState cfg} {sock : Nat}
    {created : Bool} (taken : blockingStep source (.accept sock created) = some target) :
    source.state.files sock = none ∧
      target.state = onSocketAcceptHandler (accept source.state sock) sock created := by
  rw [blockingStep] at taken
  split at taken
  case isTrue unused =>
    cases taken
    exact ⟨unused, rfl⟩
  case isFalse => cases taken

/-- A call gets a task to its write or, without one, into its loop. -/
theorem call_cases {source target : BlockingState cfg} {task : Nat}
    (taken : blockingStep source (.call task) = some target) :
    ∃ phase, source.state.tasks task = some phase ∧ source.pending task = none ∧
      ((request source.state phase = none ∧
          target = ⟨enterLoop (prepare source.state phase) task, source.pending⟩) ∨
        ∃ buffer, request source.state phase = some buffer ∧
          target = ⟨prepare source.state phase,
            update source.pending task
              (some ⟨source.state.sock, source.state.files source.state.sock, buffer⟩)⟩) := by
  rw [blockingStep] at taken
  split at taken
  case isFalse => cases taken
  case isTrue ready =>
    rcases Option.map_eq_some_iff.mp taken with ⟨phase, alive, target_eq⟩
    refine ⟨phase, alive, ready, ?_⟩
    split at target_eq
    case h_1 unrequested => exact .inl ⟨unrequested, target_eq.symm⟩
    case h_2 buffer requested => exact .inr ⟨buffer, requested, target_eq.symm⟩

/-- A return reports on the write that was called, whatever has happened since. -/
theorem ret_cases {source target : BlockingState cfg} {task : Nat} {result : Int}
    (taken : blockingStep source (.ret task result) = some target) :
    ∃ blocked, source.pending task = some blocked ∧ source.state.tasks task ≠ none ∧
      target = ⟨enterLoop
        (if result < 0 then
          endSession (write source.state blocked.conn blocked.buffer result) blocked.sock task
        else write source.state blocked.conn blocked.buffer result) task,
        update source.pending task none⟩ := by
  rcases Option.bind_eq_some_iff.mp taken with ⟨blocked, waiting, taken⟩
  split at taken
  case isFalse => cases taken
  case isTrue allowed =>
    refine ⟨blocked, waiting, allowed.1, ?_⟩
    rw [afterSend_onSendReturn, Option.some.injEq] at taken
    rw [← taken]

theorem blocking_frame_cases {source target : BlockingState cfg} {call : Reception}
    (taken : blockingStep source (.frame call) = some target) :
    ∃ queue, target.state = { source.state with packetQueue := queue } := by
  have received : step source.state (.frame call) = some target.state := by
    cases taken
    rfl
  rcases frame_cases received with ⟨queue, state_eq, _⟩
  exact ⟨queue, state_eq⟩

/-- The installed socket is open. -/
def SockOpen (source : BlockingState cfg) : Prop :=
  source.state.sock ≠ 0 → source.state.files source.state.sock ≠ none

/-- However late and wrong a failure is, `_sock` never names a closed socket: it
is forgotten in the same step. -/
theorem SockOpen.step {source target : BlockingState cfg} {event : BlockingEvent}
    (opened : SockOpen source) (taken : blockingStep source event = some target) :
    SockOpen target := by
  intro installed
  cases event with
  | accept sock created =>
      rcases blocking_accept_cases taken with ⟨unused, target_eq⟩
      rw [SockOpen] at opened
      rw [target_eq, onSocketAcceptHandler_eq]
      grind [Function.update_apply]
  | call task =>
      rcases call_cases taken with ⟨phase, _, _, ⟨_, rfl⟩ | ⟨buffer, _, rfl⟩⟩
      · simpa [enterLoop] using opened (by simpa [enterLoop] using installed)
      · simpa using opened (by simpa using installed)
  | ret task result =>
      rcases ret_cases taken with ⟨blocked, _, _, rfl⟩
      dsimp only at installed ⊢
      split
      case isTrue failed =>
        rw [if_pos failed, endSession_eq] at installed
        exact absurd rfl installed
      case isFalse accepted =>
        rw [if_neg accepted] at installed
        exact opened installed
  | frame call =>
      rcases blocking_frame_cases taken with ⟨queue, target_eq⟩
      rw [target_eq] at installed ⊢
      exact opened installed

theorem sockOpen_of_run {events : List BlockingEvent} {last : BlockingState cfg}
    (run : exec blockingStep (BlockingState.ofState (initial cfg)) events = some last) :
    SockOpen last := by
  have uninstalled : SockOpen (BlockingState.ofState (initial cfg)) := by
    intro installed
    refine absurd ?_ installed
    rw [BlockingState.ofState, initial]
    split <;> rfl
  apply exec_invariant uninstalled ?_ (eachStep_true _ _) run
  intro source event target opened _ taken
  exact opened.step taken

/-! ## A new client -/

/-- The event is not another client. -/
def BlockingEvent.Internal : BlockingEvent → Prop
  | .accept _ _ => False
  | .call _ | .ret _ _ | .frame _ => True

/-- In this step a write on the given connection returns with an error. -/
def FailsOn (conn : Nat) (source : BlockingState cfg) : BlockingEvent → Prop
  | .ret task result =>
      result < 0 ∧ ∃ blocked ∈ source.pending task, blocked.conn = some conn
  | .accept _ _ | .call _ | .frame _ => False

/-- In this step a write that does not belong to the given connection returns
with an error. -/
def StaleFailure (conn : Nat) (source : BlockingState cfg) : BlockingEvent → Prop
  | .ret task result =>
      result < 0 ∧ ∃ blocked ∈ source.pending task, blocked.conn ≠ some conn
  | .accept _ _ | .call _ | .frame _ => False

section Decidable

variable (conn : Nat) (source : BlockingState cfg)

instance : (event : BlockingEvent) → Decidable event.Internal
  | .accept _ _ => .isFalse id
  | .call _ | .ret _ _ | .frame _ => .isTrue trivial

instance : (event : BlockingEvent) → Decidable (FailsOn conn source event)
  | .ret task result =>
      inferInstanceAs (Decidable (result < 0 ∧ ∃ blocked ∈ source.pending task,
        blocked.conn = some conn))
  | .accept _ _ | .call _ | .frame _ => .isFalse id

instance : (event : BlockingEvent) → Decidable (StaleFailure conn source event)
  | .ret task result =>
      inferInstanceAs (Decidable (result < 0 ∧ ∃ blocked ∈ source.pending task,
        blocked.conn ≠ some conn))
  | .accept _ _ | .call _ | .frame _ => .isFalse id

end Decidable

/-- The client on the given connection is installed, open and served. -/
structure Kept (sock conn task : Nat) (source : BlockingState cfg) : Prop where
  sock_eq : source.state.sock = sock
  opened : source.state.files sock = some conn
  handle_eq : source.state.xHandleSniff = some task
  alive : source.state.tasks task ≠ none

/-- Accepting a client installs it. -/
theorem kept_of_accept {source installed : BlockingState cfg} {sock : Nat}
    (opened : SockOpen source)
    (accepted : blockingStep source (.accept sock true) = some installed) :
    Kept sock source.state.nextConn source.state.nextTask installed := by
  rcases blocking_accept_cases accepted with ⟨unused, installed_eq⟩
  rw [onSocketAcceptHandler_eq] at installed_eq
  rw [SockOpen] at opened
  constructor <;> rw [installed_eq]
  · grind [Function.update_apply]
  · rfl
  · simp

/-- Only a failing write can take a client away before the next one comes. -/
theorem Kept.step {sock conn task : Nat} {source target : BlockingState cfg}
    {event : BlockingEvent} (kept : Kept sock conn task source)
    (internal : event.Internal) (healthy : ¬ FailsOn conn source event)
    (fresh : ¬ StaleFailure conn source event)
    (taken : blockingStep source event = some target) :
    Kept sock conn task target := by
  cases event with
  | accept sock created => exact internal.elim
  | call caller =>
      rcases call_cases taken with ⟨phase, _, _, ⟨_, rfl⟩ | ⟨buffer, _, rfl⟩⟩
      · constructor
        · simpa [enterLoop] using kept.sock_eq
        · simpa [enterLoop] using kept.opened
        · simpa [enterLoop] using kept.handle_eq
        · simpa using kept.alive
      · constructor
        · simpa using kept.sock_eq
        · simpa using kept.opened
        · simpa using kept.handle_eq
        · simpa using kept.alive
  | ret caller result =>
      rcases ret_cases taken with ⟨blocked, waiting, _, rfl⟩
      have accepted : ¬ result < 0 := by
        intro failed
        by_cases own : blocked.conn = some conn
        · exact healthy ⟨failed, blocked, waiting, own⟩
        · exact fresh ⟨failed, blocked, waiting, own⟩
      rw [if_neg accepted]
      constructor
      · exact kept.sock_eq
      · exact kept.opened
      · exact kept.handle_eq
      · simpa [write] using kept.alive
  | frame call =>
      rcases blocking_frame_cases taken with ⟨queue, target_eq⟩
      constructor <;> rw [target_eq]
      · exact kept.sock_eq
      · exact kept.opened
      · exact kept.handle_eq
      · exact kept.alive

/-- A stale failure deletes the task of the installed client. -/
theorem Kept.deleted {sock conn task : Nat} {source target : BlockingState cfg}
    {event : BlockingEvent} (kept : Kept sock conn task source)
    (stale : StaleFailure conn source event)
    (taken : blockingStep source event = some target) :
    target.state.tasks task = none := by
  cases event with
  | accept sock created => exact stale.elim
  | call caller => exact stale.elim
  | frame call => exact stale.elim
  | ret caller result =>
      rcases ret_cases taken with ⟨_, _, _, rfl⟩
      rw [if_pos stale.1, enterLoop_tasks_eq_none_iff, endSession_eq]
      simp [write, kept.handle_eq]

/-- Installing a client makes it the current one, on an open socket and with a live
task.  Until another client is accepted or a write on its own connection fails, it
stays so if and only if no write of an earlier connection fails meanwhile. -/
theorem new_client_kept_iff {before after : List BlockingEvent}
    {source installed : BlockingState cfg} {sock : Nat}
    (reached : exec blockingStep (BlockingState.ofState (initial cfg)) before = some source)
    (accepted : blockingStep source (.accept sock true) = some installed)
    (undisturbed : EachStep blockingStep
      (fun source' event _ =>
        event.Internal ∧ ¬ FailsOn source.state.nextConn source' event) installed after) :
    Kept sock source.state.nextConn source.state.nextTask installed ∧
      (EachStep blockingStep
          (fun _ _ target =>
            target.state.sock = sock ∧
              target.state.files sock = some source.state.nextConn ∧
              target.state.tasks source.state.nextTask ≠ none) installed after ↔
        EachStep blockingStep
          (fun source' event _ => ¬ StaleFailure source.state.nextConn source' event)
          installed after) := by
  have kept := kept_of_accept (sockOpen_of_run reached) accepted
  constructor
  · exact kept
  constructor
  · intro stays
    apply EachStep.of_invariant kept ?_ (undisturbed.and stays)
    rintro source' event target kept' ⟨⟨internal, healthy⟩, _, _, alive⟩ taken
    have fresh : ¬ StaleFailure source.state.nextConn source' event :=
      fun stale => alive (kept'.deleted stale taken)
    exact ⟨fresh, kept'.step internal healthy fresh taken⟩
  · intro fresh
    apply EachStep.of_invariant kept ?_ (undisturbed.and fresh)
    rintro source' event target kept' ⟨⟨internal, healthy⟩, fresh⟩ taken
    have later := kept'.step internal healthy fresh taken
    exact ⟨⟨later.sock_eq, later.opened, later.alive⟩, later⟩

/-- The condition for a second client whose task sends its header while the task of
the first one goes on. -/
theorem new_client_kept_iff_second :
    ∃ source installed : BlockingState SdkConfig.smallest,
      exec blockingStep (BlockingState.ofState (initial _))
          [.accept 54 true, .call 0, .ret 0 24] = some source ∧
        blockingStep source (.accept 55 true) = some installed ∧
        Kept 55 source.state.nextConn source.state.nextTask installed ∧
        (EachStep blockingStep
            (fun _ _ target =>
              target.state.sock = 55 ∧
                target.state.files 55 = some source.state.nextConn ∧
                target.state.tasks source.state.nextTask ≠ none) installed
            [.call 1, .call 0, .ret 1 24] ↔
          EachStep blockingStep
            (fun source' event _ => ¬ StaleFailure source.state.nextConn source' event)
            installed [.call 1, .call 0, .ret 1 24]) := by
  have reached : exec blockingStep (BlockingState.ofState (initial SdkConfig.smallest))
      [.accept 54 true, .call 0, .ret 0 24] = some _ := rfl
  exact ⟨_, _, reached, rfl, new_client_kept_iff reached rfl (by decide +kernel)⟩

/-- The task of the first client is still writing the header when a second client is
accepted.  Its write fails, and with that the second client is forgotten and left
without a task, on a socket that stays open. -/
theorem new_client_lost :
    ∃ source installed last : BlockingState SdkConfig.smallest,
      exec blockingStep (BlockingState.ofState (initial _)) [.accept 54 true, .call 0] =
          some source ∧
        blockingStep source (.accept 55 true) = some installed ∧
        blockingStep installed (.ret 0 (-1)) = some last ∧
        ¬ FailsOn source.state.nextConn installed (.ret 0 (-1)) ∧
        last.state.sock = 0 ∧ last.state.tasks source.state.nextTask = none ∧
        last.state.files 55 = some source.state.nextConn :=
  ⟨_, _, _, rfl, rfl, rfl, by decide +kernel, rfl, rfl, rfl⟩

end WifiSniffer.Session
