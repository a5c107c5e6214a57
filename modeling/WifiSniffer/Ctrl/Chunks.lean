import WifiSniffer.Ctrl.Loop

/-!
# Decoding in chunks

Neither `getByteBuffer` nor `SerialCtrl.read` reads on when a read comes with fewer
bytes than it has asked for: the rest of the buffer is zeros, and the bytes that are
missing are taken for the beginning of what comes next.  A timeout of the serial port
loses the capture header or a payload.  Whatever the chunks are, the same is decoded if
no read ends early and only a wait for the next record is ever in vain.
-/

namespace WifiSniffer.Ctrl

open WifiSniffer.Transition

/-! ## The decode loops -/

/-- The two methods that decode a stream. -/
inductive Decoder where
  | main8
  | stream
  deriving DecidableEq

namespace Decoder

/-- What a read comes to. -/
@[reducible]
def Outcome : Decoder → Type
  | main8 => SocketRead
  | stream => Int

def loop : (decoder : Decoder) → Loop decoder.Outcome Item
  | main8 => Ctrl.main8
  | stream => Ctrl.stream

theorem waits (decoder : Decoder) : decoder.loop.Waits := by
  cases decoder with
  | main8 => exact Loop.waits_main8
  | stream => exact Loop.waits_of_serial rfl

theorem quiet (decoder : Decoder) : decoder.loop.Quiet := by
  intro payloadHeader
  cases decoder <;> rfl

/-- What is decoded in a run. -/
def decoded (decoder : Decoder) (bytes : List UInt8) (outcomes : List decoder.Outcome) :
    List Item :=
  collect decoder.loop.step decoder.loop.output (Loop.initial bytes) outcomes

/-- An item is decoded from the bytes that have been received for it and no others. -/
def OnlyReceived (decoder : Decoder) (source : Loop.State) (outcome : decoder.Outcome)
    (_ : Loop.State) : Prop :=
  ∀ item ∈ decoder.loop.output source outcome,
    item.array = decoder.loop.delivered source outcome

/-- A read ends with all that it has asked for, or comes to nothing where the next record
begins. -/
def Whole (decoder : Decoder) (source : Loop.State) (outcome : decoder.Outcome)
    (_ : Loop.State) : Prop :=
  decoder.loop.Full source outcome ∨ decoder.loop.BetweenRecords source outcome

instance (decoder : Decoder) (source : Loop.State) (outcome : decoder.Outcome)
    (target : Loop.State) : Decidable (decoder.OnlyReceived source outcome target) :=
  inferInstanceAs (Decidable (∀ item ∈ _, _))

instance (decoder : Decoder) (source : Loop.State) (outcome : decoder.Outcome)
    (target : Loop.State) : Decidable (decoder.Whole source outcome target) :=
  inferInstanceAs (Decidable (_ ∨ _))

/-! ## One step -/

section Step

variable {decoder : Decoder} {source target : Loop.State} {outcome : decoder.Outcome}

/-- Whole reads lead along the way through the stream. -/
theorem follows_of_whole (taken : decoder.loop.step source outcome = some target)
    (whole : decoder.Whole source outcome target) :
    Follows decoder.loop.output decoder.loop.advance source outcome target := by
  rcases whole with full | between
  · exact .inl (Loop.advance_of_full taken full)
  · exact .inr (Loop.stays_of_betweenRecords decoder.waits taken between)

theorem array_of_mem_handle {phase : Phase} {bytes : List UInt8} {item : Item}
    (member : item ∈ (decoder.loop.handle phase (.ok (.wrap bytes))).1) : item.array = bytes := by
  cases phase with
  | captureHeader =>
      rw [Loop.handle] at member
      split at member
      case h_1 captureHeader found =>
        obtain rfl : item = .captureHeader captureHeader := by
          cases decoder <;> exact List.mem_singleton.mp member
        exact AbstractPacket.array_of_get CaptureHeader.get_wrap_of_long found
      all_goals cases member
  | payloadHeader =>
      rw [Loop.handle] at member
      split at member
      case h_1 payloadHeader found =>
        obtain rfl : item = .payloadHeader payloadHeader := by
          cases decoder <;> exact List.mem_singleton.mp member
        exact AbstractPacket.array_of_get PayloadHeader.get_wrap_of_long found
      all_goals cases member
  | payload payloadHeader =>
      have onPayload_eq : decoder.loop.onPayload payloadHeader (.wrap bytes) =
          (PayloadPacket.get (.wrap bytes)).map fun payloadPacket =>
            payloadPacket.toList.map .payload := by
        cases decoder <;> rfl
      rw [Loop.handle, onPayload_eq] at member
      cases found : PayloadPacket.get (.wrap bytes) with
      | error exception =>
          rw [found] at member
          cases member
      | ok payloadPacket =>
          rw [found] at member
          cases payloadPacket with
          | none => cases member
          | some payloadPacket =>
              obtain rfl := List.mem_singleton.mp member
              exact AbstractPacket.array_of_get PayloadPacket.get_wrap_of_long found
  | ended exception =>
      cases member

theorem onlyReceived_of_whole (taken : decoder.loop.step source outcome = some target)
    (whole : decoder.Whole source outcome target) :
    decoder.OnlyReceived source outcome target := by
  intro item member
  rcases whole with full | between
  · rcases Loop.respond_full taken full with ⟨length, _, _, delivered_eq, output_eq, _⟩
    rw [output_eq] at member
    rw [delivered_eq]
    exact array_of_mem_handle member
  · rw [(Loop.stays_of_betweenRecords decoder.waits taken between).2] at member
    cases member

/-- The buffer of a read is as long as has been asked for, or empty, or there is none. -/
theorem read_cases (decoder : Decoder) (length : Nat) (outcome : decoder.Outcome)
    (bytes : List UInt8) :
    (∃ exception, decoder.loop.device.read length outcome bytes = .error exception) ∨
      decoder.loop.device.read length outcome bytes = .ok (.wrap []) ∨
      decoder.loop.device.read length outcome bytes = .ok (.wrap (filled length bytes)) := by
  cases decoder with
  | main8 =>
      cases outcome with
      | returned count => exact .inr (.inr rfl)
      | timedOut => exact .inl ⟨_, rfl⟩
  | stream =>
      by_cases arrived : (outcome : Int) > 0
      · exact .inr (.inr (if_pos arrived))
      · exact .inr (.inl (if_neg arrived))

theorem handle_empty (decoder : Decoder) (phase : Phase) :
    (decoder.loop.handle phase (.ok (.wrap []))).1 = [] := by
  cases decoder <;> cases phase <;> rfl

/-- What is decoded after a short read has not been received. -/
theorem array_ne_of_short {length : Nat} {item : Item}
    (taken : decoder.loop.step source outcome = some target)
    (requested : decoder.loop.requested source.phase = some length)
    (short : (decoder.loop.delivered source outcome).length < length)
    (member : item ∈ decoder.loop.output source outcome) :
    item.array ≠ decoder.loop.delivered source outcome := by
  rcases Loop.step_cases taken with ⟨_, requested', _, output_eq, _⟩
  cases requested.symm.trans requested'
  rw [output_eq, Loop.respond] at member
  rcases read_cases decoder length outcome (decoder.loop.delivered source outcome) with
    ⟨exception, failed⟩ | empty | padded
  · rw [failed, Loop.handle] at member
    cases member
  · rw [empty, handle_empty] at member
    cases member
  · rw [padded] at member
    rw [array_of_mem_handle member]
    intro equal
    have length_eq := congrArg List.length equal
    rw [filled, List.length_append, List.length_replicate] at length_eq
    omega

end Step

/-! ## One stream for both loops -/

/-- The capture header of a stream opens both loops. -/
def Accepted (bytes : List UInt8) : Prop :=
  ∃ captureHeader, CaptureHeader.get (.wrap (bytes.take CaptureHeader.size)) =
    .ok (some captureHeader) ∧ captureHeader.magicNum = CaptureHeader.magic

theorem requested_eq (phase : Phase) :
    main8.loop.requested phase = stream.loop.requested phase := by
  cases phase with
  | payload payloadHeader =>
      change (socket.newArray payloadHeader.inclLen).toOption =
        (SerialCtrl.newArray payloadHeader.inclLen).toOption
      simp only [socket, SerialCtrl]
      split <;> rfl
  | _ => rfl

/-- With the same bytes, both loops do the same. -/
theorem advance_eq {bytes : List UInt8} (accepted : Accepted bytes) {source : Loop.State}
    (start : source.phase = .captureHeader → source.left = bytes) :
    main8.loop.advance source = stream.loop.advance source := by
  have handle_eq (length : Nat) (requested : stream.loop.requested source.phase = some length) :
      main8.loop.handle source.phase (.ok (.wrap (source.left.take length))) =
        stream.loop.handle source.phase (.ok (.wrap (source.left.take length))) := by
    match phase_eq : source.phase with
    | .captureHeader =>
        rw [phase_eq] at requested
        cases requested
        rcases accepted with ⟨captureHeader, found, magic⟩
        rw [start phase_eq, Loop.handle, Loop.handle, found]
        have opened : stream.loop.accepts captureHeader = true := decide_eq_true magic
        dsimp only
        rw [opened]
        rfl
    | .payloadHeader => rfl
    | .payload payloadHeader => rfl
    | .ended exception => rfl
  rw [Loop.advance, Loop.advance, requested_eq]
  cases requested : stream.loop.requested source.phase with
  | none => rfl
  | some length =>
      rw [Option.bind_some, Option.bind_some, handle_eq length requested]

theorem leads_congr {bytes : List UInt8} {first second : Decoder}
    (same : first = second ∨ Accepted bytes) {out : List Item} {last : Loop.State}
    (leads : Leads first.loop.advance (Loop.initial bytes) out last) :
    Leads second.loop.advance (Loop.initial bytes) out last := by
  rcases same with rfl | accepted
  · exact leads
  · apply leads.congr fun source => source.phase = .captureHeader → source.left = bytes
    · intro source start
      have equal := advance_eq accepted start
      cases first <;> cases second
      · rfl
      · exact equal
      · exact equal.symm
      · rfl
    · intro source emitted target _ advanced atStart
      exact absurd atStart (Loop.phase_ne_of_advance advanced)
    · intro _
      rfl

/-! ## Two runs -/

/-- Two runs in which every read is whole have decoded the same from the same bytes, and
from received bytes alone. -/
theorem decoded_eq_of_whole {bytes : List UInt8} {first second : Decoder}
    (same : first = second ∨ Accepted bytes) {outcomes : List first.Outcome}
    {outcomes' : List second.Outcome} {last last' : Loop.State}
    (run : exec first.loop.step (Loop.initial bytes) outcomes = some last)
    (run' : exec second.loop.step (Loop.initial bytes) outcomes' = some last')
    (whole : EachStep first.loop.step first.Whole (Loop.initial bytes) outcomes)
    (whole' : EachStep second.loop.step second.Whole (Loop.initial bytes) outcomes')
    (delivered_eq : last.left = last'.left) :
    first.decoded bytes outcomes = second.decoded bytes outcomes' ∧
      EachStep first.loop.step first.OnlyReceived (Loop.initial bytes) outcomes ∧
      EachStep second.loop.step second.OnlyReceived (Loop.initial bytes) outcomes' := by
  have path {decoder : Decoder} {outcomes : List decoder.Outcome} {last : Loop.State}
      (run : exec decoder.loop.step (Loop.initial bytes) outcomes = some last)
      (whole : EachStep decoder.loop.step decoder.Whole (Loop.initial bytes) outcomes) :
      Leads decoder.loop.advance (Loop.initial bytes) (decoder.decoded bytes outcomes) last :=
    leads_of_run (whole.mono fun _ _ _ taken holds => follows_of_whole taken holds) run
  have received {decoder : Decoder} {outcomes : List decoder.Outcome}
      (whole : EachStep decoder.loop.step decoder.Whole (Loop.initial bytes) outcomes) :
      EachStep decoder.loop.step decoder.OnlyReceived (Loop.initial bytes) outcomes :=
    whole.mono fun _ _ _ taken holds => onlyReceived_of_whole taken holds
  exact ⟨Loop.out_eq_of_left_eq second.quiet (leads_congr same (path run whole))
    (path run' whole') delivered_eq, received whole, received whole'⟩

/-- A capture of one frame of 28 bytes. -/
def oneFrame : List UInt8 :=
  [0xa1, 0xb2, 0xc3, 0xd4, 0, 2, 0, 4, 0, 0, 0, 0, 0, 0, 0, 0, 0, 0, 9, 0xc4, 0, 0, 0, 105] ++
    [0, 0, 0, 1, 0, 0, 0, 2, 0, 0, 0, 28, 0, 0, 0, 28] ++ (List.range 28).map UInt8.ofNat

/-- The socket in three reads, the serial port with timeouts in between. -/
theorem decoded_eq_of_whole_oneFrame :
    let outcomes : List SocketRead := [.returned 24, .returned 16, .returned 28]
    let outcomes' : List Int := [24, 0, -1, 16, 28, 0]
    main8.decoded oneFrame outcomes = stream.decoded oneFrame outcomes' ∧
      EachStep main8.loop.step main8.OnlyReceived (Loop.initial oneFrame) outcomes ∧
      EachStep stream.loop.step stream.OnlyReceived (Loop.initial oneFrame) outcomes' := by
  intro outcomes outcomes'
  have accepted : Accepted oneFrame := ⟨_, rfl, rfl⟩
  have run : exec main8.loop.step (Loop.initial oneFrame) outcomes =
      some { phase := .payloadHeader, left := [] } := by
    decide +kernel
  have run' : exec stream.loop.step (Loop.initial oneFrame) outcomes' =
      some { phase := .payloadHeader, left := [] } := by
    decide +kernel
  exact decoded_eq_of_whole (.inr accepted) run run' (by decide +kernel) (by decide +kernel) rfl

/-- The last 28 bytes in two pieces: a payload and a payload header are decoded that have
never been received. -/
theorem decoded_ne_oneFrame :
    let outcomes : List SocketRead := [.returned 24, .returned 16, .returned 28]
    let outcomes' : List SocketRead := [.returned 24, .returned 16, .returned 20, .returned 8]
    ((exec main8.loop.step (Loop.initial oneFrame) outcomes).map Loop.State.left = some [] ∧
        (exec main8.loop.step (Loop.initial oneFrame) outcomes').map Loop.State.left = some []) ∧
      main8.decoded oneFrame outcomes ≠ main8.decoded oneFrame outcomes' ∧
      ¬ EachStep main8.loop.step main8.OnlyReceived (Loop.initial oneFrame) outcomes' := by
  decide +kernel

end Decoder

end WifiSniffer.Ctrl
