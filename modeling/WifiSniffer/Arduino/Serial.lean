import WifiSniffer.Arduino.Sketch
import WifiSniffer.Transition.Labelled

/-!
# The sketch's serial output

The header of the capture is written by `signal_start`, on start-up while nothing can be
written yet and then again for every command that starts a capture.  Frames are recorded
from start-up on.  So the output is a capture only if the first thing that happens is
such a command, and it is the last one.
-/

namespace WifiSniffer.Arduino

open WifiSniffer.Bytes WifiSniffer.Capture WifiSniffer.Handler WifiSniffer.Transition

/-! ## Runs of the sketch -/

/-- What happens to the sketch. -/
inductive Event where
  /-- bytes come in on the serial port -/
  | receive (bytes : List UInt8)
  /-- `loop` calls `read` -/
  | read (arriving : List UInt8)
  /-- the driver hands over a frame -/
  | frame (clock : Clock) (pkt : WifiPromiscuousPkt) (type : WifiPromiscuousPktType)

/-- The sketch after an event. -/
def next (sketch : Sketch) : Event → Sketch
  | .receive bytes => { sketch with input := sketch.input ++ bytes }
  | .read arriving => read arriving sketch
  | .frame clock pkt type => packetHandler clock sketch pkt type

def step : Step Sketch Event := fun sketch event =>
  some (next sketch event)

/-- A part of a capture. -/
inductive Emission where
  | header
  | record (packet : Packet)

def Emission.bytes : Emission → List UInt8
  | header => pcapHdr.bytes
  | record packet => packet.bytes

/-- A code with which a capture starts in the given mode. -/
def startsCapture (op : List UInt8) (outType : OutputType) : Bool :=
  (isOpCode op "S1" && outType = .binary) || isOpCode op "OB"

/-- The next command starts a capture. -/
def restarts (sketch : Sketch) : Bool :=
  sketch.input.length ≥ opCodeSize &&
    startsCapture (sketch.input.take opCodeSize) sketch.outType

/-- A frame is recorded. -/
def records (sketch : Sketch) (pkt : WifiPromiscuousPkt) : Bool :=
  passes sketch pkt.payload && sketch.outType = .binary

/-- What an event makes the sketch write. -/
def emitted (sketch : Sketch) : Event → List Emission
  | .receive _ => []
  | .read _ => if restarts sketch then [.header] else []
  | .frame clock pkt type =>
      if records sketch pkt then [.record (packetOf clock pkt (packetLength pkt type))] else []

/-! ## What is written -/

section Written

variable {sketch : Sketch}

/-- Both callbacks are installed. -/
def Ready (sketch : Sketch) : Prop :=
  sketch.port.writeCb = true ∧ sketch.wCb = true

theorem ready_setup : Ready setup :=
  ⟨rfl, rfl⟩

/-- A code is that of one command only. -/
theorem isOpCode_unique {op : List UInt8} {first second : String}
    (isFirst : isOpCode op first = true) (isSecond : isOpCode op second = true) :
    (CString.ofString first).take opCodeSize = (CString.ofString second).take opCodeSize :=
  (of_decide_eq_true isFirst).symm.trans (of_decide_eq_true isSecond)

theorem isOpCode_other {op : List UInt8} {first second : String}
    (isFirst : isOpCode op first = true)
    (differ : (CString.ofString first).take opCodeSize ≠
      (CString.ofString second).take opCodeSize) : isOpCode op second = false :=
  Bool.eq_false_iff.mpr fun isSecond => differ (isOpCode_unique isFirst isSecond)

theorem port_signalStart (sketch : Sketch) :
    (signalStart sketch).port =
      if sketch.outType = .binary then sketch.port.captureStart else sketch.port := by
  rw [signalStart]
  split <;> rfl

theorem wCb_command (op : List UInt8) (sketch : Sketch) :
    (command op sketch).wCb = sketch.wCb := by
  simp only [command, signalStart, apply_ite Sketch.wCb, ite_self]

theorem port_command (op : List UInt8) (sketch : Sketch) :
    (command op sketch).port =
      if startsCapture op sketch.outType then sketch.port.captureStart else sketch.port := by
  by_cases ob : isOpCode op "OB" = true
  · have s1 : isOpCode op "S1" = false := isOpCode_other ob (by decide)
    have ot : isOpCode op "OT" = false := isOpCode_other ob (by decide)
    simp only [command, startsCapture, ob, s1, ot, port_signalStart, apply_ite Sketch.port,
      ite_self, Bool.or_true, Bool.false_eq_true, if_true, if_false]
  · by_cases ot : isOpCode op "OT" = true
    · have s1 : isOpCode op "S1" = false := isOpCode_other ot (by decide)
      simp [command, startsCapture, ob, s1, ot, port_signalStart, apply_ite Sketch.port]
    · simp [command, startsCapture, ob, ot, port_signalStart, apply_ite Sketch.port,
        apply_ite Sketch.outType, ite_and]

theorem port_read (arriving : List UInt8) (sketch : Sketch) :
    (read arriving sketch).port =
      if restarts sketch then sketch.port.captureStart else sketch.port := by
  rw [read, restarts]
  by_cases coded : sketch.input.length ≥ opCodeSize
  · simp only [coded, if_true, decide_true, Bool.true_and]
    exact port_command _ _
  · simp only [coded, if_false, decide_false, Bool.false_and, Bool.false_eq_true]

theorem packetHandler_eq (ready : Ready sketch) (clock : Clock) (pkt : WifiPromiscuousPkt)
    (type : WifiPromiscuousPktType) :
    packetHandler clock sketch pkt type =
      if records sketch pkt then writePacket clock sketch pkt (packetLength pkt type)
      else sketch := by
  rw [packetHandler, if_pos ready.2, packetCb, records]
  cases passes sketch pkt.payload <;> simp

theorem wCb_read (arriving : List UInt8) (sketch : Sketch) :
    (read arriving sketch).wCb = sketch.wCb := by
  rw [read]
  split
  · exact wCb_command _ _
  · rfl

/-- Every event hands to the serial port what it emits, and nothing else. -/
theorem port_next (ready : Ready sketch) (event : Event) :
    (next sketch event).port =
      { sketch.port with
        serial := sketch.port.serial ++ (emitted sketch event).flatMap Emission.bytes } := by
  have written (bytes : List UInt8) : sketch.port.write bytes =
      { sketch.port with serial := sketch.port.serial ++ bytes } := if_pos ready.1
  cases event with
  | receive bytes => simp [next, emitted]
  | read arriving =>
      rw [next, port_read, emitted]
      split
      · simp [Port.captureStart_eq, written, Emission.bytes]
      · simp
  | frame clock pkt type =>
      rw [next, packetHandler_eq ready, emitted]
      split
      · simp [writePacket, Port.newPacket_eq, written, Emission.bytes]
      · simp

theorem Ready.next (ready : Ready sketch) (event : Event) : Ready (next sketch event) := by
  constructor
  · rw [port_next ready]
    exact ready.1
  · cases event with
    | receive bytes => exact ready.2
    | read arriving => exact (wCb_read arriving sketch).trans ready.2
    | frame clock pkt type =>
        rw [Arduino.next, packetHandler_eq ready]
        split
        · exact ready.2
        · exact ready.2

end Written

/-! ## Captures -/

/-- One header, and then records. -/
def InOrder (emissions : List Emission) : Prop :=
  emissions = [] ∨ ∃ packets : List Packet, emissions = .header :: packets.map .record

/-- What has been written in a run is the beginning of one capture. -/
def WritesCapture (events : List Event) : Prop :=
  InOrder (collect step emitted setup events) ∧
    ∀ last, exec step setup events = some last →
      last.port.serial = [] ∨
        ∃ packets : List Packet,
          last.port.serial = pcapHdr.bytes ++ packets.flatMap Packet.bytes

/-- A capture starts before anything has been written, and a frame is recorded after
that. -/
def OnTime (source : Sketch) (event : Event) (_ : Sketch) : Prop :=
  match event with
  | .receive _ => True
  | .read _ => restarts source → source.port.serial = []
  | .frame _ pkt _ => records source pkt → source.port.serial ≠ []

section Order

variable {emissions : List Emission}

theorem InOrder.of_append {front back : List Emission} (inOrder : InOrder (front ++ back)) :
    InOrder front := by
  cases front with
  | nil => exact .inl rfl
  | cons first rest =>
      rcases inOrder with empty | ⟨packets, packets_eq⟩
      · cases empty
      · rw [List.cons_append, List.cons.injEq, List.append_eq_map_iff] at packets_eq
        rcases packets_eq with ⟨rfl, packets, _, _, rfl, _⟩
        exact .inr ⟨packets, rfl⟩

theorem inOrder_header_iff : InOrder (emissions ++ [.header]) ↔ emissions = [] := by
  constructor
  · rintro (empty | ⟨packets, packets_eq⟩)
    · exact absurd empty (by simp)
    · cases emissions with
      | nil => rfl
      | cons first rest =>
          rw [List.cons_append, List.cons.injEq] at packets_eq
          have member : Emission.header ∈ packets.map Emission.record := by
            rw [← packets_eq.2]
            simp
          rcases List.mem_map.mp member with ⟨packet, _, record_eq⟩
          cases record_eq
  · rintro rfl
    exact .inr ⟨[], rfl⟩

theorem inOrder_record_iff (inOrder : InOrder emissions) (packet : Packet) :
    InOrder (emissions ++ [.record packet]) ↔ emissions ≠ [] := by
  constructor
  · rintro (empty | ⟨packets, packets_eq⟩) rfl
    · cases empty
    · cases packets_eq
  · intro nonempty
    rcases inOrder with empty | ⟨packets, rfl⟩
    · exact absurd empty nonempty
    · exact .inr ⟨packets ++ [packet], by simp⟩

theorem flatMap_bytes_eq_nil_iff : emissions.flatMap Emission.bytes = [] ↔ emissions = [] := by
  have bytes_ne (emission : Emission) : emission.bytes ≠ [] := by
    cases emission with
    | header =>
        apply List.ne_nil_of_length_pos
        rw [Emission.bytes, PcapHdr.bytes_length]
        decide
    | record packet =>
        apply List.ne_nil_of_length_pos
        rw [Emission.bytes, Packet.bytes, List.length_append, PcapRecHdr.bytes_length]
        omega
  rw [List.flatMap_eq_nil_iff]
  constructor
  · intro none_written
    exact List.eq_nil_iff_forall_not_mem.mpr fun emission member =>
      bytes_ne emission (none_written emission member)
  · rintro rfl
    simp

end Order

/-- What has been written so far is what has been emitted. -/
structure Written (emissions : List Emission) (sketch : Sketch) : Prop where
  ready : Ready sketch
  serial_eq : sketch.port.serial = emissions.flatMap Emission.bytes

theorem Written.next {emissions : List Emission} {source : Sketch}
    (written : Written emissions source) (event : Event) :
    Written (emissions ++ emitted source event) (next source event) := by
  constructor
  · exact written.ready.next event
  · rw [port_next written.ready, written.serial_eq, List.flatMap_append]

theorem inOrder_emitted_iff {emissions : List Emission} {source target : Sketch}
    (written : Written emissions source) (inOrder : InOrder emissions) (event : Event) :
    InOrder (emissions ++ emitted source event) ↔ OnTime source event target := by
  have empty_iff : source.port.serial = [] ↔ emissions = [] := by
    rw [written.serial_eq, flatMap_bytes_eq_nil_iff]
  cases event with
  | receive bytes => simpa [emitted, OnTime] using inOrder
  | read arriving =>
      rw [emitted, OnTime, empty_iff]
      by_cases restart : restarts source = true
      · simp [restart, inOrder_header_iff]
      · simpa [restart] using inOrder
  | frame clock pkt type =>
      rw [emitted, OnTime, ne_eq, empty_iff]
      by_cases recorded : records source pkt = true
      · simp [recorded, inOrder_record_iff inOrder]
      · simpa [recorded] using inOrder

theorem inOrder_iff (events : List Event) :
    InOrder (collect step emitted setup events) ↔ EachStep step OnTime setup events := by
  have start : Written [] setup := ⟨ready_setup, rfl⟩
  refine collect_iff_eachStep (fun _ _ => InOrder.of_append) ?_ ?_ start (.inl rfl) events
  · intro emissions source event target written taken
    cases taken
    exact written.next event
  · intro emissions source event target written inOrder _
    exact inOrder_emitted_iff written inOrder event

theorem written_of_run {events : List Event} {last : Sketch}
    (run : exec step setup events = some last) :
    Written (collect step emitted setup events) last := by
  have start : Written [] setup := ⟨ready_setup, rfl⟩
  have reached : Written ([] ++ collect step emitted setup events) last := by
    refine exec_collect_invariant start ?_ (eachStep_true setup events) run
    intro emissions source event target written _ taken
    cases taken
    exact written.next event
  exact reached

/-- The output is the beginning of one capture exactly if every capture starts before
anything has been written, and every frame is recorded after that. -/
theorem writesCapture_iff (events : List Event) :
    WritesCapture events ↔ EachStep step OnTime setup events := by
  rw [WritesCapture, inOrder_iff]
  constructor
  · exact fun writes => writes.1
  · intro onTime
    refine ⟨onTime, fun last run => ?_⟩
    rw [(written_of_run run).serial_eq]
    rcases (inOrder_iff events).mpr onTime with empty | ⟨packets, packets_eq⟩
    · rw [empty]
      exact .inl rfl
    · rw [packets_eq, List.flatMap_cons, List.flatMap_map]
      exact .inr ⟨packets, rfl⟩

/-! ## Power-up -/

/-- A frame from a sender that the sketch looks for. -/
def wantedFrame : WifiPromiscuousPkt where
  rxCtrl := { rssi := -40, noiseFloor := -90, channel := 1, ant := 0, timestamp := 0,
              sigLen := 28, rxState := 0 }
  payload index := [0x80, 0, 0, 0, 1, 2, 3, 4, 5, 6, 0, 0x0c, 0xcc, 7, 8, 9].getD index 0

/-- The first frame after start-up is recorded, and no header stands before it. -/
theorem not_writesCapture_wantedFrame :
    let events : List Event := [.frame ⟨1, 0, 0⟩ wantedFrame .data]
    ¬ WritesCapture events ∧
      ∀ last, exec step setup events = some last → ∀ packets : List Packet,
        ¬ last.port.serial <+: pcapHdr.bytes ++ packets.flatMap Packet.bytes := by
  have first_byte : (next setup (.frame ⟨1, 0, 0⟩ wantedFrame .data)).port.serial.head? =
      some 1 := by
    decide +kernel
  have differs (packets : List Packet) :
      ¬ (next setup (.frame ⟨1, 0, 0⟩ wantedFrame .data)).port.serial <+:
        pcapHdr.bytes ++ packets.flatMap Packet.bytes := by
    intro written
    have magic : (pcapHdr.bytes ++ packets.flatMap Packet.bytes).head? = some 0xd4 := rfl
    have one := (List.singleton_prefix_iff_head?_eq_some.mpr first_byte).trans written
    rw [List.singleton_prefix_iff_head?_eq_some, magic] at one
    exact absurd one (by decide)
  refine ⟨?_, ?_⟩
  · rintro ⟨_, writes⟩
    rcases writes _ rfl with empty | ⟨packets, packets_eq⟩
    · rw [empty] at first_byte
      cases first_byte
    · exact differs packets (packets_eq ▸ List.prefix_refl _)
  · rintro last run packets
    cases run
    exact differs packets

end WifiSniffer.Arduino
