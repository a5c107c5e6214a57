import WifiSniffer.Bytes.Framing
import WifiSniffer.Ctrl.Loop

/-!
# Relaying records

`main_232` writes the header of a packet record to the pipe before it has the payload,
and the payload only if it makes a `PayloadPacket`, which takes 28 bytes.  The header of
a shorter frame goes out alone, and whoever reads the pipe takes the next bytes for its
payload.
-/

namespace WifiSniffer.Ctrl

open WifiSniffer.Bytes WifiSniffer.Transition

/-! ## Records -/

/-- One record as the control program reads it.  Its lengths are not negative as a Java
`int`. -/
structure Record where
  timeStamp : UInt32
  microSeconds : UInt32
  origLen : UInt32
  payload : List UInt8
  origLen_lt : origLen.toNat < 2 ^ 31
  payload_lt : payload.length < 2 ^ 31

namespace Record

/-- The bytes of the record header, with the length of the payload in it. -/
def header (record : Record) : List UInt8 :=
  beBytes 4 record.timeStamp.toNat ++ (beBytes 4 record.microSeconds.toNat ++
    (beBytes 4 record.payload.length ++ beBytes 4 record.origLen.toNat))

def bytes (record : Record) : List UInt8 :=
  record.header ++ record.payload

/-- A record without an original length carries a log message. -/
def IsPacket (record : Record) : Prop :=
  0 < record.origLen.toNat

instance (record : Record) : Decidable record.IsPacket :=
  inferInstanceAs (Decidable (_ < _))

/-- What a relay is to write for a record. -/
def forwarded (record : Record) : List UInt8 :=
  if record.IsPacket then record.bytes else []

/-- What `main_232` writes for a record, array by array. -/
def arrays (record : Record) : List (List UInt8) :=
  if record.IsPacket then
    [record.header] ++ if PayloadPacket.size ≤ record.payload.length then [record.payload] else []
  else []

@[simp]
theorem header_length (record : Record) : record.header.length = 16 := by
  simp [header]

theorem flatten_arrays_length_le (record : Record) :
    record.arrays.flatten.length ≤ record.forwarded.length := by
  rw [arrays, forwarded, bytes]
  split
  · split <;> simp
  · simp

/-- A record is written as it should be unless it is a packet with a short payload. -/
theorem flatten_arrays_eq_iff (record : Record) :
    record.arrays.flatten = record.forwarded ↔
      (record.IsPacket → record.payload = [] ∨ PayloadPacket.size ≤ record.payload.length) := by
  rw [arrays, forwarded, bytes]
  by_cases packet : record.IsPacket
  · by_cases long : PayloadPacket.size ≤ record.payload.length
    · simp [packet, long]
    · simp [packet, long]
  · simp [packet]

end Record

/-! ## Reading a record -/

/-- An `int` that is not negative is read as it was laid out. -/
theorem toInt_intOf_beBytes {value : Nat} (fits : value < 2 ^ 31) :
    (Getter.intOf (beBytes 4 value)).toInt = value := by
  have value_lt : value < 256 ^ 4 := Nat.lt_trans fits (by decide)
  rw [Getter.intOf, ofBe_beBytes_of_lt value_lt, ← Int32.toInt_toBitVec, UInt32.toBitVec_toInt32,
    BitVec.toInt_eq_toNat_of_lt]
  · simp
    omega
  · simp
    omega

theorem get_header (record : Record) :
    ∃ payloadHeader, PayloadHeader.get (.wrap record.header) = .ok (some payloadHeader) ∧
      payloadHeader.byteBuffer.array = record.header ∧
      payloadHeader.inclLen.toInt = record.payload.length ∧
      payloadHeader.origLen.toInt = record.origLen.toNat := by
  have header_eq : record.header = beBytes 4 record.timeStamp.toNat ++
      (beBytes 4 record.microSeconds.toNat ++ (beBytes 4 record.payload.length ++
        (beBytes 4 record.origLen.toNat ++ []))) := by
    rw [Record.header, List.append_nil]
  rcases PayloadHeader.get_wrap [] header_eq (beBytes_length _ _) (beBytes_length _ _)
    (beBytes_length _ _) (beBytes_length _ _) with ⟨byteBuffer, array_eq, found⟩
  exact ⟨_, found, array_eq, toInt_intOf_beBytes record.payload_lt,
    toInt_intOf_beBytes record.origLen_lt⟩

section Advance

variable {rest : List UInt8}

/-- The capture header with which `main_232` goes on. -/
def OpensRelay (capture : List UInt8) : Prop :=
  capture.length = CaptureHeader.size ∧
    ∃ captureHeader, CaptureHeader.get (.wrap capture) = .ok (some captureHeader) ∧
      captureHeader.magicNum = CaptureHeader.magic

theorem advance_capture {capture : List UInt8} (opens : OpensRelay capture) :
    main232.advance (Loop.initial (capture ++ rest)) =
      some ([capture], { phase := .payloadHeader, left := rest }) := by
  rcases opens with ⟨length_eq, captureHeader, found, magic⟩
  have array_eq : captureHeader.byteBuffer.array = capture :=
    AbstractPacket.array_of_get CaptureHeader.get_wrap_of_long found
  have handled : main232.handle .captureHeader (.ok (.wrap capture)) =
      ([capture], .payloadHeader) := by
    rw [Loop.handle, found]
    simp [main232, magic, array_eq]
  exact Loop.advance_front length_eq rfl handled

theorem advance_header {record : Record} {payloadHeader : PayloadHeader}
    (found : PayloadHeader.get (.wrap record.header) = .ok (some payloadHeader))
    (array_eq : payloadHeader.byteBuffer.array = record.header)
    (packet_iff : payloadHeader.origLen > 0 ↔ record.IsPacket) :
    main232.advance { phase := .payloadHeader, left := record.header ++ rest } =
      some (if record.IsPacket then [record.header] else [],
        { phase := .payload payloadHeader, left := rest }) := by
  have handled : main232.handle .payloadHeader (.ok (.wrap record.header)) =
      (if record.IsPacket then [record.header] else [], .payload payloadHeader) := by
    rw [Loop.handle, found]
    simp only [main232, packet_iff, array_eq]
  exact Loop.advance_front record.header_length rfl handled

theorem advance_payload {record : Record} {payloadHeader : PayloadHeader}
    (inclLen_eq : payloadHeader.inclLen.toInt = record.payload.length)
    (packet_iff : payloadHeader.origLen > 0 ↔ record.IsPacket) :
    main232.advance { phase := .payload payloadHeader, left := record.payload ++ rest } =
      some (if record.IsPacket ∧ PayloadPacket.size ≤ record.payload.length then
          [record.payload] else [],
        { phase := .payloadHeader, left := rest }) := by
  have requested : main232.requested (.payload payloadHeader) = some record.payload.length := by
    have nonneg : ¬ payloadHeader.inclLen < 0 := by
      rw [Int32.lt_iff_toInt_lt, inclLen_eq, Int32.toInt_zero]
      omega
    have array_eq : SerialCtrl.newArray payloadHeader.inclLen =
        .ok payloadHeader.inclLen.toInt.toNat := if_neg nonneg
    rw [Loop.requested, main232, array_eq, inclLen_eq]
    rfl
  have handled : main232.handle (.payload payloadHeader) (.ok (.wrap record.payload)) =
      (if record.IsPacket ∧ PayloadPacket.size ≤ record.payload.length then
        [record.payload] else [], .payloadHeader) := by
    rw [Loop.handle, main232]
    by_cases packet : record.IsPacket
    · simp only [packet_iff, packet, true_and, if_true]
      by_cases long : PayloadPacket.size ≤ record.payload.length
      · rcases PayloadPacket.get_wrap_of_long long with ⟨payloadPacket, found, array_eq⟩
        rw [found, if_pos long, ← array_eq]
        rfl
      · have absent : PayloadPacket.get (.wrap record.payload) = .ok none :=
          AbstractPacket.get_wrap_of_short (Nat.lt_of_not_le long)
        rw [absent, if_neg long]
        rfl
    · simp only [packet_iff, packet, false_and, if_false]
  exact Loop.advance_front rfl requested handled

/-- The way through one record. -/
theorem leads_record (record : Record) :
    Leads main232.advance { phase := .payloadHeader, left := record.bytes ++ rest }
      record.arrays { phase := .payloadHeader, left := rest } := by
  rcases get_header record with ⟨payloadHeader, found, array_eq, inclLen_eq, origLen_eq⟩
  have packet_iff : payloadHeader.origLen > 0 ↔ record.IsPacket := by
    rw [gt_iff_lt, Int32.lt_iff_toInt_lt, origLen_eq, Int32.toInt_zero, Record.IsPacket]
    omega
  have arrays_eq : record.arrays = (if record.IsPacket then [record.header] else []) ++
      ((if record.IsPacket ∧ PayloadPacket.size ≤ record.payload.length then
        [record.payload] else []) ++ []) := by
    rw [Record.arrays]
    by_cases packet : record.IsPacket <;> simp [packet]
  rw [Record.bytes, List.append_assoc, arrays_eq]
  exact .step (advance_header found array_eq packet_iff)
    (.step (advance_payload inclLen_eq packet_iff) (.refl _))

theorem leads_records (records : List Record) :
    Leads main232.advance
      { phase := .payloadHeader, left := records.flatMap Record.bytes }
      (records.flatMap Record.arrays) { phase := .payloadHeader, left := [] } := by
  induction records with
  | nil => exact .refl _
  | cons record records ih =>
      rw [List.flatMap_cons, List.flatMap_cons]
      exact (leads_record record).trans ih

/-- The way through a whole stream. -/
theorem leads_stream {capture : List UInt8} (opens : OpensRelay capture)
    (records : List Record) :
    Leads main232.advance (Loop.initial (capture ++ records.flatMap Record.bytes))
      ([capture] ++ records.flatMap Record.arrays) { phase := .payloadHeader, left := [] } :=
  .step (advance_capture opens) (leads_records records)

end Advance

/-! ## The pipe -/

/-- The bytes that a run writes to the pipe. -/
def pipe (bytes : List UInt8) (outcomes : List Int) : List UInt8 :=
  (collect main232.step main232.output (Loop.initial bytes) outcomes).flatten

theorem quiet_main232 : main232.Quiet := by
  intro payloadHeader
  rw [Loop.handle, main232]
  by_cases packet : payloadHeader.origLen > 0
  · simp only [packet, if_true]
    rfl
  · simp only [packet, if_false]

section Run

variable {capture : List UInt8} {records : List Record} {outcomes : List Int}
  {last : Loop.State}

theorem pipe_eq (opens : OpensRelay capture)
    (run : exec main232.step (Loop.initial (capture ++ records.flatMap Record.bytes)) outcomes =
      some last)
    (full : EachStep main232.step (fun source outcome _ => main232.Full source outcome)
      (Loop.initial (capture ++ records.flatMap Record.bytes)) outcomes)
    (finished : last.left = []) :
    pipe (capture ++ records.flatMap Record.bytes) outcomes =
      capture ++ records.flatMap fun record => record.arrays.flatten := by
  have path := leads_of_run
    (full.mono fun _ _ _ taken holds => .inl (Loop.advance_of_full taken holds)) run
  rw [pipe, Loop.out_eq_of_left_eq quiet_main232 path (leads_stream opens records) finished]
  rw [List.flatten_append, List.flatten_singleton]
  simp only [List.flatten_eq_flatMap, List.flatMap_assoc]

/-- What has been read in full is relayed as it should be exactly if every packet has a
payload of no bytes or of at least 28. -/
theorem pipe_eq_iff (opens : OpensRelay capture)
    (run : exec main232.step (Loop.initial (capture ++ records.flatMap Record.bytes)) outcomes =
      some last)
    (full : EachStep main232.step (fun source outcome _ => main232.Full source outcome)
      (Loop.initial (capture ++ records.flatMap Record.bytes)) outcomes)
    (finished : last.left = []) :
    pipe (capture ++ records.flatMap Record.bytes) outcomes =
        capture ++ records.flatMap Record.forwarded ↔
      ∀ record ∈ records, record.IsPacket →
        record.payload = [] ∨ PayloadPacket.size ≤ record.payload.length := by
  rw [pipe_eq opens run full finished, List.append_cancel_left_eq,
    flatMap_eq_flatMap_iff fun record _ => record.flatten_arrays_length_le]
  simp only [Record.flatten_arrays_eq_iff]

end Run

/-- The capture header of the sketch, with its most significant bytes first. -/
def networkCapture : List UInt8 :=
  [0xa1, 0xb2, 0xc3, 0xd4, 0, 2, 0, 4, 0, 0, 0, 0, 0, 0, 0, 0, 0, 0, 9, 0xc4, 0, 0, 0, 105]

/-- A frame of the given length. -/
def frameRecord (length : Fin 100) : Record where
  timeStamp := 1
  microSeconds := 2
  origLen := UInt32.ofNat length
  payload := List.replicate length 0xd4
  origLen_lt := by
    rw [UInt32.toNat_ofNat_of_lt' (Nat.lt_trans length.isLt (by decide))]
    exact Nat.lt_trans length.isLt (by decide)
  payload_lt := by
    rw [List.length_replicate]
    exact Nat.lt_trans length.isLt (by decide)

/-- A log message of five bytes. -/
def messageRecord : Record where
  timeStamp := 1
  microSeconds := 3
  origLen := 0
  payload := List.replicate 5 0x2e
  origLen_lt := by decide
  payload_lt := by decide

theorem opensRelay_networkCapture : OpensRelay networkCapture :=
  ⟨rfl, _, rfl, rfl⟩

theorem pipe_eq_iff_message :
    pipe (networkCapture ++ [frameRecord 28, messageRecord].flatMap Record.bytes)
          [24, 16, 28, 16, 5] =
        networkCapture ++ [frameRecord 28, messageRecord].flatMap Record.forwarded ↔
      ∀ record ∈ [frameRecord 28, messageRecord], record.IsPacket →
        record.payload = [] ∨ PayloadPacket.size ≤ record.payload.length := by
  have run : exec main232.step
      (Loop.initial (networkCapture ++ [frameRecord 28, messageRecord].flatMap Record.bytes))
      [24, 16, 28, 16, 5] = some { phase := .payloadHeader, left := [] } := by
    decide +kernel
  exact pipe_eq_iff opensRelay_networkCapture run (by decide +kernel) rfl

/-- An acknowledgement has ten bytes: its record header is written and its frame is not. -/
theorem pipe_ne_acknowledgement :
    let bytes := networkCapture ++ [frameRecord 10].flatMap Record.bytes
    OpensRelay networkCapture ∧
      exec main232.step (Loop.initial bytes) [24, 16, 10] =
        some { phase := .payloadHeader, left := [] } ∧
      EachStep main232.step (fun source outcome _ => main232.Full source outcome)
        (Loop.initial bytes) [24, 16, 10] ∧
      pipe bytes [24, 16, 10] = networkCapture ++ (frameRecord 10).header ∧
      pipe bytes [24, 16, 10] ≠ networkCapture ++ [frameRecord 10].flatMap Record.forwarded := by
  refine ⟨opensRelay_networkCapture, ?_⟩
  decide +kernel

end WifiSniffer.Ctrl
