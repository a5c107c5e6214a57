import WifiSniffer.Ctrl.Capture
import WifiSniffer.Transition.Stutter

/-!
# The loops of the control program

`main_8`, `CaptureStream.stream` and `main_232` read a capture header, and then for ever
a payload header and as many bytes as it announces.  They differ in the device that they
read from, in what they do with a packet, and in what becomes of an exception.  A loop
is taken from one read to the next: a state is the place in the code where the next read
is made, with the bytes that the device has not yet given out, and an event is what a
read comes to.
-/

namespace WifiSniffer.Ctrl

open WifiSniffer.Bytes WifiSniffer.Transition

/-! ## Devices -/

/-- A device with the method that reads from it.  `ι` is what a read comes to. -/
structure Device (ι : Type) where
  /-- the number of bytes with which a read returns, if it does not throw -/
  received : ι → Option Nat
  /-- the array for a read of this length -/
  newArray : Int32 → Except JavaException Nat
  /-- the buffer that the method returns, with the bytes that have been received -/
  read : Nat → ι → List UInt8 → Except JavaException ByteBuffer
  /-- a read that comes to nothing: no packet is found in what it returns -/
  silent : ι → Bool
  /-- A read that is answered in full returns what has been received. -/
  read_full : ∀ outcome bytes, received outcome = some bytes.length →
    read bytes.length outcome bytes = .ok (.wrap bytes)

/-- The array that a read of the given length fills from the front. -/
def filled (length : Nat) (bytes : List UInt8) : List UInt8 :=
  bytes ++ List.replicate (length - bytes.length) 0

theorem filled_length (bytes : List UInt8) : filled bytes.length bytes = bytes := by
  simp [filled]

/-- What `InputStream.read` of a socket comes to. -/
inductive SocketRead where
  | returned (count : Int)
  /-- `SocketTimeoutException` -/
  | timedOut
  deriving DecidableEq

/-- The serial port with `SerialCtrl.read`.  `readBytes` returns the number of bytes, or
zero or less at a timeout. -/
def SerialCtrl : Device Int where
  received count := some count.toNat
  newArray length := if length < 0 then .error .negativeArraySize else .ok length.toInt.toNat
  read length i bytes := if i > 0 then .ok (.wrap (filled length bytes)) else .ok (.allocate 0)
  silent i := i ≤ 0
  read_full := by
    intro i bytes received
    have count_eq : i.toNat = bytes.length := Option.some.inj received
    split
    · rw [filled_length]
    · have empty : bytes = [] := by
        apply List.length_eq_zero_iff.mp
        omega
      rw [empty]
      rfl

/-- The socket with `getByteBuffer`, which does not look at the number that `read`
returns. -/
def socket : Device SocketRead where
  received
    | .returned count => some count.toNat
    | .timedOut => none
  newArray length := if length < 0 then .error .illegalArgument else .ok length.toInt.toNat
  read
    | length, .returned _, bytes => .ok (.wrap (filled length bytes))
    | _, .timedOut, _ => .error .socketTimeout
  silent
    | .returned _ => false
    | .timedOut => true
  read_full := by
    rintro (count | _) bytes received
    · exact congrArg (fun array => Except.ok (ByteBuffer.wrap array)) (filled_length bytes)
    · cases received

/-! ## The code -/

/-- Where the next read is made. -/
inductive Phase where
  | captureHeader
  | payloadHeader
  | payload (payloadHeader : PayloadHeader)
  /-- The method has returned, or an exception has left it. -/
  | ended (exception : Option JavaException)
  deriving DecidableEq

/-- A loop over a device.  `ω` is what it puts out. -/
structure Loop (ι ω : Type) where
  device : Device ι
  /-- where an exception of the read at a phase leads -/
  caught : Phase → JavaException → Phase
  /-- whether the loop is entered -/
  accepts : CaptureHeader → Bool
  onCaptureHeader : CaptureHeader → List ω
  onPayloadHeader : PayloadHeader → List ω
  onPayload : PayloadHeader → ByteBuffer → Except JavaException (List ω)

namespace Loop

variable {ι ω : Type} (loop : Loop ι ω)

/-- The number of bytes of the next read.  There is no read after the end, nor for a
length without an array. -/
def requested : Phase → Option Nat
  | .captureHeader => some CaptureHeader.size
  | .payloadHeader => some PayloadHeader.size
  | .payload payloadHeader => (loop.device.newArray payloadHeader.inclLen).toOption
  | .ended _ => none

/-- The code from one read to the next. -/
def handle : Phase → Except JavaException ByteBuffer → List ω × Phase
  | phase, .error exception => ([], loop.caught phase exception)
  | .captureHeader, .ok buffer =>
      match CaptureHeader.get buffer with
      | .ok (some captureHeader) =>
          (loop.onCaptureHeader captureHeader,
            if loop.accepts captureHeader then .payloadHeader else .ended none)
      | .ok none => ([], .ended none)
      | .error exception => ([], .ended (some exception))
  | .payloadHeader, .ok buffer =>
      match PayloadHeader.get buffer with
      | .ok (some payloadHeader) => (loop.onPayloadHeader payloadHeader, .payload payloadHeader)
      | .ok none => ([], .payloadHeader)
      | .error exception => ([], .ended (some exception))
  | .payload payloadHeader, .ok buffer =>
      match loop.onPayload payloadHeader buffer with
      | .ok out => (out, .payloadHeader)
      | .error exception => ([], .ended (some exception))
  | .ended exception, .ok _ => ([], .ended exception)

/-- A loop in the middle of a stream. -/
structure State where
  phase : Phase
  /-- the bytes of the stream that are still to be delivered -/
  left : List UInt8
  deriving DecidableEq

def initial (stream : List UInt8) : State where
  phase := .captureHeader
  left := stream

/-- The bytes that a read comes with. -/
def delivered (state : State) (outcome : ι) : List UInt8 :=
  state.left.take ((loop.device.received outcome).getD 0)

/-- What the code makes of a read. -/
def respond (state : State) (outcome : ι) (length : Nat) : List ω × Phase :=
  loop.handle state.phase (loop.device.read length outcome (loop.delivered state outcome))

/-- A read comes with no more bytes than it has asked for, nor than there are. -/
def step : Step State ι := fun state outcome =>
  (loop.requested state.phase).bind fun length =>
    let count := (loop.device.received outcome).getD 0
    if count ≤ length ∧ count ≤ state.left.length then
      some { phase := (loop.respond state outcome length).2, left := state.left.drop count }
    else none

/-- What is put out after a read. -/
def output (state : State) (outcome : ι) : List ω :=
  ((loop.requested state.phase).map fun length =>
    (loop.respond state outcome length).1).getD []

end Loop

/-- What a decode loop finds in the stream. -/
inductive Item where
  | captureHeader (captureHeader : CaptureHeader)
  | payloadHeader (payloadHeader : PayloadHeader)
  | payload (payloadPacket : PayloadPacket)
  deriving DecidableEq

/-- The buffer from which an item has been decoded. -/
def Item.array : Item → List UInt8
  | .captureHeader header => header.byteBuffer.array
  | .payloadHeader header => header.byteBuffer.array
  | .payload packet => packet.byteBuffer.array

/-- `main_8`.  A timeout is caught inside the loop if it comes at a payload header; at a
payload it has been wrapped before.  The text that it prints of each payload is left out,
and so is the exception of `bytesToHex` for one of 2^30 bytes and more. -/
def main8 : Loop SocketRead Item where
  device := socket
  caught
    | .payloadHeader, .socketTimeout => .payloadHeader
    | _, exception => .ended (some exception)
  accepts _ := true
  onCaptureHeader captureHeader := [.captureHeader captureHeader]
  onPayloadHeader payloadHeader := [.payloadHeader payloadHeader]
  onPayload _ buffer :=
    (PayloadPacket.get buffer).map fun payloadPacket => payloadPacket.toList.map .payload

/-- `CaptureStream.stream` -/
def stream : Loop Int Item where
  device := SerialCtrl
  caught _ exception := .ended (some exception)
  accepts captureHeader := captureHeader.magicNum = CaptureHeader.magic
  onCaptureHeader captureHeader := [.captureHeader captureHeader]
  onPayloadHeader payloadHeader := [.payloadHeader payloadHeader]
  onPayload _ buffer :=
    (PayloadPacket.get buffer).map fun payloadPacket => payloadPacket.toList.map .payload

/-- `main_232`, with the arrays that it writes to the pipe. -/
def main232 : Loop Int (List UInt8) where
  device := SerialCtrl
  caught _ exception := .ended (some exception)
  accepts captureHeader := captureHeader.magicNum = CaptureHeader.magic
  onCaptureHeader captureHeader :=
    if captureHeader.magicNum = CaptureHeader.magic then [captureHeader.byteBuffer.array]
    else []
  onPayloadHeader payloadHeader :=
    if payloadHeader.origLen > 0 then [payloadHeader.byteBuffer.array] else []
  onPayload payloadHeader buffer :=
    if payloadHeader.origLen > 0 then
      (PayloadPacket.get buffer).map fun payloadPacket =>
        payloadPacket.toList.map fun payloadPacket => payloadPacket.byteBuffer.array
    -- a message, which is printed
    else .ok []

/-! ## The pace of a loop -/

namespace Loop

variable {ι ω : Type} {loop : Loop ι ω}

/-- A read that is answered in full, without a word about the device. -/
def advance (loop : Loop ι ω) (state : State) : Option (List ω × State) :=
  (loop.requested state.phase).bind fun length =>
    if length ≤ state.left.length then
      let next := loop.handle state.phase (.ok (.wrap (state.left.take length)))
      some (next.1, { phase := next.2, left := state.left.drop length })
    else none

/-- Every byte that has been asked for is received. -/
def Full (loop : Loop ι ω) (source : State) (outcome : ι) : Prop :=
  loop.device.received outcome = loop.requested source.phase

/-- Nothing is received where the next record begins. -/
def BetweenRecords (loop : Loop ι ω) (source : State) (outcome : ι) : Prop :=
  source.phase = .payloadHeader ∧ loop.device.silent outcome

instance (loop : Loop ι ω) (source : State) (outcome : ι) : Decidable (loop.Full source outcome) :=
  inferInstanceAs (Decidable (_ = _))

instance (loop : Loop ι ω) (source : State) (outcome : ι) :
    Decidable (loop.BetweenRecords source outcome) :=
  inferInstanceAs (Decidable (_ ∧ _))

/-- A read that comes to nothing at a payload header is made again. -/
def Waits (loop : Loop ι ω) : Prop :=
  ∀ outcome, loop.device.silent outcome →
    (loop.device.received outcome).getD 0 = 0 ∧
      loop.handle .payloadHeader (loop.device.read PayloadHeader.size outcome []) =
        ([], .payloadHeader)

section Step

variable {source target : State} {outcome : ι}

theorem step_cases (taken : loop.step source outcome = some target) :
    ∃ length, loop.requested source.phase = some length ∧
      (loop.device.received outcome).getD 0 ≤ source.left.length ∧
      loop.output source outcome = (loop.respond source outcome length).1 ∧
      target = { phase := (loop.respond source outcome length).2,
                 left := source.left.drop ((loop.device.received outcome).getD 0) } := by
  rw [step, Option.bind_eq_some_iff] at taken
  rcases taken with ⟨length, requested, taken⟩
  dsimp only at taken
  split at taken
  case isTrue fits =>
    refine ⟨length, requested, fits.2, ?_, (Option.some.inj taken).symm⟩
    rw [output, requested]
    rfl
  case isFalse => cases taken

/-- What a full read comes with, and what the code makes of it. -/
theorem respond_full (taken : loop.step source outcome = some target)
    (full : loop.Full source outcome) :
    ∃ length, loop.requested source.phase = some length ∧ length ≤ source.left.length ∧
      loop.delivered source outcome = source.left.take length ∧
      loop.output source outcome =
        (loop.handle source.phase (.ok (.wrap (source.left.take length)))).1 ∧
      target = { phase := (loop.handle source.phase (.ok (.wrap (source.left.take length)))).2,
                 left := source.left.drop length } := by
  rcases step_cases taken with ⟨length, requested, available, output_eq, rfl⟩
  have received : loop.device.received outcome = some length := full.trans requested
  rw [received, Option.getD_some] at available
  have delivered_eq : loop.delivered source outcome = source.left.take length := by
    rw [delivered, received, Option.getD_some]
  have taken_length : (source.left.take length).length = length :=
    List.length_take_of_le available
  have respond_eq : loop.respond source outcome length =
      loop.handle source.phase (.ok (.wrap (source.left.take length))) := by
    have read_eq := loop.device.read_full outcome (source.left.take length)
      (by rw [received, taken_length])
    rw [taken_length] at read_eq
    rw [respond, delivered_eq, read_eq]
  refine ⟨length, requested, available, delivered_eq, ?_, ?_⟩
  · rw [output_eq, respond_eq]
  · rw [respond_eq, received, Option.getD_some]

theorem advance_of_full (taken : loop.step source outcome = some target)
    (full : loop.Full source outcome) :
    loop.advance source = some (loop.output source outcome, target) := by
  rcases respond_full taken full with ⟨length, requested, available, _, output_eq, rfl⟩
  rw [advance, requested, Option.bind_some, if_pos available, output_eq]

theorem stays_of_betweenRecords (waits : loop.Waits)
    (taken : loop.step source outcome = some target)
    (between : loop.BetweenRecords source outcome) :
    target = source ∧ loop.output source outcome = [] := by
  rcases between with ⟨phase_eq, silent⟩
  rcases waits outcome silent with ⟨count_eq, handled⟩
  rcases step_cases taken with ⟨length, requested, _, output_eq, rfl⟩
  have respond_eq : loop.respond source outcome length = ([], .payloadHeader) := by
    rw [phase_eq, Loop.requested] at requested
    cases requested
    rw [respond, delivered, count_eq, List.take_zero, phase_eq, handled]
  rw [output_eq, respond_eq, count_eq, List.drop_zero, ← phase_eq]
  exact ⟨rfl, rfl⟩

end Step

/-! ## The way through a stream -/

/-- The capture header is read once. -/
theorem phase_ne_of_advance {source target : State} {out : List ω}
    (advanced : loop.advance source = some (out, target)) : target.phase ≠ .captureHeader := by
  rw [advance, Option.bind_eq_some_iff] at advanced
  rcases advanced with ⟨length, _, advanced⟩
  split at advanced
  case isFalse => cases advanced
  case isTrue =>
    cases advanced
    dsimp only
    cases source.phase <;> rw [handle] <;> grind

/-- A payload of no bytes is not put out. -/
def Quiet (loop : Loop ι ω) : Prop :=
  ∀ payloadHeader, (loop.handle (.payload payloadHeader) (.ok (.wrap []))).1 = []

section Path

variable {source first second : State} {out out' : List ω}

theorem left_length_le (leads : Leads loop.advance source out first) :
    first.left.length ≤ source.left.length := by
  apply leads.invariant fun state => state.left.length ≤ source.left.length
  · intro state emitted target shorter advanced
    rw [advance, Option.bind_eq_some_iff] at advanced
    rcases advanced with ⟨length, _, advanced⟩
    split at advanced
    · cases advanced
      rw [List.length_drop]
      omega
    · cases advanced
  · exact Nat.le_refl _

/-- Without a byte from the stream nothing is put out. -/
theorem out_eq_nil (quiet : loop.Quiet) (leads : Leads loop.advance source out first)
    (untouched : source.left.length ≤ first.left.length) : out = [] := by
  induction leads with
  | refl => rfl
  | @step state next last emitted later taken rest ih =>
      have shorter := left_length_le rest
      rw [advance, Option.bind_eq_some_iff] at taken
      rcases taken with ⟨length, requested, taken⟩
      split at taken
      case isFalse => cases taken
      case isTrue available =>
        cases taken
        simp only [List.length_drop] at shorter
        obtain rfl : length = 0 := by omega
        have none_later := ih (by simpa using untouched)
        rw [none_later, List.append_nil, List.take_zero]
        -- only a payload can be of no bytes
        match phase_eq : state.phase with
        | .captureHeader =>
            rw [phase_eq, Loop.requested] at requested
            cases requested
        | .payloadHeader =>
            rw [phase_eq, Loop.requested] at requested
            cases requested
        | .payload payloadHeader => exact quiet payloadHeader
        | .ended exception =>
            rw [phase_eq, Loop.requested] at requested
            cases requested

/-- As far as the same bytes have been taken from a stream, the same has been put out. -/
theorem out_eq_of_left_eq (quiet : loop.Quiet) (leads : Leads loop.advance source out first)
    (leads' : Leads loop.advance source out' second) (left_eq : first.left = second.left) :
    out = out' := by
  rcases leads.comparable leads' with ⟨more, rfl, onwards⟩ | ⟨more, rfl, onwards⟩
  · rw [out_eq_nil quiet onwards (by rw [left_eq]), List.append_nil]
  · rw [out_eq_nil quiet onwards (by rw [left_eq]), List.append_nil]

end Path

/-- A read of what comes next. -/
theorem advance_front {phase next : Phase} {front rest : List UInt8} {length : Nat}
    {out : List ω} (length_eq : front.length = length)
    (requested : loop.requested phase = some length)
    (handled : loop.handle phase (.ok (.wrap front)) = (out, next)) :
    loop.advance { phase := phase, left := front ++ rest } =
      some (out, { phase := next, left := rest }) := by
  subst length_eq
  rw [advance, requested, Option.bind_some, if_pos (by simp)]
  dsimp only
  rw [List.take_left, List.drop_left, handled]

/-! ## The devices between records -/

theorem waits_of_serial {loop : Loop Int ω} (serial : loop.device = SerialCtrl) : loop.Waits := by
  intro outcome silent
  rw [serial] at silent ⊢
  have nothing : ¬ outcome > 0 := not_lt.mpr (of_decide_eq_true silent)
  have read_eq : SerialCtrl.read PayloadHeader.size outcome [] = .ok (.wrap []) := if_neg nothing
  constructor
  · simp only [SerialCtrl, Option.getD_some]
    omega
  · rw [read_eq]
    rfl

theorem waits_main8 : main8.Waits := by
  rintro (count | _) silent
  · cases silent
  · exact ⟨rfl, rfl⟩

end Loop

end WifiSniffer.Ctrl
