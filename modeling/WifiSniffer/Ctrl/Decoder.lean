import WifiSniffer.Arduino.Sniffer
import WifiSniffer.Ctrl.Capture

/-!
# The sketch's capture in the control program

The sketch writes every number with its least significant byte first, the control
program reads it with its most significant byte first.  Of a transmission the addresses
and the data arrive, and every number arrives with its bytes swapped.  The magic number
is no palindrome, so there is no packet that is decoded as it was encoded.
-/

namespace WifiSniffer.Ctrl

open WifiSniffer.Arduino WifiSniffer.Bytes

/-! ## What is sent and what is decoded -/

/-- The bytes of `capture_start` and one `newPacket`. -/
def transmitted (packet : Packet) : List UInt8 :=
  let port : Port := { writeCb := true, serial := [] }
  (port.captureStart.newPacket packet.tsSec packet.tsUsec packet.len packet.buf).serial

/-- What the three classes make of a transmission. -/
structure Decoded where
  captureHeader : CaptureHeader
  payloadHeader : PayloadHeader
  payloadPacket : PayloadPacket

/-- The bytes are given to the three classes in the order in which they come. -/
def decode (bytes : List UInt8) : Except JavaException (Option Decoded) := do
  let captureHeader ← CaptureHeader.get (.wrap (bytes.take CaptureHeader.size))
  let bytes := bytes.drop CaptureHeader.size
  let payloadHeader ← PayloadHeader.get (.wrap (bytes.take PayloadHeader.size))
  let payloadPacket ← PayloadPacket.get (.wrap (bytes.drop PayloadHeader.size))
  return captureHeader.bind fun captureHeader =>
    payloadHeader.bind fun payloadHeader =>
      payloadPacket.map fun payloadPacket => { captureHeader, payloadHeader, payloadPacket }

/-- Bytes of the frame in the packet's buffer. -/
def frameBytes (packet : Packet) (offset count : Nat) : List UInt8 :=
  (List.range' offset count).map packet.buf

/-- Everything is decoded as it was encoded. -/
structure Inverts (packet : Packet) (decoded : Decoded) : Prop where
  magicNum : decoded.captureHeader.magicNum = magicNumber.toInt32
  magic : decoded.captureHeader.magicNum = CaptureHeader.magic
  majorV : decoded.captureHeader.majorV = versionMajor.toInt16
  minorV : decoded.captureHeader.minorV = versionMinor.toInt16
  snapLen : decoded.captureHeader.snapLen = snaplen.toInt32
  networkType : decoded.captureHeader.networkType = network.toInt32
  timeStamp : decoded.payloadHeader.timeStamp = packet.tsSec.toInt32
  microSeconds : decoded.payloadHeader.microSeconds = packet.tsUsec.toInt32
  inclLen : decoded.payloadHeader.inclLen = packet.inclLen.toInt32
  origLen : decoded.payloadHeader.origLen = packet.len.toInt32
  frameControl : decoded.payloadPacket.frameControl =
    (UInt16.ofNat (ofLe (frameBytes packet 0 2))).toInt16
  duration : decoded.payloadPacket.duration =
    (UInt16.ofNat (ofLe (frameBytes packet 2 2))).toInt16
  da : decoded.payloadPacket.da = frameBytes packet 4 6
  sa : decoded.payloadPacket.sa = frameBytes packet 10 6
  bssid : decoded.payloadPacket.bssid = frameBytes packet 16 6
  seqControl : decoded.payloadPacket.seqControl.toInt = ofLe (frameBytes packet 22 2)
  data : decoded.payloadPacket.data = frameBytes packet 24 (packet.inclLen.toNat - 24)

/-- A number whose bytes arrive in the wrong order. -/
def swapped (width value : Nat) : Nat :=
  ofBe (leBytes width value)

/-- The addresses and the data are right, every number has its bytes swapped, and of the
sequence control only the second byte is left. -/
structure Swaps (packet : Packet) (decoded : Decoded) : Prop where
  magicNum : decoded.captureHeader.magicNum = (UInt32.ofNat (swapped 4 0xa1b2c3d4)).toInt32
  majorV : decoded.captureHeader.majorV = (UInt16.ofNat (swapped 2 2)).toInt16
  minorV : decoded.captureHeader.minorV = (UInt16.ofNat (swapped 2 4)).toInt16
  snapLen : decoded.captureHeader.snapLen = (UInt32.ofNat (swapped 4 2500)).toInt32
  networkType : decoded.captureHeader.networkType = (UInt32.ofNat (swapped 4 105)).toInt32
  timeStamp : decoded.payloadHeader.timeStamp =
    (UInt32.ofNat (swapped 4 packet.tsSec.toNat)).toInt32
  microSeconds : decoded.payloadHeader.microSeconds =
    (UInt32.ofNat (swapped 4 packet.tsUsec.toNat)).toInt32
  inclLen : decoded.payloadHeader.inclLen =
    (UInt32.ofNat (swapped 4 packet.inclLen.toNat)).toInt32
  origLen : decoded.payloadHeader.origLen = (UInt32.ofNat (swapped 4 packet.len.toNat)).toInt32
  frameControl : decoded.payloadPacket.frameControl =
    (UInt16.ofNat (ofBe (frameBytes packet 0 2))).toInt16
  duration : decoded.payloadPacket.duration =
    (UInt16.ofNat (ofBe (frameBytes packet 2 2))).toInt16
  da : decoded.payloadPacket.da = frameBytes packet 4 6
  sa : decoded.payloadPacket.sa = frameBytes packet 10 6
  bssid : decoded.payloadPacket.bssid = frameBytes packet 16 6
  seqControl : decoded.payloadPacket.seqControl.toInt = (packet.buf 23).toNat
  data : decoded.payloadPacket.data = frameBytes packet 24 (packet.inclLen.toNat - 24)

/-! ## Decoding a transmission -/

theorem transmitted_eq (packet : Packet) :
    transmitted packet = pcapHdr.bytes ++ (packet.recHdr.bytes ++ packet.payload) := by
  rw [transmitted, Port.captureStart_eq, Port.newPacket_eq, Port.write_write,
    Port.serial_write_of_writeCb _ rfl, List.nil_append, Packet.bytes]

/-- The frame field by field. -/
theorem payload_eq {packet : Packet} (long : 28 ≤ packet.inclLen.toNat) :
    packet.payload = frameBytes packet 0 2 ++ (frameBytes packet 2 2 ++ (frameBytes packet 4 6 ++
      (frameBytes packet 10 6 ++ (frameBytes packet 16 6 ++ (frameBytes packet 22 2 ++
        frameBytes packet 24 (packet.inclLen.toNat - 24)))))) := by
  have joined (offset first second : Nat) :
      frameBytes packet offset first ++ frameBytes packet (offset + first) second =
        frameBytes packet offset (first + second) := by
    rw [frameBytes, frameBytes, frameBytes, ← List.map_append, List.range'_append_1]
  have total : 2 + (2 + (6 + (6 + (6 + (2 + (packet.inclLen.toNat - 24)))))) =
      packet.inclLen.toNat := by
    omega
  rw [joined 22 2, joined 16 6, joined 10 6, joined 4 6, joined 2 2, joined 0 2, total,
    Packet.payload, frameBytes, List.range_eq_range']

/-- Only the low byte of a short is left under the mask. -/
theorem toInt_masked (high low : UInt8) :
    ((Getter.shortOf [high, low]).toInt32 &&& 0xFF).toInt = low.toNat := by
  have low_lt := low.toNat_lt
  have high_lt := high.toNat_lt
  have short_toNat : (Getter.shortOf [high, low]).toBitVec.toNat =
      low.toNat + 256 * high.toNat := by
    simp [Getter.shortOf, ofBe]
    omega
  have masked_toNat : ((Getter.shortOf [high, low]).toInt32 &&& 0xFF).toBitVec.toNat =
      low.toNat := by
    rw [Int32.toBitVec_and, BitVec.toNat_and, Int16.toBitVec_toInt32]
    change _ &&& (2 ^ 8 - 1) = _
    rw [Nat.and_two_pow_sub_one_eq_mod, BitVec.toNat_signExtend, BitVec.toNat_setWidth,
      short_toNat]
    split <;> omega
  rw [← Int32.toInt_toBitVec, BitVec.toInt_eq_toNat_of_lt (by rw [masked_toNat]; omega),
    masked_toNat]

/-- The parts of a transmission as the control program cuts them out. -/
theorem decode_append {captureBytes headerBytes payloadBytes : List UInt8}
    {captureHeader : CaptureHeader} {payloadHeader : PayloadHeader}
    {payloadPacket : PayloadPacket}
    (captureBytes_length : captureBytes.length = CaptureHeader.size)
    (headerBytes_length : headerBytes.length = PayloadHeader.size)
    (captured : CaptureHeader.get (.wrap captureBytes) = .ok (some captureHeader))
    (headed : PayloadHeader.get (.wrap headerBytes) = .ok (some payloadHeader))
    (packed : PayloadPacket.get (.wrap payloadBytes) = .ok (some payloadPacket)) :
    decode (captureBytes ++ (headerBytes ++ payloadBytes)) =
      .ok (some { captureHeader, payloadHeader, payloadPacket }) := by
  simp only [decode, List.take_left' captureBytes_length, List.drop_left' captureBytes_length,
    List.take_left' headerBytes_length, List.drop_left' headerBytes_length, captured, headed,
    packed]
  rfl

theorem decode_transmitted {packet : Packet} (long : 28 ≤ packet.inclLen.toNat) :
    ∃ decoded, decode (transmitted packet) = .ok (some decoded) ∧ Swaps packet decoded := by
  have captureBytes : pcapHdr.bytes = leBytes 4 magicNumber.toNat ++
      (leBytes 2 versionMajor.toNat ++ (leBytes 2 versionMinor.toNat ++
        (leBytes 4 thiszone.toNat ++ (leBytes 4 sigfigs.toNat ++ (leBytes 4 snaplen.toNat ++
          (leBytes 4 network.toNat ++ [])))))) := by
    rw [Capture.PcapHdr.bytes, List.append_nil]
    rfl
  have headerBytes : packet.recHdr.bytes = leBytes 4 packet.tsSec.toNat ++
      (leBytes 4 packet.tsUsec.toNat ++ (leBytes 4 packet.inclLen.toNat ++
        (leBytes 4 packet.len.toNat ++ []))) := by
    rw [Capture.PcapRecHdr.bytes, List.append_nil]
    rfl
  rcases CaptureHeader.get_wrap [] captureBytes rfl rfl rfl rfl rfl rfl rfl with
    ⟨captureBuffer, _, captured⟩
  rcases PayloadHeader.get_wrap [] headerBytes rfl rfl rfl rfl with ⟨headerBuffer, _, headed⟩
  rcases PayloadPacket.get_wrap (payload_eq long) rfl rfl rfl rfl rfl rfl
    (by simp [frameBytes]; omega) with ⟨payloadBuffer, _, packed⟩
  have decodes := decode_append (Capture.PcapHdr.bytes_length _)
    (Capture.PcapRecHdr.bytes_length _) captured headed packed
  rw [← transmitted_eq] at decodes
  exact ⟨_, decodes, rfl, rfl, rfl, rfl, rfl, rfl, rfl, rfl, rfl, rfl, rfl, rfl, rfl, rfl,
    toInt_masked _ _, rfl⟩

/-! ## Nothing arrives as it was sent -/

/-- The magic number is not the same in both directions. -/
theorem Swaps.not_inverts {packet : Packet} {decoded : Decoded} (swaps : Swaps packet decoded) :
    ¬ Inverts packet decoded := by
  intro inverts
  have magic_eq := swaps.magicNum.symm.trans inverts.magic
  revert magic_eq
  decide

/-- Nor is the length of any frame: the control program always goes on to read another
number of bytes than follow. -/
theorem Swaps.inclLen_ne {packet : Packet} {decoded : Decoded} (swaps : Swaps packet decoded)
    (long : 28 ≤ packet.inclLen.toNat) :
    decoded.payloadHeader.inclLen ≠ packet.inclLen.toInt32 := by
  intro equal
  have length_lt : packet.inclLen.toNat < 256 ^ 4 := packet.inclLen.toNat_lt
  have swapped_lt : swapped 4 packet.inclLen.toNat < 256 ^ 4 := by
    have bound := ofLe_lt (leBytes 4 packet.inclLen.toNat).reverse
    rw [List.length_reverse, leBytes_length] at bound
    exact bound
  have value_eq : swapped 4 packet.inclLen.toNat = packet.inclLen.toNat := by
    rw [swaps.inclLen] at equal
    have unsigned := congrArg (fun value => value.toUInt32.toNat) equal
    simp only [UInt32.toUInt32_toInt32, UInt32.toNat_ofNat'] at unsigned
    exact (Nat.mod_eq_of_lt swapped_lt).symm.trans unsigned
  have palindrome := (ofBe_leBytes_eq_iff length_lt).mp value_eq
  have inclLen_le : packet.inclLen.toNat ≤ 2500 := packet.inclLen_le
  -- The upper two bytes of the length are zero, so the lower two would have to be.
  have third : packet.inclLen.toNat / 256 / 256 = 0 := by omega
  have zero_bytes : packet.inclLen.toUInt8 = 0 ∧ UInt8.ofNat (packet.inclLen.toNat / 256) = 0 := by
    simp [leBytes, third] at palindrome
    exact ⟨palindrome.2.2.2, palindrome.2.2.1⟩
  have low := congrArg UInt8.toNat zero_bytes.1
  have high := congrArg UInt8.toNat zero_bytes.2
  simp only [UInt32.toNat_toUInt8, UInt8.toNat_ofNat', UInt8.toNat_zero] at low high
  omega

/-- Nothing that the sketch sends is decoded as it was encoded. -/
theorem never_inverts {packet : Packet} (long : 28 ≤ packet.inclLen.toNat) :
    ∃ decoded, decode (transmitted packet) = .ok (some decoded) ∧ Swaps packet decoded ∧
      ¬ Inverts packet decoded := by
  rcases decode_transmitted long with ⟨decoded, decodes, swaps⟩
  exact ⟨decoded, decodes, swaps, swaps.not_inverts⟩

/-- A frame of 28 bytes, numbered from zero. -/
def numberedPacket : Packet where
  tsSec := 1
  tsUsec := 2
  len := 28
  buf := UInt8.ofNat

theorem never_inverts_numberedPacket :
    ∃ decoded, decode (transmitted numberedPacket) = .ok (some decoded) ∧
      Swaps numberedPacket decoded ∧ ¬ Inverts numberedPacket decoded :=
  never_inverts (by decide)

theorem not_inverts_numberedPacket :
    ¬ ∃ decoded, decode (transmitted numberedPacket) = .ok (some decoded) ∧
      Inverts numberedPacket decoded := by
  rintro ⟨decoded, decodes, inverts⟩
  have long : 28 ≤ numberedPacket.inclLen.toNat := by decide
  rcases decode_transmitted long with ⟨swapped, decodes', swaps⟩
  rw [decodes'] at decodes
  cases decodes
  exact swaps.not_inverts inverts

end WifiSniffer.Ctrl
