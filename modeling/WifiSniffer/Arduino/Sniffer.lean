import WifiSniffer.Capture.Record

/-!
# The writers of the Arduino sketch

`Sniffer.h` hands the capture to a callback, byte by byte and field by field.  As long
as no callback is installed nothing is written.
-/

namespace WifiSniffer.Arduino

open WifiSniffer.Bytes WifiSniffer.Capture

/-- The serial port as the writers see it. -/
structure Port where
  /-- whether `_write_cb` is `writeSerial` rather than null -/
  writeCb : Bool
  /-- the bytes handed to `Serial.write` -/
  serial : List UInt8
  deriving DecidableEq

/-! ## The code -/

def magicNumber : UInt32 := 0xa1b2c3d4
def versionMajor : UInt16 := 2
def versionMinor : UInt16 := 4
def thiszone : UInt32 := 0
def sigfigs : UInt32 := 0
def snaplen : UInt32 := 2500
def network : UInt32 := 105

namespace Port

def write (port : Port) (buffer : List UInt8) : Port :=
  if port.writeCb then { port with serial := port.serial ++ buffer } else port

def write16 (port : Port) (n : UInt16) : Port :=
  port.write [n.toUInt8, (n >>> 8).toUInt8]

def write32 (port : Port) (n : UInt32) : Port :=
  port.write [n.toUInt8, (n >>> 8).toUInt8, (n >>> 16).toUInt8, (n >>> 24).toUInt8]

def newPacket (port : Port) (tsSec tsUsec len : UInt32) (buf : Nat → UInt8) : Port :=
  let origLen := len
  let inclLen := if len > snaplen then snaplen else len
  let port := port.write32 tsSec
  let port := port.write32 tsUsec
  let port := port.write32 inclLen
  let port := port.write32 origLen
  port.write ((List.range inclLen.toNat).map buf)

def captureStart (port : Port) : Port :=
  let port := port.write32 magicNumber
  let port := port.write16 versionMajor
  let port := port.write16 versionMinor
  let port := port.write32 thiszone
  let port := port.write32 sigfigs
  let port := port.write32 snaplen
  port.write32 network

end Port

/-! ## What is written -/

/-- The fields of the global header. -/
def pcapHdr : PcapHdr where
  magicNumber := magicNumber
  versionMajor := versionMajor
  versionMinor := versionMinor
  thiszone := thiszone
  sigfigs := sigfigs
  snaplen := snaplen
  network := network

/-- One packet as it is recorded: the arguments of `newPacket`. -/
structure Packet where
  tsSec : UInt32
  tsUsec : UInt32
  len : UInt32
  buf : Nat → UInt8

namespace Packet

/-- `incl_len` -/
def inclLen (packet : Packet) : UInt32 :=
  if packet.len > snaplen then snaplen else packet.len

/-- The fields of the record header. -/
def recHdr (packet : Packet) : PcapRecHdr where
  tsSec := packet.tsSec
  tsUsec := packet.tsUsec
  inclLen := packet.inclLen
  origLen := packet.len

/-- The bytes of the frame that are recorded. -/
def payload (packet : Packet) : List UInt8 :=
  (List.range packet.inclLen.toNat).map packet.buf

/-- The whole record. -/
def bytes (packet : Packet) : List UInt8 :=
  packet.recHdr.bytes ++ packet.payload

@[simp]
theorem payload_length (packet : Packet) : packet.payload.length = packet.inclLen.toNat := by
  simp [payload]

/-- No more than the snap length is recorded. -/
theorem inclLen_le (packet : Packet) : packet.inclLen.toNat ≤ 2500 := by
  rw [inclLen]
  split
  · exact Nat.le_refl _
  · rename_i fits
    exact UInt32.le_iff_toNat_le.mp (UInt32.not_lt.mp fits)

end Packet

namespace Port

variable (port : Port)

/-- Writes one after the other are one write. -/
@[simp]
theorem write_write (first second : List UInt8) :
    (port.write first).write second = port.write (first ++ second) := by
  cases installed : port.writeCb <;> simp [write, installed]

theorem write16_eq (n : UInt16) : port.write16 n = port.write (leBytes 2 n.toNat) := by
  have high : (n >>> 8).toUInt8 = UInt8.ofNat (n.toNat / 256) := by
    apply UInt8.toNat_inj.mp
    simp [Nat.shiftRight_eq_div_pow]
  rw [write16, high]
  simp [leBytes]

theorem write32_eq (n : UInt32) : port.write32 n = port.write (leBytes 4 n.toNat) := by
  have second : (n >>> 8).toUInt8 = UInt8.ofNat (n.toNat / 256) := by
    apply UInt8.toNat_inj.mp
    simp [Nat.shiftRight_eq_div_pow]
  have third : (n >>> 16).toUInt8 = UInt8.ofNat (n.toNat / 256 / 256) := by
    apply UInt8.toNat_inj.mp
    simp [Nat.shiftRight_eq_div_pow, Nat.div_div_eq_div_mul]
  have fourth : (n >>> 24).toUInt8 = UInt8.ofNat (n.toNat / 256 / 256 / 256) := by
    apply UInt8.toNat_inj.mp
    simp [Nat.shiftRight_eq_div_pow, Nat.div_div_eq_div_mul]
  rw [write32, second, third, fourth]
  simp [leBytes]

theorem captureStart_eq : port.captureStart = port.write pcapHdr.bytes := by
  simp only [captureStart, write32_eq, write16_eq, write_write, PcapHdr.bytes, pcapHdr,
    List.append_assoc]

theorem newPacket_eq (packet : Packet) :
    port.newPacket packet.tsSec packet.tsUsec packet.len packet.buf =
      port.write packet.bytes := by
  simp only [newPacket, write32_eq, write_write, Packet.bytes, PcapRecHdr.bytes, Packet.recHdr,
    Packet.payload, Packet.inclLen, List.append_assoc]

theorem serial_write_of_writeCb {buffer : List UInt8} (installed : port.writeCb = true) :
    (port.write buffer).serial = port.serial ++ buffer := by
  rw [write, if_pos installed]

@[simp]
theorem writeCb_write (buffer : List UInt8) : (port.write buffer).writeCb = port.writeCb := by
  rw [write]
  split <;> rfl

end Port

end WifiSniffer.Arduino
