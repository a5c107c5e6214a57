import WifiSniffer.Bytes.Framing

/-!
# The capture file format

What a reader of the stream understands: the pcap file format in its
little-endian form, and the radiotap header in front of each 802.11 frame.  A
radiotap header announces its fields in a bit mask; a field is found by walking
the mask upwards and aligning each offset, counted from the start of the
radiotap header, to the field's natural alignment.  Nothing here refers to the
structures the firmware uses to produce the bytes.
-/

namespace WifiSniffer.Capture.Format

open WifiSniffer.Bytes

/-! ## pcap files -/

/-- The global header, after its magic number. -/
structure FileHeader where
  versionMajor : Nat
  versionMinor : Nat
  thiszone : Nat
  sigfigs : Nat
  snaplen : Nat
  linkType : Nat
  deriving DecidableEq

/-- One packet record of a capture file. -/
structure Packet where
  tsSec : Nat
  tsUsec : Nat
  origLen : Nat
  data : List UInt8
  deriving DecidableEq

def decodeFileHeader (input : List UInt8) : Option (FileHeader × List UInt8) := do
  let (magic, input) ← decodeLe 4 input
  guard (magic = 0xa1b2c3d4)
  let (versionMajor, input) ← decodeLe 2 input
  let (versionMinor, input) ← decodeLe 2 input
  let (thiszone, input) ← decodeLe 4 input
  let (sigfigs, input) ← decodeLe 4 input
  let (snaplen, input) ← decodeLe 4 input
  let (linkType, input) ← decodeLe 4 input
  pure (⟨versionMajor, versionMinor, thiszone, sigfigs, snaplen, linkType⟩, input)

/-- A record keeps at most the snap length and never more than the packet had. -/
def decodePacket (snaplen : Nat) (input : List UInt8) : Option (Packet × List UInt8) := do
  let (tsSec, input) ← decodeLe 4 input
  let (tsUsec, input) ← decodeLe 4 input
  let (inclLen, input) ← decodeLe 4 input
  let (origLen, input) ← decodeLe 4 input
  guard (inclLen ≤ snaplen ∧ inclLen ≤ origLen)
  let (data, input) ← takeExact inclLen input
  pure (⟨tsSec, tsUsec, origLen, data⟩, input)

/-! ## Radiotap headers -/

/-- Natural alignment and size of the radiotap fields the sniffer announces. -/
def fieldLayout : Nat → Option (Nat × Nat)
  | 5 => some (1, 1)
  | 6 => some (1, 1)
  | 11 => some (1, 1)
  | 18 => some (4, 8)
  | _ => none

/-- The least multiple of the alignment that is not below the offset. -/
def alignUp (offset alignment : Nat) : Nat :=
  (offset + (alignment - 1)) / alignment * alignment

/-- The bits set in a present mask, in ascending order. -/
def presentBits (present : Nat) : List Nat :=
  (List.range 32).filter fun bit => present.testBit bit

/-- Cut the announced fields out of a radiotap header, starting at an offset. -/
def walkFields (header : List UInt8) : Nat → List Nat → Option (List (Nat × List UInt8))
  | _, [] => some []
  | offset, bit :: bits => do
      let (alignment, size) ← fieldLayout bit
      let start := alignUp offset alignment
      let (field, _) ← takeExact size (header.drop start)
      let fields ← walkFields header (start + size) bits
      pure ((bit, field) :: fields)

/-- The radiotap fields of one frame. -/
structure Radiotap where
  signal : Int8
  noise : Int8
  antenna : UInt8
  channel : UInt8
  deriving DecidableEq

/-- Split a packet into its radiotap fields and the 802.11 frame behind them. -/
def decodeRadiotap (data : List UInt8) : Option (Radiotap × List UInt8) := do
  let (version, input) ← decodeLe 1 data
  guard (version = 0)
  let (_, input) ← decodeLe 1 input
  let (length, input) ← decodeLe 2 input
  let (present, _) ← decodeLe 4 input
  let (header, frame) ← takeExact length data
  let fields ← walkFields header 8 (presentBits present)
  let signal ← fields.lookup 5
  let noise ← fields.lookup 6
  let antenna ← fields.lookup 11
  let xchannel ← fields.lookup 18
  -- XChannel is flags (4), frequency (2), channel (1), maximum power (1)
  pure (⟨(signal.headD 0).toInt8, (noise.headD 0).toInt8, antenna.headD 0,
    xchannel.getD 6 0⟩, frame)

/-! ## Captures -/

/-- Everything the stream says about one received frame. -/
structure CapturedFrame where
  tsSec : Nat
  tsUsec : Nat
  origLen : Nat
  radiotap : Radiotap
  payload : List UInt8
  deriving DecidableEq

def decodeFrame (packet : Packet) : Option CapturedFrame :=
  (decodeRadiotap packet.data).map fun parts =>
    ⟨packet.tsSec, packet.tsUsec, packet.origLen, parts.1, parts.2⟩

/-- Decode a complete capture: the global header with the radiotap link type,
then packets to the end of the input. -/
def decodeCapture (stream : List UInt8) : Option (FileHeader × List CapturedFrame) := do
  let (header, packets) ← decodeFileHeader stream
  guard (header.linkType = 127)
  let packets ← decodeStream (decodePacket header.snaplen) packets.length packets
  let frames ← packets.mapM decodeFrame
  pure (header, frames)

end WifiSniffer.Capture.Format
