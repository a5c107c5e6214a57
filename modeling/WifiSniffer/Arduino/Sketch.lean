import WifiSniffer.Arduino.Sniffer
import WifiSniffer.Bytes.CString
import WifiSniffer.Capture.HexArray
import WifiSniffer.Handler.Header

/-!
# The Arduino sketch

`main.cpp` with the packet handler of `Sniffer.h`: two address filters, an output mode
and a switch, which commands on the serial port change, and frames from the driver that
are recorded as long as the switch is on.  The text that is printed, for the log and for
a channel, is left out.
-/

namespace WifiSniffer.Arduino

open WifiSniffer.Bytes WifiSniffer.Capture WifiSniffer.Handler

/-! ## State -/

/-- `OUTPUT_TYPE` -/
inductive OutputType where
  | text
  | binary
  deriving DecidableEq

/-- `addrFilter` -/
structure AddrFilter where
  addr : Vector UInt8 6
  size : Int32
  deriving DecidableEq

/-- The filter with nothing in it. -/
def AddrFilter.empty : AddrFilter where
  addr := Vector.replicate 6 0
  size := 0

/-- The variables of the sketch and its serial port. -/
structure Sketch where
  port : Port
  /-- whether `_w_cb` is `packet_cb` rather than null -/
  wCb : Bool
  outType : OutputType
  addr1Filter : AddrFilter
  addr2Filter : AddrFilter
  start : Bool
  selChannel : UInt32
  /-- the bytes that the serial port has received and that have not been read -/
  input : List UInt8
  deriving DecidableEq

/-- The clocks of the board. -/
structure Clock where
  now : UInt32
  micros : UInt32
  millis : UInt32
  deriving DecidableEq

/-! ## Start-up -/

/-- The static initial values. -/
def powerUp : Sketch where
  port := { writeCb := false, serial := [] }
  wCb := false
  outType := .binary
  addr1Filter := .empty
  addr2Filter := { addr := #v[0x00, 0x0C, 0xCC, 0, 0, 0], size := 3 }
  start := false
  selChannel := 0
  input := []

/-- `signal_start` -/
def signalStart (sketch : Sketch) : Sketch :=
  let sketch :=
    if sketch.outType = .binary then { sketch with port := sketch.port.captureStart } else sketch
  { sketch with start := true }

/-- `setup`: the capture is started before the writers have their callback. -/
def setup : Sketch :=
  let sketch := signalStart powerUp
  let sketch := { sketch with port := { sketch.port with writeCb := true } }
  { sketch with wCb := true }

/-! ## Frames -/

/-- The address members of `wifi_ieee80211_mac_hdr_t`. -/
def addr1 : Nat := 2 + 2
def addr2 : Nat := addr1 + 6

/-- `isAddrEquel`, of a field of the frame -/
def isAddrEquel (frame : Nat → UInt8) (addr : Nat) (filter : AddrFilter) : Bool :=
  filter.size = 0 ||
    (List.range filter.size.toUInt32.toNat).all fun index =>
      frame (addr + index) == filter.addr.toList.getD index 0

/-- The condition of `packet_cb`. -/
def passes (sketch : Sketch) (frame : Nat → UInt8) : Bool :=
  sketch.start && isAddrEquel frame addr1 sketch.addr1Filter &&
    isAddrEquel frame addr2 sketch.addr2Filter

/-- The arguments with which `writePacket` calls `newPacket`. -/
def packetOf (clock : Clock) (pkt : WifiPromiscuousPkt) (packetLength : UInt32) : Packet where
  tsSec := clock.now
  tsUsec := clock.micros - clock.millis * 1000
  len := packetLength
  buf := pkt.payload

/-- `writePacket` -/
def writePacket (clock : Clock) (sketch : Sketch) (pkt : WifiPromiscuousPkt)
    (packetLength : UInt32) : Sketch :=
  let packet := packetOf clock pkt packetLength
  { sketch with
    port := sketch.port.newPacket packet.tsSec packet.tsUsec packet.len packet.buf }

/-- `packet_cb` -/
def packetCb (clock : Clock) (sketch : Sketch) (pkt : WifiPromiscuousPkt)
    (packetLength : UInt32) : Sketch :=
  if passes sketch pkt.payload then
    if sketch.outType = .binary then writePacket clock sketch pkt packetLength else sketch
  else sketch

/-- The length that `wifi_sniffer_packet_handler` passes on. -/
def packetLength (pkt : WifiPromiscuousPkt) (type : WifiPromiscuousPktType) : UInt32 :=
  let sigLen := UInt32.ofNat pkt.rxCtrl.sigLen.toNat
  if type = .mgmt then sigLen - 4 else sigLen

/-- `wifi_sniffer_packet_handler` -/
def packetHandler (clock : Clock) (sketch : Sketch) (pkt : WifiPromiscuousPkt)
    (type : WifiPromiscuousPktType) : Sketch :=
  if sketch.wCb then packetCb clock sketch pkt (packetLength pkt type) else sketch

/-! ## Commands -/

/-- `OP_CODE_SIZE` -/
def opCodeSize : Nat := 2

/-- `isOpCode` -/
def isOpCode (buff : List UInt8) (op : String) : Bool :=
  strncmpEqual (.ofArray buff) (.ofString op) opCodeSize

/-- `filterAddr`.  A text of odd length makes a filter of size -1, and so does the number
that `hex_to_byte_array` returns for an error. -/
def filterAddr (mac : List UInt8) (readBytes : Nat) : AddrFilter :=
  if readBytes > 0 then
    if readBytes % 2 = 0 then
      let (t, bytes) := hexToByteArray mac readBytes
      { addr := memcpy AddrFilter.empty.addr bytes, size := t.toInt32 }
    else { AddrFilter.empty with size := -1 }
  else .empty

/-- `Serial.readBytes`: what there is, up to the length, and what is left. -/
def readBytes (input : List UInt8) (length : Nat) : List UInt8 × List UInt8 :=
  (input.take length, input.drop length)

/-- A decimal digit. -/
def isDigit (char : UInt8) : Bool :=
  (ascii "0123456789").contains char

/-- The number that digits stand for, as a `long`. -/
def digitsValue (digits : List UInt8) : Int32 :=
  digits.foldl (fun value digit => value * 10 + Int32.ofNat (digit.toNat - 48)) 0

/-- `Serial.parseInt`: the number, without what stands before it, and what is left. -/
def parseInt (input : List UInt8) : Int32 × List UInt8 :=
  let rest := input.dropWhile fun char => !isDigit char && !(ascii "-").contains char
  match rest with
  | [] => (0, [])
  | char :: tail =>
      if isDigit char then (digitsValue (rest.takeWhile isDigit), rest.dropWhile isDigit)
      else (-digitsValue (tail.takeWhile isDigit), tail.dropWhile isDigit)

/-- The argument of `F1` and `F2`, in an array of twelve characters, as a filter.  It
takes the place of the old filter unless its size is negative. -/
def readFilter (old : AddrFilter) (input : List UInt8) : AddrFilter × List UInt8 :=
  let (read, input) := readBytes input 12
  let mac := read ++ List.replicate (12 - read.length) 0
  let filt := filterAddr mac read.length
  (if filt.size ≥ 0 then filterAddr mac read.length else old, input)

/-- The commands of `read`, one after the other, with the code that has been read. -/
def command (op : List UInt8) (sketch : Sketch) : Sketch :=
  let sketch := if isOpCode op "S0" then { sketch with start := false } else sketch
  let sketch := if isOpCode op "S1" then signalStart sketch else sketch
  let sketch := if isOpCode op "OT" then signalStart { sketch with outType := .text } else sketch
  let sketch :=
    if isOpCode op "OB" then signalStart { sketch with outType := .binary } else sketch
  let sketch :=
    if isOpCode op "FC" then
      let (ch, input) := parseInt sketch.input
      { sketch with selChannel := ch.toUInt32, input := input }
    else sketch
  let sketch :=
    if isOpCode op "F1" then
      let (filter, input) := readFilter sketch.addr1Filter sketch.input
      { sketch with addr1Filter := filter, input := input }
    else sketch
  if isOpCode op "F2" then
    let (filter, input) := readFilter sketch.addr2Filter sketch.input
    { sketch with addr2Filter := filter, input := input }
  else sketch

/-- `read`, with the bytes that arrive while it waits for an argument.  What it logs in text
mode is left out; `log("Got %s", op)` reads on behind `op`, which has no terminator. -/
def read (arriving : List UInt8) (sketch : Sketch) : Sketch :=
  if sketch.input.length ≥ opCodeSize then
    let (op, input) := readBytes sketch.input opCodeSize
    command op { sketch with input := input ++ arriving }
  else { sketch with input := sketch.input ++ arriving }

end WifiSniffer.Arduino
