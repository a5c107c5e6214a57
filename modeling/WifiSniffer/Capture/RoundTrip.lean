import WifiSniffer.Capture.Format
import WifiSniffer.Capture.Record

/-!
# The firmware's bytes under the capture format

The three hand-kept layouts of `capture_lib` (record header, radiotap header and
packed C structure) agree with the format's own reading of them: the global
header and every record sent decode to the receive data and the leading payload
bytes of the packet, for every length on either side of the snap length.
-/

namespace WifiSniffer.Capture

open WifiSniffer.Bytes WifiSniffer.Memory
open Format (FileHeader Packet Radiotap CapturedFrame decodeFileHeader decodePacket
  decodeRadiotap decodeFrame decodeCapture)

variable (cfg : SdkConfig)

/-! ## Global header -/

/-- The global header as the format reads it. -/
def fileHeader : FileHeader where
  versionMajor := 2
  versionMinor := 4
  thiszone := 0
  sigfigs := 0
  snaplen := cfg.snapLen
  linkType := 127

theorem decodeFileHeader_pcapHdr (rest : List UInt8) :
    decodeFileHeader ((pcapHdr cfg).bytes ++ rest) = some (fileHeader cfg, rest) := by
  have word_fits : ∀ word : UInt32, word.toNat < 256 ^ 4 := fun word => word.toNat_lt
  have half_fits : ∀ half : UInt16, half.toNat < 256 ^ 2 := fun half => half.toNat_lt
  have magic_ok : (pcapHdr cfg).magicNumber.toNat = 0xa1b2c3d4 := rfl
  simp only [PcapHdr.bytes, List.append_assoc, decodeFileHeader, Option.bind_eq_bind,
    decodeLe_leBytes_append (word_fits _), decodeLe_leBytes_append (half_fits _),
    Option.bind_some]
  simp only [magic_ok, guard_true, Option.pure_def, Option.bind_some, pcapHdr_snaplen_toNat]
  rfl

/-! ## Records -/

variable (ctrl : WifiPktRxCtrl) (payload : Nat → UInt8)

/-- How much of a packet fits behind the radiotap part of a record. -/
def keptLength : Nat :=
  min ctrl.sigLen.toNat (cfg.snapLen - 20)

/-- A record's packet data: the radiotap part and the kept payload bytes. -/
def packetData : List UInt8 :=
  ieee80211RadiotapHeader.bytes ++
    (((captureCreatePcapRecord cfg ctrl).value payload).rTapdata.bytes ++
      (List.range (keptLength cfg ctrl)).map payload)

theorem packetData_length :
    (packetData cfg ctrl payload).length = (createPcapRecHdr cfg ctrl).inclLen.toNat := by
  have snap_ge := cfg.snapLen_ge
  rw [createPcapRecHdr_inclLen_toNat]
  simp [packetData, keptLength]
  omega

/-- The record of a packet as the format reads it. -/
def packetOf : Packet where
  tsSec := ctrl.timestamp.toNat / 1000000
  tsUsec := ctrl.timestamp.toNat % 1000000
  origLen := ctrl.sigLen.toNat + 20
  data := packetData cfg ctrl payload

/-- What is sent for a packet is exactly one record of the format. -/
theorem decodePacket_sentBytes (rest : List UInt8) :
    decodePacket cfg.snapLen
        (((captureCreatePcapRecord cfg ctrl).value payload).sentBytes ++ rest) =
      some (packetOf cfg ctrl payload, rest) := by
  have word_fits : ∀ word : UInt32, word.toNat < 256 ^ 4 := fun word => word.toNat_lt
  have origLen_eq := createPcapRecHdr_origLen_toNat cfg ctrl
  have inclLen_eq := createPcapRecHdr_inclLen_toNat cfg ctrl
  have lengths_ok : (createPcapRecHdr cfg ctrl).inclLen.toNat ≤ cfg.snapLen ∧
      (createPcapRecHdr cfg ctrl).inclLen.toNat ≤
        (createPcapRecHdr cfg ctrl).origLen.toNat := by
    rw [inclLen_eq, origLen_eq]
    omega
  have seconds_eq : (createPcapRecHdr cfg ctrl).tsSec.toNat =
      ctrl.timestamp.toNat / 1000000 := by
    simp [createPcapRecHdr]
  have micros_eq : (createPcapRecHdr cfg ctrl).tsUsec.toNat =
      ctrl.timestamp.toNat % 1000000 := by
    simp [createPcapRecHdr]
  have sent_eq : ((captureCreatePcapRecord cfg ctrl).value payload).sentBytes =
      (createPcapRecHdr cfg ctrl).bytes ++ packetData cfg ctrl payload :=
    sentBytes_captureCreatePcapRecord cfg ctrl payload
  simp only [sent_eq, PcapRecHdr.bytes, List.append_assoc, decodePacket, Option.bind_eq_bind,
    decodeLe_leBytes_append (word_fits _), Option.bind_some, lengths_ok, and_self, guard_true,
    Option.pure_def, takeExact_append (packetData_length cfg ctrl payload)]
  simp only [packetOf, seconds_eq, micros_eq, origLen_eq]

theorem ieee80211RadiotapHeader_bytes :
    ieee80211RadiotapHeader.bytes = [0, 0, 20, 0, 0x60, 0x08, 0x04, 0x00] := by
  decide

theorem rTapdata_bytes :
    ((captureCreatePcapRecord cfg ctrl).value payload).rTapdata.bytes =
      [ctrl.rssi.toUInt8, ctrl.noiseFloor.toUInt8, ctrl.ant, 0,
        0, 0, 0, 0, 0, 0, ctrl.channel, 0] := by
  simp [captureCreatePcapRecord, RTapdata.bytes, RTapdataChannel.bytes, leBytes_succ]

/-- The radiotap walk over the header that every record carries: the three one-byte
fields lie behind one another, and one byte of padding aligns the XChannel field. -/
theorem walkFields_header (signal noise antenna channel : UInt8) :
    Format.walkFields
        [0, 0, 20, 0, 0x60, 0x08, 0x04, 0x00, signal, noise, antenna, 0,
          0, 0, 0, 0, 0, 0, channel, 0] 8 [5, 6, 11, 18] =
      some [(5, [signal]), (6, [noise]), (11, [antenna]),
        (18, [0, 0, 0, 0, 0, 0, channel, 0])] := by
  rfl

/-- The numbers in front of the radiotap fields, and the header that they announce. -/
theorem decodeRadiotap_header (signal noise antenna channel : UInt8) (frame : List UInt8) :
    decodeRadiotap
        ([0, 0, 20, 0, 0x60, 0x08, 0x04, 0x00] ++
          ([signal, noise, antenna, 0, 0, 0, 0, 0, 0, 0, channel, 0] ++ frame)) =
      some (⟨signal.toInt8, noise.toInt8, antenna, channel⟩, frame) := by
  have byte (rest : List UInt8) : decodeLe 1 (0 :: rest) = some (0, rest) :=
    decodeLe_leBytes_append (by decide : 0 < 256 ^ 1) rest
  have length (rest : List UInt8) : decodeLe 2 (20 :: 0 :: rest) = some (20, rest) :=
    decodeLe_leBytes_append (by decide : 20 < 256 ^ 2) rest
  have present (rest : List UInt8) :
      decodeLe 4 (0x60 :: 0x08 :: 0x04 :: 0x00 :: rest) = some (0x40860, rest) :=
    decodeLe_leBytes_append (by decide : 0x40860 < 256 ^ 4) rest
  have present_eq : Format.presentBits 0x40860 = [5, 6, 11, 18] := by decide
  have header : takeExact 20
      ([0, 0, 20, 0, 0x60, 0x08, 0x04, 0x00, signal, noise, antenna, 0, 0, 0, 0, 0, 0, 0,
        channel, 0] ++ frame) =
      some ([0, 0, 20, 0, 0x60, 0x08, 0x04, 0x00, signal, noise, antenna, 0, 0, 0, 0, 0, 0, 0,
        channel, 0], frame) :=
    takeExact_append (by rfl) frame
  simp only [List.cons_append, List.nil_append] at header ⊢
  simp only [decodeRadiotap, byte, length, present, header, present_eq, walkFields_header,
    Option.bind_eq_bind, Option.bind_some, guard_true, Option.pure_def]
  rfl

/-- The radiotap walk finds the receive data, and the frame starts right behind
the announced header length. -/
theorem decodeRadiotap_packetData :
    decodeRadiotap (packetData cfg ctrl payload) =
      some (⟨ctrl.rssi, ctrl.noiseFloor, ctrl.ant, ctrl.channel⟩,
        (List.range (keptLength cfg ctrl)).map payload) := by
  rw [packetData, ieee80211RadiotapHeader_bytes, rTapdata_bytes, decodeRadiotap_header]
  simp

/-- A received packet as the reader of the stream gets to see it. -/
def frameOf : CapturedFrame where
  tsSec := ctrl.timestamp.toNat / 1000000
  tsUsec := ctrl.timestamp.toNat % 1000000
  origLen := ctrl.sigLen.toNat + 20
  radiotap := ⟨ctrl.rssi, ctrl.noiseFloor, ctrl.ant, ctrl.channel⟩
  payload := (List.range (keptLength cfg ctrl)).map payload

theorem decodeFrame_packetOf :
    decodeFrame (packetOf cfg ctrl payload) = some (frameOf cfg ctrl payload) := by
  rw [decodeFrame, packetOf, decodeRadiotap_packetData]
  rfl

/-! ## Whole captures -/

/-- The stream a client should see for a list of packets: the global header and
one built record for each packet. -/
def captureStream (packets : List WifiPromiscuousPkt) : List UInt8 :=
  (pcapHdr cfg).bytes ++ packets.flatMap fun pkt => (builtRecord cfg pkt).sentBytes

/-- Every stream of the global header and built records decodes, to its end, to
one frame for each packet in order. -/
theorem decodeCapture_captureStream (packets : List WifiPromiscuousPkt) :
    decodeCapture (captureStream cfg packets) =
      some (fileHeader cfg,
        packets.map fun pkt => frameOf cfg pkt.rxCtrl.withoutFcs pkt.payload) := by
  have sent_ne_nil : ∀ pkt ∈ packets, (builtRecord cfg pkt).sentBytes ≠ [] := by
    intro pkt _ empty
    have sent_eq := sentBytes_captureCreatePcapRecord cfg pkt.rxCtrl.withoutFcs pkt.payload
    have length_eq := congrArg List.length (sent_eq.symm.trans empty)
    simp at length_eq
  have splits : ∀ pkt ∈ packets, ∀ rest,
      decodePacket cfg.snapLen ((builtRecord cfg pkt).sentBytes ++ rest) =
        some (packetOf cfg pkt.rxCtrl.withoutFcs pkt.payload, rest) :=
    fun pkt _ rest => decodePacket_sentBytes cfg pkt.rxCtrl.withoutFcs pkt.payload rest
  have packets_eq := decodeStream_flatMap sent_ne_nil splits
    (length_le_length_flatMap sent_ne_nil)
  have frames_eq := mapM_map_eq_some
    (fun pkt : WifiPromiscuousPkt =>
      decodeFrame_packetOf cfg pkt.rxCtrl.withoutFcs pkt.payload) packets
  have linkType_ok : (fileHeader cfg).linkType = 127 := rfl
  have snaplen_eq : (fileHeader cfg).snaplen = cfg.snapLen := rfl
  simp only [decodeCapture, captureStream, decodeFileHeader_pcapHdr, Option.bind_eq_bind,
    Option.bind_some, linkType_ok, guard_true, snaplen_eq, packets_eq, frames_eq,
    Option.pure_def]

/-- A decoded frame reports a received packet: its time, its original length with
the radiotap part, its receive data, and as much of the packet without checksum
as the snap length leaves room for. -/
structure Describes (pkt : WifiPromiscuousPkt) (frame : CapturedFrame) : Prop where
  tsUsec_lt : frame.tsUsec < 1000000
  time_eq : frame.tsSec * 1000000 + frame.tsUsec = pkt.rxCtrl.timestamp.toNat
  origLen_eq : frame.origLen = pkt.rxCtrl.sigLen.toNat - 4 + 20
  signal_eq : frame.radiotap.signal = pkt.rxCtrl.rssi
  noise_eq : frame.radiotap.noise = pkt.rxCtrl.noiseFloor
  antenna_eq : frame.radiotap.antenna = pkt.rxCtrl.ant
  channel_eq : frame.radiotap.channel = pkt.rxCtrl.channel
  payload_eq : frame.payload =
    (List.range (min (pkt.rxCtrl.sigLen.toNat - 4) (cfg.snapLen - 20))).map pkt.payload

theorem describes_frameOf {pkt : WifiPromiscuousPkt} (covers : 4 ≤ pkt.rxCtrl.sigLen.toNat) :
    Describes cfg pkt (frameOf cfg pkt.rxCtrl.withoutFcs pkt.payload) where
  tsUsec_lt := Nat.mod_lt _ (by decide)
  time_eq := Nat.div_add_mod' pkt.rxCtrl.timestamp.toNat 1000000
  origLen_eq := congrArg (· + 20) (withoutFcs_sigLen_toNat pkt.rxCtrl covers)
  signal_eq := rfl
  noise_eq := rfl
  antenna_eq := rfl
  channel_eq := rfl
  payload_eq := by
    simp only [frameOf, keptLength, withoutFcs_sigLen_toNat pkt.rxCtrl covers]

end WifiSniffer.Capture
