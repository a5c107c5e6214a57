import WifiSniffer.Arduino.Serial
import WifiSniffer.Capture.RoundTrip
import WifiSniffer.Handler.Decision

/-!
# One frame, recorded by both firmwares

The driver's length covers the checksum.  The handler of the ESP32 firmware takes its four
bytes off every frame, the one of the sketch only off management frames.  The checksum of
a data frame is then in the record of the sketch, unless the other record ends before it.
-/

namespace WifiSniffer.Arduino

open WifiSniffer.Bytes WifiSniffer.Capture WifiSniffer.Handler

/-- The first bytes of a frame. -/
def front (payload : Nat → UInt8) (count : Nat) : List UInt8 :=
  (List.range count).map payload

section Front

variable {payload : Nat → UInt8} {count first second : Nat}

@[simp]
theorem front_length : (front payload count).length = count := by
  simp [front]

theorem front_take : (front payload first).take count = front payload (min count first) := by
  rw [front, front, ← List.map_take, List.take_range]

theorem front_eq_iff : front payload first = front payload second ↔ first = second := by
  constructor
  · intro same
    have lengths := congrArg List.length same
    rwa [front_length, front_length] at lengths
  · rintro rfl
    rfl

end Front

section Written

variable (cfg : SdkConfig) (clock : Clock) (sketch : Sketch) (pkt : WifiPromiscuousPkt)
  (type : WifiPromiscuousPktType)

/-- The bytes of the frame in a record that the ESP32 firmware sends, behind the record
header and the radiotap part. -/
def esp32Frame {cfg : SdkConfig} (record : PcapRec cfg.snapLen) : List UInt8 :=
  record.sentBytes.drop (16 + 20)

/-- What the sketch writes for a frame. -/
def written : List UInt8 :=
  (packetHandler clock sketch pkt type).port.serial.drop sketch.port.serial.length

/-- The bytes of the frame in it, behind the record header. -/
def arduinoFrame : List UInt8 :=
  (written clock sketch pkt type).drop 16

theorem esp32Frame_eq (covers : 4 ≤ pkt.rxCtrl.sigLen.toNat) :
    esp32Frame (builtRecord cfg pkt) =
      front pkt.payload (min (pkt.rxCtrl.sigLen.toNat - 4) (cfg.snapLen - 20)) := by
  have headers_length :
      ((createPcapRecHdr cfg pkt.rxCtrl.withoutFcs).bytes ++
        (ieee80211RadiotapHeader.bytes ++
          (builtRecord cfg pkt).rTapdata.bytes)).length = 16 + 20 := by
    simp
  rw [esp32Frame, builtRecord, sentBytes_captureCreatePcapRecord, ← builtRecord,
    withoutFcs_sigLen_toNat _ covers, ← List.append_assoc, ← List.append_assoc,
    List.append_assoc _ ieee80211RadiotapHeader.bytes, List.drop_left' headers_length, front]

theorem written_eq (ready : Ready sketch) (recorded : records sketch pkt = true) :
    written clock sketch pkt type = (packetOf clock pkt (packetLength pkt type)).bytes := by
  have port_eq := port_next ready (.frame clock pkt type)
  rw [next, emitted, if_pos recorded, List.flatMap_singleton] at port_eq
  rw [written, port_eq, List.drop_left]
  rfl

/-- `newPacket` cuts the frame at its snap length. -/
theorem inclLen_toNat (packet : Packet) : packet.inclLen.toNat = min packet.len.toNat 2500 := by
  have snaplen_toNat : snaplen.toNat = 2500 := rfl
  rw [Packet.inclLen]
  split
  · rename_i long
    rw [gt_iff_lt, UInt32.lt_iff_toNat_lt, snaplen_toNat] at long
    omega
  · rename_i fits
    rw [gt_iff_lt, UInt32.lt_iff_toNat_lt, snaplen_toNat] at fits
    omega

theorem packetLength_toNat (covers : 4 ≤ pkt.rxCtrl.sigLen.toNat) :
    (packetLength pkt type).toNat =
      if type = .mgmt then pkt.rxCtrl.sigLen.toNat - 4 else pkt.rxCtrl.sigLen.toNat := by
  have sigLen_lt : pkt.rxCtrl.sigLen.toNat < 4096 := pkt.rxCtrl.sigLen.isLt
  have sigLen_toNat : (UInt32.ofNat pkt.rxCtrl.sigLen.toNat).toNat =
      pkt.rxCtrl.sigLen.toNat := by
    rw [UInt32.toNat_ofNat']
    omega
  rw [packetLength]
  split
  · rw [UInt32.toNat_sub_of_le, sigLen_toNat]
    · rfl
    · rw [UInt32.le_iff_toNat_le, sigLen_toNat]
      exact covers
  · exact sigLen_toNat

theorem arduinoFrame_eq (ready : Ready sketch) (recorded : records sketch pkt = true) :
    arduinoFrame clock sketch pkt type =
      front pkt.payload (min (packetLength pkt type).toNat 2500) := by
  have length_eq := inclLen_toNat (packetOf clock pkt (packetLength pkt type))
  rw [arduinoFrame, written_eq clock sketch pkt type ready recorded, Packet.bytes,
    List.drop_left' (PcapRecHdr.bytes_length _), Packet.payload, length_eq]
  rfl

end Written

/-- The bytes that two records of one frame hold agree up to the shorter cut, and they are
the frame without its checksum when neither is cut. -/
structure SameFrame (cfg : SdkConfig) (pkt : WifiPromiscuousPkt)
    (record : PcapRec cfg.snapLen) (packet : Packet) (esp32 arduino : List UInt8) : Prop where
  agree : esp32.take (min (cfg.snapLen - 20) 2500) = arduino.take (min (cfg.snapLen - 20) 2500)
  whole : record.pcapRecHdr.inclLen = record.pcapRecHdr.origLen → packet.inclLen = packet.len →
    esp32 = front pkt.payload (pkt.rxCtrl.sigLen.toNat - 4) ∧
      arduino = front pkt.payload (pkt.rxCtrl.sigLen.toNat - 4)

section Same

variable (cfg : SdkConfig) (pkt : WifiPromiscuousPkt)

/-- Neither record is cut, in numbers. -/
theorem uncut_iff (covers : 4 ≤ pkt.rxCtrl.sigLen.toNat) :
    (builtRecord cfg pkt).pcapRecHdr.inclLen = (builtRecord cfg pkt).pcapRecHdr.origLen ↔
      pkt.rxCtrl.sigLen.toNat - 4 ≤ cfg.snapLen - 20 := by
  have snap_ge := cfg.snapLen_ge
  have hdr_eq : (builtRecord cfg pkt).pcapRecHdr =
      createPcapRecHdr cfg pkt.rxCtrl.withoutFcs := rfl
  rw [hdr_eq, ← UInt32.toNat_inj, createPcapRecHdr_inclLen_toNat,
    createPcapRecHdr_origLen_toNat, withoutFcs_sigLen_toNat _ covers]
  omega

theorem packet_uncut_iff (packet : Packet) :
    packet.inclLen = packet.len ↔ packet.len.toNat ≤ 2500 := by
  rw [← UInt32.toNat_inj, inclLen_toNat]
  omega

/-- A record of the frame and one with some bytes of the checksum, before the cuts. -/
theorem sameFrame_front_iff (covers : 4 ≤ pkt.rxCtrl.sigLen.toNat) (packet : Packet)
    (longer : pkt.rxCtrl.sigLen.toNat - 4 ≤ packet.len.toNat)
    (within : packet.len.toNat ≤ pkt.rxCtrl.sigLen.toNat) :
    SameFrame cfg pkt (builtRecord cfg pkt) packet
        (front pkt.payload (min (pkt.rxCtrl.sigLen.toNat - 4) (cfg.snapLen - 20)))
        (front pkt.payload (min packet.len.toNat 2500)) ↔
      (pkt.rxCtrl.sigLen.toNat - 4 < packet.len.toNat →
        cfg.snapLen - 20 < pkt.rxCtrl.sigLen.toNat - 4) := by
  have snap_ge := cfg.snapLen_ge
  have snap_le := cfg.snapLen_le
  constructor
  · rintro ⟨agree, whole⟩ shorter
    by_contra uncut
    rw [front_take, front_take, front_eq_iff] at agree
    rw [uncut_iff cfg pkt covers, packet_uncut_iff, front_eq_iff, front_eq_iff] at whole
    omega
  · intro cut
    constructor
    · rw [front_take, front_take, front_eq_iff]
      omega
    · rw [uncut_iff cfg pkt covers, packet_uncut_iff, front_eq_iff, front_eq_iff]
      omega

end Same

/-- Both records of an accepted frame hold the same bytes exactly if it is a management
frame or the ESP32 firmware cuts its record. -/
theorem sameFrame_iff (cfg : SdkConfig) (call : Reception) (record : PcapRec cfg.snapLen)
    (clock : Clock) (sketch : Sketch) (typed : call.type = .mgmt ∨ call.type = .data)
    (covers : 4 ≤ call.pkt.rxCtrl.sigLen.toNat) (sent : call.record cfg = some record)
    (ready : Ready sketch) (recorded : records sketch call.pkt = true) :
    SameFrame cfg call.pkt record
        (packetOf clock call.pkt (packetLength call.pkt call.type))
        (esp32Frame record) (arduinoFrame clock sketch call.pkt call.type) ↔
      (call.type = .data → cfg.snapLen - 20 < call.pkt.rxCtrl.sigLen.toNat - 4) := by
  have record_eq : builtRecord cfg call.pkt = record := by
    rw [Reception.record_eq] at sent
    exact Option.some.inj (Option.ite_none_right_eq_some.mp sent).2
  have length_eq := packetLength_toNat call.pkt call.type covers
  have longer : call.pkt.rxCtrl.sigLen.toNat - 4 ≤
      (packetOf clock call.pkt (packetLength call.pkt call.type)).len.toNat := by
    change _ ≤ (packetLength call.pkt call.type).toNat
    split at length_eq
    · omega
    · omega
  have within : (packetOf clock call.pkt (packetLength call.pkt call.type)).len.toNat ≤
      call.pkt.rxCtrl.sigLen.toNat := by
    change (packetLength call.pkt call.type).toNat ≤ _
    split at length_eq
    · omega
    · omega
  rw [← record_eq, esp32Frame_eq cfg call.pkt covers,
    arduinoFrame_eq clock sketch call.pkt call.type ready recorded]
  refine (sameFrame_front_iff cfg call.pkt covers _ longer within).trans ?_
  change (_ < (packetLength call.pkt call.type).toNat → _) ↔ _
  rw [length_eq]
  rcases typed with mgmt | data
  · simp [mgmt]
  · have shorter : call.pkt.rxCtrl.sigLen.toNat - 4 < call.pkt.rxCtrl.sigLen.toNat := by omega
    simp [data, shorter]

/-- A data frame of 28 bytes with its checksum, which both firmwares accept. -/
def dataCall : Reception where
  filters := openFilters
  semaphore := ⟨true, true⟩
  type := .data
  pkt := wantedFrame

theorem record_dataCall :
    dataCall.record default = some (builtRecord default dataCall.pkt) := by
  rw [Reception.record_eq, if_pos (by decide)]

/-- The sketch records the checksum of a data frame that the ESP32 firmware leaves out. -/
theorem not_sameFrame_dataCall :
    dataCall.record default = some (builtRecord default dataCall.pkt) ∧
      records setup dataCall.pkt = true ∧
      ¬ SameFrame default dataCall.pkt (builtRecord default dataCall.pkt)
        (packetOf ⟨1, 0, 0⟩ dataCall.pkt (packetLength dataCall.pkt dataCall.type))
        (esp32Frame (builtRecord default dataCall.pkt))
        (arduinoFrame ⟨1, 0, 0⟩ setup dataCall.pkt dataCall.type) := by
  refine ⟨record_dataCall, by decide, ?_⟩
  rintro ⟨_, whole⟩
  have lengths := congrArg List.length (whole (by decide) (by decide)).2
  rw [arduinoFrame_eq _ _ _ _ ready_setup (by decide)] at lengths
  revert lengths
  decide

/-- The condition at that frame. -/
theorem sameFrame_dataCall_iff :
    SameFrame default dataCall.pkt (builtRecord default dataCall.pkt)
        (packetOf ⟨1, 0, 0⟩ dataCall.pkt (packetLength dataCall.pkt dataCall.type))
        (esp32Frame (builtRecord default dataCall.pkt))
        (arduinoFrame ⟨1, 0, 0⟩ setup dataCall.pkt dataCall.type) ↔
      (dataCall.type = .data →
        (default : SdkConfig).snapLen - 20 < dataCall.pkt.rxCtrl.sigLen.toNat - 4) :=
  sameFrame_iff default dataCall _ ⟨1, 0, 0⟩ setup (.inr rfl) (by decide) record_dataCall
    ready_setup (by decide)

end WifiSniffer.Arduino
