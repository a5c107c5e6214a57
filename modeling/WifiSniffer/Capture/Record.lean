import WifiSniffer.Bytes.LittleEndian
import WifiSniffer.Config
import WifiSniffer.Memory.Read

/-!
# Capture records

The C structures of `capture_lib.h` with their bytes in memory, and
`capture_create_pcap_record`, which turns one received packet into the record
that goes through the queue to the client.  All structures are packed or
naturally aligned without holes, so their memory is the concatenation of their
little-endian members.
-/

namespace WifiSniffer.Capture

open WifiSniffer.Bytes WifiSniffer.Memory

/-! ## Structures -/

/-- `pcap_hdr_t`: the global header of a capture file. -/
structure PcapHdr where
  magicNumber : UInt32
  versionMajor : UInt16
  versionMinor : UInt16
  thiszone : UInt32
  sigfigs : UInt32
  snaplen : UInt32
  network : UInt32
  deriving DecidableEq

/-- `pcap_rec_hdr_t`: the header in front of every packet of a capture file. -/
structure PcapRecHdr where
  tsSec : UInt32
  tsUsec : UInt32
  inclLen : UInt32
  origLen : UInt32
  deriving DecidableEq

/-- `ieee80211_radiotap_header_t` -/
structure Ieee80211RadiotapHeader where
  itVersion : UInt8
  itPad : UInt8
  itLen : UInt16
  itPresent : UInt32
  deriving DecidableEq

/-- `r_tapdata_channel_t`: the XChannel field. -/
structure RTapdataChannel where
  flags : UInt32
  freq : UInt16
  channel : UInt8
  maxPower : UInt8
  deriving DecidableEq

/-- `r_tapdata_t`: the radiotap fields, in the order of their present bits, with
the padding byte that aligns the XChannel field. -/
structure RTapdata where
  signal : Int8
  noise : Int8
  antenna : UInt8
  padForChannel : UInt8
  rTapdataChannel : RTapdataChannel
  deriving DecidableEq

/-- `pcap_rec_t`, whose buffer has the configured snap length. -/
structure PcapRec (snapLen : Nat) where
  pcapRecHdr : PcapRecHdr
  ieee80211RadiotapHeader : Ieee80211RadiotapHeader
  rTapdata : RTapdata
  buf : Vector UInt8 snapLen

/-- The members of the driver's `wifi_pkt_rx_ctrl_t` that the sniffer uses.  The
antenna and channel bit fields are one and four bits wide in the driver; they
are kept here at the width of the members they are copied to. -/
structure WifiPktRxCtrl where
  rssi : Int8
  noiseFloor : Int8
  channel : UInt8
  ant : UInt8
  timestamp : UInt32
  sigLen : BitVec 12
  rxState : UInt8
  deriving DecidableEq

/-- `wifi_promiscuous_pkt_t`.  The payload is a flexible array inside a driver
buffer, so it is the memory from its first byte on, without an end of its own. -/
structure WifiPromiscuousPkt where
  rxCtrl : WifiPktRxCtrl
  payload : Nat → UInt8

/-! ## Bytes in memory -/

def PcapHdr.bytes (hdr : PcapHdr) : List UInt8 :=
  leBytes 4 hdr.magicNumber.toNat ++
    (leBytes 2 hdr.versionMajor.toNat ++
      (leBytes 2 hdr.versionMinor.toNat ++
        (leBytes 4 hdr.thiszone.toNat ++
          (leBytes 4 hdr.sigfigs.toNat ++
            (leBytes 4 hdr.snaplen.toNat ++ leBytes 4 hdr.network.toNat)))))

def PcapRecHdr.bytes (hdr : PcapRecHdr) : List UInt8 :=
  leBytes 4 hdr.tsSec.toNat ++
    (leBytes 4 hdr.tsUsec.toNat ++
      (leBytes 4 hdr.inclLen.toNat ++ leBytes 4 hdr.origLen.toNat))

def Ieee80211RadiotapHeader.bytes (hdr : Ieee80211RadiotapHeader) : List UInt8 :=
  [hdr.itVersion, hdr.itPad] ++ (leBytes 2 hdr.itLen.toNat ++ leBytes 4 hdr.itPresent.toNat)

def RTapdataChannel.bytes (xchannel : RTapdataChannel) : List UInt8 :=
  leBytes 4 xchannel.flags.toNat ++
    (leBytes 2 xchannel.freq.toNat ++ [xchannel.channel, xchannel.maxPower])

def RTapdata.bytes (tapdata : RTapdata) : List UInt8 :=
  [tapdata.signal.toUInt8, tapdata.noise.toUInt8, tapdata.antenna, tapdata.padForChannel] ++
    tapdata.rTapdataChannel.bytes

def PcapRec.bytes {snapLen : Nat} (record : PcapRec snapLen) : List UInt8 :=
  record.pcapRecHdr.bytes ++
    (record.ieee80211RadiotapHeader.bytes ++
      (record.rTapdata.bytes ++ record.buf.toList))

@[simp]
theorem PcapHdr.bytes_length (hdr : PcapHdr) : hdr.bytes.length = 24 := by
  simp [PcapHdr.bytes]

@[simp]
theorem PcapRecHdr.bytes_length (hdr : PcapRecHdr) : hdr.bytes.length = 16 := by
  simp [PcapRecHdr.bytes]

@[simp]
theorem Ieee80211RadiotapHeader.bytes_length (hdr : Ieee80211RadiotapHeader) :
    hdr.bytes.length = 8 := by
  simp [Ieee80211RadiotapHeader.bytes]

@[simp]
theorem RTapdata.bytes_length (tapdata : RTapdata) : tapdata.bytes.length = 12 := by
  simp [RTapdata.bytes, RTapdataChannel.bytes]

/-- `sizeof(pcap_rec_t)` -/
@[simp]
theorem PcapRec.bytes_length {snapLen : Nat} (record : PcapRec snapLen) :
    record.bytes.length = 36 + snapLen := by
  simp [PcapRec.bytes]
  omega

/-! ## Static headers -/

/-- The static `pcap_hdr`: format 2.4, link type IEEE802_11_RADIOTAP. -/
def pcapHdr (cfg : SdkConfig) : PcapHdr where
  magicNumber := 0xa1b2c3d4
  versionMajor := 2
  versionMinor := 4
  thiszone := 0
  sigfigs := 0
  snaplen := UInt32.ofNat cfg.snapLen
  network := 127

/-- `IT_PRESENT` -/
def itPresent : UInt32 :=
  0b00000000000001000000100001100000

/-- The static `ieee80211_radiotap_header`; its length covers itself and
`r_tapdata_t`. -/
def ieee80211RadiotapHeader : Ieee80211RadiotapHeader where
  itVersion := 0
  itPad := 0
  itLen := 8 + 12
  itPresent := itPresent

@[simp]
theorem pcapHdr_snaplen_toNat (cfg : SdkConfig) :
    (pcapHdr cfg).snaplen.toNat = cfg.snapLen := by
  have snap_le := cfg.snapLen_le
  simp only [pcapHdr, UInt32.toNat_ofNat']
  omega

/-! ## Building a record -/

/-- `memcpy` into an array: the first bytes come from the source, the rest of
the array keeps its content. -/
def memcpy {size : Nat} (target : Vector UInt8 size) (source : List UInt8) :
    Vector UInt8 size :=
  Vector.ofFn fun index => source.getD index target[index]

/-- The record header that `capture_create_pcap_record` computes from the
receive control data. -/
def createPcapRecHdr (cfg : SdkConfig) (ctrl : WifiPktRxCtrl) : PcapRecHdr :=
  let sigPacketLength : UInt32 := UInt32.ofNat ctrl.sigLen.toNat
  let packLen : UInt32 := sigPacketLength + ieee80211RadiotapHeader.itLen.toUInt32
  { tsSec := ctrl.timestamp / 1000000
    tsUsec := ctrl.timestamp % 1000000
    inclLen := if packLen > (pcapHdr cfg).snaplen then (pcapHdr cfg).snaplen else packLen
    origLen := packLen }

/-- `capture_create_pcap_record`.  The copy takes `incl_len` bytes of payload,
although only `incl_len - it_len` of them are part of what is sent. -/
def captureCreatePcapRecord (cfg : SdkConfig) (ctrl : WifiPktRxCtrl) :
    Read Nat UInt8 (PcapRec cfg.snapLen) := do
  let pcapRecHdr := createPcapRecHdr cfg ctrl
  let copied ← Read.block (List.range pcapRecHdr.inclLen.toNat)
  pure
    { pcapRecHdr := pcapRecHdr
      ieee80211RadiotapHeader := ieee80211RadiotapHeader
      rTapdata :=
        { signal := ctrl.rssi
          noise := ctrl.noiseFloor
          antenna := ctrl.ant
          padForChannel := 0
          rTapdataChannel :=
            { flags := 0, freq := 0, channel := ctrl.channel, maxPower := 0 } }
      buf := memcpy (Vector.replicate cfg.snapLen 0) copied }

/-- `capture_get_size`, in the 32-bit `size_t` of the target. -/
def captureGetSize (hdr : PcapRecHdr) : UInt32 :=
  16 + hdr.inclLen

/-- The part of a record that `on_capture` passes to the socket: `total_size`
bytes from the start of the structure. -/
def PcapRec.sentBytes {snapLen : Nat} (record : PcapRec snapLen) : List UInt8 :=
  record.bytes.take (captureGetSize record.pcapRecHdr).toNat

/-- `SNIFFER_PAYLOAD_FCS_LEN` taken off the 12-bit length field, as the packet
handler does before it builds a record. -/
def WifiPktRxCtrl.withoutFcs (ctrl : WifiPktRxCtrl) : WifiPktRxCtrl :=
  { ctrl with sigLen := ctrl.sigLen - 4 }

/-- The record the packet handler builds for a packet it accepts. -/
def builtRecord (cfg : SdkConfig) (pkt : WifiPromiscuousPkt) : PcapRec cfg.snapLen :=
  (captureCreatePcapRecord cfg pkt.rxCtrl.withoutFcs).value pkt.payload

/-! ## Lengths -/

section Lengths

variable (cfg : SdkConfig) (ctrl : WifiPktRxCtrl)

/-- The length of the packet with its radiotap part never overflows. -/
theorem createPcapRecHdr_origLen_toNat :
    (createPcapRecHdr cfg ctrl).origLen.toNat = ctrl.sigLen.toNat + 20 := by
  have sigLen_lt : ctrl.sigLen.toNat < 4096 := ctrl.sigLen.isLt
  have itLen_eq : ieee80211RadiotapHeader.itLen.toUInt32 = 20 := rfl
  simp only [createPcapRecHdr, itLen_eq, UInt32.toNat_add, UInt32.toNat_ofNat',
    UInt32.reduceToNat]
  omega

/-- The clamp to the snap length is a minimum. -/
theorem createPcapRecHdr_inclLen_toNat :
    (createPcapRecHdr cfg ctrl).inclLen.toNat =
      min (ctrl.sigLen.toNat + 20) cfg.snapLen := by
  have origLen_eq := createPcapRecHdr_origLen_toNat cfg ctrl
  have inclLen_eq : (createPcapRecHdr cfg ctrl).inclLen =
      if (createPcapRecHdr cfg ctrl).origLen > (pcapHdr cfg).snaplen then
        (pcapHdr cfg).snaplen
      else (createPcapRecHdr cfg ctrl).origLen := rfl
  rw [inclLen_eq]
  split
  · rename_i clamped
    rw [gt_iff_lt, UInt32.lt_iff_toNat_lt, pcapHdr_snaplen_toNat, origLen_eq] at clamped
    rw [pcapHdr_snaplen_toNat]
    omega
  · rename_i kept
    rw [gt_iff_lt, UInt32.lt_iff_toNat_lt, pcapHdr_snaplen_toNat, origLen_eq] at kept
    rw [origLen_eq]
    omega

theorem captureGetSize_createPcapRecHdr_toNat :
    (captureGetSize (createPcapRecHdr cfg ctrl)).toNat =
      16 + min (ctrl.sigLen.toNat + 20) cfg.snapLen := by
  have snap_le := cfg.snapLen_le
  have inclLen_eq := createPcapRecHdr_inclLen_toNat cfg ctrl
  simp only [captureGetSize, UInt32.toNat_add, UInt32.reduceToNat, inclLen_eq]
  omega

/-- On a length that covers the checksum the bit field subtraction is exact. -/
theorem withoutFcs_sigLen_toNat (covers : 4 ≤ ctrl.sigLen.toNat) :
    ctrl.withoutFcs.sigLen.toNat = ctrl.sigLen.toNat - 4 := by
  have sigLen_lt : ctrl.sigLen.toNat < 4096 := ctrl.sigLen.isLt
  have four_toNat : (4 : BitVec 12).toNat = 4 := rfl
  simp only [WifiPktRxCtrl.withoutFcs, BitVec.toNat_sub, four_toNat]
  omega

end Lengths

/-! ## Content -/

/-- The leading bytes of a copy are those of its source. -/
theorem memcpy_toList_take {size : Nat} (target : Vector UInt8 size) {source : List UInt8}
    {count : Nat} (in_source : count ≤ source.length) (in_target : count ≤ size) :
    (memcpy target source).toList.take count = source.take count := by
  apply List.ext_getElem
  · simp
    omega
  · intro index inFirst inSecond
    have index_lt : index < source.length := by
      rw [List.length_take] at inSecond
      omega
    simp [memcpy, List.getElem?_eq_getElem index_lt]

/-- The buffer of a record holds the copied payload bytes and is zero behind them. -/
theorem captureCreatePcapRecord_buf_getElem (cfg : SdkConfig) (ctrl : WifiPktRxCtrl)
    (payload : Nat → UInt8) (index : Nat) (inside : index < cfg.snapLen) :
    ((captureCreatePcapRecord cfg ctrl).value payload).buf[index] =
      if index < (createPcapRecHdr cfg ctrl).inclLen.toNat then payload index else 0 := by
  simp only [captureCreatePcapRecord, Read.value_bind, Read.value_pure, Read.value_block,
    memcpy, Vector.getElem_ofFn, List.getD_eq_getElem?_getD, List.getElem?_map]
  by_cases copied : index < (createPcapRecHdr cfg ctrl).inclLen.toNat
  · simp [copied]
  · simp [copied]

/-- The bytes sent for a record: its three headers and then the leading payload
bytes that `incl_len` leaves room for. -/
theorem sentBytes_captureCreatePcapRecord (cfg : SdkConfig) (ctrl : WifiPktRxCtrl)
    (payload : Nat → UInt8) :
    ((captureCreatePcapRecord cfg ctrl).value payload).sentBytes =
      (createPcapRecHdr cfg ctrl).bytes ++
        (ieee80211RadiotapHeader.bytes ++
          (((captureCreatePcapRecord cfg ctrl).value payload).rTapdata.bytes ++
            (List.range (min ctrl.sigLen.toNat (cfg.snapLen - 20))).map payload)) := by
  have snap_ge := cfg.snapLen_ge
  have inclLen_eq := createPcapRecHdr_inclLen_toNat cfg ctrl
  have size_eq := captureGetSize_createPcapRecHdr_toNat cfg ctrl
  have copied_eq :
      ((captureCreatePcapRecord cfg ctrl).value payload).buf.toList.take
          (min ctrl.sigLen.toNat (cfg.snapLen - 20)) =
        (List.range (min ctrl.sigLen.toNat (cfg.snapLen - 20))).map payload := by
    simp only [captureCreatePcapRecord, Read.value_bind, Read.value_pure, Read.value_block]
    rw [memcpy_toList_take, ← List.map_take, List.take_range, Nat.min_eq_left]
    · omega
    · simp
      omega
    · omega
  have total_eq : (captureGetSize (createPcapRecHdr cfg ctrl)).toNat =
      16 + (8 + (12 + min ctrl.sigLen.toNat (cfg.snapLen - 20))) := by
    rw [size_eq]
    omega
  have hdr_eq : ((captureCreatePcapRecord cfg ctrl).value payload).pcapRecHdr =
      createPcapRecHdr cfg ctrl := rfl
  have radiotap_eq :
      ((captureCreatePcapRecord cfg ctrl).value payload).ieee80211RadiotapHeader =
        ieee80211RadiotapHeader := rfl
  rw [PcapRec.sentBytes, PcapRec.bytes, hdr_eq, radiotap_eq, total_eq,
    take_add_append _ (PcapRecHdr.bytes_length _),
    take_add_append _ (Ieee80211RadiotapHeader.bytes_length _),
    take_add_append _ (RTapdata.bytes_length _), copied_eq]

end WifiSniffer.Capture
