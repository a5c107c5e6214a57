import WifiSniffer.Bytes.LittleEndian

/-!
# 802.11 headers

The structures of `wifi_sniffer.h` that the packet handler overlays on a
payload.  They are packed, so each is given by the offsets of its address
fields.  The second half names the same bytes the way the 802.11 standard does,
independently of the overlays.
-/

namespace WifiSniffer.Handler

open WifiSniffer.Bytes

/-- `wifi_promiscuous_pkt_type_t` -/
inductive WifiPromiscuousPktType
  | mgmt
  | ctrl
  | data
  | misc
  deriving DecidableEq

/-! ## Frame control macros -/

/-- `FC_SUBTYPE` -/
def fcSubtype (fc : Nat) : Nat :=
  (fc >>> 4) &&& 0xF

/-- `FC_TO_DS` -/
def fcToDs (fc : Nat) : Bool :=
  (fc >>> 8) &&& 0x1 != 0

/-- `FC_FROM_DS` -/
def fcFromDs (fc : Nat) : Bool :=
  (fc >>> 9) &&& 0x1 != 0

/-! ## Control subtypes -/

def wifiPktCtrlSubtypeBar : Nat := 0x8
def wifiPktCtrlSubtypeBa : Nat := 0x9
def wifiPktCtrlSubtypePsPoll : Nat := 0xA
def wifiPktCtrlSubtypeRts : Nat := 0xB
def wifiPktCtrlSubtypeCts : Nat := 0xC
def wifiPktCtrlSubtypeAck : Nat := 0xD

/-! ## Overlays -/

/-- `sizeof(wifi_base_hdr_t)`: frame control and duration. -/
def wifiBaseHdrSize : Nat :=
  2 + 2

/-- The size of an address member. -/
def macSize : Nat :=
  6

namespace WifiManagmentHdr

def da : Nat := wifiBaseHdrSize
def sa : Nat := da + macSize
def bssid : Nat := sa + macSize

end WifiManagmentHdr

namespace WifiDataIbssHdr

def da : Nat := wifiBaseHdrSize
def sa : Nat := da + macSize

end WifiDataIbssHdr

namespace WifiDataFromApHdr

def da : Nat := wifiBaseHdrSize
def ta : Nat := da + macSize
def sa : Nat := ta + macSize

end WifiDataFromApHdr

namespace WifiDataToApHdr

def ra : Nat := wifiBaseHdrSize
def sa : Nat := ra + macSize
def da : Nat := sa + macSize

end WifiDataToApHdr

namespace WifiDataWdsHdr

def ra : Nat := wifiBaseHdrSize
def ta : Nat := ra + macSize
def da : Nat := ta + macSize
def seqctl : Nat := da + macSize
def sa : Nat := seqctl + 2

end WifiDataWdsHdr

namespace WifiCtrlRtsHdr

def ra : Nat := wifiBaseHdrSize
def ta : Nat := ra + macSize

end WifiCtrlRtsHdr

/-- `wifi_ctrl_cts_hdr_t` -/
def WifiCtrlCtsHdr.ra : Nat := wifiBaseHdrSize

/-- `wifi_ctrl_ack_hdr_t` -/
def WifiCtrlAckHdr.ra : Nat := wifiBaseHdrSize

namespace WifiCtrlPsPollHdr

def bssid : Nat := wifiBaseHdrSize
def ta : Nat := bssid + macSize

end WifiCtrlPsPollHdr

namespace WifiCtrlBaHdr

def ra : Nat := wifiBaseHdrSize
def ta : Nat := ra + macSize

end WifiCtrlBaHdr

/-! ## The standard's view -/

namespace Dot11

/-- The address fields of a MAC header. -/
inductive Address
  | address1
  | address2
  | address3
  | address4
  deriving DecidableEq

/-- Where an address field starts; the sequence control field lies between the
third and the fourth. -/
def Address.offset : Address → Nat
  | .address1 => 4
  | .address2 => 10
  | .address3 => 16
  | .address4 => 24

/-- The six bytes of an address field. -/
def Address.bytes (address : Address) (frame : Nat → UInt8) : List UInt8 :=
  (List.range' address.offset 6).map frame

def frameControl (frame : Nat → UInt8) : Nat :=
  ofLe [frame 0, frame 1]

def toDs (frame : Nat → UInt8) : Bool :=
  (frameControl frame).testBit 8

def fromDs (frame : Nat → UInt8) : Bool :=
  (frameControl frame).testBit 9

def subtype (frame : Nat → UInt8) : Nat :=
  frameControl frame / 16 % 16

/-- Which address field of a data frame holds the source address. -/
def sourceAddress (frame : Nat → UInt8) : Address :=
  match fromDs frame, toDs frame with
  | false, _ => .address2
  | true, false => .address3
  | true, true => .address4

/-- The address fields a frame has.  Among the control frames only CTS, ACK and
the control wrapper have no transmitter address. -/
def addresses (type : WifiPromiscuousPktType) (frame : Nat → UInt8) : List Address :=
  match type with
  | .mgmt => [.address1, .address2, .address3]
  | .data =>
      if toDs frame && fromDs frame then
        [.address1, .address2, .address3, .address4]
      else [.address1, .address2, .address3]
  | .ctrl =>
      if subtype frame ∈ [0x7, 0xC, 0xD] then [.address1] else [.address1, .address2]
  | .misc => []

end Dot11

/-! ## Agreement of the two views -/

theorem fcToDs_frameControl (frame : Nat → UInt8) :
    fcToDs (Dot11.frameControl frame) = Dot11.toDs frame := by
  rw [fcToDs, Dot11.toDs, Nat.testBit, Nat.and_comm]

theorem fcFromDs_frameControl (frame : Nat → UInt8) :
    fcFromDs (Dot11.frameControl frame) = Dot11.fromDs frame := by
  rw [fcFromDs, Dot11.fromDs, Nat.testBit, Nat.and_comm]

theorem fcSubtype_frameControl (frame : Nat → UInt8) :
    fcSubtype (Dot11.frameControl frame) = Dot11.subtype frame := by
  rw [fcSubtype, Dot11.subtype, Nat.shiftRight_eq_div_pow]
  exact Nat.and_two_pow_sub_one_eq_mod _ 4

end WifiSniffer.Handler
