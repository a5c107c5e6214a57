import WifiSniffer.Capture.Record
import WifiSniffer.Handler.AddrFilter

/-!
# The packet handler

`wifi_sniffer_packet_handler` decides about every received packet and builds a
record for those it accepts.  The handler is a reading computation over the
packet's payload, so its decision comes with the payload bytes it looked at.

`handler_value` states the decision once and for all as a predicate on the
packet and the filters; later results about the handler use it instead of the
code.
-/

namespace WifiSniffer.Handler

open WifiSniffer.Bytes WifiSniffer.Memory WifiSniffer.Capture

/-! ## The code -/

/-- The filter variables of `wifi_sniffer.c` that the handler uses. -/
structure Filters where
  addrOwnMac : AddrFilter
  addr2Filter : AddrFilter
  rssiFilter : Int8

/-- Whether `xSemaphoreTake` and `xSemaphoreGive` on `_filter_sem` succeed. -/
structure SemaphoreOutcome where
  take : Bool
  give : Bool
  deriving DecidableEq

/-- Both operations on the semaphore succeed. -/
def SemaphoreOutcome.Succeeds (semaphore : SemaphoreOutcome) : Prop :=
  semaphore.take = true ∧ semaphore.give = true

instance (semaphore : SemaphoreOutcome) : Decidable semaphore.Succeeds :=
  inferInstanceAs (Decidable (_ ∧ _))

/-- The handler's local variables `isOwnAddress` and `macFilter`. -/
structure AddressFlags where
  isOwnAddress : Bool
  macFilter : Bool
  deriving DecidableEq

/-- The header fields compared with `addr_own_mac` and with `addr2_filter`, each
in the order of the source. -/
structure ComparedFields where
  own : List Nat
  source : List Nat

/-- The nested switches of the handler.  Branches that compare nothing leave both
variables at their initial value `false`. -/
def comparedFields (type : WifiPromiscuousPktType) (fc : Nat) : ComparedFields :=
  let subtype := fcSubtype fc
  let toDs := fcToDs fc
  let fromDs := fcFromDs fc
  match type with
  | .mgmt =>
      { own := [WifiManagmentHdr.sa, WifiManagmentHdr.da, WifiManagmentHdr.bssid]
        source := [WifiManagmentHdr.sa, WifiManagmentHdr.da] }
  | .data =>
      if !fromDs && !toDs then
        { own := [WifiDataIbssHdr.sa, WifiDataIbssHdr.da]
          source := [WifiDataIbssHdr.sa] }
      else if fromDs && !toDs then
        { own := [WifiDataFromApHdr.sa, WifiDataFromApHdr.da]
          source := [WifiDataFromApHdr.sa] }
      else if !fromDs && toDs then
        { own := [WifiDataToApHdr.sa, WifiDataToApHdr.da]
          source := [WifiDataToApHdr.sa] }
      else
        { own := [WifiDataWdsHdr.ta, WifiDataWdsHdr.ra]
          source := [WifiDataWdsHdr.ta] }
  | .ctrl =>
      if subtype = wifiPktCtrlSubtypeBar then
        { own := [WifiCtrlBaHdr.ta, WifiCtrlBaHdr.ra], source := [WifiCtrlBaHdr.ta] }
      else if subtype = wifiPktCtrlSubtypeBa then
        { own := [WifiCtrlBaHdr.ta, WifiCtrlBaHdr.ra], source := [WifiCtrlBaHdr.ta] }
      else if subtype = wifiPktCtrlSubtypePsPoll then
        { own := [WifiCtrlPsPollHdr.ta], source := [WifiCtrlPsPollHdr.ta] }
      else if subtype = wifiPktCtrlSubtypeRts then
        { own := [WifiCtrlRtsHdr.ta, WifiCtrlRtsHdr.ra], source := [WifiCtrlRtsHdr.ta] }
      else if subtype = wifiPktCtrlSubtypeCts then
        { own := [WifiCtrlCtsHdr.ra], source := [WifiCtrlCtsHdr.ra] }
      else if subtype = wifiPktCtrlSubtypeAck then
        { own := [WifiCtrlAckHdr.ra], source := [WifiCtrlAckHdr.ra] }
      else
        { own := [], source := [] }
  | .misc => { own := [], source := [] }

/-- One branch of the switches: two chains of `||`. -/
def compareFields (filters : Filters) (fields : ComparedFields) :
    Read Nat UInt8 AddressFlags := do
  let isOwnAddress ← Read.firstTrue
    (fields.own.map fun field => isAddrEquel field filters.addrOwnMac)
  let macFilter ← Read.firstTrue
    (fields.source.map fun field => isAddrEquel field filters.addr2Filter)
  pure { isOwnAddress, macFilter }

/-- The address part of the handler.  A semaphore that cannot be taken or given
back lets the packet through. -/
def addressFlags (filters : Filters) (semaphore : SemaphoreOutcome)
    (type : WifiPromiscuousPktType) (fc : Nat) : Read Nat UInt8 AddressFlags :=
  if semaphore.take then
    if !semaphore.give then pure { isOwnAddress := false, macFilter := true }
    else compareFields filters (comparedFields type fc)
  else pure { isOwnAddress := false, macFilter := true }

/-- The handler's local variable `rssiFilter`. -/
def rssiPasses (filters : Filters) (ctrl : WifiPktRxCtrl) : Prop :=
  filters.rssiFilter = 0 ∨ (filters.rssiFilter < 0 ∧ ctrl.rssi ≥ filters.rssiFilter)

instance (filters : Filters) (ctrl : WifiPktRxCtrl) : Decidable (rssiPasses filters ctrl) :=
  inferInstanceAs (Decidable (_ ∨ _))

/-- `wifi_sniffer_packet_handler`.  The result is the record passed to
`sniffer_add_queue`, if any. -/
def wifiSnifferPacketHandler (cfg : SdkConfig) (filters : Filters)
    (semaphore : SemaphoreOutcome) (type : WifiPromiscuousPktType) (ctrl : WifiPktRxCtrl) :
    Read Nat UInt8 (Option (PcapRec cfg.snapLen)) :=
  if type ≠ .misc ∧ ctrl.rxState = 0 then do
    let word ← Read.block [0, 1]
    let fc := ofLe word
    let flags ← addressFlags filters semaphore type fc
    if rssiPasses filters ctrl ∧ !flags.isOwnAddress ∧ flags.macFilter then do
      let pcapRec ← captureCreatePcapRecord cfg ctrl.withoutFcs
      pure (some pcapRec)
    else pure none
  else pure none

/-- One call of the handler with everything it depends on. -/
structure Reception where
  filters : Filters
  semaphore : SemaphoreOutcome
  type : WifiPromiscuousPktType
  pkt : WifiPromiscuousPkt

/-- The record a call of the handler offers to the queue. -/
def Reception.record (cfg : SdkConfig) (call : Reception) : Option (PcapRec cfg.snapLen) :=
  (wifiSnifferPacketHandler cfg call.filters call.semaphore call.type call.pkt.rxCtrl).value
    call.pkt.payload

/-! ## The decision -/

section Decision

variable (filters : Filters) (semaphore : SemaphoreOutcome)
  (type : WifiPromiscuousPktType) (frame : Nat → UInt8)

/-- Some compared field equals the own address. -/
def OwnMatches : Prop :=
  ∃ field ∈ (comparedFields type (Dot11.frameControl frame)).own,
    filters.addrOwnMac.Matches frame field

/-- Some compared field passes the source filter. -/
def SourceMatches : Prop :=
  ∃ field ∈ (comparedFields type (Dot11.frameControl frame)).source,
    filters.addr2Filter.Matches frame field

instance : Decidable (OwnMatches filters type frame) :=
  inferInstanceAs (Decidable (∃ field ∈ _, _))

instance : Decidable (SourceMatches filters type frame) :=
  inferInstanceAs (Decidable (∃ field ∈ _, _))

/-- The address part of the decision: with a working semaphore no compared field
is the own address and one passes the source filter. -/
def AddressAccepts : Prop :=
  semaphore.Succeeds → ¬ OwnMatches filters type frame ∧ SourceMatches filters type frame

instance : Decidable (AddressAccepts filters semaphore type frame) :=
  inferInstanceAs (Decidable (_ → _))

/-- The decision of the handler. -/
def Accepts (ctrl : WifiPktRxCtrl) : Prop :=
  (type ≠ .misc ∧ ctrl.rxState = 0) ∧ rssiPasses filters ctrl ∧
    AddressAccepts filters semaphore type frame

instance (ctrl : WifiPktRxCtrl) : Decidable (Accepts filters semaphore type frame ctrl) :=
  inferInstanceAs (Decidable (_ ∧ _))

/-- A chain of comparisons finds a field the filter accepts, if there is one. -/
theorem firstTrue_isAddrEquel_value (filter : AddrFilter) (fields : List Nat) :
    (Read.firstTrue (fields.map fun field => isAddrEquel field filter)).value frame =
      decide (∃ field ∈ fields, filter.Matches frame field) := by
  rw [Bool.eq_iff_iff, Read.value_firstTrue, List.any_map]
  simp

theorem addressFlags_value :
    (addressFlags filters semaphore type (Dot11.frameControl frame)).value frame =
      if semaphore.Succeeds then
        { isOwnAddress := decide (OwnMatches filters type frame)
          macFilter := decide (SourceMatches filters type frame) }
      else { isOwnAddress := false, macFilter := true } := by
  rcases semaphore with ⟨_ | _, _ | _⟩
  case true.true =>
    change (compareFields filters (comparedFields type (Dot11.frameControl frame))).value
      frame = _
    rw [compareFields, Read.value_bind, Read.value_bind, firstTrue_isAddrEquel_value,
      firstTrue_isAddrEquel_value]
    rfl
  all_goals rfl

/-- The flags reject a packet exactly when the address part of the decision does. -/
theorem addressFlags_value_accepts_iff :
    (((addressFlags filters semaphore type (Dot11.frameControl frame)).value
          frame).isOwnAddress = false ∧
        ((addressFlags filters semaphore type (Dot11.frameControl frame)).value
          frame).macFilter = true) ↔
      AddressAccepts filters semaphore type frame := by
  rw [addressFlags_value, AddressAccepts]
  by_cases succeeds : semaphore.Succeeds <;> simp [succeeds]

/-- Specification of the handler: exactly the accepted packets yield a record,
and it is the record of the packet without its checksum. -/
theorem handler_value (cfg : SdkConfig) (ctrl : WifiPktRxCtrl) :
    (wifiSnifferPacketHandler cfg filters semaphore type ctrl).value frame =
      if Accepts filters semaphore type frame ctrl then
        some ((captureCreatePcapRecord cfg ctrl.withoutFcs).value frame)
      else none := by
  have address_iff := addressFlags_value_accepts_iff filters semaphore type frame
  by_cases received : type ≠ .misc ∧ ctrl.rxState = 0
  · rw [wifiSnifferPacketHandler, if_pos received, Read.value_bind, Read.value_bind,
      Read.value_ite]
    apply if_congr
    · rw [Accepts, ← address_iff]
      simp [received, Dot11.frameControl]
    · rfl
    · rfl
  · have rejected : ¬ Accepts filters semaphore type frame ctrl :=
      fun accepts => received accepts.1
    rw [wifiSnifferPacketHandler, if_neg received, if_neg rejected]
    rfl

end Decision

/-- The filters of a call let its packet pass. -/
def Reception.Accepted (call : Reception) : Prop :=
  Accepts call.filters call.semaphore call.type call.pkt.payload call.pkt.rxCtrl

instance (call : Reception) : Decidable call.Accepted :=
  inferInstanceAs (Decidable (Accepts _ _ _ _ _))

/-- A call offers a record exactly when it accepts its packet, and the record is
the one built for the packet. -/
theorem Reception.record_eq (cfg : SdkConfig) (call : Reception) :
    call.record cfg = if call.Accepted then some (builtRecord cfg call.pkt) else none :=
  handler_value call.filters call.semaphore call.type call.pkt.payload cfg call.pkt.rxCtrl

end WifiSniffer.Handler
