import WifiSniffer.Handler.PacketHandler
import Mathlib.Tactic.Tauto

/-!
# What the decision means

The handler's comparisons are made on overlays; these results restate them in
the standard's terms: which address of a data frame the source filter sees, which
frames of the own interface are recognised, and which frames pass when no filter
is set.
-/

namespace WifiSniffer.Handler

open WifiSniffer.Memory WifiSniffer.Capture
open Dot11 (Address frameControl toDs fromDs subtype sourceAddress addresses)

/-! ## Comparisons by frame type -/

section Comparisons

variable (filters : Filters) (frame : Nat → UInt8)

/-- A comparison of the own address with a full filter is an equality. -/
theorem ownMatches_iff (type : WifiPromiscuousPktType) (compared : List Address)
    (full : filters.addrOwnMac.size = 6)
    (fields_eq : (comparedFields type (frameControl frame)).own = compared.map Address.offset) :
    OwnMatches filters type frame ↔
      ∃ address ∈ compared, address.bytes frame = filters.addrOwnMac.bytes := by
  simp [OwnMatches, fields_eq, AddrFilter.matches_iff_eq full]

theorem sourceMatches_iff (type : WifiPromiscuousPktType) (compared : List Address)
    (fields_eq : (comparedFields type (frameControl frame)).source =
      compared.map Address.offset) :
    SourceMatches filters type frame ↔
      ∃ address ∈ compared, filters.addr2Filter.Matches frame address.offset := by
  simp [SourceMatches, fields_eq]

/-- The address fields of a data frame that are compared with the own address. -/
def dataOwn : List Address :=
  match fromDs frame, toDs frame with
  | false, false => [.address2, .address1]
  | true, false => [.address3, .address1]
  | false, true => [.address2, .address3]
  | true, true => [.address2, .address1]

/-- The address field of a data frame that the source filter is applied to. -/
def dataSource : Address :=
  if fromDs frame && !toDs frame then .address3 else .address2

theorem comparedFields_data :
    comparedFields .data (frameControl frame) =
      { own := (dataOwn frame).map Address.offset
        source := [dataSource frame].map Address.offset } := by
  unfold comparedFields dataOwn dataSource
  rw [fcToDs_frameControl, fcFromDs_frameControl]
  cases fromDs frame <;> cases toDs frame <;> rfl

theorem comparedFields_mgmt :
    comparedFields .mgmt (frameControl frame) =
      { own := [Address.address2, .address1, .address3].map Address.offset
        source := [Address.address2, .address1].map Address.offset } :=
  rfl

/-- The address fields of a control frame that are compared with the own address,
with the field the source filter is applied to. -/
def ctrlCompared : List Address × List Address :=
  if subtype frame ∈ [0x8, 0x9, 0xB] then ([.address2, .address1], [.address2])
  else if subtype frame = 0xA then ([.address2], [.address2])
  else if subtype frame ∈ [0xC, 0xD] then ([.address1], [.address1])
  else ([], [])

theorem comparedFields_ctrl :
    comparedFields .ctrl (frameControl frame) =
      { own := (ctrlCompared frame).1.map Address.offset
        source := (ctrlCompared frame).2.map Address.offset } := by
  unfold comparedFields ctrlCompared
  simp only [fcSubtype_frameControl, wifiPktCtrlSubtypeBar, wifiPktCtrlSubtypeBa,
    wifiPktCtrlSubtypePsPoll, wifiPktCtrlSubtypeRts, wifiPktCtrlSubtypeCts,
    wifiPktCtrlSubtypeAck]
  generalize subtype frame = kind
  by_cases bar : kind = 0x8
  · subst bar; rfl
  by_cases ba : kind = 0x9
  · subst ba; rfl
  by_cases psPoll : kind = 0xA
  · subst psPoll; rfl
  by_cases rts : kind = 0xB
  · subst rts; rfl
  by_cases cts : kind = 0xC
  · subst cts; rfl
  by_cases ack : kind = 0xD
  · subst ack; rfl
  simp [bar, ba, psPoll, rts, cts, ack]

end Comparisons

/-! ## The source filter -/

/-- The source filter means what it says: it is empty, or its bytes are a prefix
of the frame's source address. -/
def PassesSource (filters : Filters) (frame : Nat → UInt8) : Prop :=
  filters.addr2Filter.size = 0 ∨
    filters.addr2Filter.bytes <+: (sourceAddress frame).bytes frame

/-- The handler's `macFilter` for a data frame. -/
def dataMacFilter (filters : Filters) (semaphore : SemaphoreOutcome)
    (frame : Nat → UInt8) : Bool :=
  ((addressFlags filters semaphore .data (frameControl frame)).value frame).macFilter

theorem dataMacFilter_eq (filters : Filters) (semaphore : SemaphoreOutcome)
    (frame : Nat → UInt8) :
    dataMacFilter filters semaphore frame =
      decide (semaphore.Succeeds →
        filters.addr2Filter.Matches frame (dataSource frame).offset) := by
  have source_iff := sourceMatches_iff filters frame .data [dataSource frame]
    (by rw [comparedFields_data])
  rw [dataMacFilter, addressFlags_value]
  by_cases succeeds : semaphore.Succeeds <;> simp [succeeds, source_iff]

/-- With a working semaphore the filter sees the source address of every data
frame but those with both DS bits, for which it sees the transmitter address
instead; it then answers correctly only if the filter treats both alike.  With a
failing semaphore every frame passes. -/
theorem dataMacFilter_correct_iff (filters : Filters) (semaphore : SemaphoreOutcome)
    (frame : Nat → UInt8) (fits : filters.addr2Filter.size ≤ 6) :
    (dataMacFilter filters semaphore frame = true ↔ PassesSource filters frame) ↔
      (semaphore.Succeeds → toDs frame = true → fromDs frame = true →
        (filters.addr2Filter.bytes <+: Address.address2.bytes frame ↔
          filters.addr2Filter.bytes <+: Address.address4.bytes frame)) ∧
      (¬ semaphore.Succeeds → PassesSource filters frame) := by
  have passes_iff : PassesSource filters frame ↔
      filters.addr2Filter.bytes <+: (sourceAddress frame).bytes frame := by
    rw [← AddrFilter.matches_iff_prefix fits, PassesSource,
      ← AddrFilter.matches_iff_prefix fits]
    exact or_iff_right_of_imp Or.inl
  rw [dataMacFilter_eq, decide_eq_true_iff, passes_iff, AddrFilter.matches_iff_prefix fits]
  unfold dataSource sourceAddress
  by_cases succeeds : semaphore.Succeeds
  · cases fromDs frame <;> cases toDs frame <;> simp [succeeds]
  · simp [succeeds]

/-- A data frame with both DS bits, transmitter `00:…:00` and source `01:…:01`. -/
def wdsFrame : Nat → UInt8 :=
  fun index => if index = 1 then 0x03 else if 24 ≤ index ∧ index < 30 then 0x01 else 0

/-- No own address and a source filter for `01:…:01`. -/
def wdsFilters : Filters where
  addrOwnMac := AddrFilter.ofBytes [2, 2, 2, 2, 2, 2]
  addr2Filter := AddrFilter.ofBytes [1, 1, 1, 1, 1, 1]
  rssiFilter := -96

/-- The filter rejects a frame between two distribution systems although its
source address is the one asked for. -/
theorem dataMacFilter_wds_incorrect :
    wdsFilters.addr2Filter.size ≤ 6 ∧
      ¬ (dataMacFilter wdsFilters ⟨true, true⟩ wdsFrame = true ↔
        PassesSource wdsFilters wdsFrame) := by
  have rejected : dataMacFilter wdsFilters ⟨true, true⟩ wdsFrame = false := by decide
  have passes : PassesSource wdsFilters wdsFrame := by
    refine Or.inr ?_
    rw [wdsFilters, AddrFilter.ofBytes_bytes]
    decide
  refine ⟨by decide, fun correct => ?_⟩
  rw [correct.mpr passes] at rejected
  contradiction

/-- The correctness condition at a frame to an access point. -/
theorem dataMacFilter_correct_toDs :
    dataMacFilter wdsFilters ⟨true, true⟩ (fun index => if index = 1 then 0x01 else 1) = true ↔
      PassesSource wdsFilters (fun index => if index = 1 then 0x01 else 1) :=
  (dataMacFilter_correct_iff wdsFilters ⟨true, true⟩ _ (by decide)).mpr
    ⟨fun _ _ fromDs_set => absurd fromDs_set (by decide),
      fun failed => absurd failed (by decide)⟩

/-! ## Own traffic -/

section OwnTraffic

variable (filters : Filters) (semaphore : SemaphoreOutcome)
  (type : WifiPromiscuousPktType) (frame : Nat → UInt8) (ctrl : WifiPktRxCtrl)

/-- The frame is addressed to the own interface at the radio level, or it has a
transmitter address and that is the own one. -/
def RadioOwn : Prop :=
  Address.address1.bytes frame = filters.addrOwnMac.bytes ∨
    (Address.address2 ∈ addresses type frame ∧
      Address.address2.bytes frame = filters.addrOwnMac.bytes)

/-- The ways in which a frame of the own interface passes the address checks: a
failing semaphore, a data frame from or to an access point of which only the
radio address on the access point's side is the own one, or a PS-Poll frame
addressed to the own interface. -/
inductive OwnEscapes : Prop
  | semaphore (failed : ¬ semaphore.Succeeds) (own : RadioOwn filters type frame)
  | fromAp (succeeds : semaphore.Succeeds) (isData : type = .data)
      (fromDs_set : fromDs frame = true) (toDs_clear : toDs frame = false)
      (transmitter : Address.address2.bytes frame = filters.addrOwnMac.bytes)
      (receiver : Address.address1.bytes frame ≠ filters.addrOwnMac.bytes)
      (source : Address.address3.bytes frame ≠ filters.addrOwnMac.bytes)
      (passes : filters.addr2Filter.Matches frame Address.address3.offset)
  | toAp (succeeds : semaphore.Succeeds) (isData : type = .data)
      (fromDs_clear : fromDs frame = false) (toDs_set : toDs frame = true)
      (receiver : Address.address1.bytes frame = filters.addrOwnMac.bytes)
      (transmitter : Address.address2.bytes frame ≠ filters.addrOwnMac.bytes)
      (destination : Address.address3.bytes frame ≠ filters.addrOwnMac.bytes)
      (passes : filters.addr2Filter.Matches frame Address.address2.offset)
  | psPoll (succeeds : semaphore.Succeeds) (isCtrl : type = .ctrl)
      (isPsPoll : subtype frame = wifiPktCtrlSubtypePsPoll)
      (receiver : Address.address1.bytes frame = filters.addrOwnMac.bytes)
      (transmitter : Address.address2.bytes frame ≠ filters.addrOwnMac.bytes)
      (passes : filters.addr2Filter.Matches frame Address.address2.offset)

/-- Management frames: both radio addresses are compared. -/
theorem not_radioOwn_mgmt (full : filters.addrOwnMac.size = 6)
    (accepted : ¬ OwnMatches filters .mgmt frame) : ¬ RadioOwn filters .mgmt frame := by
  rw [ownMatches_iff filters frame .mgmt [.address2, .address1, .address3] full
    (by rw [comparedFields_mgmt])] at accepted
  rintro (receiver | ⟨_, transmitter⟩)
  · exact accepted ⟨.address1, by simp, receiver⟩
  · exact accepted ⟨.address2, by simp, transmitter⟩

/-- Data frames: the two combinations with one DS bit miss one radio address. -/
theorem own_data_iff (full : filters.addrOwnMac.size = 6) (succeeds : semaphore.Succeeds) :
    (RadioOwn filters .data frame ∧ ¬ OwnMatches filters .data frame ∧
        SourceMatches filters .data frame) ↔
      OwnEscapes filters semaphore .data frame := by
  rw [ownMatches_iff filters frame .data (dataOwn frame) full (by rw [comparedFields_data]),
    sourceMatches_iff filters frame .data [dataSource frame] (by rw [comparedFields_data])]
  have has_transmitter : Address.address2 ∈ addresses .data frame := by
    cases both : toDs frame && fromDs frame <;> simp [addresses, both]
  constructor
  · rintro ⟨own, notOwn, passes⟩
    unfold RadioOwn at own
    cases from_eq : fromDs frame <;> cases to_eq : toDs frame <;>
      simp only [dataOwn, dataSource, from_eq, to_eq] at notOwn passes
    case false.true =>
      exact .toAp succeeds rfl from_eq to_eq (by simp_all) (by simp_all) (by simp_all)
        (by simpa using passes)
    case true.false =>
      exact .fromAp succeeds rfl from_eq to_eq (by simp_all) (by simp_all) (by simp_all)
        (by simpa using passes)
    all_goals simp_all
  · intro escapes
    cases escapes with
    | semaphore failed own => exact absurd succeeds failed
    | fromAp _ _ from_eq to_eq transmitter receiver source passes =>
        refine ⟨Or.inr ⟨has_transmitter, transmitter⟩, ?_, ?_⟩
        · simp [dataOwn, from_eq, to_eq, receiver, source]
        · simpa [dataSource, from_eq, to_eq] using passes
    | toAp _ _ from_eq to_eq receiver transmitter destination passes =>
        refine ⟨Or.inl receiver, ?_, ?_⟩
        · simp [dataOwn, from_eq, to_eq, transmitter, destination]
        · simpa [dataSource, from_eq, to_eq] using passes
    | psPoll _ isCtrl => contradiction

/-- Control frames: PS-Poll misses the receiver; frames of the other subtypes
that are compared at all are compared with every radio address they have. -/
theorem own_ctrl_iff (full : filters.addrOwnMac.size = 6) (succeeds : semaphore.Succeeds) :
    (RadioOwn filters .ctrl frame ∧ ¬ OwnMatches filters .ctrl frame ∧
        SourceMatches filters .ctrl frame) ↔
      OwnEscapes filters semaphore .ctrl frame := by
  rw [ownMatches_iff filters frame .ctrl (ctrlCompared frame).1 full
      (by rw [comparedFields_ctrl]),
    sourceMatches_iff filters frame .ctrl (ctrlCompared frame).2
      (by rw [comparedFields_ctrl])]
  constructor
  · rintro ⟨own, notOwn, passes⟩
    unfold RadioOwn addresses at own
    by_cases bothCompared : subtype frame ∈ [0x8, 0x9, 0xB]
    · simp only [ctrlCompared, bothCompared, if_true] at notOwn
      simp_all
    by_cases psPoll : subtype frame = 0xA
    · have compared_eq : ctrlCompared frame = ([.address2], [.address2]) := by
        simp [ctrlCompared, psPoll]
      rw [compared_eq] at notOwn passes
      exact .psPoll succeeds rfl psPoll (by simp_all) (by simp_all) (by simpa using passes)
    by_cases receiverOnly : subtype frame ∈ [0xC, 0xD]
    · have compared_eq : ctrlCompared frame = ([.address1], [.address1]) := by
        simp only [ctrlCompared, bothCompared, psPoll, receiverOnly, if_false, if_true]
      rw [compared_eq] at notOwn
      simp_all
    · have compared_eq : ctrlCompared frame = ([], []) := by
        simp only [ctrlCompared, bothCompared, psPoll, receiverOnly, if_false]
      rw [compared_eq] at passes
      simp at passes
  · intro escapes
    cases escapes with
    | semaphore failed own => exact absurd succeeds failed
    | psPoll _ _ isPsPoll receiver transmitter passes =>
        have compared_eq : ctrlCompared frame = ([.address2], [.address2]) := by
          simp [ctrlCompared, isPsPoll, wifiPktCtrlSubtypePsPoll]
        refine ⟨Or.inl receiver, ?_, ?_⟩
        · simp [compared_eq, transmitter]
        · simpa [compared_eq] using passes
    | fromAp _ isData => contradiction
    | toAp _ isData => contradiction

/-- The handler offers no record for a received frame of the own interface,
unless the RSSI threshold is met and the frame is one of those that escape. -/
theorem own_frame_dropped_iff (cfg : SdkConfig) (full : filters.addrOwnMac.size = 6)
    (received : type ≠ .misc ∧ ctrl.rxState = 0) :
    (RadioOwn filters type frame →
        (wifiSnifferPacketHandler cfg filters semaphore type ctrl).value frame = none) ↔
      ¬ (rssiPasses filters ctrl ∧ OwnEscapes filters semaphore type frame) := by
  have escapes_iff : RadioOwn filters type frame ∧
      AddressAccepts filters semaphore type frame ↔
        OwnEscapes filters semaphore type frame := by
    unfold AddressAccepts
    by_cases succeeds : semaphore.Succeeds
    · simp only [succeeds, forall_const]
      cases type with
      | mgmt =>
          constructor
          · rintro ⟨own, notOwn, _⟩
            exact absurd own (not_radioOwn_mgmt filters frame full notOwn)
          · rintro (⟨failed, _⟩ | ⟨_, isData⟩ | ⟨_, isData⟩ | ⟨_, isCtrl⟩)
            · exact absurd succeeds failed
            all_goals contradiction
      | data => exact own_data_iff filters semaphore frame full succeeds
      | ctrl => exact own_ctrl_iff filters semaphore frame full succeeds
      | misc => exact absurd rfl received.1
    · constructor
      · rintro ⟨own, _⟩
        exact .semaphore succeeds own
      · rintro (⟨failed, own⟩ | ⟨holds⟩ | ⟨holds⟩ | ⟨holds⟩)
        · exact ⟨own, fun holds => absurd holds failed⟩
        all_goals exact absurd holds succeeds
  rw [handler_value, ← escapes_iff]
  simp only [Accepts, received, ite_eq_right_iff, reduceCtorEq, imp_false]
  tauto

end OwnTraffic

/-- Receive data of a strong frame with a checksum, from channel one. -/
def strongCtrl : WifiPktRxCtrl where
  rssi := -30
  noiseFloor := -90
  channel := 1
  ant := 0
  timestamp := 0
  sigLen := 20
  rxState := 0

/-- A PS-Poll frame from `03:…:03` to the own interface `02:…:02`. -/
def psPollFrame : Nat → UInt8 :=
  fun index =>
    if index = 0 then 0xA4 else if 4 ≤ index ∧ index < 10 then 2
    else if 10 ≤ index ∧ index < 16 then 3 else 0

/-- The own interface `02:…:02`, no source filter and the default threshold. -/
def openFilters : Filters where
  addrOwnMac := AddrFilter.ofBytes [2, 2, 2, 2, 2, 2]
  addr2Filter := AddrFilter.ofBytes []
  rssiFilter := -96

/-- A PS-Poll frame to the own interface is offered to the queue. -/
theorem own_psPoll_captured :
    openFilters.addrOwnMac.size = 6 ∧ RadioOwn openFilters .ctrl psPollFrame ∧
      (wifiSnifferPacketHandler default openFilters ⟨true, true⟩ .ctrl strongCtrl).value
        psPollFrame ≠ none := by
  have accepts : Accepts openFilters ⟨true, true⟩ .ctrl psPollFrame strongCtrl := by decide
  refine ⟨rfl, Or.inl (by decide), ?_⟩
  rw [handler_value, if_pos accepts]
  exact Option.some_ne_none _

/-- The condition at a management frame. -/
theorem own_mgmt_frame_dropped_iff :
    (RadioOwn openFilters .mgmt psPollFrame →
        (wifiSnifferPacketHandler default openFilters ⟨true, true⟩ .mgmt strongCtrl).value
          psPollFrame = none) ↔
      ¬ (rssiPasses openFilters strongCtrl ∧
        OwnEscapes openFilters ⟨true, true⟩ .mgmt psPollFrame) :=
  own_frame_dropped_iff openFilters ⟨true, true⟩ .mgmt psPollFrame strongCtrl default rfl
    ⟨by decide, rfl⟩

/-! ## The cleared filter -/

/-- `WIFI_PROMIS_CTRL_FILTER_MASK_ALL`, the mask `sniffer_set_no_filter` installs
for control frames. -/
def wifiPromisCtrlFilterMaskAll : Nat :=
  0xFF800000

/-- The driver hands over control frames of a subtype when bit `16 + subtype` of
the installed mask is set. -/
def ctrlSubtypeEnabled (mask subtype : Nat) : Prop :=
  mask.testBit (16 + subtype) = true

instance (mask subtype : Nat) : Decidable (ctrlSubtypeEnabled mask subtype) :=
  inferInstanceAs (Decidable (_ = _))

section Cleared

variable (filters : Filters) (semaphore : SemaphoreOutcome)
  (type : WifiPromiscuousPktType) (frame : Nat → UInt8) (ctrl : WifiPktRxCtrl)

/-- No address field of the frame holds the own address. -/
def Foreign : Prop :=
  ∀ address ∈ addresses type frame, address.bytes frame ≠ filters.addrOwnMac.bytes

instance : Decidable (Foreign filters type frame) :=
  inferInstanceAs (Decidable (∀ address ∈ _, _))

/-- Only address fields the frame has are compared with the own address. -/
theorem not_ownMatches_of_foreign (full : filters.addrOwnMac.size = 6)
    (typed : type ≠ .misc) (foreign : Foreign filters type frame) :
    ¬ OwnMatches filters type frame := by
  obtain ⟨compared, fields_eq, has⟩ : ∃ compared : List Address,
      (comparedFields type (frameControl frame)).own = compared.map Address.offset ∧
        ∀ address ∈ compared, address ∈ addresses type frame := by
    cases type with
    | mgmt => exact ⟨_, congrArg ComparedFields.own (comparedFields_mgmt frame), by
        simp [addresses]⟩
    | data =>
        refine ⟨_, congrArg ComparedFields.own (comparedFields_data frame), ?_⟩
        unfold dataOwn addresses
        cases fromDs frame <;> cases toDs frame <;> simp
    | ctrl =>
        refine ⟨_, congrArg ComparedFields.own (comparedFields_ctrl frame), ?_⟩
        unfold ctrlCompared addresses
        split_ifs <;> simp_all <;> omega
    | misc => exact absurd rfl typed
  rw [ownMatches_iff filters frame type compared full fields_eq]
  rintro ⟨address, compared_mem, own⟩
  exact foreign address (has address compared_mem) own

/-- A cleared source filter accepts every frame of a type and subtype that the
switches name. -/
theorem sourceMatches_cleared_iff (cleared : filters.addr2Filter.size = 0)
    (typed : type ≠ .misc) :
    SourceMatches filters type frame ↔
      (type = .ctrl → 0x8 ≤ subtype frame ∧ subtype frame ≤ 0xD) := by
  have named_iff : SourceMatches filters type frame ↔
      (comparedFields type (frameControl frame)).source ≠ [] := by
    simp [SourceMatches, AddrFilter.Matches, cleared, List.eq_nil_iff_forall_not_mem]
  rw [named_iff]
  cases type with
  | mgmt => simp [comparedFields_mgmt]
  | data => simp [comparedFields_data]
  | ctrl =>
      rw [comparedFields_ctrl, ctrlCompared]
      simp only [forall_const]
      split_ifs <;> simp_all <;> omega
  | misc => exact absurd rfl typed

/-- A strong enough signal passes the RSSI test unless the threshold is positive. -/
theorem rssiPasses_iff_of_strong (strong : ctrl.rssi ≥ filters.rssiFilter) :
    rssiPasses filters ctrl ↔ filters.rssiFilter ≤ 0 := by
  have zero_toInt : (0 : Int8).toInt = 0 := rfl
  simp only [rssiPasses, strong, and_true, ← Int8.toInt_inj, Int8.lt_iff_toInt_lt,
    Int8.le_iff_toInt_le, zero_toInt]
  omega

/-- With a cleared source filter the handler offers a record for every strong
enough foreign frame, unless the threshold is positive or the frame is a control
frame of a subtype the switch does not name. -/
theorem cleared_filter_captures_iff (cfg : SdkConfig)
    (cleared : filters.addr2Filter.size = 0) (succeeds : semaphore.Succeeds)
    (received : type ≠ .misc ∧ ctrl.rxState = 0)
    (strong : ctrl.rssi ≥ filters.rssiFilter) (full : filters.addrOwnMac.size = 6)
    (foreign : Foreign filters type frame) :
    (wifiSnifferPacketHandler cfg filters semaphore type ctrl).value frame =
        some ((captureCreatePcapRecord cfg ctrl.withoutFcs).value frame) ↔
      filters.rssiFilter ≤ 0 ∧
        (type = .ctrl → 0x8 ≤ subtype frame ∧ subtype frame ≤ 0xD) := by
  have notOwn := not_ownMatches_of_foreign filters type frame full received.1 foreign
  rw [handler_value, ← rssiPasses_iff_of_strong filters ctrl strong,
    ← sourceMatches_cleared_iff filters type frame cleared received.1]
  simp [Accepts, AddressAccepts, received, succeeds, notOwn]

end Cleared

/-- A CF-End frame between two foreign stations. -/
def cfEndFrame : Nat → UInt8 :=
  fun index => if index = 0 then 0xE4 else 0

/-- A CF-End frame is handed over by the driver but not captured, although no
filter is set. -/
theorem cleared_filter_drops_cfEnd :
    openFilters.addr2Filter.size = 0 ∧
      ctrlSubtypeEnabled wifiPromisCtrlFilterMaskAll (subtype cfEndFrame) ∧
      strongCtrl.rssi ≥ openFilters.rssiFilter ∧ Foreign openFilters .ctrl cfEndFrame ∧
      (wifiSnifferPacketHandler default openFilters ⟨true, true⟩ .ctrl strongCtrl).value
        cfEndFrame = none := by
  have rejects : ¬ Accepts openFilters ⟨true, true⟩ .ctrl cfEndFrame strongCtrl := by decide
  refine ⟨rfl, by decide, by decide, by decide, ?_⟩
  rw [handler_value, if_neg rejects]

/-- The condition at an ACK frame, which is captured. -/
theorem cleared_filter_captures_ack :
    (wifiSnifferPacketHandler default openFilters ⟨true, true⟩ .ctrl strongCtrl).value
        (fun index => if index = 0 then 0xD4 else 0) =
        some ((captureCreatePcapRecord default strongCtrl.withoutFcs).value
          (fun index => if index = 0 then 0xD4 else 0)) ↔
      openFilters.rssiFilter ≤ 0 ∧
        (WifiPromiscuousPktType.ctrl = .ctrl →
          0x8 ≤ subtype (fun index => if index = 0 then 0xD4 else 0) ∧
            subtype (fun index => if index = 0 then 0xD4 else 0) ≤ 0xD) :=
  cleared_filter_captures_iff openFilters ⟨true, true⟩ .ctrl _ strongCtrl default rfl
    ⟨rfl, rfl⟩ ⟨by decide, rfl⟩ (by decide) rfl (by decide)

end WifiSniffer.Handler
