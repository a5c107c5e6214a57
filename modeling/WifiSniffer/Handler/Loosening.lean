import WifiSniffer.Handler.Decision

/-!
# Looser filters

A source filter that is a prefix of another one and a threshold that is not above
another one let through what the others do.  The own address has to stay as it is: it is
compared to keep frames out, so nothing follows from a prefix of it.
-/

namespace WifiSniffer.Handler

open WifiSniffer.Capture

section Loosening

variable {filter shorter : AddrFilter} {frame : Nat → UInt8}

theorem AddrFilter.size_le_of_prefix (isPrefix : shorter.bytes <+: filter.bytes) :
    shorter.size ≤ filter.size := by
  have length_le := isPrefix.length_le
  rwa [AddrFilter.bytes_length, AddrFilter.bytes_length] at length_le

/-- What a filter matches, every prefix of it matches. -/
theorem AddrFilter.Matches.of_prefix {field : Nat} (matched : filter.Matches frame field)
    (isPrefix : shorter.bytes <+: filter.bytes) : shorter.Matches frame field := by
  have size_le := AddrFilter.size_le_of_prefix isPrefix
  rcases matched with empty | equal
  · left
    omega
  · right
    calc
      (List.range' field shorter.size).map frame =
          ((List.range' field filter.size).map frame).take shorter.size := by
        rw [← List.map_take, List.take_range'_of_length_ge size_le]
      _ = filter.bytes.take shorter.bytes.length := by
        rw [equal, AddrFilter.bytes_length]
      _ = shorter.bytes := (List.prefix_iff_eq_take.mp isPrefix).symm

/-- The same own address, a prefix of the source filter, and a threshold that is not
above the old one, which is negative. -/
structure Loosens (filters looser : Filters) : Prop where
  own_eq : looser.addrOwnMac = filters.addrOwnMac
  isPrefix : looser.addr2Filter.bytes <+: filters.addr2Filter.bytes
  negative : filters.rssiFilter < 0
  rssi_le : looser.rssiFilter ≤ filters.rssiFilter

variable {filters looser : Filters} {type : WifiPromiscuousPktType} {ctrl : WifiPktRxCtrl}

/-- The own address is compared as before. -/
theorem Loosens.ownMatches_iff (loosens : Loosens filters looser) :
    OwnMatches looser type frame ↔ OwnMatches filters type frame := by
  rw [OwnMatches, OwnMatches, loosens.own_eq]

theorem Loosens.sourceMatches (loosens : Loosens filters looser)
    (passes : SourceMatches filters type frame) : SourceMatches looser type frame := by
  rcases passes with ⟨field, compared, matched⟩
  exact ⟨field, compared, matched.of_prefix loosens.isPrefix⟩

theorem Loosens.rssiPasses (loosens : Loosens filters looser)
    (passes : rssiPasses filters ctrl) : Handler.rssiPasses looser ctrl := by
  have negative := loosens.negative
  have rssi_le := loosens.rssi_le
  rw [Int8.lt_iff_toInt_lt] at negative
  rw [Int8.le_iff_toInt_le] at rssi_le
  rcases passes with zero | ⟨_, strong⟩
  · rw [zero] at negative
    exact absurd negative (by decide)
  · rw [ge_iff_le, Int8.le_iff_toInt_le] at strong
    right
    constructor
    · rw [Int8.lt_iff_toInt_lt]
      omega
    · rw [ge_iff_le, Int8.le_iff_toInt_le]
      omega

/-- Every frame that is accepted is accepted with looser filters. -/
theorem Loosens.accepts (loosens : Loosens filters looser) {semaphore : SemaphoreOutcome}
    (accepted : Accepts filters semaphore type frame ctrl) :
    Accepts looser semaphore type frame ctrl := by
  rcases accepted with ⟨received, strong, addressed⟩
  refine ⟨received, loosens.rssiPasses strong, fun succeeds => ?_⟩
  rcases addressed succeeds with ⟨foreign, passes⟩
  exact ⟨fun own => foreign (loosens.ownMatches_iff.mp own), loosens.sourceMatches passes⟩

end Loosening

/-- A frame that the handler records with a source filter and a negative threshold, it
records in the same way with a prefix of the filter and a lower threshold. -/
theorem record_eq_of_loosened (cfg : SdkConfig) (own filter shorter : AddrFilter)
    (rssi lower : Int8) (semaphore : SemaphoreOutcome) (type : WifiPromiscuousPktType)
    (pkt : WifiPromiscuousPkt) (isPrefix : shorter.bytes <+: filter.bytes)
    (negative : rssi < 0) (rssi_le : lower ≤ rssi)
    (recorded : Reception.record cfg ⟨⟨own, filter, rssi⟩, semaphore, type, pkt⟩ ≠ none) :
    Reception.record cfg ⟨⟨own, shorter, lower⟩, semaphore, type, pkt⟩ =
      Reception.record cfg ⟨⟨own, filter, rssi⟩, semaphore, type, pkt⟩ := by
  have loosens : Loosens ⟨own, filter, rssi⟩ ⟨own, shorter, lower⟩ :=
    ⟨rfl, isPrefix, negative, rssi_le⟩
  rw [Reception.record_eq] at recorded
  have accepted := (ite_ne_right_iff.mp recorded).1
  have loosened : Reception.Accepted ⟨⟨own, shorter, lower⟩, semaphore, type, pkt⟩ :=
    loosens.accepts accepted
  rw [Reception.record_eq, Reception.record_eq, if_pos accepted, if_pos loosened]

/-- A management frame from `02:02:…`, with the filter shortened by one byte. -/
theorem record_loosened_mgmt :
    Reception.record default
        ⟨⟨AddrFilter.ofBytes [1, 1, 1, 1, 1, 1], AddrFilter.ofBytes [2], -96⟩, ⟨true, true⟩,
          .mgmt, ⟨strongCtrl, fun _ => 2⟩⟩ =
      Reception.record default
        ⟨⟨AddrFilter.ofBytes [1, 1, 1, 1, 1, 1], AddrFilter.ofBytes [2, 2], -60⟩, ⟨true, true⟩,
          .mgmt, ⟨strongCtrl, fun _ => 2⟩⟩ := by
  refine record_eq_of_loosened default _ (AddrFilter.ofBytes [2, 2]) (AddrFilter.ofBytes [2])
    (-60) (-96) ⟨true, true⟩ .mgmt _ (by decide) (by decide) (by decide) ?_
  rw [Reception.record_eq, if_pos (by decide)]
  exact Option.some_ne_none _

end WifiSniffer.Handler
