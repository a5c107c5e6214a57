import WifiSniffer.Handler.PacketHandler

/-!
# What the handler reads

A received frame without its checksum is `sig_len - 4` bytes long; whatever lies
behind it in the driver's buffer is not part of the frame.  The comparisons are
made on overlays of fixed size and the record copies `incl_len` payload bytes,
which counts the radiotap part twice, so both can leave the frame.  The exact
condition under which they do not is a condition on the lengths alone for the
copy and for each comparison that is reached.
-/

namespace WifiSniffer.Handler

open WifiSniffer.Bytes WifiSniffer.Memory WifiSniffer.Capture

/-! ## Comparisons -/

/-- Each comparison of a chain that is reached stays below the bound. -/
def ComparisonsFit (bound : Nat) (filter : AddrFilter) (frame : Nat → UInt8) :
    List Nat → Prop
  | [] => True
  | field :: fields =>
      (filter.size = 0 ∨ field + filter.size ≤ bound) ∧
        (¬ filter.Matches frame field → ComparisonsFit bound filter frame fields)

theorem firstTrue_isAddrEquel_within_iff (bound : Nat) (filter : AddrFilter)
    (frame : Nat → UInt8) (fields : List Nat) :
    Read.Within (· < bound)
        (Read.firstTrue (fields.map fun field => isAddrEquel field filter)) frame ↔
      ComparisonsFit bound filter frame fields := by
  induction fields with
  | nil => simp [ComparisonsFit, Read.firstTrue, Read.within_pure]
  | cons field fields ih =>
      rw [List.map_cons, Read.within_firstTrue_cons_iff, isAddrEquel_within_iff, ih,
        isAddrEquel_value, decide_eq_false_iff_not, ComparisonsFit]

section Handler

variable (cfg : SdkConfig) (filters : Filters) (semaphore : SemaphoreOutcome)
  (type : WifiPromiscuousPktType) (frame : Nat → UInt8) (ctrl : WifiPktRxCtrl)

/-- The comparisons made for a frame stay below the bound. -/
def AddressesFit (bound : Nat) : Prop :=
  semaphore.Succeeds →
    ComparisonsFit bound filters.addrOwnMac frame
        (comparedFields type (Dot11.frameControl frame)).own ∧
      ComparisonsFit bound filters.addr2Filter frame
        (comparedFields type (Dot11.frameControl frame)).source

theorem addressFlags_within_iff (bound : Nat) :
    Read.Within (· < bound)
        (addressFlags filters semaphore type (Dot11.frameControl frame)) frame ↔
      AddressesFit filters semaphore type frame bound := by
  rcases semaphore with ⟨_ | _, _ | _⟩
  case true.true =>
    change Read.Within (· < bound)
      (compareFields filters (comparedFields type (Dot11.frameControl frame))) frame ↔ _
    rw [compareFields, Read.within_bind_iff, Read.within_bind_iff,
      firstTrue_isAddrEquel_within_iff, firstTrue_isAddrEquel_within_iff]
    simp [AddressesFit, SemaphoreOutcome.Succeeds, Read.within_pure]
  all_goals
    simp [addressFlags, AddressesFit, SemaphoreOutcome.Succeeds, Read.within_pure]

/-! ## The copy -/

/-- The copy reads `incl_len` bytes. -/
theorem captureCreatePcapRecord_within_iff (bound : Nat) :
    Read.Within (· < bound) (captureCreatePcapRecord cfg ctrl) frame ↔
      (createPcapRecHdr cfg ctrl).inclLen.toNat ≤ bound := by
  rw [captureCreatePcapRecord, Read.within_bind_iff, Read.within_block_iff]
  simp only [List.mem_range, Read.within_pure, and_true]
  constructor
  · intro inside
    by_contra outside
    exact absurd (inside bound (by omega)) (lt_irrefl bound)
  · intro inside index index_lt
    omega

/-! ## The whole handler -/

/-- The length of a frame without its checksum; nothing remains of a frame that
is not longer than that. -/
def frameLength : Nat :=
  ctrl.sigLen.toNat - 4

/-- The handler stays inside the frame when the frame holds its frame control
word, every comparison that is reached ends inside it, and, if the frame is
accepted, it is at least as long as the snap length. -/
structure ReadsFit : Prop where
  frameControl : 2 ≤ frameLength ctrl
  addresses : AddressesFit filters semaphore type frame (frameLength ctrl)
  copy : Accepts filters semaphore type frame ctrl → cfg.snapLen ≤ frameLength ctrl

/-- Beyond the frame control word, the copy of an accepted frame stays inside it
exactly when the frame fills the record's buffer. -/
theorem inclLen_le_frameLength_iff (holds : 2 ≤ frameLength ctrl) :
    (createPcapRecHdr cfg ctrl.withoutFcs).inclLen.toNat ≤ frameLength ctrl ↔
      cfg.snapLen ≤ frameLength ctrl := by
  unfold frameLength at holds ⊢
  rw [createPcapRecHdr_inclLen_toNat, withoutFcs_sigLen_toNat ctrl (by omega)]
  omega

theorem handler_within_iff (received : type ≠ .misc ∧ ctrl.rxState = 0) :
    Read.Within (· < frameLength ctrl)
        (wifiSnifferPacketHandler cfg filters semaphore type ctrl) frame ↔
      ReadsFit cfg filters semaphore type frame ctrl := by
  have word_iff : (∀ index ∈ [0, 1], index < frameLength ctrl) ↔ 2 ≤ frameLength ctrl := by
    simp
    omega
  have accepts_iff : (rssiPasses filters ctrl ∧
      (!((addressFlags filters semaphore type (ofLe [frame 0, frame 1])).value
        frame).isOwnAddress) = true ∧
      ((addressFlags filters semaphore type (ofLe [frame 0, frame 1])).value
        frame).macFilter = true) ↔ Accepts filters semaphore type frame ctrl := by
    rw [Accepts, ← addressFlags_value_accepts_iff]
    simp [received, Dot11.frameControl]
  have copy_iff : Read.Within (· < frameLength ctrl)
      (if rssiPasses filters ctrl ∧
          (!((addressFlags filters semaphore type (ofLe [frame 0, frame 1])).value
            frame).isOwnAddress) = true ∧
          ((addressFlags filters semaphore type (ofLe [frame 0, frame 1])).value
            frame).macFilter = true then do
        let pcapRec ← captureCreatePcapRecord cfg ctrl.withoutFcs
        pure (some pcapRec)
      else pure none) frame ↔
        (Accepts filters semaphore type frame ctrl →
          (createPcapRecHdr cfg ctrl.withoutFcs).inclLen.toNat ≤ frameLength ctrl) := by
    by_cases accepts : Accepts filters semaphore type frame ctrl
    · rw [if_pos (accepts_iff.mpr accepts), Read.within_bind_iff,
        captureCreatePcapRecord_within_iff]
      simp [Read.within_pure, accepts]
    · rw [if_neg (mt accepts_iff.mp accepts)]
      simp [Read.within_pure, accepts]
  rw [wifiSnifferPacketHandler, if_pos received, Read.within_bind_iff, Read.within_bind_iff,
    Read.within_block_iff, word_iff, Read.value_block]
  rw [show ofLe ([0, 1].map frame) = Dot11.frameControl frame from rfl,
    addressFlags_within_iff]
  constructor
  · rintro ⟨holds, addresses, copy⟩
    exact ⟨holds, addresses, fun accepts =>
      (inclLen_le_frameLength_iff cfg ctrl holds).mp (copy_iff.mp copy accepts)⟩
  · rintro ⟨holds, addresses, copy⟩
    exact ⟨holds, addresses, copy_iff.mpr fun accepts =>
      (inclLen_le_frameLength_iff cfg ctrl holds).mpr (copy accepts)⟩

/-- The handler reads no byte behind the frame, and hence cannot tell apart two
packets that agree on the frame, exactly under the condition above. -/
theorem handler_reads_only_frame_iff (received : type ≠ .misc ∧ ctrl.rxState = 0) :
    ((∀ index ∈ (wifiSnifferPacketHandler cfg filters semaphore type ctrl).reads frame,
          index < frameLength ctrl) ∧
        ∀ other : Nat → UInt8, (∀ index < frameLength ctrl, frame index = other index) →
          (wifiSnifferPacketHandler cfg filters semaphore type ctrl).value other =
            (wifiSnifferPacketHandler cfg filters semaphore type ctrl).value frame) ↔
      ReadsFit cfg filters semaphore type frame ctrl := by
  have within_iff := handler_within_iff cfg filters semaphore type frame ctrl received
  constructor
  · rintro ⟨inside, _⟩
    exact within_iff.mp inside
  · intro fit
    have inside := within_iff.mpr fit
    exact ⟨inside, fun other agree => inside.value_eq agree⟩

end Handler

/-- Receive data of a strong 24-byte management frame. -/
def shortCtrl : WifiPktRxCtrl where
  rssi := -30
  noiseFloor := -90
  channel := 1
  ant := 0
  timestamp := 0
  sigLen := 28
  rxState := 0

/-- An own address that does not occur, no source filter, the default threshold. -/
def anyFilters : Filters where
  addrOwnMac := AddrFilter.ofBytes [2, 2, 2, 2, 2, 2]
  addr2Filter := AddrFilter.ofBytes []
  rssiFilter := -96

/-- Handling an accepted frame of 24 bytes reads the byte behind it, and that byte
ends up in the record. -/
theorem handler_reads_behind_frame :
    frameLength shortCtrl = 24 ∧
      24 ∈ (wifiSnifferPacketHandler default anyFilters ⟨true, true⟩ .mgmt shortCtrl).reads
        (fun _ => 0) ∧
      (wifiSnifferPacketHandler default anyFilters ⟨true, true⟩ .mgmt shortCtrl).value
          (fun index => if index < 24 then 0 else 1) ≠
        (wifiSnifferPacketHandler default anyFilters ⟨true, true⟩ .mgmt shortCtrl).value
          (fun _ => 0) := by
  refine ⟨by decide, by decide, ?_⟩
  have first_accepted : Accepts anyFilters ⟨true, true⟩ .mgmt
      (fun index => if index < 24 then 0 else 1) shortCtrl := by decide
  have second_accepted : Accepts anyFilters ⟨true, true⟩ .mgmt (fun _ => 0) shortCtrl := by
    decide
  rw [handler_value, handler_value, if_pos first_accepted, if_pos second_accepted]
  intro records_eq
  have inside : 24 < SdkConfig.smallest.snapLen := by decide
  have byte_eq := congrArg (fun record => record.buf[24]) (Option.some.inj records_eq)
  simp only [captureCreatePcapRecord_buf_getElem] at byte_eq
  exact absurd byte_eq (by decide)

/-- The condition at a frame that fills the buffer. -/
theorem handler_reads_only_long_frame_iff :
    ((∀ index ∈ (wifiSnifferPacketHandler default anyFilters ⟨true, true⟩ .mgmt
          { shortCtrl with sigLen := 204 }).reads (fun _ => 0),
          index < frameLength { shortCtrl with sigLen := 204 }) ∧
        ∀ other : Nat → UInt8,
          (∀ index < frameLength { shortCtrl with sigLen := 204 }, (0 : UInt8) = other index) →
          (wifiSnifferPacketHandler default anyFilters ⟨true, true⟩ .mgmt
              { shortCtrl with sigLen := 204 }).value other =
            (wifiSnifferPacketHandler default anyFilters ⟨true, true⟩ .mgmt
              { shortCtrl with sigLen := 204 }).value (fun _ => 0)) ↔
      ReadsFit default anyFilters ⟨true, true⟩ .mgmt (fun _ => 0)
        { shortCtrl with sigLen := 204 } :=
  handler_reads_only_frame_iff default anyFilters ⟨true, true⟩ .mgmt (fun _ => 0)
    { shortCtrl with sigLen := 204 } ⟨by decide, rfl⟩

end WifiSniffer.Handler
