import WifiSniffer.Effect.Rules
import WifiSniffer.Handler.PacketHandler
import WifiSniffer.Nvs.Lib

/-!
# Stored filters

`wifi_sniffer_nvs.c` and the setters of `wifi_sniffer.c` that go through it.  A setter
writes only what differs from the stored value, where a missing entry counts as its
default.  After every sequence of setters the store and the filter variables say the
same, so the next boot finds the filters as they were.
-/

namespace WifiSniffer.Handler.AddrFilter

open WifiSniffer.Bytes

/-- The array of an `addrFilter_t`. -/
def array (filter : AddrFilter) : List UInt8 :=
  (List.range 6).map filter.addr

@[simp]
theorem array_length (filter : AddrFilter) : filter.array.length = 6 := by
  simp [array]

/-- The bytes that a filter compares are the first ones of its array. -/
theorem array_take {filter : AddrFilter} (fits : filter.size ≤ 6) :
    filter.array.take filter.size = filter.bytes := by
  rw [array, ← List.map_take, List.take_range, Nat.min_eq_left fits, bytes]

/-- A filter whose array has been filled from the front. -/
def filled (data : List UInt8) : AddrFilter where
  addr index := (overwrite (List.replicate 6 0) data).getD index 0
  size := data.length

@[simp]
theorem filled_size (data : List UInt8) : (filled data).size = data.length :=
  rfl

@[simp]
theorem filled_bytes (data : List UInt8) : (filled data).bytes = data := by
  apply List.ext_getElem
  · simp
  · intro index _ inData
    simp [bytes, filled, overwrite, List.getElem?_append_left inData,
      List.getElem?_eq_getElem inData]

/-- The array of a filter that nothing has been set in. -/
@[simp]
theorem array_filled_nil : (filled []).array = List.replicate 6 0 :=
  rfl

end WifiSniffer.Handler.AddrFilter

namespace WifiSniffer.Settings

open WifiSniffer.Bytes WifiSniffer.Effect WifiSniffer.Handler WifiSniffer.Nvs
open Program (Guarantees)

/-! ## The code -/

/-- `SNIFFER_NS` -/
def snifferNs : String :=
  "snif3.conf"

/-- `CONFIG_ESP_SNIFFER_FILTER_RSSI`, which is also `SNIFFER_RSSI_FILTER_DEFAULT` -/
def snifferRssiFilterDefault : Int8 :=
  -96

def addr2Key : String :=
  "filter.addr2"

def ownKey : String :=
  "filter.own"

def rssiKey : String :=
  "rssi"

/-- `wifi_sniffer_nvs_get_filter_mac` -/
def wifiSnifferNvsGetFilterMac (key : String) : NvsProgram AddrFilter := do
  let (err, addr, size) ←
    nvsGetArray snifferNs key (List.replicate 6 0) 0 (List.replicate 6 0) 0
  espErrorCheck err
  return { addr := fun index => addr.getD index 0, size }

/-- The condition in `wifi_sniffer_nvs_set_filter_mac` -/
def filterChanged (addrFilter prevAddrFilter : AddrFilter) : NvsProgram Bool :=
  if addrFilter.size ≠ prevAddrFilter.size then pure true
  else memcmp addrFilter.array prevAddrFilter.array addrFilter.size

/-- `wifi_sniffer_nvs_set_filter_mac` -/
def wifiSnifferNvsSetFilterMac (key : String) (addrFilter : AddrFilter) :
    NvsProgram Unit := do
  let prevAddrFilter ← wifiSnifferNvsGetFilterMac key
  let changed ← filterChanged addrFilter prevAddrFilter
  if changed then
    let err ← nvsSetArray snifferNs key addrFilter.array addrFilter.size
    espErrorCheck err
  else return ()

/-- `wifi_sniffer_nvs_get_filter_rssi` -/
def wifiSnifferNvsGetFilterRssi : NvsProgram Int8 := do
  let (_, rssi) ← nvsGetNum32i snifferNs rssiKey snifferRssiFilterDefault.toInt
  return Int8.ofInt (rssi.getD snifferRssiFilterDefault.toInt)

/-- `wifi_sniffer_nvs_set_filter_rssi` -/
def wifiSnifferNvsSetFilterRssi (rssi : Int8) : NvsProgram Unit := do
  let prevRssi ← wifiSnifferNvsGetFilterRssi
  if prevRssi ≠ rssi then
    let err ← nvsSetNum32i snifferNs rssiKey rssi.toInt
    espErrorCheck err
  else return ()

/-- `sniffer_set_filter`, where `taken` is the outcome of `xSemaphoreTake`.  The result
is what is then in `*filter`. -/
def snifferSetFilter (taken : Bool) (key : String) (addrFilter filter : AddrFilter) :
    NvsProgram AddrFilter := do
  if taken then
    wifiSnifferNvsSetFilterMac key addrFilter
    return addrFilter
  else return filter

/-- `sniffer_set_own_mac_filter` -/
def snifferSetOwnMacFilter (taken : Bool) (filters : Filters) (addrFilter : AddrFilter) :
    NvsProgram Filters := do
  let addrOwnMac ← snifferSetFilter taken ownKey addrFilter filters.addrOwnMac
  return { filters with addrOwnMac }

/-- `sniffer_set_addr2_filter` -/
def snifferSetAddr2Filter (taken : Bool) (filters : Filters) (addrFilter : AddrFilter) :
    NvsProgram Filters := do
  let addr2Filter ← snifferSetFilter taken addr2Key addrFilter filters.addr2Filter
  return { filters with addr2Filter }

/-- `sniffer_set_rssi_filter` -/
def snifferSetRssiFilter (filters : Filters) (rssi : Int8) : NvsProgram Filters := do
  let rssi := if rssi = 0 then snifferRssiFilterDefault else rssi
  wifiSnifferNvsSetFilterRssi rssi
  return { filters with rssiFilter := rssi }

/-- The filter variables at power-up. -/
def filtersAtPowerUp : Filters where
  addrOwnMac := AddrFilter.filled []
  addr2Filter := AddrFilter.filled []
  rssiFilter := snifferRssiFilterDefault

/-- `sniffer_init_config`, as far as the filters go.  Nobody else holds the semaphore
yet. -/
def snifferInitConfig (filters : Filters) (ownMac : AddrFilter) : NvsProgram Filters := do
  let filters ← snifferSetOwnMacFilter true filters ownMac
  let rssi ← wifiSnifferNvsGetFilterRssi
  let filters ← snifferSetRssiFilter filters rssi
  let addrFilter ← wifiSnifferNvsGetFilterMac addr2Key
  snifferSetAddr2Filter true filters addrFilter

/-! ## What is stored -/

/-- An entry stands for the given filter bytes. -/
def FilterEntry (store : Store) (key : String) (data : List UInt8) : Prop :=
  data.length ≤ 6 ∧
    (store.get snifferNs key = some (.blob data) ∨ store.get snifferNs key = none ∧ data = [])

/-- The threshold entry stands for the given one. -/
def RssiEntry (store : Store) (rssi : Int8) : Prop :=
  rssi ≠ 0 ∧
    (store.get snifferNs rssiKey = some (.num .i32 rssi.toInt) ∨
      store.get snifferNs rssiKey = none ∧ rssi = snifferRssiFilterDefault)

theorem FilterEntry.of_get_eq {store other : Store} {key : String} {data : List UInt8}
    (entry : FilterEntry store key data)
    (get_eq : other.get snifferNs key = store.get snifferNs key) :
    FilterEntry other key data := by
  rw [FilterEntry, get_eq]
  exact entry

theorem RssiEntry.of_get_eq {store other : Store} {rssi : Int8} (entry : RssiEntry store rssi)
    (get_eq : other.get snifferNs rssiKey = store.get snifferNs rssiKey) :
    RssiEntry other rssi := by
  rw [RssiEntry, get_eq]
  exact entry

section Spec

variable {store : Store} {key : String}

theorem run_wifiSnifferNvsGetFilterMac {data : List UInt8}
    (entry : FilterEntry store key data) :
    (wifiSnifferNvsGetFilterMac key).run Store.handle store =
      .ok (AddrFilter.filled data, store) := by
  rcases entry with ⟨fits, stored | ⟨absent, rfl⟩⟩
  · rw [wifiSnifferNvsGetFilterMac, Program.run_bind,
      run_nvsGetArray_of_get stored (by simpa using fits)]
    rfl
  · rw [wifiSnifferNvsGetFilterMac, Program.run_bind,
      run_nvsGetArray_of_absent absent (Nat.zero_le _) (Nat.zero_le _)]
    rfl

/-- A filter counts as changed exactly if its bytes differ from those stored. -/
theorem run_filterChanged {data : List UInt8} (stored : data.length ≤ 6)
    {addrFilter : AddrFilter} (fits : addrFilter.size ≤ 6) :
    (filterChanged addrFilter (.filled data)).run Store.handle store =
      .ok (decide (addrFilter.bytes ≠ data), store) := by
  rw [filterChanged]
  by_cases sized : addrFilter.size = (AddrFilter.filled data).size
  · have filled_eq : (AddrFilter.filled data).array.take addrFilter.size = data := by
      rw [sized, AddrFilter.array_take stored, AddrFilter.filled_bytes]
    rw [if_neg (not_not_intro sized), run_memcmp (by simpa using fits) (by simpa using fits),
      AddrFilter.array_take fits, filled_eq]
  · have differ : addrFilter.bytes ≠ data := by
      rintro rfl
      exact sized (AddrFilter.bytes_length addrFilter).symm
    rw [if_pos sized, Program.run_pure, decide_eq_true differ]

/-- Setting a filter makes its entry stand for it and touches no other entry. -/
theorem run_wifiSnifferNvsSetFilterMac {data : List UInt8} (entry : FilterEntry store key data)
    {addrFilter : AddrFilter} (fits : addrFilter.size ≤ 6) :
    ∃ next,
      (wifiSnifferNvsSetFilterMac key addrFilter).run Store.handle store = .ok ((), next) ∧
        FilterEntry next key addrFilter.bytes ∧
        ∀ other, other ≠ key → next.get snifferNs other = store.get snifferNs other := by
  rw [wifiSnifferNvsSetFilterMac,
    Program.run_bind_of_ok _ (run_wifiSnifferNvsGetFilterMac entry),
    Program.run_bind_of_ok _ (run_filterChanged entry.1 fits)]
  by_cases same : addrFilter.bytes = data
  · subst same
    refine ⟨store, ?_, entry, fun _ _ => rfl⟩
    simp
  · refine ⟨store.set snifferNs key (.blob addrFilter.bytes), ?_, ⟨by simpa using fits, ?_⟩, ?_⟩
    · rw [if_pos (decide_eq_true same),
        Program.run_bind_of_ok _ (run_nvsSetArray (by simpa using fits)),
        run_espErrorCheck_ok, AddrFilter.array_take fits]
    · exact .inl (Store.get_set_self store snifferNs key _)
    · intro other ne
      exact Store.get_set_of_ne store _ snifferNs ne

/-- The threshold that is read from a store, whatever is in it. -/
def storedRssi (store : Store) : Int8 :=
  Int8.ofInt (store.numSetting snifferNs rssiKey snifferRssiFilterDefault.toInt)

theorem run_wifiSnifferNvsGetFilterRssi_stored (store : Store) :
    wifiSnifferNvsGetFilterRssi.run Store.handle store =
      .ok (storedRssi store, store.create snifferNs) := by
  rcases run_nvsGetNum32i store snifferNs rssiKey snifferRssiFilterDefault.toInt with
    ⟨err, found, got, value_eq⟩
  rw [wifiSnifferNvsGetFilterRssi, Program.run_bind_of_ok _ got, storedRssi]
  dsimp only
  rw [value_eq, Program.run_pure]

theorem RssiEntry.storedRssi_eq {rssi : Int8} (entry : RssiEntry store rssi) :
    storedRssi store = rssi := by
  rcases entry with ⟨_, stored | ⟨absent, rfl⟩⟩
  · rw [storedRssi, Store.numSetting, stored, Int8.ofInt_toInt]
  · rw [storedRssi, Store.numSetting, absent, Int8.ofInt_toInt]

theorem run_wifiSnifferNvsGetFilterRssi {rssi : Int8} (entry : RssiEntry store rssi) :
    wifiSnifferNvsGetFilterRssi.run Store.handle store = .ok (rssi, store.create snifferNs) := by
  rw [run_wifiSnifferNvsGetFilterRssi_stored, entry.storedRssi_eq]

/-- Setting the threshold makes its entry stand for it and touches no other entry. -/
theorem run_wifiSnifferNvsSetFilterRssi {prevRssi : Int8} (entry : RssiEntry store prevRssi)
    {rssi : Int8} (nonzero : rssi ≠ 0) :
    ∃ next, (wifiSnifferNvsSetFilterRssi rssi).run Store.handle store = .ok ((), next) ∧
      RssiEntry next rssi ∧
      ∀ other, other ≠ rssiKey → next.get snifferNs other = store.get snifferNs other := by
  rw [wifiSnifferNvsSetFilterRssi,
    Program.run_bind_of_ok _ (run_wifiSnifferNvsGetFilterRssi entry)]
  by_cases same : prevRssi = rssi
  · subst same
    refine ⟨store.create snifferNs, ?_, entry.of_get_eq (Store.get_create _ _ _ _), ?_⟩
    · simp
    · exact fun other _ => Store.get_create store snifferNs snifferNs other
  · refine ⟨store.set snifferNs rssiKey (.num .i32 rssi.toInt), ?_, ⟨nonzero, ?_⟩, ?_⟩
    · rw [if_pos same, Program.run_bind_of_ok _ (run_nvsSetNum32i _ _ _ rssi.toInt),
        run_espErrorCheck_ok, Store.set_create]
    · exact .inl (Store.get_set_self store snifferNs rssiKey _)
    · intro other ne
      exact Store.get_set_of_ne store _ snifferNs ne

end Spec

/-! ## Setters -/

/-- The entries that `sniffer_init_config` reads, and what they stand for. -/
structure Readable (store : Store) (data : List UInt8) (rssi : Int8) : Prop where
  own : ∃ own, FilterEntry store ownKey own
  addr2 : FilterEntry store addr2Key data
  rssi : RssiEntry store rssi

section Setters

variable {store : Store} {data : List UInt8} {rssi : Int8}

theorem Readable.create (readable : Readable store data rssi) :
    Readable (store.create snifferNs) data rssi := by
  rcases readable.own with ⟨own, entry⟩
  exact ⟨⟨own, entry.of_get_eq (Store.get_create _ _ _ _)⟩,
    readable.addr2.of_get_eq (Store.get_create _ _ _ _),
    readable.rssi.of_get_eq (Store.get_create _ _ _ _)⟩

theorem Readable.setOwn (readable : Readable store data rssi) (filters : Filters)
    {ownMac : AddrFilter} (full : ownMac.size = 6) :
    ∃ next,
      (snifferSetOwnMacFilter true filters ownMac).run Store.handle store =
          .ok ({ filters with addrOwnMac := ownMac }, next) ∧
        Readable next data rssi := by
  rcases readable.own with ⟨own, entry⟩
  rcases run_wifiSnifferNvsSetFilterMac entry (Nat.le_of_eq full) with
    ⟨next, ran, written, others⟩
  refine ⟨next, ?_, ⟨ownMac.bytes, written⟩, ?_, ?_⟩
  · rw [snifferSetOwnMacFilter, snifferSetFilter, if_pos rfl]
    simp [ran]
  · exact readable.addr2.of_get_eq (others addr2Key (by decide))
  · exact readable.rssi.of_get_eq (others rssiKey (by decide))

theorem Readable.setAddr2 (readable : Readable store data rssi) (filters : Filters)
    {addrFilter : AddrFilter} (fits : addrFilter.size ≤ 6) :
    ∃ next,
      (snifferSetAddr2Filter true filters addrFilter).run Store.handle store =
          .ok ({ filters with addr2Filter := addrFilter }, next) ∧
        Readable next addrFilter.bytes rssi := by
  rcases run_wifiSnifferNvsSetFilterMac readable.addr2 fits with ⟨next, ran, entry, others⟩
  refine ⟨next, ?_, ?_, entry, ?_⟩
  · rw [snifferSetAddr2Filter, snifferSetFilter, if_pos rfl]
    simp [ran]
  · rcases readable.own with ⟨own, entry⟩
    exact ⟨own, entry.of_get_eq (others ownKey (by decide))⟩
  · exact readable.rssi.of_get_eq (others rssiKey (by decide))

/-- The threshold that a setter goes on with, which is never zero. -/
def effectiveRssi (rssi : Int8) : Int8 :=
  if rssi = 0 then snifferRssiFilterDefault else rssi

/-- Whatever has been stored, the threshold that is set is the one read back. -/
theorem run_snifferSetRssiFilter (filters : Filters) (value : Int8) (store : Store) :
    ∃ next,
      (snifferSetRssiFilter filters value).run Store.handle store =
          .ok ({ filters with rssiFilter := effectiveRssi value }, next) ∧
        storedRssi next = effectiveRssi value := by
  have got := run_wifiSnifferNvsGetFilterRssi_stored store
  by_cases same : storedRssi store = effectiveRssi value
  · refine ⟨store.create snifferNs, ?_, ?_⟩
    · rw [effectiveRssi] at same ⊢
      simp [snifferSetRssiFilter, wifiSnifferNvsSetFilterRssi, got, same]
    · rw [← same, storedRssi, storedRssi, Store.numSetting, Store.numSetting, Store.get_create]
  · refine ⟨store.set snifferNs rssiKey (.num .i32 (effectiveRssi value).toInt), ?_, ?_⟩
    · rw [effectiveRssi] at same ⊢
      simp [snifferSetRssiFilter, wifiSnifferNvsSetFilterRssi, got, same, run_nvsSetNum32i]
    · rw [storedRssi, Store.numSetting, Store.get_set_self, Int8.ofInt_toInt]

theorem effectiveRssi_ne_zero (rssi : Int8) : effectiveRssi rssi ≠ 0 := by
  rw [effectiveRssi]
  split
  · decide
  · assumption

theorem Readable.setRssi (readable : Readable store data rssi) (filters : Filters)
    (value : Int8) :
    ∃ next,
      (snifferSetRssiFilter filters value).run Store.handle store =
          .ok ({ filters with rssiFilter := effectiveRssi value }, next) ∧
        Readable next data (effectiveRssi value) := by
  rcases run_wifiSnifferNvsSetFilterRssi readable.rssi (effectiveRssi_ne_zero value) with
    ⟨next, ran, entry, others⟩
  refine ⟨next, ?_, ?_, ?_, entry⟩
  · rw [effectiveRssi] at ran
    simp [snifferSetRssiFilter, effectiveRssi, ran]
  · rcases readable.own with ⟨own, entry⟩
    exact ⟨own, entry.of_get_eq (others ownKey (by decide))⟩
  · exact readable.addr2.of_get_eq (others addr2Key (by decide))

end Setters

/-! ## Sequences of operations -/

/-- What happens to the filters after boot. -/
inductive FilterOp where
  /-- `sniffer_set_addr2_filter`, with the outcome of `xSemaphoreTake` -/
  | setAddr2 (taken : Bool) (addrFilter : AddrFilter)
  /-- `sniffer_set_rssi_filter` -/
  | setRssi (rssi : Int8)

/-- The filter fits its array. -/
def FilterOp.Fits : FilterOp → Prop
  | .setAddr2 _ addrFilter => addrFilter.size ≤ 6
  | .setRssi _ => True

instance (op : FilterOp) : Decidable op.Fits :=
  match op with
  | .setAddr2 _ addrFilter => inferInstanceAs (Decidable (addrFilter.size ≤ 6))
  | .setRssi _ => inferInstanceAs (Decidable True)

def runFilterOp (filters : Filters) : FilterOp → NvsProgram Filters
  | .setAddr2 taken addrFilter => snifferSetAddr2Filter taken filters addrFilter
  | .setRssi rssi => snifferSetRssiFilter filters rssi

/-- One operation after the other. -/
def runFilterOps (filters : Filters) : List FilterOp → NvsProgram Filters
  | [] => pure filters
  | op :: ops => do
      let filters ← runFilterOp filters op
      runFilterOps filters ops

/-- What an operation does to the filter variables. -/
def filtersAfter (filters : Filters) : FilterOp → Filters
  | .setAddr2 true addrFilter => { filters with addr2Filter := addrFilter }
  | .setAddr2 false _ => filters
  | .setRssi rssi => { filters with rssiFilter := effectiveRssi rssi }

/-- The store and the filter variables say the same. -/
def Synced (store : Store) (filters : Filters) : Prop :=
  Readable store filters.addr2Filter.bytes filters.rssiFilter

section Ops

variable {store : Store} {filters : Filters}

theorem Synced.op (synced : Synced store filters) {op : FilterOp} (fits : op.Fits) :
    ∃ next,
      (runFilterOp filters op).run Store.handle store = .ok (filtersAfter filters op, next) ∧
        Synced next (filtersAfter filters op) := by
  cases op with
  | setAddr2 taken addrFilter =>
      cases taken with
      | false => exact ⟨store, rfl, synced⟩
      | true => exact synced.setAddr2 filters fits
  | setRssi rssi => exact synced.setRssi filters rssi

theorem Synced.ops (synced : Synced store filters) {ops : List FilterOp}
    (fits : ∀ op ∈ ops, op.Fits) :
    ∃ next,
      (runFilterOps filters ops).run Store.handle store =
          .ok (ops.foldl filtersAfter filters, next) ∧
        Synced next (ops.foldl filtersAfter filters) := by
  induction ops generalizing store filters with
  | nil => exact ⟨store, rfl, synced⟩
  | cons op ops ih =>
      rcases synced.op (fits op List.mem_cons_self) with ⟨middle, ran, synced⟩
      rcases ih synced fun later member => fits later (List.mem_cons_of_mem op member) with
        ⟨next, rest, synced⟩
      refine ⟨next, ?_, synced⟩
      rw [runFilterOps, Program.run_bind_of_ok _ ran, rest, List.foldl_cons]

end Ops

/-! ## Boot -/

section Boot

variable {store : Store} {data : List UInt8} {rssi : Int8}

/-- A boot takes over what is stored, and what is stored keeps its meaning. -/
theorem Readable.boot (readable : Readable store data rssi) {ownMac : AddrFilter}
    (full : ownMac.size = 6) :
    ∃ next,
      (snifferInitConfig filtersAtPowerUp ownMac).run Store.handle store =
          .ok (⟨ownMac, .filled data, rssi⟩, next) ∧
        Readable next data rssi := by
  rcases readable.setOwn filtersAtPowerUp full with ⟨named, ranOwn, own⟩
  have ranGetRssi := run_wifiSnifferNvsGetFilterRssi own.rssi
  rcases own.create.setRssi { filtersAtPowerUp with addrOwnMac := ownMac } rssi with
    ⟨tuned, ranSetRssi, tune⟩
  have rssi_eq : effectiveRssi rssi = rssi := if_neg readable.rssi.1
  rw [rssi_eq] at ranSetRssi tune
  have ranGetMac := run_wifiSnifferNvsGetFilterMac tune.addr2
  have fits : (AddrFilter.filled data).size ≤ 6 := readable.addr2.1
  rcases tune.setAddr2 { filtersAtPowerUp with addrOwnMac := ownMac, rssiFilter := rssi } fits
    with ⟨last, ranSetAddr2, kept⟩
  refine ⟨last, ?_, by simpa using kept⟩
  rw [snifferInitConfig, Program.run_bind_of_ok _ ranOwn, Program.run_bind_of_ok _ ranGetRssi,
    Program.run_bind_of_ok _ ranSetRssi, Program.run_bind_of_ok _ ranGetMac, ranSetAddr2]

/-- A filter that could be loaded has a readable entry. -/
theorem filterEntry_of_run {key : String} {addrFilter : AddrFilter} {next : Store}
    (ran : (wifiSnifferNvsGetFilterMac key).run Store.handle store = .ok (addrFilter, next)) :
    ∃ data, FilterEntry store key data := by
  rw [wifiSnifferNvsGetFilterMac] at ran
  cases stored : store.get snifferNs key with
  | none => exact ⟨[], Nat.zero_le _, .inr ⟨stored, rfl⟩⟩
  | some value =>
      cases value with
      | blob data =>
          refine ⟨data, ?_, .inl stored⟩
          by_contra overflows
          rw [Program.run_bind, run_nvsGetArray_of_overflow stored (by simpa using overflows)]
            at ran
          cases ran
      | num type number =>
          rw [Program.run_bind, run_nvsGetArray_of_mismatch stored nofun] at ran
          simp [run_espErrorCheck_of_ne] at ran
      | str string =>
          rw [Program.run_bind, run_nvsGetArray_of_mismatch stored nofun] at ran
          simp [run_espErrorCheck_of_ne] at ran

/-- A boot that comes through has read the entry of the own address. -/
theorem ownEntry_of_boot {filters ram : Filters} {ownMac : AddrFilter} {booted : Store}
    (boot : (snifferInitConfig filters ownMac).run Store.handle store = .ok (ram, booted)) :
    ∃ own, FilterEntry store ownKey own := by
  rcases (Program.run_bind_eq_ok_iff _).mp boot with ⟨named, _, ranSet, _⟩
  rcases (Program.run_bind_eq_ok_iff _).mp ranSet with ⟨_, _, ranTaken, _⟩
  rw [snifferSetFilter, if_pos rfl] at ranTaken
  rcases (Program.run_bind_eq_ok_iff _).mp ranTaken with ⟨_, _, ranWrite, _⟩
  rcases (Program.run_bind_eq_ok_iff _).mp ranWrite with ⟨_, _, ranGet, _⟩
  exact filterEntry_of_run ranGet

theorem guarantees_snifferSetOwnMacFilter (filters : Filters) (ownMac : AddrFilter) :
    Guarantees Store.handle (snifferSetOwnMacFilter true filters ownMac) store fun result _ =>
      result.addrOwnMac = ownMac := by
  have taken : Guarantees Store.handle (snifferSetFilter true ownKey ownMac filters.addrOwnMac)
      store fun addrOwnMac _ => addrOwnMac = ownMac :=
    Guarantees.bind_of_forall fun _ _ => Program.guarantees_pure rfl
  exact taken.bind fun _ _ own_eq => Program.guarantees_pure own_eq

theorem guarantees_snifferSetRssiFilter (filters : Filters) (rssi : Int8) :
    Guarantees Store.handle (snifferSetRssiFilter filters rssi) store fun result _ =>
      result.addrOwnMac = filters.addrOwnMac :=
  Guarantees.bind_of_forall fun _ _ => Program.guarantees_pure rfl

theorem guarantees_snifferSetAddr2Filter (filters : Filters) (addrFilter : AddrFilter) :
    Guarantees Store.handle (snifferSetAddr2Filter true filters addrFilter) store fun result _ =>
      result.addrOwnMac = filters.addrOwnMac :=
  Guarantees.bind_of_forall fun _ _ => Program.guarantees_pure rfl

/-- After a boot, the own address is the one that was given. -/
theorem guarantees_snifferInitConfig (filters : Filters) (ownMac : AddrFilter) :
    Guarantees Store.handle (snifferInitConfig filters ownMac) store fun result _ =>
      result.addrOwnMac = ownMac := by
  refine (guarantees_snifferSetOwnMacFilter filters ownMac).bind ?_
  intro named _ named_eq
  apply Guarantees.bind_of_forall
  intro rssi _
  refine (guarantees_snifferSetRssiFilter named rssi).bind ?_
  intro tuned _ tuned_eq
  apply Guarantees.bind_of_forall
  intro addrFilter _
  refine (guarantees_snifferSetAddr2Filter tuned addrFilter).mono ?_
  intro result _ result_eq
  rw [result_eq, tuned_eq, named_eq]

/-- A boot reads the threshold for writing, which creates the namespace. -/
theorem guarantees_has_snifferInitConfig (filters : Filters) (ownMac : AddrFilter) :
    Guarantees Store.handle (snifferInitConfig filters ownMac) store fun _ next =>
      next.Has snifferNs := by
  apply Guarantees.bind_of_forall
  intro named middle
  refine Guarantees.bind_of_ok (run_wifiSnifferNvsGetFilterRssi_stored middle) ?_
  refine (Program.calls_of_forall fun _ => trivial : Program.Calls (fun _ => True) _).guarantees
    (fun store : Store => store.Has snifferNs) ?_ (Store.has_create middle snifferNs)
  exact fun _ _ _ _ _ has handled => Store.has_of_handle has handled

/-- What the next boot loads. -/
def loadFilters : NvsProgram (AddrFilter × Int8) := do
  let addrFilter ← wifiSnifferNvsGetFilterMac addr2Key
  let rssi ← wifiSnifferNvsGetFilterRssi
  return (addrFilter, rssi)

/-- Loading from the store gives the same filters as the given ones. -/
def Loads (store : Store) (filters : Filters) : Prop :=
  ∃ addrFilter next,
    loadFilters.run Store.handle store = .ok ((addrFilter, filters.rssiFilter), next) ∧
      addrFilter.size = filters.addr2Filter.size ∧
      addrFilter.bytes = filters.addr2Filter.bytes

theorem Synced.loads {filters : Filters} (synced : Synced store filters) :
    Loads store filters := by
  refine ⟨.filled filters.addr2Filter.bytes, store.create snifferNs, ?_, ?_, ?_⟩
  · rw [loadFilters, Program.run_bind_of_ok _ (run_wifiSnifferNvsGetFilterMac synced.addr2),
      Program.run_bind_of_ok _ (run_wifiSnifferNvsGetFilterRssi synced.rssi), Program.run_pure]
  · rw [AddrFilter.filled_size, AddrFilter.bytes_length]
  · exact AddrFilter.filled_bytes _

/-- After a boot that comes through and any operations on the filters, the store loads
the filters in use.  The next boot goes by them, and the store then still loads them. -/
theorem filters_survive_reboot {booted : Store} {ram : Filters} {ownMac : AddrFilter}
    (full : ownMac.size = 6) (addr2 : ∃ data, FilterEntry store addr2Key data)
    (threshold : ∃ rssi, RssiEntry store rssi)
    (boot : (snifferInitConfig filtersAtPowerUp ownMac).run Store.handle store =
      .ok (ram, booted))
    {ops : List FilterOp} (fits : ∀ op ∈ ops, op.Fits) :
    ∃ filters stored,
      (runFilterOps ram ops).run Store.handle booted = .ok (filters, stored) ∧
        filters = ops.foldl filtersAfter ram ∧
        Loads stored filters ∧
        ∀ nextMac : AddrFilter, nextMac.size = 6 →
          ∃ next after,
            (snifferInitConfig filtersAtPowerUp nextMac).run Store.handle stored =
                .ok (next, after) ∧
              next.addr2Filter.size = filters.addr2Filter.size ∧
              next.addr2Filter.bytes = filters.addr2Filter.bytes ∧
              next.rssiFilter = filters.rssiFilter ∧
              Loads after filters := by
  rcases addr2 with ⟨data, addr2⟩
  rcases threshold with ⟨rssi, threshold⟩
  have own := ownEntry_of_boot boot
  have readable : Readable store data rssi := ⟨own, addr2, threshold⟩
  rcases readable.boot full with ⟨next, ran, readable⟩
  rw [boot] at ran
  cases ran
  have synced : Synced booted ⟨ownMac, .filled data, rssi⟩ := by
    simpa [Synced] using readable
  rcases synced.ops fits with ⟨stored, ranOps, synced⟩
  refine ⟨_, stored, ranOps, rfl, synced.loads, ?_⟩
  intro nextMac full
  rcases Readable.boot synced full with ⟨after, ranBoot, readable⟩
  refine ⟨_, after, ranBoot, ?_, ?_, rfl, Synced.loads readable⟩
  · exact AddrFilter.bytes_length _
  · exact AddrFilter.filled_bytes _

/-- On erased flash, with two address filters set one after the other, the second one
shorter, and the threshold set and then reset to its default. -/
theorem filters_survive_reboot_erased :
    let ops := [.setAddr2 true (.filled [170, 187, 204, 221]), .setRssi (-70),
      .setAddr2 true (.filled [170, 187]), .setRssi 0]
    ∃ ram booted filters stored,
      (snifferInitConfig filtersAtPowerUp (.filled [1, 2, 3, 4, 5, 6])).run Store.handle .empty =
          .ok (ram, booted) ∧
        (runFilterOps ram ops).run Store.handle booted = .ok (filters, stored) ∧
        filters.addr2Filter.bytes = [170, 187] ∧ filters.rssiFilter = -96 ∧
        Loads stored filters := by
  intro ops
  have own : FilterEntry .empty ownKey [] := ⟨Nat.zero_le 6, .inr ⟨rfl, rfl⟩⟩
  have addr2 : FilterEntry .empty addr2Key [] := ⟨Nat.zero_le 6, .inr ⟨rfl, rfl⟩⟩
  have threshold : RssiEntry .empty (-96) := ⟨by decide, .inr ⟨rfl, rfl⟩⟩
  have full : (AddrFilter.filled [1, 2, 3, 4, 5, 6]).size = 6 := rfl
  have fits : ∀ op ∈ ops, op.Fits := by decide
  rcases Readable.boot ⟨⟨[], own⟩, addr2, threshold⟩ full with ⟨booted, boot, _⟩
  rcases filters_survive_reboot full ⟨[], addr2⟩ ⟨-96, threshold⟩ boot fits with
    ⟨_, stored, ran, rfl, loads, _⟩
  exact ⟨_, booted, _, stored, boot, ran, rfl, rfl, loads⟩

end Boot

end WifiSniffer.Settings
