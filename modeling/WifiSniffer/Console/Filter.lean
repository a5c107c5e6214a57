import WifiSniffer.Capture.HexArray
import WifiSniffer.Settings.Filter

/-!
# The `filter` command

What `console_sniffer_cmd.c` makes of the arguments of `filter`, up to the filters that
it sets.

The length of a source argument is looked at only when it is odd, and what
`hex_to_byte_array` returns is taken for a number of bytes whatever it is.  A threshold
becomes an `int8_t` before its sign is looked at.
-/

namespace WifiSniffer.Console

open WifiSniffer.Bytes WifiSniffer.Capture WifiSniffer.Effect WifiSniffer.Handler
open WifiSniffer.Nvs WifiSniffer.Settings
open Program (EachRequest Guarantees)

/-! ## The code -/

/-- A call of `printfln`, with its format and the argument of it. -/
structure Line (α : Type) where
  format : String
  argument : α

/-- `console_read_filter`, with what is then in `*addrFilter` and the line it prints. -/
def consoleReadFilter (mac : CString) (readBytes : Nat) (addrFilter : AddrFilter) :
    NvsProgram (Bool × AddrFilter × Line CString) := do
  if readBytes > 0 then
    if readBytes % 2 = 0 then
      let (t, bytes) := hexToByteArray mac.chars readBytes
      ask (.write addrFilter.array.length bytes.length)
      let addr := overwrite addrFilter.array bytes
      return (true, { addr := fun index => addr.getD index 0, size := t.toNat },
        ⟨"Filtering  %s ", mac⟩)
    else if readBytes > 12 then
      return (false, addrFilter, ⟨"Argument exceeds 12 bytes %s ", mac⟩)
    else return (false, addrFilter, ⟨"Argument must be even in length %s ", mac⟩)
  else return (true, { addrFilter with size := 0 }, ⟨"Clearing filter %s", .ofArray []⟩)

/-- `console_sniffer_filter_source_arg`, with the argument if there is one.  The result
is what is then in the filter variables. -/
def consoleSnifferFilterSourceArg (taken : Bool) (filters : Filters)
    (argSource : Option CString) : NvsProgram Filters :=
  match argSource with
  | none => pure filters
  | some addr2 => do
      let (ok, filter, _) ← consoleReadFilter addr2 addr2.length (.filled [])
      if ok then snifferSetAddr2Filter taken filters filter else return filters

/-- `console_sniffer_filter_rssi_arg`, with the argument if there is one.  The result
is what is then in the filter variables, and the line that is printed. -/
def consoleSnifferFilterRssiArg (filters : Filters) (argRssi : Option Int32) :
    NvsProgram (Filters × Option (Line Int8)) :=
  match argRssi with
  | none => pure (filters, none)
  | some ival => do
      let rssi := ival.toInt8
      if rssi > 0 then return (filters, some ⟨"RSSI filter cannot be positive %d", rssi⟩)
      else
        let filters ← snifferSetRssiFilter filters rssi
        return (filters, none)

/-! ## The source argument -/

/-- What can be given for the source: nothing, or up to six bytes in hexadecimal. -/
def SourceText (mac : CString) : Prop :=
  mac.chars = [] ∨
    mac.length ∈ [2, 4, 6, 8, 10, 12] ∧ ∀ digit ∈ mac.chars, IsHexDigit digit

instance (mac : CString) : Decidable (SourceText mac) :=
  inferInstanceAs (Decidable (_ ∨ _))

/-- Every write of a run is inside its array. -/
def WritesInside : NvsCall → Prop
  | .write size count => count ≤ size
  | _ => True

/-- A source argument is read as it should be: it makes a filter exactly if it is a
source text, the filter is the bytes that the text stands for and is then set, the
array of the filter is not left, and any other argument changes nothing. -/
structure ReadsSource (taken : Bool) (filters : Filters) (store : Store) (mac : CString) :
    Prop where
  inside : EachRequest Store.handle WritesInside
    (consoleReadFilter mac mac.length (.filled [])) store
  reads : ∃ ok filter line,
    (consoleReadFilter mac mac.length (.filled [])).run Store.handle store =
        .ok ((ok, filter, line), store) ∧
      (ok = true ↔ SourceText mac) ∧
      (ok = true → filter.size = mac.length / 2 ∧ filter.size ≤ 6 ∧
        hexDecode? mac.chars = some filter.bytes ∧
        Guarantees Store.handle (consoleSnifferFilterSourceArg taken filters (some mac)) store
          fun after _ =>
            after = if taken then { filters with addr2Filter := filter } else filters)
  refused : ¬ SourceText mac →
    (consoleSnifferFilterSourceArg taken filters (some mac)).run Store.handle store =
      .ok (filters, store)

section Source

variable {store : Store} {mac : CString} {addrFilter : AddrFilter}

theorem consoleReadFilter_of_empty (empty : mac.length = 0) :
    consoleReadFilter mac mac.length addrFilter =
      pure (true, { addrFilter with size := 0 }, ⟨"Clearing filter %s", .ofArray []⟩) := by
  rw [consoleReadFilter, empty, if_neg (Nat.lt_irrefl 0)]

variable (addrFilter) in
theorem consoleReadFilter_of_odd (odd : mac.length % 2 = 1) :
    ∃ line, consoleReadFilter mac mac.length addrFilter = pure (false, addrFilter, line) := by
  have nonempty : mac.length > 0 := by omega
  have uneven : ¬ mac.length % 2 = 0 := by omega
  rw [consoleReadFilter, if_pos nonempty, if_neg uneven]
  split
  · exact ⟨_, rfl⟩
  · exact ⟨_, rfl⟩

theorem consoleReadFilter_of_even (nonempty : mac.length > 0) (even : mac.length % 2 = 0) :
    consoleReadFilter mac mac.length addrFilter = (do
      let (t, bytes) := hexToByteArray mac.chars mac.length
      ask (.write 6 bytes.length)
      let addr := overwrite addrFilter.array bytes
      return (true, { addr := fun index => addr.getD index 0, size := t.toNat },
        ⟨"Filtering  %s ", mac⟩)) := by
  rw [consoleReadFilter, if_pos nonempty, if_pos even, AddrFilter.array_length]

/-- Whether an argument makes a filter depends on its length alone. -/
theorem guarantees_consoleReadFilter :
    Guarantees Store.handle (consoleReadFilter mac mac.length addrFilter) store
      fun result _ => result.1 = decide (mac.length % 2 = 0) := by
  by_cases even : mac.length % 2 = 0
  · rw [decide_eq_true even]
    rcases Nat.eq_zero_or_pos mac.length with empty | nonempty
    · rw [consoleReadFilter_of_empty empty]
      exact Program.guarantees_pure rfl
    · rw [consoleReadFilter_of_even nonempty even]
      exact Guarantees.bind_of_forall fun _ _ => Program.guarantees_pure rfl
  · have odd : mac.length % 2 = 1 := by omega
    rcases consoleReadFilter_of_odd addrFilter odd with ⟨line, read_eq⟩
    rw [read_eq, decide_eq_false even]
    exact Program.guarantees_pure rfl

/-- Of a text that is not hexadecimal, -1 as a `size_t` becomes the size. -/
theorem guarantees_consoleReadFilter_size (nonempty : mac.length > 0)
    (even : mac.length % 2 = 0) (refused : hexDecode? mac.chars = none) :
    Guarantees Store.handle (consoleReadFilter mac mac.length addrFilter) store
      fun result _ => result.2.1.size = 4294967295 := by
  have converted : (hexToByteArray mac.chars mac.length).1 = -1 :=
    hexToByteArray_of_decode_none even refused
  rw [consoleReadFilter_of_even nonempty even]
  exact Guarantees.bind_of_forall fun _ _ =>
    Program.guarantees_pure (congrArg UInt32.toNat converted)

theorem sourceText_iff :
    SourceText mac ↔
      mac.length % 2 = 0 ∧ mac.length ≤ 12 ∧ ∀ digit ∈ mac.chars, IsHexDigit digit := by
  rw [SourceText]
  constructor
  · rintro (empty | ⟨sized, digits⟩)
    · simp [CString.length, empty]
    · simp only [List.mem_cons, List.not_mem_nil, or_false] at sized
      exact ⟨by omega, by omega, digits⟩
  · rintro ⟨even, fits, digits⟩
    rcases Nat.eq_zero_or_pos mac.length with empty | nonempty
    · exact .inl (List.length_eq_zero_iff.mp empty)
    · refine .inr ⟨?_, digits⟩
      simp only [List.mem_cons, List.not_mem_nil, or_false]
      omega

/-- A source text stands for up to six bytes. -/
theorem SourceText.decode (text : SourceText mac) :
    ∃ bytes, hexDecode? mac.chars = some bytes ∧ mac.length = 2 * bytes.length ∧
      bytes.length ≤ 6 := by
  rcases sourceText_iff.mp text with ⟨even, fits, digits⟩
  rcases Option.isSome_iff_exists.mp (hexDecode?_isSome_iff.mpr ⟨even, digits⟩) with
    ⟨bytes, decoded⟩
  have length_eq : mac.length = 2 * bytes.length := length_of_hexDecode? decoded
  exact ⟨bytes, decoded, length_eq, by omega⟩

variable (store) in
/-- Up to six bytes become the filter that has been filled with them. -/
theorem run_consoleReadFilter {bytes : List UInt8} (decoded : hexDecode? mac.chars = some bytes)
    (fits : bytes.length ≤ 6) :
    ∃ line, (consoleReadFilter mac mac.length (.filled [])).run Store.handle store =
      .ok ((true, .filled bytes, line), store) := by
  have length_eq : mac.length = 2 * bytes.length := length_of_hexDecode? decoded
  rcases Nat.eq_zero_or_pos mac.length with empty | nonempty
  · have none_given : bytes = [] := List.length_eq_zero_iff.mp (by omega)
    subst none_given
    rw [consoleReadFilter_of_empty empty]
    exact ⟨_, rfl⟩
  · have converted : hexToByteArray mac.chars mac.length =
        (UInt32.ofNat bytes.length, bytes) := hexToByteArray_of_decode decoded
    have size_eq : (UInt32.ofNat bytes.length).toNat = bytes.length := by
      rw [UInt32.toNat_ofNat_of_lt']
      exact Nat.lt_of_le_of_lt fits (by decide)
    rw [consoleReadFilter_of_even nonempty (by omega), converted]
    refine ⟨⟨"Filtering  %s ", mac⟩, ?_⟩
    simp only [Program.run_bind, Store.handle_write, Program.run_ask, Store.access,
      decide_eq_true fits, if_true, size_eq, AddrFilter.array_filled_nil]
    rfl

theorem inside_consoleReadFilter {bytes : List UInt8} (decoded : hexDecode? mac.chars = some bytes)
    (fits : bytes.length ≤ 6) :
    EachRequest Store.handle WritesInside (consoleReadFilter mac mac.length addrFilter) store := by
  have length_eq : mac.length = 2 * bytes.length := length_of_hexDecode? decoded
  rcases Nat.eq_zero_or_pos mac.length with empty | nonempty
  · rw [consoleReadFilter_of_empty empty]
    exact Program.eachRequest_pure _ store
  · have converted : hexToByteArray mac.chars mac.length =
        (UInt32.ofNat bytes.length, bytes) := hexToByteArray_of_decode decoded
    rw [consoleReadFilter_of_even nonempty (by omega), converted]
    refine (Program.eachRequest_bind_iff_left ?_).mpr ?_
    · exact fun _ middle => Program.eachRequest_pure _ middle
    · exact (Program.eachRequest_ask_iff _ store).mpr fits

variable {taken : Bool} {filters : Filters}

/-- An argument of odd length changes nothing. -/
theorem readsSource_of_odd (odd : mac.length % 2 = 1) : ReadsSource taken filters store mac := by
  rcases consoleReadFilter_of_odd (.filled []) odd with ⟨line, read_eq⟩
  have other : ¬ SourceText mac := by
    intro text
    have even := (sourceText_iff.mp text).1
    omega
  refine ⟨?_, ⟨false, .filled [], line, ?_, ?_, nofun⟩, fun _ => ?_⟩
  · rw [read_eq]
    exact Program.eachRequest_pure _ store
  · rw [read_eq]
    rfl
  · exact iff_of_false nofun other
  · rw [consoleSnifferFilterSourceArg, read_eq]
    rfl

theorem SourceText.readsSource (text : SourceText mac) :
    ReadsSource taken filters store mac := by
  rcases text.decode with ⟨bytes, decoded, length_eq, fits⟩
  rcases run_consoleReadFilter store decoded fits with ⟨line, ran⟩
  refine ⟨inside_consoleReadFilter decoded fits,
    ⟨true, .filled bytes, line, ran, iff_of_true rfl text, fun _ => ⟨?_, ?_, ?_, ?_⟩⟩,
    fun other => absurd text other⟩
  · rw [AddrFilter.filled_size]
    omega
  · exact fits
  · rw [AddrFilter.filled_bytes]
    exact decoded
  · refine Guarantees.bind_of_ok ran ?_
    dsimp only
    rw [if_pos rfl, snifferSetAddr2Filter, snifferSetFilter]
    cases taken with
    | true =>
        rw [if_pos rfl, if_pos rfl, Program.bind_assoc]
        exact Guarantees.bind_of_forall fun _ _ => Program.guarantees_pure rfl
    | false => exact Program.guarantees_pure rfl

/-- A source argument is read as it should be exactly if it is a source text or of odd
length.  Any other one is of even length, and is too long or not made of digits. -/
theorem readsSource_iff (taken : Bool) (filters : Filters) (store : Store) (mac : CString) :
    ReadsSource taken filters store mac ↔ mac.length % 2 = 1 ∨ SourceText mac := by
  constructor
  · intro reads
    rcases reads.reads with ⟨ok, filter, line, ran, ok_iff, _⟩
    by_cases odd : mac.length % 2 = 1
    · exact .inl odd
    · have made : ok = decide (mac.length % 2 = 0) := guarantees_consoleReadFilter _ _ ran
      rw [decide_eq_true (by omega)] at made
      exact .inr (ok_iff.mp made)
  · rintro (odd | text)
    · exact readsSource_of_odd odd
    · exact text.readsSource

/-- Of `zz`, the command makes a filter of 4294967295 bytes. -/
theorem not_readsSource_zz :
    let mac := CString.ofString "zz"
    (∃ filter line,
      (consoleReadFilter mac mac.length (.filled [])).run Store.handle .empty =
          .ok ((true, filter, line), .empty) ∧
        filter.size = 4294967295) ∧
      ¬ ReadsSource true filtersAtPowerUp .empty mac := by
  intro mac
  have other : ¬ SourceText mac := by decide +kernel
  have converted : hexToByteArray mac.chars mac.length = (4294967295, []) := by decide +kernel
  have ran : ∃ filter line,
      (consoleReadFilter mac mac.length (.filled [])).run Store.handle .empty =
          .ok ((true, filter, line), .empty) ∧
        filter.size = 4294967295 := by
    rw [consoleReadFilter_of_even (by decide) (by decide), converted]
    exact ⟨_, _, rfl, rfl⟩
  refine ⟨ran, ?_⟩
  intro reads
  rcases ran with ⟨_, _, ran, _⟩
  rcases reads.reads with ⟨ok, filter, line, ran', ok_iff, _⟩
  rw [ran] at ran'
  cases ran'
  exact other (ok_iff.mp rfl)

end Source

/-! ## The threshold argument -/

/-- A threshold is what the next boot reads. -/
def ReadsRssi (store : Store) (rssi : Int8) : Prop :=
  ∃ next, wifiSnifferNvsGetFilterRssi.run Store.handle store = .ok (rssi, next)

/-- A threshold argument means what it says: an `int8_t` below zero becomes the
threshold in use and in the store, zero stands for the default, and any other number is
refused. -/
def MeansRssi (filters : Filters) (store : Store) (ival : Int32) : Prop :=
  ∃ after line next,
    (consoleSnifferFilterRssiArg filters (some ival)).run Store.handle store =
        .ok ((after, line), next) ∧
      (-128 ≤ ival.toInt ∧ ival.toInt < 0 →
        after.rssiFilter.toInt = ival.toInt ∧
          ∃ rssi : Int8, rssi.toInt = ival.toInt ∧ ReadsRssi next rssi) ∧
      (ival = 0 → after.rssiFilter = -96 ∧ ReadsRssi next (-96)) ∧
      (ival.toInt < -128 ∨ 0 < ival.toInt →
        line.isSome ∧ after.rssiFilter = filters.rssiFilter ∧
          (∀ rssi, ReadsRssi next rssi ↔ ReadsRssi store rssi) ∧
          ∀ semaphore type frame ctrl,
            Accepts after semaphore type frame ctrl ↔
              Accepts filters semaphore type frame ctrl)

section Rssi

variable {filters : Filters} {store : Store} {ival : Int32}

theorem toInt8_toInt (inRange : -128 ≤ ival.toInt ∧ ival.toInt ≤ 127) :
    ival.toInt8.toInt = ival.toInt := by
  rw [Int32.toInt_toInt8, Int.bmod_eq_of_le_mul_two (by omega) (by omega)]

variable (filters store) in
/-- A number that is not above zero as an `int8_t` is set. -/
theorem run_consoleSnifferFilterRssiArg (passes : ¬ ival.toInt8 > 0) :
    ∃ next,
      (consoleSnifferFilterRssiArg filters (some ival)).run Store.handle store =
          .ok (({ filters with rssiFilter := effectiveRssi ival.toInt8 }, none), next) ∧
        ReadsRssi next (effectiveRssi ival.toInt8) := by
  rcases run_snifferSetRssiFilter filters ival.toInt8 store with ⟨next, ran, stored⟩
  refine ⟨next, ?_, next.create snifferNs, ?_⟩
  · rw [consoleSnifferFilterRssiArg, if_neg passes, Program.run_bind_of_ok _ ran, Program.run_pure]
  · rw [run_wifiSnifferNvsGetFilterRssi_stored, stored]

theorem run_consoleSnifferFilterRssiArg_of_pos (positive : ival.toInt8 > 0) :
    (consoleSnifferFilterRssiArg filters (some ival)).run Store.handle store =
      .ok ((filters, some ⟨"RSSI filter cannot be positive %d", ival.toInt8⟩), store) := by
  rw [consoleSnifferFilterRssiArg, if_pos positive, Program.run_pure]

theorem meansRssi_of_inRange (inRange : -128 ≤ ival.toInt ∧ ival.toInt ≤ 0) :
    MeansRssi filters store ival := by
  have toInt_eq : ival.toInt8.toInt = ival.toInt := toInt8_toInt (by omega)
  have passes : ¬ ival.toInt8 > 0 := by
    rw [gt_iff_lt, Int8.lt_iff_toInt_lt, toInt_eq, Int8.toInt_zero]
    omega
  rcases run_consoleSnifferFilterRssiArg filters store passes with
    ⟨next, ran, stored⟩
  refine ⟨_, _, next, ran, ?_, ?_, ?_⟩
  · rintro ⟨_, below⟩
    have nonzero : ival.toInt8 ≠ 0 := by
      rintro zero
      rw [zero, Int8.toInt_zero] at toInt_eq
      omega
    have effective : effectiveRssi ival.toInt8 = ival.toInt8 := if_neg nonzero
    rw [effective] at stored ⊢
    exact ⟨toInt_eq, _, toInt_eq, stored⟩
  · rintro rfl
    exact ⟨rfl, stored⟩
  · intro outside
    omega

theorem meansRssi_of_pos (positive : ival.toInt8 > 0) : MeansRssi filters store ival := by
  have outside : ¬ (-128 ≤ ival.toInt ∧ ival.toInt ≤ 0) := by
    intro inRange
    rw [gt_iff_lt, Int8.lt_iff_toInt_lt, toInt8_toInt (by omega), Int8.toInt_zero] at positive
    omega
  refine ⟨filters, _, store, run_consoleSnifferFilterRssiArg_of_pos positive, ?_, ?_, ?_⟩
  · rintro ⟨above, below⟩
    omega
  · rintro rfl
    exact absurd positive (by decide)
  · intro _
    exact ⟨rfl, rfl, fun _ => Iff.rfl, fun _ _ _ _ => Iff.rfl⟩

/-- A threshold argument means what it says exactly if it is an `int8_t` that is not
above zero, or becomes one above zero when it is narrowed. -/
theorem meansRssi_iff (filters : Filters) (store : Store) (ival : Int32) :
    MeansRssi filters store ival ↔
      (-128 ≤ ival.toInt ∧ ival.toInt ≤ 0) ∨ ival.toInt8 > 0 := by
  constructor
  · rintro ⟨after, line, next, ran, _, _, refuses⟩
    by_contra other
    rcases not_or.mp other with ⟨inRange, passes⟩
    have outside : ival.toInt < -128 ∨ 0 < ival.toInt := by
      clear refuses
      omega
    rcases run_consoleSnifferFilterRssiArg filters store passes with
      ⟨_, ran', _⟩
    rw [ran'] at ran
    cases ran
    exact absurd (refuses outside).1 nofun
  · rintro (inRange | positive)
    · exact meansRssi_of_inRange inRange
    · exact meansRssi_of_pos positive

/-- `filter -r 200` sets the threshold to -56. -/
theorem not_meansRssi_200 :
    (∃ next,
      (consoleSnifferFilterRssiArg filtersAtPowerUp (some 200)).run Store.handle .empty =
          .ok (({ filtersAtPowerUp with rssiFilter := -56 }, none), next) ∧
        ReadsRssi next (-56)) ∧
      ¬ MeansRssi filtersAtPowerUp .empty 200 := by
  have passes : ¬ (200 : Int32).toInt8 > 0 := by decide
  rcases run_consoleSnifferFilterRssiArg filtersAtPowerUp .empty passes with
    ⟨next, ran, stored⟩
  refine ⟨⟨next, ran, stored⟩, ?_⟩
  rintro ⟨after, line, last, ran', _, _, refuses⟩
  rw [ran] at ran'
  cases ran'
  exact absurd (refuses (.inr (by decide))).1 nofun

end Rssi

end WifiSniffer.Console
