import WifiSniffer.Firmware.Code
import WifiSniffer.Firmware.Wifi

/-!
# What the commands write

Each command, a click and a boot with the writes that it makes to the settings.  The
filter variables, the interface and the frame types come along with them.
-/

namespace WifiSniffer.Firmware

open WifiSniffer.Bytes WifiSniffer.Capture WifiSniffer.Console WifiSniffer.Effect
open WifiSniffer.Handler WifiSniffer.Nvs WifiSniffer.Settings WifiSniffer.Wifi
open WifiSniffer.Tasks (SnifferEvent clickedRssi)
open Program (Calls Guarantees Performs Throughout)

variable {α δ : Type} {chip : Chip δ} {hardware : Hardware δ} {ipaddrAddr : CString → UInt32}
  {defaults : WifiDefaults}

/-! ## Parts -/

section Parts

/-- The settings in the flash of the hardware. -/
def hardwareSettings (ipaddrAddr : CString → UInt32) (defaults : WifiDefaults)
    (hardware : Hardware δ) : Settings :=
  worldSettings ipaddrAddr defaults hardware.world

/-- The interface, the frame types and what the driver has been handed are the same. -/
structure SameSetup (hardware last : Hardware δ) : Prop where
  netIf : last.world.netIf = hardware.world.netIf
  frames : last.frames = hardware.frames
  handed : last.world.handed = hardware.world.handed

theorem SameSetup.refl (hardware : Hardware δ) : SameSetup hardware hardware :=
  ⟨rfl, rfl, rfl⟩

theorem SameSetup.trans {middle last : Hardware δ} (first : SameSetup hardware middle)
    (second : SameSetup middle last) : SameSetup hardware last :=
  ⟨second.netIf.trans first.netIf, second.frames.trans first.frames,
    second.handed.trans first.handed⟩

theorem run_ask_wifi (call : WifiCall) (hardware : Hardware δ) :
    (ask (.wifi call)).run chip.handle hardware =
      Hardware.worldPart.lift hardware (chip.toDriver.handle call hardware.world) :=
  Program.run_ask _ _ _

theorem of_handle_wifi {call : WifiCall} {answer : call.Response} {next : Hardware δ}
    (handled : chip.handle (.wifi call) hardware = .ok (answer, next)) :
    ∃ world, chip.toDriver.handle call hardware.world = .ok (answer, world) ∧
      next = { hardware with world } := by
  rw [Chip.handle] at handled
  cases ran : chip.toDriver.handle call hardware.world with
  | error halt =>
      rw [ran] at handled
      cases handled
  | ok result =>
      rw [ran] at handled
      cases handled
      exact ⟨result.2, rfl, rfl⟩

/-- A program of the Wi-Fi code. -/
theorem performs_wifi {program : WifiProgram α} {writes : List (Settings → Settings)}
    {post : α → World δ → Prop}
    (performs : Performs (worldSettings ipaddrAddr defaults) chip.toDriver.handle program
      hardware.world writes post) :
    Performs (hardwareSettings ipaddrAddr defaults) chip.handle (wifi program) hardware writes
      fun value last => ∃ world, post value world ∧ last = { hardware with world } := by
  refine Performs.translate Hardware.worldPart run_ask_wifi ?_ (fun _ => rfl) performs
  intro call state holds initial kept
  refine Program.throughout_ask initial ?_
  intro answer reached handled
  rcases of_handle_wifi handled with ⟨world, ran, rfl⟩
  exact kept answer world ran

/-- A program of the settings code. -/
theorem performs_settings {program : NvsProgram α} {writes : List (Settings → Settings)}
    {post : α → Store → Prop}
    (performs : Performs (settingsIn ipaddrAddr defaults) Store.handle program
      hardware.world.store writes post) :
    Performs (hardwareSettings ipaddrAddr defaults) chip.handle (settings program) hardware writes
      fun value last => SameSetup hardware last ∧ post value last.world.store := by
  refine (performs_wifi (performs_nvs performs)).mono ?_
  rintro value _ ⟨_, ⟨store, holds, rfl⟩, rfl⟩
  exact ⟨⟨rfl, rfl, rfl⟩, holds⟩

/-- A call of `wifi_sniffer.c` to the driver leaves the flash alone. -/
theorem performs_promiscuous (call : PromiscuousCall) :
    Performs (hardwareSettings ipaddrAddr defaults) chip.handle (ask (.promiscuous call)) hardware
      [] fun err last =>
        SameSetup { hardware with frames := call.frames err hardware.frames } last where
  ends := by
    intro err last ran
    rw [Program.run_ask] at ran
    cases ran
    exact ⟨rfl, rfl, rfl, rfl⟩
  throughout := by
    refine Program.throughout_ask (cutShort_refl [] _) ?_
    intro answer reached handled
    cases handled
    exact cutShort_refl [] _

theorem performs_espErrorCheck (err : EspErr) :
    Performs (hardwareSettings ipaddrAddr defaults) chip.handle (settings (espErrorCheck err))
      hardware [] fun _ last => SameSetup hardware last ∧ err = .ok := by
  have checks : Performs (settingsIn ipaddrAddr defaults) Store.handle (espErrorCheck err)
      hardware.world.store [] fun _ _ => err = .ok := by
    refine ((performs_of_keeps (calls_espErrorCheck err trivial)).and ?_).mono fun _ _ => And.right
    intro result next ran
    exact of_run_espErrorCheck ran
  exact performs_settings checks

theorem performs_check (call : PromiscuousCall) :
    Performs (hardwareSettings ipaddrAddr defaults) chip.handle (check call) hardware []
      fun _ last =>
        SameSetup { hardware with frames := call.frames .ok hardware.frames } last := by
  refine (performs_promiscuous call).bind_nil ?_
  intro err middle called _
  refine (performs_espErrorCheck err).mono ?_
  rintro _ last ⟨checked, rfl⟩
  exact called.trans checked

theorem performs_snifferPostEvent (event : SnifferEvent) :
    Performs (hardwareSettings ipaddrAddr defaults) chip.handle (snifferPostEvent event) hardware []
      fun _ last => SameSetup hardware last := by
  refine (performs_promiscuous (.eventPostTo event)).bind_nil ?_
  intro err middle called _
  split
  · exact Program.performs_pure called
  · refine (performs_espErrorCheck err).mono ?_
    rintro _ last ⟨checked, _⟩
    exact SameSetup.trans called checked

end Parts

/-! ## Filters -/

section Filters

/-- The filter variables are those of the settings. -/
structure InUse (settings : Settings) (filters : Filters) : Prop where
  source : filters.addr2Filter.bytes = settings.source
  fits : filters.addr2Filter.size ≤ 6
  rssi : filters.rssiFilter = settings.rssi

variable {settings : Settings} {filters : Filters}

theorem InUse.setSource (inUse : InUse settings filters) {addrFilter : AddrFilter}
    (fits : addrFilter.size ≤ 6) :
    InUse (settings.setSource addrFilter.bytes) { filters with addr2Filter := addrFilter } :=
  ⟨rfl, fits, inUse.rssi⟩

theorem InUse.setRssi (inUse : InUse settings filters) (rssi : Int8) :
    InUse (settings.setRssi rssi) { filters with rssiFilter := effectiveRssi rssi } :=
  ⟨inUse.source, inUse.fits, rfl⟩

variable (filters)

theorem performs_setAddr2Filter (addrFilter : AddrFilter) :
    Performs (hardwareSettings ipaddrAddr defaults) chip.handle
      (snifferSetAddr2Filter filters addrFilter) hardware [.setSource addrFilter.bytes]
      fun result last => SameSetup hardware last ∧ addrFilter.size ≤ 6 ∧
        result = { filters with addr2Filter := addrFilter } := by
  refine (performs_settings (performs_snifferSetAddr2Filter filters addrFilter)).nil_bind ?_
  rintro result middle ⟨stored, fits, rfl⟩ _
  refine (performs_snifferPostEvent .filterChanged).nil_bind ?_
  intro _ last posted _
  exact Program.performs_pure ⟨stored.trans posted, fits, rfl⟩

theorem performs_setAddr2Filter_of_lt {addrFilter : AddrFilter} (large : 6 < addrFilter.size) :
    Performs (hardwareSettings ipaddrAddr defaults) chip.handle
      (snifferSetAddr2Filter filters addrFilter) hardware [] fun _ _ => False := by
  refine (performs_settings (performs_snifferSetAddr2Filter_of_lt filters large)).bind_nil ?_
  rintro _ _ ⟨_, halts⟩ _
  exact halts.elim

theorem performs_setRssiFilter (rssi : Int8) :
    Performs (hardwareSettings ipaddrAddr defaults) chip.handle
      (snifferSetRssiFilter filters rssi) hardware [.setRssi rssi]
      fun result last => SameSetup hardware last ∧
        result = { filters with rssiFilter := effectiveRssi rssi } := by
  refine (performs_settings (performs_snifferSetRssiFilter filters rssi)).nil_bind ?_
  rintro result middle ⟨stored, rfl⟩ _
  refine (performs_snifferPostEvent .filterChanged).nil_bind ?_
  intro _ last posted _
  exact Program.performs_pure ⟨stored.trans posted, rfl⟩

end Filters

/-! ## The `filter` command -/

section Filter

/-- A source argument is written if it is a text of up to six bytes in hexadecimal. -/
def sourceWrites (argSource : Option CString) : List (Settings → Settings) :=
  match argSource.bind fun mac => hexDecode? mac.chars with
  | some bytes => if bytes.length ≤ 6 then [.setSource bytes] else []
  | none => []

/-- A threshold argument is written unless it is above zero. -/
def rssiWrites (argRssi : Option Int32) : List (Settings → Settings) :=
  match argRssi with
  | some ival => if ival.toInt8 > 0 then [] else [.setRssi ival.toInt8]
  | none => []

/-- Of a frame argument, the first character is looked at. -/
def framesGiven (argFrameType : Option CString) (frames : Option FrameMask) : Option FrameMask :=
  match argFrameType with
  | none => frames
  | some frameType =>
      let first := frameType.chars.head?
      if first = none ∨ first = some 'a'.toNat.toUInt8 then some .all
      else if first = some 'd'.toNat.toUInt8 then some .data
      else frames

variable {mac : CString} {store : Store} {filters : Filters}

theorem keepsEntries_consoleReadFilter (readBytes : Nat) (addrFilter : AddrFilter) :
    Calls KeepsEntries (consoleReadFilter mac readBytes addrFilter) := by
  rw [consoleReadFilter]
  split
  · split
    · exact Calls.bind (Program.calls_ask trivial) fun _ => Program.calls_pure _
    · split
      · exact Program.calls_pure _
      · exact Program.calls_pure _
  · exact Program.calls_pure _

/-- More than six bytes leave the array of the filter. -/
theorem fits_of_run_consoleReadFilter {bytes : List UInt8}
    (decoded : hexDecode? mac.chars = some bytes)
    {result : (Bool × AddrFilter × Line CString) × Store}
    (ran : (consoleReadFilter mac mac.length (.filled [])).run Store.handle store =
      .ok result) :
    bytes.length ≤ 6 := by
  by_contra large
  have length_eq : mac.length = 2 * bytes.length := length_of_hexDecode? decoded
  have converted : hexToByteArray mac.chars mac.length = (UInt32.ofNat bytes.length, bytes) :=
    hexToByteArray_of_decode decoded
  have outside : (Nvs.ask (.write 6 bytes.length)).run Store.handle store =
      .error ⟨.outOfBounds, store⟩ := by
    simp [Store.access, large]
  rw [consoleReadFilter_of_even (by omega) (by omega), converted, Program.run_bind, outside] at ran
  cases ran

/-- Of an argument that is read, the bytes are the filter, or the size is out of reach. -/
theorem performs_consoleReadFilter :
    Performs (settingsIn ipaddrAddr defaults) Store.handle
      (consoleReadFilter mac mac.length (.filled [])) store [] fun (ok, filter, _) _ =>
        match hexDecode? mac.chars with
        | some bytes => bytes.length ≤ 6 ∧ ok = true ∧ filter = .filled bytes
        | none => ok = true → 6 < filter.size := by
  refine ((performs_of_keeps (keepsEntries_consoleReadFilter _ _)).and ?_).mono
    fun _ _ => And.right
  rintro ⟨ok, filter, line⟩ next ran
  cases decoded : hexDecode? mac.chars with
  | some bytes =>
      have fits := fits_of_run_consoleReadFilter decoded ran
      rcases run_consoleReadFilter store decoded fits with ⟨_, ran'⟩
      rw [ran'] at ran
      cases ran
      exact ⟨fits, rfl, rfl⟩
  | none =>
      rintro rfl
      have even : true = decide (mac.length % 2 = 0) := guarantees_consoleReadFilter _ _ ran
      have nonempty : mac.length > 0 := by
        rw [gt_iff_lt, Nat.pos_iff_ne_zero]
        intro empty
        rw [List.length_eq_zero_iff.mp empty] at decoded
        cases decoded
      have size_eq : filter.size = 4294967295 :=
        guarantees_consoleReadFilter_size nonempty (of_decide_eq_true even.symm) decoded _ _ ran
      rw [size_eq]
      decide

theorem performs_consoleSnifferFilterSourceArg
    (inUse : InUse (hardwareSettings ipaddrAddr defaults hardware) filters)
    (argSource : Option CString) :
    Performs (hardwareSettings ipaddrAddr defaults) chip.handle
      (consoleSnifferFilterSourceArg filters argSource) hardware (sourceWrites argSource)
      fun result last => SameSetup hardware last ∧
        InUse (hardwareSettings ipaddrAddr defaults last) result := by
  cases argSource with
  | none => exact Program.performs_pure ⟨.refl hardware, inUse⟩
  | some mac =>
      refine (performs_settings performs_consoleReadFilter).bind_nil ?_
      rintro ⟨ok, filter, line⟩ middle ⟨same, read⟩ kept
      rw [← kept] at inUse
      cases decoded : hexDecode? mac.chars with
      | some bytes =>
          rw [decoded] at read
          rcases read with ⟨short, rfl, rfl⟩
          have writes_eq : sourceWrites (some mac) =
              [.setSource (AddrFilter.filled bytes).bytes] := by
            rw [sourceWrites, Option.bind_some, decoded, AddrFilter.filled_bytes]
            exact if_pos short
          rw [writes_eq]
          refine (performs_setAddr2Filter filters (.filled bytes)).seen.mono ?_
          rintro _ last ⟨⟨stored, fits, rfl⟩, wrote⟩
          rw [wrote]
          exact ⟨same.trans stored, inUse.setSource fits⟩
      | none =>
          rw [decoded] at read
          have writes_eq : sourceWrites (some mac) = [] := by
            rw [sourceWrites, Option.bind_some, decoded]
          rw [writes_eq]
          cases ok with
          | false => exact Program.performs_pure ⟨same, inUse⟩
          | true => exact (performs_setAddr2Filter_of_lt filters (read rfl)).mono nofun

theorem strncmpEqual_one_iff {literal string : CString} {char : UInt8}
    (single : literal.chars = [char]) :
    strncmpEqual literal string 1 ↔ string.chars.head? = some char := by
  have same_iff : strncmpEqual literal string 1 ↔ literal.chars.take 1 = string.chars.take 1 :=
    ⟨fun same => congrArg CString.chars same, fun same => CString.ext same⟩
  rw [same_iff, single]
  cases string.chars with
  | nil => simp
  | cons first rest => simp [eq_comm]

theorem performs_snifferSetNoFilter :
    Performs (hardwareSettings ipaddrAddr defaults) chip.handle snifferSetNoFilter hardware []
      fun _ last => SameSetup { hardware with frames := some .all } last := by
  refine (performs_check .wifiSetPromiscuousCtrlFilter).bind_nil ?_
  intro _ _ first _
  refine (performs_check (.wifiSetPromiscuousFilter .all)).mono ?_
  intro _ _ second
  exact ⟨second.netIf.trans first.netIf, second.frames, second.handed.trans first.handed⟩

theorem performs_consoleSnifferFilterFrameArg (argFrameType : Option CString) :
    Performs (hardwareSettings ipaddrAddr defaults) chip.handle
      (consoleSnifferFilterFrameArg argFrameType) hardware [] fun _ last =>
        SameSetup { hardware with frames := framesGiven argFrameType hardware.frames } last := by
  cases argFrameType with
  | none => exact Program.performs_pure (.refl hardware)
  | some frameType =>
      have empty_iff : frameType.length = 0 ↔ frameType.chars.head? = none := by
        rw [CString.length, List.length_eq_zero_iff, List.head?_eq_none_iff]
      have a_iff : strncmpEqual (.ofString "a") frameType 1 ↔
          frameType.chars.head? = some 'a'.toNat.toUInt8 := strncmpEqual_one_iff rfl
      have d_iff : strncmpEqual (.ofString "d") frameType 1 ↔
          frameType.chars.head? = some 'd'.toNat.toUInt8 := strncmpEqual_one_iff rfl
      simp only [consoleSnifferFilterFrameArg, framesGiven, empty_iff, a_iff, d_iff]
      split
      · exact performs_snifferSetNoFilter
      · split
        · exact performs_check _
        · exact Program.performs_pure (.refl hardware)

theorem performs_consoleSnifferFilterRssiArg
    (inUse : InUse (hardwareSettings ipaddrAddr defaults hardware) filters)
    (argRssi : Option Int32) :
    Performs (hardwareSettings ipaddrAddr defaults) chip.handle
      (consoleSnifferFilterRssiArg filters argRssi) hardware (rssiWrites argRssi)
      fun result last => SameSetup hardware last ∧
        InUse (hardwareSettings ipaddrAddr defaults last) result := by
  cases argRssi with
  | none => exact Program.performs_pure ⟨.refl hardware, inUse⟩
  | some ival =>
      rw [consoleSnifferFilterRssiArg, rssiWrites]
      by_cases positive : ival.toInt8 > 0
      · rw [if_pos positive, if_pos positive]
        exact Program.performs_pure ⟨.refl hardware, inUse⟩
      · rw [if_neg positive, if_neg positive]
        refine (performs_setRssiFilter filters ival.toInt8).seen.mono ?_
        rintro _ last ⟨⟨stored, rfl⟩, wrote⟩
        rw [wrote]
        exact ⟨stored, inUse.setRssi ival.toInt8⟩

/-- The arguments of `filter` are written one after the other. -/
theorem performs_consoleSnifferFilter
    (inUse : InUse (hardwareSettings ipaddrAddr defaults hardware) filters)
    (source frameType : Option CString) (rssi : Option Int32) :
    Performs (hardwareSettings ipaddrAddr defaults) chip.handle
      (consoleSnifferFilter filters source frameType rssi) hardware
      (sourceWrites source ++ rssiWrites rssi) fun result last =>
        SameSetup { hardware with frames := framesGiven frameType hardware.frames } last ∧
          InUse (hardwareSettings ipaddrAddr defaults last) result := by
  refine (performs_consoleSnifferFilterSourceArg inUse source).bind ?_
  rintro filters middle ⟨stored, inUse⟩ _
  refine (performs_consoleSnifferFilterFrameArg frameType).bind_nil ?_
  intro _ masked framed seen
  rw [← seen] at inUse
  refine (performs_consoleSnifferFilterRssiArg inUse rssi).mono ?_
  rintro result last ⟨thresholded, inUse⟩
  refine ⟨⟨?_, ?_, ?_⟩, inUse⟩
  · rw [thresholded.netIf, framed.netIf, stored.netIf]
  · rw [thresholded.frames, framed.frames, stored.frames]
  · rw [thresholded.handed, framed.handed, stored.handed]

end Filter

/-! ## Boots -/

section Boot

theorem perform_setRssi {settings : Settings} {rssi : Int8}
    (inForce : effectiveRssi rssi = settings.rssi) :
    ∀ write ∈ [Settings.setRssi rssi], write settings = settings := by
  intro write member
  rw [List.mem_singleton.mp member, Settings.setRssi, inForce]

theorem perform_setSource {settings : Settings} {source : List UInt8}
    (inForce : source = settings.source) :
    ∀ write ∈ [Settings.setSource source], write settings = settings := by
  intro write member
  rw [List.mem_singleton.mp member, Settings.setSource, inForce]

/-- The filters are loaded and set to what they are. -/
theorem performs_snifferInitConfig (ownMac : AddrFilter) :
    Performs (hardwareSettings ipaddrAddr defaults) chip.handle (snifferInitConfig ownMac) hardware
      [] fun filters last => SameSetup hardware last ∧
        InUse (hardwareSettings ipaddrAddr defaults last) filters ∧
          filters.addrOwnMac = ownMac := by
  refine (performs_settings (performs_snifferSetOwnMacFilter filtersAtPowerUp ownMac)).bind_nil ?_
  rintro _ owned ⟨own, rfl⟩ _
  refine (performs_check .wifiSetPromiscuousRxCb).bind_nil ?_
  intro _ called sameCalled _
  refine (performs_check .eventLoopCreate).bind_nil ?_
  intro _ created sameCreated _
  refine (performs_check .eventHandlerRegister).bind_nil ?_
  intro _ registered sameRegistered _
  refine (performs_snifferPostEvent .isUp).bind_nil ?_
  intro _ posted samePosted _
  refine (performs_settings performs_wifiSnifferNvsGetFilterRssi).bind_nil ?_
  rintro rssi got ⟨sameGot, stored⟩ seen
  have inForce : effectiveRssi rssi = (hardwareSettings ipaddrAddr defaults got).rssi := by
    rw [seen]
    exact stored
  refine ((performs_setRssiFilter _ rssi).to_nil (perform_setRssi inForce)).bind_nil ?_
  rintro _ set ⟨sameSet, rfl⟩ seenSet
  refine (performs_settings performs_wifiSnifferNvsGetFilterMac).bind_nil ?_
  rintro addrFilter loaded ⟨sameLoaded, storedMac, fits⟩ seenLoaded
  have inForceMac : addrFilter.bytes = (hardwareSettings ipaddrAddr defaults loaded).source := by
    rw [seenLoaded]
    exact storedMac
  refine ((performs_setAddr2Filter _ addrFilter).to_nil (perform_setSource inForceMac)).seen.mono ?_
  rintro _ last ⟨⟨sameLast, _, rfl⟩, seenLast⟩
  have before : SameSetup hardware posted :=
    own.trans (.trans sameCalled (.trans sameCreated (.trans sameRegistered samePosted)))
  have after : SameSetup posted last :=
    sameGot.trans (sameSet.trans (sameLoaded.trans sameLast))
  refine ⟨before.trans after, ?_, rfl⟩
  rw [seenLast]
  exact ⟨inForceMac, fits, by rw [perform_nil, seenLoaded, seenSet]; exact inForce⟩

theorem keepsStore_wifiGetMac (mac : Mac) : Calls KeepsStore (wifiGetMac mac) := by
  apply Calls.bind (Program.calls_ask trivial)
  intro netif
  cases netif with
  | none => exact Program.calls_pure mac
  | some netif => exact (keepsStore_check _).bind fun _ => Program.calls_ask trivial

theorem handsNothing_wifiGetMac (mac : Mac) : Calls HandsNothing (wifiGetMac mac) := by
  apply Calls.bind (Program.calls_ask trivial)
  intro netif
  cases netif with
  | none => exact Program.calls_pure mac
  | some netif => exact (handsNothing_check rfl).bind fun _ => Program.calls_ask trivial

/-- A board has come up with its settings. -/
structure BroughtUp (driver : Driver δ) (settings : Settings) (hardware : Hardware δ)
    (filters : Filters) : Prop where
  netIf : hardware.world.netIf = interfaceOf settings.mode
  hands : HandsSettings driver settings hardware.world.handed
  own : filters.addrOwnMac = .filled (macOf driver (interfaceOf settings.mode)).toList
  inUse : InUse settings filters
  frames : hardware.frames = some .all

/-- A boot writes nothing that is not in force and brings up what is. -/
theorem performs_setup (parses : ∀ addr, ParsesPrinted ipaddrAddr addr) {settings : Settings}
    (stored : hardwareSettings ipaddrAddr defaults hardware = settings)
    (down : hardware.world.netIf = none) (fresh : hardware.world.handed = []) :
    Performs (hardwareSettings ipaddrAddr defaults) chip.handle (setup ipaddrAddr defaults)
      hardware [] fun filters last => BroughtUp chip.toDriver settings last filters := by
  subst stored
  have boots : Performs (worldSettings ipaddrAddr defaults) chip.toDriver.handle
      (configWifiInit ipaddrAddr defaults) hardware.world [] _ :=
    (performs_configWifiInit parses fresh).and
      (guarantees_configWifiInit ipaddrAddr defaults down)
  refine (performs_wifi boots).bind_nil ?_
  rintro _ _ ⟨booted, ⟨hands, up⟩, rfl⟩ seenBooted
  have asks : Performs (worldSettings ipaddrAddr defaults) chip.toDriver.handle
      (wifiGetMac (Vector.replicate 6 0)) booted [] fun mac last =>
        mac = macOf chip.toDriver booted.netIf ∧ last.netIf = booted.netIf ∧
          last.handed = booted.handed := by
    refine (((performs_of_keepsStore (keepsStore_wifiGetMac _)).and guarantees_wifiGetMac).and
      (guarantees_handed (handsNothing_wifiGetMac _) rfl)).mono ?_
    rintro mac last ⟨⟨_, mac_eq, netIf⟩, handed⟩
    exact ⟨mac_eq, netIf, handed⟩
  refine (performs_wifi asks).bind_nil ?_
  rintro mac _ ⟨asked, ⟨rfl, netIf, handed⟩, rfl⟩ seenAsked
  refine (performs_snifferInitConfig _).bind_nil ?_
  rintro filters started ⟨same, inUse, own⟩ seen
  refine performs_snifferSetNoFilter.bind_nil ?_
  intro _ last masked _
  refine Program.performs_pure ⟨?_, ?_, ?_, ?_, masked.frames⟩
  · rw [masked.netIf, same.netIf, netIf, up]
    rfl
  · rw [masked.handed, same.handed, handed]
    exact hands
  · rw [own, up]
    rfl
  · rw [seen, seenAsked, seenBooted] at inUse
    exact inUse

end Boot

end WifiSniffer.Firmware
