import WifiSniffer.Firmware.History

/-!
# Boots that come through

A boot loads every string and every filter there is, and aborts or runs out of its arrays
over one that it cannot load.  Nothing that the firmware does to its flash, whole or cut
short, puts such an entry there, so that a board can always be booted again.
-/

namespace WifiSniffer.Firmware

open WifiSniffer.Bytes WifiSniffer.Effect WifiSniffer.Handler WifiSniffer.Nvs
open WifiSniffer.Settings WifiSniffer.Transition WifiSniffer.Wifi
open Program (Achieves Calls Completes Guarantees Performs)

variable {α δ : Type} {chip : Chip δ} {driver : Driver δ} {world : World δ}
  {hardware : Hardware δ} {store : Store} {key : String} {ipaddrAddr : CString → UInt32}
  {defaults : WifiDefaults}

/-! ## What can be loaded -/

section Loads

theorem addressEntry_of_loads (defValue : Literal) (has : store.Has wifiNs)
    (loads : TextLoads addressSz (store.get wifiNs key)) :
    AddressEntry ipaddrAddr store key defValue (addressInForce ipaddrAddr store key defValue) :=
  ⟨_, stringEntry_of_loads defValue has loads, rfl⟩

theorem filterEntry_of_loads (loads : FilterLoads (store.get snifferNs key)) :
    ∃ data, FilterEntry store key data := by
  cases stored : store.get snifferNs key with
  | none => exact ⟨[], Nat.zero_le _, .inr ⟨stored, rfl⟩⟩
  | some value =>
      rw [stored] at loads
      cases value with
      | blob data => exact ⟨data, loads, .inl stored⟩
      | num type value => exact loads.elim
      | str string => exact loads.elim

theorem staticIpEntry_of_loads (has : store.Has wifiNs) (loads : loadsIn store) :
    StaticIpEntry ipaddrAddr defaults store (settingsIn ipaddrAddr defaults store).staticIp := by
  rcases loads with ⟨_, _, _, _, ip, netmask, gw, _⟩
  exact ⟨addressEntry_of_loads _ has ip, addressEntry_of_loads _ has netmask,
    addressEntry_of_loads _ has gw⟩

theorem dnsServersEntry_of_loads (has : store.Has wifiNs) (loads : loadsIn store) :
    DnsServersEntry ipaddrAddr defaults store (settingsIn ipaddrAddr defaults store).dns := by
  rcases loads with ⟨_, _, _, _, _, _, _, dns1, dns2, _⟩
  exact ⟨addressEntry_of_loads _ has dns1, addressEntry_of_loads _ has dns2⟩

end Loads

/-- Settings that a boot comes through with.  The name of an access point has an address
put behind it, and its password is compared in an array for names. -/
structure Bootable (settings : Settings) : Prop where
  loads : settings.loads
  apSsid : settings.apSsid.length ≤ 23
  apSsidPw : settings.apSsidPw.length ≤ ssidSz
  staSsid : settings.staSsid.length < ssidSz
  staSsidPw : settings.staSsidPw.length < ssidPassSz

/-! ## Access points -/

section SoftAp

variable {ssidCfg : SsidCfg} {ssid password : CString}

theorem completes_wifiSoftAp (willing : driver.Willing) (holds : CfgHolds ssidCfg ssid password)
    (short : ssid.length ≤ 23) (channel : UInt8) :
    Completes driver.handle (wifiSoftAp defaults ssidCfg channel) := by
  intro world
  refine Achieves.bind_of_ok (run_wifiGenerateSsid holds (willing _ rfl _)) ?_
  refine Achieves.bind_of_ok (run_nvs_of_ok (run_copySsid ssidCfg channel short)) ?_
  refine Achieves.bind_of_ok (run_nvs_of_ok (run_copyPassword channel (driver.macs .ap) holds)) ?_
  have created : Completes driver.handle (Wifi.ask (.createNetif .ap)) :=
    completes_ask fun _ => ⟨_, _, rfl⟩
  exact ((completes_wifiSetConf willing _ _ _ _).bind fun _ => created) _

/-- A program that leaves flash and interface alone. -/
theorem achieves_same {program : WifiProgram α} (completes : Completes driver.handle program)
    (keepsStore : Calls KeepsStore program) (keepsNetIf : Calls KeepsNetIf program) :
    Achieves driver.handle program world fun _ last =>
      last.store = world.store ∧ last.netIf = world.netIf := by
  rcases completes world with ⟨value, last, ran, _⟩
  exact ⟨value, last, ran, guarantees_store keepsStore rfl _ _ ran,
    guarantees_netIf keepsNetIf rfl _ _ ran⟩

/-- The settings of an access point are stored over ones that can be loaded. -/
theorem achieves_wifiApSave (channel : UInt8) (holds : CfgHolds ssidCfg ssid password)
    (short : ssid.length ≤ 23) (passwordShort : password.length ≤ ssidSz)
    (has : store.Has wifiNs) (loads : loadsIn store) :
    Achieves Store.handle (wifiApSave defaults ssidCfg channel) store fun _ next =>
      next.Has wifiNs ∧ loadsIn next := by
  have ssidFits : ssid.length < ssidSz := Nat.lt_of_le_of_lt short (by decide)
  have passwordFits : password.length < ssidPassSz := Nat.lt_of_le_of_lt passwordShort (by decide)
  rcases run_wifiApSave channel holds ssidFits passwordShort
    (stringEntry_of_loads defaults.apSsid has loads.1).2
    (stringEntry_of_loads defaults.apSsidPw has loads.2.1).2 with ⟨next, ran, entry, _⟩
  have wrote : settingsIn (fun _ => 0) defaults next =
      perform (apWrites ssid password channel) (settingsIn (fun _ => 0) defaults store) :=
    ((performs_wifiApSave channel holds ssidFits passwordFits).ends _ _ ran).1
  rw [apWrites, perform_cons, perform_cons, perform_cons] at wrote
  rcases perform_pwWrites password _ with ⟨apSsidPw, written⟩
  rw [written] at wrote
  have same : loadsIn next = loadsIn store := congrArg Settings.loads wrote
  refine ⟨(), next, ran, entry.1, ?_⟩
  rw [same]
  exact loads

/-- An access point comes up where its settings can be loaded. -/
theorem achieves_wifiAp (willing : driver.Willing) (holds : CfgHolds ssidCfg ssid password)
    (short : ssid.length ≤ 23) (passwordShort : password.length ≤ ssidSz) (channel : UInt8)
    (has : world.store.Has wifiNs) (loads : loadsIn world.store) (ip : IpInfo)
    (dnsServersInfo : DnsServersInfo) :
    Achieves driver.handle (wifiAp ipaddrAddr defaults ssidCfg channel ip dnsServersInfo) world
      fun _ _ => True := by
  have ssidFits : ssid.length < ssidSz := Nat.lt_of_le_of_lt short (by decide)
  have passwordFits : password.length < ssidPassSz := Nat.lt_of_le_of_lt passwordShort (by decide)
  refine (achieves_store (completes_check willing rfl) (keepsStore_check .wifiStop) rfl).bind ?_
  intro _ _ stopped
  refine (achieves_store completes_destroyNetIf keepsStore_destroyNetIf stopped).bind ?_
  intro _ _ destroyed
  have configures := (configures_wifiSoftAp defaults ssidCfg channel).mono
    fun _ => Configures.keepsStore
  refine (achieves_store (completes_wifiSoftAp willing holds short channel) configures
    destroyed).bind ?_
  intro espNetif configured configured_eq
  refine Achieves.bind_of_ok (Program.run_ask _ _ _) ?_
  refine (achieves_same (completes_check willing rfl) (keepsStore_check _)
    (keepsNetIf_check .wifiStart)).bind ?_
  rintro _ started ⟨store_eq, up⟩
  have stored : started.store = world.store := store_eq.trans configured_eq
  rcases achieves_wifiApSave channel holds short passwordShort has loads with
    ⟨_, saved, ran, hasSaved, loadsSaved⟩
  rw [← stored] at ran
  refine Achieves.bind_of_ok (run_nvs_of_ok ran) ?_
  have waits : Completes driver.handle (Wifi.ask (.waitBits .apStart)) :=
    completes_ask fun _ => ⟨_, _, rfl⟩
  refine (achieves_same waits (Program.calls_ask trivial) (Program.calls_ask trivial)).bind ?_
  rintro bits waited ⟨waited_eq, stillUp⟩
  rw [if_pos bits.property]
  have readable : ReadsBack (wifiNvsGetStaticIpInfo ipaddrAddr defaults) saved
      (settingsIn ipaddrAddr defaults saved).staticIp :=
    ⟨saved, run_wifiNvsGetStaticIpInfo_iff.mpr ⟨rfl, staticIpEntry_of_loads hasSaved loadsSaved⟩⟩
  rw [show saved = waited.store from waited_eq.symm] at readable
  refine (achieves_wifiConfStaticIp willing (stillUp.trans up) readable ip dnsServersInfo).bind ?_
  intro _ confed _
  exact ((completes_wifiGetIp willing).bind fun _ => completes_check willing rfl) confed

end SoftAp

/-! ## Boots -/

section Boot

theorem achieves_wifiBringUp (willing : driver.Willing) {settings : Settings}
    (stored : worldSettings ipaddrAddr defaults world = settings) (bootable : Bootable settings)
    (has : world.store.Has wifiNs) :
    Achieves driver.handle (wifiBringUp ipaddrAddr defaults settings.mode) world
      fun _ _ => True := by
  have loads : loadsIn world.store := by
    have loads := bootable.loads
    rw [← stored] at loads
    exact loads
  cases mode : settings.mode with
  | ap =>
      have ssidFits : settings.apSsid.length < ssidSz :=
        Nat.lt_of_le_of_lt bootable.apSsid (by decide)
      have passwordFits : settings.apSsidPw.length < ssidPassSz :=
        Nat.lt_of_le_of_lt bootable.apSsidPw (by decide)
      have got : (wifiNvsGetSsidApCfg defaults).run Store.handle world.store =
          .ok (ssidCfgOf settings.apSsid settings.apSsidPw, world.store) := by
        rw [wifiNvsGetSsidApCfg, ← run_convertToSsidCfg ssidFits passwordFits]
        subst stored
        exact run_getSsidCfg (stringEntry_of_loads _ has loads.1)
          (stringEntry_of_loads _ has loads.2.1)
      have channel := run_wifiNvsGetApChannel world.store defaults
      rw [create_of_has has] at channel
      refine Achieves.bind_of_ok (run_nvs_of_ok got) ?_
      refine Achieves.bind_of_ok (run_nvs_of_ok channel) ?_
      refine Achieves.bind_of_ok (run_nvs_of_ok
        (run_wifiNvsGetStaticIpInfo_iff.mpr ⟨rfl, staticIpEntry_of_loads has loads⟩)) ?_
      refine Achieves.bind_of_ok (run_nvs_of_ok
        (run_wifiNvsGetDnsServers_iff.mpr ⟨rfl, dnsServersEntry_of_loads has loads⟩)) ?_
      exact achieves_wifiAp willing (cfgHolds_ssidCfgOf ssidFits passwordFits) bootable.apSsid
        bootable.apSsidPw _ has loads _ _
  | sta =>
      have got : (wifiNvsGetSsidStaCfg defaults).run Store.handle world.store =
          .ok (ssidCfgOf settings.staSsid settings.staSsidPw, world.store) := by
        rw [wifiNvsGetSsidStaCfg, ← run_convertToSsidCfg bootable.staSsid bootable.staSsidPw]
        subst stored
        exact run_getSsidCfg (stringEntry_of_loads _ has loads.2.2.1)
          (stringEntry_of_loads _ has loads.2.2.2.1)
      refine Achieves.bind_of_ok (run_nvs_of_ok got) ?_
      exact completes_wifiSta defaults willing bootable.staSsid bootable.staSsidPw _
  | none => exact ⟨(), world, rfl, trivial⟩
  | unsupported value outside => exact ⟨(), world, rfl, trivial⟩

theorem achieves_configWifiInit (willing : driver.Willing)
    (bootable : Bootable (worldSettings ipaddrAddr defaults world)) :
    Achieves driver.handle (configWifiInit ipaddrAddr defaults) world fun _ _ => True := by
  refine Achieves.bind_of_ok (run_nvs_of_ok (run_wifiNvsGetMode world.store)) ?_
  have same : worldSettings ipaddrAddr defaults { world with store := world.store.create wifiNs } =
      worldSettings ipaddrAddr defaults world := by
    apply settingsIn_of_get_eq
    funext ns key
    exact Store.get_create world.store wifiNs ns key
  refine (achieves_wifiBringUp willing same bootable (Store.has_create _ _)).bind ?_
  intro _ up _
  exact completes_wifiGetIp willing up

theorem completes_wifiGetMac (willing : driver.Willing) (mac : Mac) :
    Completes driver.handle (wifiGetMac mac) := by
  apply completes_getNetIf.bind
  intro netif
  cases netif with
  | none => exact Program.completes_pure mac
  | some netif =>
      exact (completes_check willing rfl).bind fun _ => completes_ask fun _ => ⟨_, _, rfl⟩

/-- The driver does what it is asked, in its promiscuous mode as well. -/
structure Chip.Willing (chip : Chip δ) : Prop where
  driver : chip.toDriver.Willing
  promiscuous : ∀ call state, (chip.promiscuous call state).1 = .ok

theorem achieves_wifi {program : WifiProgram α}
    (ends : Achieves chip.toDriver.handle program hardware.world fun _ _ => True) :
    Achieves chip.handle (wifi program) hardware fun _ _ => True := by
  rcases ends with ⟨value, world, ran, _⟩
  refine ⟨value, { hardware with world }, ?_, trivial⟩
  rw [wifi, Program.run_translate Hardware.worldPart run_ask_wifi]
  change Hardware.worldPart.lift hardware (program.run chip.toDriver.handle hardware.world) = _
  rw [ran]
  rfl

theorem achieves_settings {program : NvsProgram α} {value : α} {next : Store}
    (ran : program.run Store.handle hardware.world.store = .ok (value, next)) :
    Achieves chip.handle (settings program) hardware fun _ _ => True :=
  achieves_wifi ⟨value, _, run_nvs_of_ok ran, trivial⟩

theorem completes_checkPromiscuous (willing : chip.Willing) (call : PromiscuousCall) :
    Completes chip.handle (check call) := by
  intro hardware
  refine Achieves.bind_of_ok (Program.run_ask _ _ _) ?_
  rw [willing.promiscuous]
  exact achieves_settings run_espErrorCheck_ok

theorem completes_snifferPostEvent (willing : chip.Willing) (event : Tasks.SnifferEvent) :
    Completes chip.handle (snifferPostEvent event) := by
  have noTimeout : EspErr.ok ≠ espErrTimeout := nofun
  intro hardware
  refine Achieves.bind_of_ok (Program.run_ask _ _ _) ?_
  rw [willing.promiscuous, if_neg noTimeout]
  exact achieves_settings run_espErrorCheck_ok

variable {filters : Filters}

theorem achieves_setAddr2Filter (willing : chip.Willing) (loads : loadsIn hardware.world.store)
    {addrFilter : AddrFilter} (fits : addrFilter.size ≤ 6) :
    Achieves chip.handle (snifferSetAddr2Filter filters addrFilter) hardware fun _ _ => True := by
  rcases filterEntry_of_loads loads.2.2.2.2.2.2.2.2.2.1 with ⟨data, entry⟩
  rcases run_wifiSnifferNvsSetFilterMac entry fits with ⟨next, ran, _⟩
  have set : (Settings.snifferSetAddr2Filter true filters addrFilter).run Store.handle
      hardware.world.store = .ok ({ filters with addr2Filter := addrFilter }, next) := by
    rw [Settings.snifferSetAddr2Filter, snifferSetFilter, if_pos rfl, Program.bind_assoc,
      Program.run_bind_of_ok _ ran]
    rfl
  refine (achieves_settings set).bind ?_
  intro filters middle _
  exact ((completes_snifferPostEvent willing _).bind fun _ => Program.completes_pure filters) middle

theorem completes_setRssiFilter (willing : chip.Willing) (rssi : Int8) :
    Completes chip.handle (snifferSetRssiFilter filters rssi) := by
  intro hardware
  rcases run_snifferSetRssiFilter filters rssi hardware.world.store with ⟨next, ran, _⟩
  refine (achieves_settings ran).bind ?_
  intro filters middle _
  exact ((completes_snifferPostEvent willing _).bind fun _ => Program.completes_pure filters) middle

theorem achieves_snifferInitConfig (willing : chip.Willing)
    (loads : (hardwareSettings ipaddrAddr defaults hardware).loads) {ownMac : AddrFilter}
    (fits : ownMac.size ≤ 6) :
    Achieves chip.handle (snifferInitConfig ownMac) hardware fun _ _ => True := by
  have checks (call : PromiscuousCall) (hardware : Hardware δ) :
      Performs (hardwareSettings ipaddrAddr defaults) chip.handle (check call) hardware [] _ :=
    performs_check call
  have posts (event : Tasks.SnifferEvent) (hardware : Hardware δ) :
      Performs (hardwareSettings ipaddrAddr defaults) chip.handle (snifferPostEvent event)
        hardware [] _ := performs_snifferPostEvent event
  have owns : Performs (hardwareSettings ipaddrAddr defaults) chip.handle
      (settings (snifferSetOwnMacFilter true filtersAtPowerUp ownMac)) hardware [] _ :=
    performs_settings (performs_snifferSetOwnMacFilter filtersAtPowerUp ownMac)
  rcases filterEntry_of_loads loads.2.2.2.2.2.2.2.2.2.2 with ⟨data, entry⟩
  rcases run_wifiSnifferNvsSetFilterMac entry fits with ⟨next, ran, _⟩
  have own : (snifferSetOwnMacFilter true filtersAtPowerUp ownMac).run Store.handle
      hardware.world.store = .ok ({ filtersAtPowerUp with addrOwnMac := ownMac }, next) := by
    rw [snifferSetOwnMacFilter, snifferSetFilter, if_pos rfl, Program.bind_assoc,
      Program.run_bind_of_ok _ ran]
    rfl
  refine owns.achieves_bind (achieves_settings own) ?_
  intro filters owned _ seenOwned
  refine (checks _ owned).achieves_bind (completes_checkPromiscuous willing _ owned) ?_
  intro _ called _ seenCalled
  refine (checks _ called).achieves_bind (completes_checkPromiscuous willing _ called) ?_
  intro _ created _ seenCreated
  refine (checks _ created).achieves_bind (completes_checkPromiscuous willing _ created) ?_
  intro _ registered _ seenRegistered
  refine (posts _ registered).achieves_bind (completes_snifferPostEvent willing _ registered) ?_
  intro _ posted _ seenPosted
  rw [← seenOwned, ← seenCalled, ← seenCreated, ← seenRegistered, ← seenPosted] at loads
  have gets : Performs (hardwareSettings ipaddrAddr defaults) chip.handle
      (settings wifiSnifferNvsGetFilterRssi) posted [] fun rssi last =>
        SameSetup posted last ∧
          effectiveRssi rssi = (hardwareSettings ipaddrAddr defaults posted).rssi :=
    performs_settings performs_wifiSnifferNvsGetFilterRssi
  refine gets.achieves_bind
    (achieves_settings (run_wifiSnifferNvsGetFilterRssi_stored posted.world.store)) ?_
  rintro rssi got ⟨_, inForce⟩ seenGot
  rw [← seenGot] at loads inForce
  have sets : Performs (hardwareSettings ipaddrAddr defaults) chip.handle
      (snifferSetRssiFilter filters rssi) got [] _ :=
    (performs_setRssiFilter filters rssi).to_nil (perform_setRssi inForce)
  refine sets.achieves_bind (completes_setRssiFilter willing rssi got) ?_
  intro filters set _ seenSet
  rw [← seenSet] at loads
  rcases filterEntry_of_loads loads.2.2.2.2.2.2.2.2.2.1 with ⟨_, entryMac⟩
  have getsMac : Performs (hardwareSettings ipaddrAddr defaults) chip.handle
      (settings (wifiSnifferNvsGetFilterMac addr2Key)) set [] fun addrFilter last =>
        SameSetup set last ∧
          addrFilter.bytes = (hardwareSettings ipaddrAddr defaults set).source ∧
          addrFilter.size ≤ 6 := performs_settings performs_wifiSnifferNvsGetFilterMac
  refine getsMac.achieves_bind
    (achieves_settings (run_wifiSnifferNvsGetFilterMac entryMac)) ?_
  rintro addrFilter loaded ⟨_, _, fitsMac⟩ seenLoaded
  rw [← seenLoaded] at loads
  exact achieves_setAddr2Filter willing loads fitsMac

/-- A boot with settings that can be loaded comes through. -/
theorem achieves_setup (willing : chip.Willing) (parses : ∀ addr, ParsesPrinted ipaddrAddr addr)
    (bootable : Bootable (hardwareSettings ipaddrAddr defaults hardware))
    (fresh : hardware.world.handed = []) :
    Achieves chip.handle (setup ipaddrAddr defaults) hardware fun _ _ => True := by
  have boots : Performs (hardwareSettings ipaddrAddr defaults) chip.handle
      (wifi (configWifiInit ipaddrAddr defaults)) hardware [] _ :=
    performs_wifi (performs_configWifiInit parses fresh)
  have asks (hardware : Hardware δ) : Performs (hardwareSettings ipaddrAddr defaults) chip.handle
      (wifi (wifiGetMac (Vector.replicate 6 0))) hardware [] _ :=
    performs_wifi (performs_of_keepsStore (keepsStore_wifiGetMac _))
  refine boots.achieves_bind
    (achieves_wifi (achieves_configWifiInit willing.driver bootable)) ?_
  intro _ booted _ seenBooted
  refine (asks booted).achieves_bind
    (achieves_wifi (completes_wifiGetMac willing.driver _ booted.world)) ?_
  intro mac asked _ seenAsked
  have loads : (hardwareSettings ipaddrAddr defaults asked).loads := by
    rw [seenAsked, seenBooted]
    exact bootable.loads
  have fits : (AddrFilter.filled mac.toList).size ≤ 6 := by
    rw [AddrFilter.filled_size, Vector.length_toList]
  refine (achieves_snifferInitConfig willing loads fits).bind ?_
  intro filters started _
  have masks := (completes_checkPromiscuous willing .wifiSetPromiscuousCtrlFilter).bind fun _ =>
    completes_checkPromiscuous willing (.wifiSetPromiscuousFilter .all)
  exact (masks.bind fun _ => Program.completes_pure filters) started

end Boot

/-! ## After a run -/

section Runs

theorem savedAs_length_le {new prev : CString} {bound : Nat} (newShort : new.length ≤ bound)
    (prevShort : prev.length ≤ bound) : (savedAs new prev).length ≤ bound := by
  rw [savedAs]
  split
  · exact prevShort
  · exact newShort

variable {events : List (Event δ × Outcome)} {board : Board δ}

theorem settings_of_status (board : Board δ) :
    (board.status ipaddrAddr defaults).settings = settingsIn ipaddrAddr defaults board.store := by
  cases board with
  | down store => rfl
  | up hardware filters => rfl

/-- A boot begins at power-up, whatever the board has been doing. -/
theorem boardStep_boot (board : Board δ) (state : δ) (outcome : Outcome) :
    boardStep ipaddrAddr defaults chip board (.boot state, outcome) =
      outcome.leaves chip (setup ipaddrAddr defaults) (.powerUp board.store state) :=
  rfl

/-- A boot that comes through brings up the settings as the events before it have left
them: what is handed to the driver first, the interface with its address, the filters and
the frame types. -/
theorem boot_brings_up (parses : ∀ addr, ParsesPrinted ipaddrAddr addr) {state : δ}
    (ran : exec (boardStep ipaddrAddr defaults chip) (.down store)
      (events ++ [(.boot state, .completed)]) = some board) :
    ∃ status hardware filters,
      Along (After ipaddrAddr defaults) ⟨settingsIn ipaddrAddr defaults store, none⟩ events status ∧
        board = .up hardware filters ∧
        BroughtUp chip.toDriver status.settings hardware filters ∧
        hardwareSettings ipaddrAddr defaults hardware = status.settings := by
  rw [exec_append, Option.bind_eq_some_iff] at ran
  rcases ran with ⟨before, ranBefore, booted⟩
  rw [exec_singleton, boardStep_boot, Outcome.leaves] at booted
  rcases run_of_exec parses ranBefore with ⟨along, _⟩
  cases set : (setup ipaddrAddr defaults).run chip.handle (.powerUp before.store state) with
  | error halt =>
      rw [set] at booted
      cases booted
  | ok result =>
      rcases result with ⟨filters, hardware⟩
      rw [set] at booted
      cases booted
      rcases (performs_setup parses rfl rfl rfl).ends _ _ set with ⟨same, brought⟩
      refine ⟨before.status ipaddrAddr defaults, hardware, filters, along, rfl, ?_, ?_⟩
      · rw [settings_of_status]
        exact brought
      · rw [settings_of_status]
        exact same

theorem boot_brings_up_cut :
    ∃ board status hardware filters,
      exec (boardStep dottedAddr .kconfig .obliging) (.down .empty)
          (cutRun ++ [(.boot (), .completed)]) = some board ∧
        Along (After dottedAddr .kconfig) ⟨settingsIn dottedAddr .kconfig .empty, none⟩ cutRun
          status ∧
        board = .up hardware filters ∧
        BroughtUp (.obliging boardMacs) status.settings hardware filters := by
  have comes : (exec (boardStep dottedAddr .kconfig .obliging) (.down .empty)
      (cutRun ++ [(.boot (), .completed)])).isSome = true := by decide +kernel
  rcases Option.isSome_iff_exists.mp comes with ⟨board, ran⟩
  rcases boot_brings_up parsesPrinted_dottedAddr ran with
    ⟨status, hardware, filters, along, up, brought, _⟩
  exact ⟨board, status, hardware, filters, ran, along, up, brought⟩

/-- Whatever has been done to a board, it boots again, with any driver that does what it
is asked: the flash never gets into a state that a boot fails on. -/
theorem board_boots_again (parses : ∀ addr, ParsesPrinted ipaddrAddr addr)
    (bootable : Bootable (settingsIn ipaddrAddr defaults store))
    (ran : exec (boardStep ipaddrAddr defaults chip) (.down store) events = some board)
    {δ' : Type} {next : Chip δ'} (willing : next.Willing) (state : δ') :
    ∃ hardware filters,
      boardStep ipaddrAddr defaults next (.down board.store) (.boot state, .completed) =
        some (.up hardware filters) := by
  have keeps (write : Settings → Settings) (may : MayWrite write) (reached : Settings)
      (kept : Bootable reached) : Bootable (write reached) := by
    cases may with
    | apSsid ssid short =>
        refine ⟨kept.loads, ?_, kept.apSsidPw, kept.staSsid, kept.staSsidPw⟩
        exact savedAs_length_le short kept.apSsid
    | apSsidPw password short =>
        refine ⟨kept.loads, kept.apSsid, ?_, kept.staSsid, kept.staSsidPw⟩
        exact savedAs_length_le short kept.apSsidPw
    | _ => exact ⟨kept.loads, kept.apSsid, kept.apSsidPw, kept.staSsid, kept.staSsidPw⟩
  have still := settings_invariant parses ran keeps bootable
  rw [settings_of_status] at still
  have boots : Achieves next.handle (setup ipaddrAddr defaults)
      (.powerUp board.store state) fun _ _ => True := achieves_setup willing parses still rfl
  rcases boots with ⟨filters, hardware, ran, _⟩
  refine ⟨hardware, filters, ?_⟩
  rw [boardStep_boot, Outcome.leaves, Board.store, ran]

theorem board_boots_again_cut :
    ∃ board, exec (boardStep dottedAddr .kconfig .obliging) (.down .empty) cutRun = some board ∧
      ∃ hardware filters,
        boardStep dottedAddr .kconfig .obliging (.down board.store) (.boot (), .completed) =
          some (.up hardware filters) := by
  have bootable : Bootable (settingsIn dottedAddr .kconfig .empty) := by
    constructor
    · exact ⟨trivial, trivial, trivial, trivial, trivial, trivial, trivial, trivial, trivial,
        trivial, trivial⟩
    · decide
    · decide
    · decide
    · decide
  have willing : Chip.obliging.Willing := ⟨willing_obliging boardMacs, fun _ _ => rfl⟩
  rcases exists_of_cutRun with ⟨board, ran⟩
  exact ⟨board, ran, board_boots_again parsesPrinted_dottedAddr bootable ran willing ()⟩

end Runs

end WifiSniffer.Firmware
