import WifiSniffer.Firmware.Settings
import WifiSniffer.Wifi.OwnMac
import WifiSniffer.Wifi.Persist

/-!
# What the Wi-Fi code writes

An access point writes mode, channel, name and password, in this order, and the static
address behind them if it is another one; a station writes the mode when it has joined.
A boot brings up what is stored and writes nothing that is not stored already.
-/

namespace WifiSniffer.Firmware

open WifiSniffer.Bytes WifiSniffer.Effect WifiSniffer.Nvs WifiSniffer.Settings WifiSniffer.Wifi
open Program (Calls Guarantees Performs Throughout)

variable {α δ : Type} {driver : Driver δ} {world : World δ} {ipaddrAddr : CString → UInt32}
  {defaults : WifiDefaults}

/-- The settings in the flash of a world. -/
def worldSettings (ipaddrAddr : CString → UInt32) (defaults : WifiDefaults) (world : World δ) :
    Settings :=
  settingsIn ipaddrAddr defaults world.store

/-! ## Parts -/

section Parts

/-- A program of the settings code. -/
theorem performs_nvs {program : NvsProgram α} {writes : List (Settings → Settings)}
    {post : α → Store → Prop}
    (performs : Performs (settingsIn ipaddrAddr defaults) Store.handle program world.store writes
      post) :
    Performs (worldSettings ipaddrAddr defaults) driver.handle (Wifi.nvs program) world writes
      fun value last => ∃ store, post value store ∧ last = { world with store } := by
  have acts (call : NvsCall) (state : World δ) :
      (Wifi.ask (.nvs call)).run driver.handle state =
        World.storePart.lift state (Store.handle call (World.storePart.get state)) :=
    Program.run_ask _ _ _
  refine Performs.translate World.storePart acts ?_ (fun _ => rfl) performs
  intro call state holds initial kept
  refine Program.throughout_ask initial ?_
  intro answer reached handled
  rcases of_handle_nvs handled with ⟨store, ran, rfl⟩
  exact kept answer store ran

theorem performs_of_keepsStore {program : WifiProgram α} (calls : Calls KeepsStore program) :
    Performs (worldSettings ipaddrAddr defaults) driver.handle program world []
      fun _ last => last.store = world.store := by
  have performs : Performs (worldSettings ipaddrAddr defaults) driver.handle program world []
      fun _ _ => True :=
    calls.eachRequest.performs fun _ _ _ _ keeps handled =>
      congrArg (settingsIn ipaddrAddr defaults) ((frame_of_handle handled).store keeps)
  exact (performs.and (guarantees_store calls rfl)).mono fun _ _ => And.right

theorem performs_of_configures {program : WifiProgram α} (calls : Calls Configures program) :
    Performs (worldSettings ipaddrAddr defaults) driver.handle program world []
      fun _ last => last.store = world.store :=
  performs_of_keepsStore (calls.mono fun _ => Configures.keepsStore)

end Parts

/-! ## Static addresses -/

section StaticIp

/-- The static address that is configured is written, if it is valid and the mode is that
of an access point. -/
theorem performs_wifiConfStaticIp (parses : ∀ addr, ParsesPrinted ipaddrAddr addr) (ip : IpInfo)
    (dnsServersInfo : DnsServersInfo) :
    Performs (worldSettings ipaddrAddr defaults) driver.handle
      (wifiConfStaticIp ipaddrAddr defaults ip dnsServersInfo) world
      (if world.netIf.isSome ∧ (worldSettings ipaddrAddr defaults world).mode = .ap ∧
          wifiIsValidIpInfo ip then staticIpWrites ip
        else []) fun _ _ => True := by
  have loads : Performs (worldSettings ipaddrAddr defaults) driver.handle getNetIf world []
      fun netIf last => netIf = world.netIf ∧ world = last := by
    have calls : Calls KeepsStore getNetIf := Program.calls_ask trivial
    have guarantees : Guarantees driver.handle getNetIf world fun netIf last =>
        netIf = world.netIf ∧ world = last := by
      intro netIf last ran
      rw [getNetIf, Program.run_ask] at ran
      cases ran
      exact ⟨rfl, rfl⟩
    exact ((performs_of_keepsStore calls).and guarantees).mono fun _ _ => And.right
  refine loads.bind_nil ?_
  rintro netIf _ ⟨rfl, rfl⟩ _
  cases up : world.netIf with
  | none =>
      rw [if_neg (by simp)]
      exact Program.performs_pure trivial
  | some netif =>
      have gets : Performs (settingsIn ipaddrAddr defaults) Store.handle wifiNvsGetMode world.store
          [] fun mode _ => mode = (worldSettings ipaddrAddr defaults world).mode :=
        performs_wifiNvsGetMode
      refine (performs_nvs gets).bind_nil ?_
      rintro mode _ ⟨store, rfl, rfl⟩ _
      by_cases sets : (worldSettings ipaddrAddr defaults world).mode = .ap ∧
          wifiIsValidIpInfo ip = true
      · rw [if_pos sets, if_pos ⟨rfl, sets⟩]
        have stops : Calls KeepsStore (Wifi.ask (.driver (.netifDhcpcStop netif))) :=
          Program.calls_ask trivial
        refine (performs_of_keepsStore stops).bind_nil ?_
        intro err _ _ _
        refine (performs_of_keepsStore
          (keepsStore_nvs (calls_espErrorCheck _ trivial))).bind_nil ?_
        intro _ _ _ _
        refine (performs_of_keepsStore (keepsStore_check _)).bind_nil ?_
        intro _ _ _ _
        refine (performs_of_keepsStore (keepsStore_check _)).bind_nil ?_
        intro _ _ _ _
        refine (performs_of_keepsStore (keepsStore_check _)).bind_nil ?_
        intro _ _ _ _
        refine (performs_nvs (performs_wifiNvsSetStaticIpInfo sets.2 parses)).nil_bind ?_
        intro _ _ _ _
        refine (performs_of_configures (configures_wifiLibPostEvent .gotIp)).bind_nil ?_
        intro _ _ _ _
        refine (performs_of_configures (configures_wifiSetDnsServer netif _ .main)).bind_nil ?_
        intro _ _ _ _
        exact (performs_of_configures (configures_wifiSetDnsServer netif _ .backup)).mono
          fun _ _ _ => trivial
      · rw [if_neg sets, if_neg fun all => sets all.2]
        exact Program.performs_pure trivial

/-- Writing the static address that is in force. -/
theorem staticIpWrites_idle (settings : Settings) :
    ∀ write ∈ staticIpWrites settings.staticIp, write settings = settings := by
  intro write member
  simp only [staticIpWrites, List.mem_cons, List.not_mem_nil, or_false] at member
  rcases member with rfl | rfl | rfl <;> rfl

/-- The static address that is in force need not be written. -/
theorem performs_wifiConfStaticIp_stored (parses : ∀ addr, ParsesPrinted ipaddrAddr addr)
    {ip : IpInfo} (stored : (worldSettings ipaddrAddr defaults world).staticIp = ip)
    (dnsServersInfo : DnsServersInfo) :
    Performs (worldSettings ipaddrAddr defaults) driver.handle
      (wifiConfStaticIp ipaddrAddr defaults ip dnsServersInfo) world [] fun _ _ => True := by
  refine (performs_wifiConfStaticIp parses ip dnsServersInfo).to_nil ?_
  subst stored
  intro write member
  split at member
  · exact staticIpWrites_idle _ write member
  · cases member

end StaticIp

/-! ## Modes -/

section Modes

variable {ssidCfg : SsidCfg} {ssid password : CString}

theorem perform_pwWrites (password : CString) (settings : Settings) :
    ∃ apSsidPw, perform (pwWrites password) settings = { settings with apSsidPw } := by
  rw [pwWrites]
  split
  · exact ⟨_, rfl⟩
  · exact ⟨_, rfl⟩

/-- With a name that is too long, nothing is brought up and nothing is written. -/
def bringUpWrites (ssid password : CString) (channel : UInt8) : List (Settings → Settings) :=
  if ssid.length ≤ 23 then apWrites ssid password channel else []

theorem perform_bringUpWrites (ssid password : CString) (channel : UInt8) (settings : Settings) :
    let next := perform (bringUpWrites ssid password channel) settings
    next.source = settings.source ∧ next.rssi = settings.rssi ∧
      (ssid.length ≤ 23 → next.mode = .ap) := by
  intro next
  simp only [next, bringUpWrites]
  split
  · rw [apWrites, perform_cons, perform_cons, perform_cons]
    rcases perform_pwWrites password _ with ⟨apSsidPw, written⟩
    rw [written]
    exact ⟨rfl, rfl, fun _ => rfl⟩
  · rename_i long
    exact ⟨rfl, rfl, fun short => absurd short long⟩

theorem performs_wifiAp (parses : ∀ addr, ParsesPrinted ipaddrAddr addr)
    (holds : CfgHolds ssidCfg ssid password) (ssidFits : ssid.length < ssidSz)
    (passwordFits : password.length < ssidPassSz) (channel : UInt8) {ip : IpInfo}
    (stored : (worldSettings ipaddrAddr defaults world).staticIp = ip)
    (dnsServersInfo : DnsServersInfo) :
    Performs (worldSettings ipaddrAddr defaults) driver.handle
      (wifiAp ipaddrAddr defaults ssidCfg channel ip dnsServersInfo) world
      (bringUpWrites ssid password channel) fun _ _ => ssid.length ≤ 23 := by
  refine (performs_of_keepsStore (keepsStore_check .wifiStop)).bind_nil ?_
  intro _ _ _ stopped
  refine (performs_of_keepsStore keepsStore_destroyNetIf).bind_nil ?_
  intro _ _ _ destroyed
  refine ((performs_of_configures (configures_wifiSoftAp defaults ssidCfg channel)).and
    (guarantees_wifiSoftAp_handed defaults holds)).bind_nil ?_
  rintro espNetif _ ⟨_, _, short, _⟩ configured
  rw [bringUpWrites, if_pos short]
  refine (performs_of_keepsStore (keepsStore_setNetIf _)).bind_nil ?_
  intro _ _ _ upped
  refine (performs_of_keepsStore (keepsStore_check .wifiStart)).bind_nil ?_
  intro _ started _ same
  rw [upped, configured, destroyed, stopped] at same
  refine (performs_nvs (performs_wifiApSave channel holds ssidFits passwordFits)).nil_bind ?_
  intro _ saved _ wrote
  have waits : Calls KeepsStore (Wifi.ask (.waitBits .apStart)) := Program.calls_ask trivial
  refine (performs_of_keepsStore waits).bind_nil ?_
  intro bits waited _ waited_eq
  rw [if_pos bits.property]
  have stored' : (worldSettings ipaddrAddr defaults waited).staticIp = ip := by
    rw [waited_eq, wrote, same, apWrites, perform_cons, perform_cons, perform_cons]
    rcases perform_pwWrites password _ with ⟨apSsidPw, written⟩
    rw [written]
    exact stored
  refine (performs_wifiConfStaticIp_stored parses stored' dnsServersInfo).bind_nil ?_
  intro _ _ _ _
  refine (performs_of_configures configures_wifiGetIp).bind_nil ?_
  intro _ _ _ _
  exact (performs_of_keepsStore (keepsStore_check _)).mono fun _ _ _ => short

theorem performs_wifiSta (ssidCfg : SsidCfg) :
    Performs (worldSettings ipaddrAddr defaults) driver.handle (wifiSta defaults ssidCfg) world
      [.setMode .sta] fun _ _ => True := by
  refine (performs_of_keepsStore (keepsStore_check .wifiStop)).bind_nil ?_
  intro _ _ _ _
  refine (performs_of_keepsStore keepsStore_destroyNetIf).bind_nil ?_
  intro _ _ _ _
  refine (performs_of_configures (configures_wifiSetSta defaults ssidCfg)).bind_nil ?_
  intro espNetif _ _ _
  refine (performs_of_keepsStore (keepsStore_setNetIf _)).bind_nil ?_
  intro _ _ _ _
  refine (performs_of_keepsStore (keepsStore_check .wifiStart)).bind_nil ?_
  intro _ _ _ _
  have waits : Calls KeepsStore (Wifi.ask (.waitBits .staStart)) := Program.calls_ask trivial
  refine (performs_of_keepsStore waits).bind_nil ?_
  intro bits _ _ _
  rw [if_pos bits.property]
  refine (performs_of_keepsStore (keepsStore_check _)).bind_nil ?_
  intro _ _ _ _
  refine (performs_of_keepsStore (keepsStore_check _)).bind_nil ?_
  intro _ _ _ _
  exact (performs_nvs (performs_wifiNvsSetMode .sta)).mono fun _ _ _ => trivial

/-- Writing what is in force already. -/
theorem bringUpWrites_idle {settings : Settings} (mode : settings.mode = .ap) :
    ∀ write ∈ bringUpWrites settings.apSsid settings.apSsidPw settings.channel,
      write settings = settings := by
  have same (string : CString) : savedAs string string = string :=
    savedAs_eq_prev List.prefix_rfl
  intro write member
  rw [bringUpWrites] at member
  split at member
  · simp only [apWrites, List.mem_cons] at member
    rcases member with rfl | rfl | rfl | member
    · rw [Settings.setMode, ← mode]
    · rfl
    · rw [Settings.setApSsid, same]
    · rw [pwWrites] at member
      split at member
      · rw [List.mem_singleton.mp member, Settings.setApSsidPw, same]
      · cases member
  · cases member

/-- The driver is handed the settings first, of the access point or of the station. -/
def HandsSettings (driver : Driver δ) (settings : Settings)
    (handed : List (WifiInterface × WifiConfig)) : Prop :=
  match settings.mode with
  | .ap => ∃ ssidCfg, CfgHolds ssidCfg settings.apSsid settings.apSsidPw ∧
      handed.head? = some (.ap,
        .ap (builtApConfig ssidCfg settings.channel settings.apSsid (driver.macs .ap)))
  | .sta => ∃ conf, conf.Joins settings.staSsid settings.staSsidPw ∧
      handed.head? = some (.sta, .sta conf)
  | .none | .unsupported _ _ => handed = []

theorem guarantees_wifiAp_head (holds : CfgHolds ssidCfg ssid password) (channel : UInt8)
    (ip : IpInfo) (dnsServersInfo : DnsServersInfo) (fresh : world.handed = []) :
    Guarantees driver.handle (wifiAp ipaddrAddr defaults ssidCfg channel ip dnsServersInfo) world
      fun _ last => last.handed.head? =
        some (.ap, .ap (builtApConfig ssidCfg channel ssid (driver.macs .ap))) := by
  refine (guarantees_handed (handsNothing_check rfl) fresh).bind ?_
  intro _ _ stopped
  refine (guarantees_handed handsNothing_destroyNetIf stopped).bind ?_
  intro _ _ destroyed
  refine (guarantees_wifiSoftAp_handed defaults holds).bind ?_
  rintro _ _ ⟨_, _, rest, handed⟩
  apply guarantees_handed_head
  rw [handed, destroyed]
  rfl

theorem handsNothing_wifiGetIp : Calls HandsNothing wifiGetIp := by
  refine Calls.bind (Program.calls_ask trivial) ?_
  intro netif
  cases netif with
  | none => exact Program.calls_pure ()
  | some netif => exact handsNothing_check rfl

/-- An access point with the settings in force. -/
theorem performs_wifiAp_stored (parses : ∀ addr, ParsesPrinted ipaddrAddr addr)
    {settings : Settings} (stored : worldSettings ipaddrAddr defaults world = settings)
    (fresh : world.handed = []) (mode : settings.mode = .ap)
    (ssidFits : settings.apSsid.length < ssidSz)
    (passwordFits : settings.apSsidPw.length < ssidPassSz) (dnsServersInfo : DnsServersInfo) :
    Performs (worldSettings ipaddrAddr defaults) driver.handle
      (wifiAp ipaddrAddr defaults (ssidCfgOf settings.apSsid settings.apSsidPw) settings.channel
        settings.staticIp dnsServersInfo) world [] fun _ last =>
        HandsSettings driver settings last.handed := by
  have holds := cfgHolds_ssidCfgOf ssidFits passwordFits
  have writes : Performs (worldSettings ipaddrAddr defaults) driver.handle
      (wifiAp ipaddrAddr defaults (ssidCfgOf settings.apSsid settings.apSsidPw) settings.channel
        settings.staticIp dnsServersInfo) world
      (bringUpWrites settings.apSsid settings.apSsidPw settings.channel) _ :=
    performs_wifiAp parses holds ssidFits passwordFits settings.channel
      (congrArg Settings.staticIp stored) dnsServersInfo
  have idle := writes.to_nil <| by
    rw [stored]
    exact bringUpWrites_idle mode
  refine (idle.and (guarantees_wifiAp_head holds settings.channel _ dnsServersInfo fresh)).mono ?_
  rintro _ last ⟨_, head⟩
  rw [HandsSettings, mode]
  exact ⟨_, holds, head⟩

/-- A boot writes nothing that is not in force, and hands over what is. -/
theorem performs_wifiBringUp (parses : ∀ addr, ParsesPrinted ipaddrAddr addr)
    {settings : Settings} (stored : worldSettings ipaddrAddr defaults world = settings)
    (fresh : world.handed = []) :
    Performs (worldSettings ipaddrAddr defaults) driver.handle
      (wifiBringUp ipaddrAddr defaults settings.mode) world [] fun _ last =>
        HandsSettings driver settings last.handed := by
  cases mode : settings.mode with
  | ap =>
      have loads : Performs (settingsIn ipaddrAddr defaults) Store.handle
          (wifiNvsGetSsidApCfg defaults) world.store [] fun ssidCfg next =>
            world.store = next ∧ settings.apSsid.length < ssidSz ∧
              settings.apSsidPw.length < ssidPassSz ∧
              ssidCfg = ssidCfgOf settings.apSsid settings.apSsidPw :=
        performs_getSsidCfg (congrArg Settings.apSsid stored) (congrArg Settings.apSsidPw stored)
      refine (performs_nvs loads).bind_nil ?_
      rintro ssidCfg _ ⟨_, ⟨rfl, ssidFits, passwordFits, ssidCfg_eq⟩, rfl⟩ _
      refine (performs_nvs performs_wifiNvsGetApChannel).bind_nil ?_
      rintro channel _ ⟨store, channel_eq, rfl⟩ same
      refine (performs_nvs performs_wifiNvsGetStaticIpInfo).bind_nil ?_
      rintro ip _ ⟨_, ⟨rfl, ip_eq, _⟩, rfl⟩ _
      refine (performs_nvs performs_wifiNvsGetDnsServers).bind_nil ?_
      rintro dnsServersInfo _ ⟨_, ⟨rfl, _⟩, rfl⟩ _
      have reached := same.trans stored
      have channel_eq : channel = settings.channel :=
        channel_eq.trans (congrArg Settings.channel stored)
      have ip_eq : ip = settings.staticIp := ip_eq.trans (congrArg Settings.staticIp reached)
      rw [ssidCfg_eq, channel_eq, ip_eq]
      exact performs_wifiAp_stored parses reached fresh mode ssidFits passwordFits dnsServersInfo
  | sta =>
      have loads : Performs (settingsIn ipaddrAddr defaults) Store.handle
          (wifiNvsGetSsidStaCfg defaults) world.store [] fun ssidCfg next =>
            world.store = next ∧ settings.staSsid.length < ssidSz ∧
              settings.staSsidPw.length < ssidPassSz ∧
              ssidCfg = ssidCfgOf settings.staSsid settings.staSsidPw :=
        performs_getSsidCfg (congrArg Settings.staSsid stored) (congrArg Settings.staSsidPw stored)
      refine (performs_nvs loads).bind_nil ?_
      rintro ssidCfg _ ⟨_, ⟨rfl, ssidFits, passwordFits, rfl⟩, rfl⟩ same
      have idle : ∀ write ∈ [Settings.setMode .sta], write settings = settings := by
        intro write member
        rw [List.mem_singleton.mp member, Settings.setMode, ← mode]
      rw [← same.trans stored] at idle
      refine (((performs_wifiSta _).to_nil idle).and
        (guarantees_wifiSta_head defaults ssidFits passwordFits fresh)).mono ?_
      rintro _ last ⟨_, head⟩
      rw [HandsSettings, mode]
      exact ⟨_, joins_staConfOf ssidFits passwordFits, head⟩
  | none =>
      refine Program.performs_pure ?_
      rw [HandsSettings, mode]
      exact fresh
  | unsupported value outside =>
      refine Program.performs_pure ?_
      rw [HandsSettings, mode]
      exact fresh

theorem performs_configWifiInit (parses : ∀ addr, ParsesPrinted ipaddrAddr addr)
    (fresh : world.handed = []) :
    Performs (worldSettings ipaddrAddr defaults) driver.handle
      (configWifiInit ipaddrAddr defaults) world [] fun _ last =>
        HandsSettings driver (worldSettings ipaddrAddr defaults world) last.handed := by
  refine (performs_nvs performs_wifiNvsGetMode).bind_nil ?_
  rintro mode _ ⟨store, rfl, rfl⟩ same
  refine (performs_wifiBringUp parses same fresh).bind_nil ?_
  intro _ middle hands _
  refine ((performs_of_configures configures_wifiGetIp).and
    (guarantees_handed handsNothing_wifiGetIp rfl)).mono ?_
  rintro _ last ⟨_, handed⟩
  rw [handed]
  exact hands

end Modes

/-! ## Commands -/

section Commands

variable {store : Store}

/-- An argument stands in for the setting. -/
theorem performs_argOr (arg : Option CString) {room : Nat} {key : String} {defValue : Literal} :
    Performs (settingsIn ipaddrAddr defaults) Store.handle
      (argOr arg (List.replicate room 0) fun value sz => getCredential room key value defValue sz)
      store [] fun value next =>
        store = next ∧ value = strncpyBytes (arg.getD (stringInForce store key defValue)) room := by
  have sized : (List.replicate room (0 : UInt8)).length = room := List.length_replicate
  cases arg with
  | none =>
      rw [argOr, sized]
      exact performs_getCredential
  | some value =>
      rw [argOr, sized]
      refine (performs_of_reads (reads_strncpy _ _ _)).and ?_
      intro copied next ran
      rw [run_strncpy_terminated] at ran
      cases ran
      rfl

theorem performs_channelOr (channelArg : Option Int) :
    Performs (settingsIn ipaddrAddr defaults) Store.handle (channelOr defaults channelArg) store []
      fun channel _ => channel =
        (channelArg.map UInt8.ofInt).getD (settingsIn ipaddrAddr defaults store).channel := by
  cases channelArg with
  | none => exact performs_wifiNvsGetApChannel
  | some channel => exact Program.performs_pure rfl

variable (defaults)

theorem performs_consoleWifiExecSetAp (parses : ∀ addr, ParsesPrinted ipaddrAddr addr)
    (ssidArg passwordArg : Option CString) (channelArg : Option Int) :
    Performs (worldSettings ipaddrAddr defaults) driver.handle
      (consoleWifiExecSetAp ipaddrAddr defaults ssidArg passwordArg channelArg) world
      (bringUpWrites (ssidArg.getD (worldSettings ipaddrAddr defaults world).apSsid)
        (passwordArg.getD (worldSettings ipaddrAddr defaults world).apSsidPw)
        ((channelArg.map UInt8.ofInt).getD (worldSettings ipaddrAddr defaults world).channel))
      fun _ _ => (ssidArg.getD (worldSettings ipaddrAddr defaults world).apSsid).length ≤ 23 := by
  refine (performs_nvs (performs_argOr ssidArg)).bind_nil ?_
  rintro ssid _ ⟨_, ⟨rfl, rfl⟩, rfl⟩ _
  refine (performs_nvs (performs_argOr passwordArg)).bind_nil ?_
  rintro password _ ⟨_, ⟨rfl, rfl⟩, rfl⟩ _
  refine (performs_nvs performs_convertToSsidCfg).bind_nil ?_
  rintro ssidCfg _ ⟨_, ⟨rfl, ssidFits, passwordFits, rfl⟩, rfl⟩ _
  refine (performs_nvs (performs_channelOr channelArg)).bind_nil ?_
  rintro channel _ ⟨store, rfl, rfl⟩ _
  refine (performs_nvs performs_wifiNvsGetStaticIpInfo).bind_nil ?_
  rintro ip _ ⟨_, ⟨rfl, rfl, _⟩, rfl⟩ _
  refine (performs_nvs performs_wifiNvsGetDnsServers).bind_nil ?_
  rintro dnsServersInfo _ ⟨_, ⟨rfl, rfl⟩, rfl⟩ _
  exact performs_wifiAp parses (cfgHolds_ssidCfgOf ssidFits passwordFits) ssidFits passwordFits _
    rfl _

theorem performs_consoleWifiExecSetSta (ssidArg passwordArg : Option CString) :
    Performs (worldSettings ipaddrAddr defaults) driver.handle
      (consoleWifiExecSetSta defaults ssidArg passwordArg) world [.setMode .sta]
      fun _ _ => True := by
  refine (performs_nvs (performs_argOr ssidArg)).bind_nil ?_
  rintro ssid _ ⟨_, ⟨rfl, rfl⟩, rfl⟩ _
  refine (performs_nvs (performs_argOr passwordArg)).bind_nil ?_
  rintro password _ ⟨_, ⟨rfl, rfl⟩, rfl⟩ _
  refine (performs_nvs performs_convertToSsidCfg).bind_nil ?_
  rintro ssidCfg _ ⟨_, ⟨rfl, _, _, rfl⟩, rfl⟩ _
  exact performs_wifiSta _

end Commands

end WifiSniffer.Firmware
