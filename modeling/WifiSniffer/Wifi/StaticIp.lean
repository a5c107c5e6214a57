import WifiSniffer.Settings.Addresses
import WifiSniffer.Wifi.SoftAp

/-!
# Static addresses

`wifi_conf_static_ip` prints the addresses that an access point gets and has them
stored, so the getter reads what `ipaddr_addr` makes of the printed texts.
-/

namespace WifiSniffer.Wifi

open WifiSniffer.Bytes WifiSniffer.Effect WifiSniffer.Nvs WifiSniffer.Settings
open Program (Calls Guarantees Achieves Completes)

/-! ## Printed addresses -/

theorem decimal_bounds (byte : UInt8) : (decimal byte).length ≤ 3 ∧ 0 ∉ decimal byte := by
  have all : ∀ value : Fin 256, (decimal (UInt8.ofFin value)).length ≤ 3 ∧
      0 ∉ decimal (UInt8.ofFin value) := by
    decide +kernel
  exact all byte.toFin

/-- A printed address fits its array, with its terminator. -/
theorem addressText_ipString (addr : UInt32) : AddressText (ipString addr) := by
  have short (byte : UInt8) : (decimal byte).length ≤ 3 := (decimal_bounds byte).1
  have nulFree (byte : UInt8) : 0 ∉ decimal byte := (decimal_bounds byte).2
  let part (shift : UInt32) := decimal (addr >>> shift).toUInt8
  let dot : UInt8 := '.'.toNat.toUInt8
  let text : CString := ⟨part 0 ++ dot :: part 8 ++ dot :: part 16 ++ dot :: part 24, by
    simp [part, dot, nulFree]⟩
  have length_le : text.length ≤ 15 := by
    have first := short (addr >>> 0).toUInt8
    have second := short (addr >>> 8).toUInt8
    have third := short (addr >>> 16).toUInt8
    have fourth := short (addr >>> 24).toUInt8
    simp only [text, part, CString.length, List.length_append, List.length_cons]
    omega
  have printed : ipString addr = text.chars ++ List.replicate (addressSz - text.length) 0 :=
    overwrite_replicate _ _ _
  have text_eq : CString.ofArray (ipString addr) = text := by
    rw [printed, CString.ofArray_append_replicate]
  constructor
  · rw [strlenReads, text_eq, printed, List.length_append, List.length_replicate]
    change text.length + 1 ≤ text.length + (addressSz - text.length)
    rw [addressSz]
    omega
  · rw [text_eq, addressSz]
    omega

/-! ## The code -/

section Conf

variable {δ : Type} {driver : Driver δ} {world : World δ} {ipaddrAddr : CString → UInt32}
  {defaults : WifiDefaults}

variable (ip : IpInfo) (dnsServersInfo : DnsServersInfo) {netif : Netif}

/-- The addresses go to the settings if they are valid and the mode is that of an access
point. -/
theorem guarantees_wifiConfStaticIp (up : world.netIf = some netif) :
    Guarantees driver.handle (wifiConfStaticIp ipaddrAddr defaults ip dnsServersInfo) world
      fun _ last =>
        if WifiLibMode.ofInt
              (world.store.numSetting wifiNs modeKey WifiLibMode.ap.toInt) = .ap ∧
            wifiIsValidIpInfo ip then
          (wifiNvsSetStaticIpInfo ipaddrAddr defaults (ipString ip.ip) (ipString ip.netmask)
              (ipString ip.gw)).run Store.handle (world.store.create wifiNs) =
            .ok ((), last.store)
        else last.store = world.store.create wifiNs := by
  have got : getNetIf.run driver.handle world = .ok (some netif, world) := by
    rw [getNetIf, Program.run_ask, Driver.handle, up]
  refine Guarantees.bind_of_ok got ?_
  refine Guarantees.bind_of_ok (run_nvs_of_ok (run_wifiNvsGetMode world.store)) ?_
  split
  · have stops : Calls KeepsStore (ask (.driver (.netifDhcpcStop netif))) :=
      Program.calls_ask trivial
    refine (guarantees_store stops rfl).bind ?_
    intro err _ stopped
    refine (guarantees_store (keepsStore_nvs (calls_espErrorCheck _ trivial)) stopped).bind ?_
    intro _ _ checked
    refine (guarantees_store (keepsStore_check _) checked).bind ?_
    intro _ _ dhcpsStopped
    refine (guarantees_store (keepsStore_check _) dhcpsStopped).bind ?_
    intro _ _ infoSet
    refine (guarantees_store (keepsStore_check _) infoSet).bind ?_
    intro _ started store_eq
    refine (guarantees_nvs _).bind ?_
    rintro ⟨⟩ _ ⟨written, ran, rfl⟩
    rw [store_eq] at ran
    refine (guarantees_store_of_configures (configures_wifiLibPostEvent .gotIp) rfl).bind ?_
    intro _ _ posted
    refine (guarantees_store_of_configures (configures_wifiSetDnsServer netif _ .main)
      posted).bind ?_
    intro _ _ mainSet
    refine (guarantees_store_of_configures (configures_wifiSetDnsServer netif _ .backup)
      mainSet).mono ?_
    rintro _ _ rfl
    exact ran
  · exact Program.guarantees_pure rfl

theorem readsBack_staticIp_create {store : Store} {prev : IpInfo}
    (reads : ReadsBack (wifiNvsGetStaticIpInfo ipaddrAddr defaults) store prev) :
    ReadsBack (wifiNvsGetStaticIpInfo ipaddrAddr defaults) (store.create wifiNs) prev := by
  have entry := readsBack_staticIp_iff.mp reads
  have has := Store.has_create store wifiNs
  exact readsBack_staticIp_iff.mpr
    ⟨entry.ip.of_get_eq has (Store.get_create _ _ _ _),
      entry.netmask.of_get_eq has (Store.get_create _ _ _ _),
      entry.gw.of_get_eq has (Store.get_create _ _ _ _)⟩

/-- `ipaddr_addr` understands how `IPSTR` prints an address. -/
def ParsesPrinted (ipaddrAddr : CString → UInt32) (addr : UInt32) : Prop :=
  addr ≠ ipaddrNone → ipaddrAddr (CString.ofArray (ipString addr)) = addr

variable {ip dnsServersInfo}

/-- Valid addresses come back from their printed texts. -/
theorem convertToIpInfo_ipString (parses : ∀ addr ∈ [ip.ip, ip.netmask, ip.gw],
      ParsesPrinted ipaddrAddr addr) (valid : wifiIsValidIpInfo ip = true) :
    convertToIpInfo ipaddrAddr (ipString ip.ip) (ipString ip.netmask) (ipString ip.gw) = ip := by
  simp only [wifiIsValidIpInfo, wifiIsValidIp, Bool.and_eq_true, decide_eq_true_iff] at valid
  rcases valid with ⟨⟨ipValid, netmaskValid⟩, gwValid⟩
  rw [convertToIpInfo, parses ip.ip (by simp) ipValid, parses ip.netmask (by simp) netmaskValid,
    parses ip.gw (by simp) gwValid]

/-- An access point's addresses are set like those of `wifi_nvs_set_static_ip_info`. -/
theorem guarantees_wifiConfStaticIp_sets (up : world.netIf = some netif)
    (mode : world.store.numSetting wifiNs modeKey WifiLibMode.ap.toInt = WifiLibMode.ap.toInt)
    (parses : ∀ addr ∈ [ip.ip, ip.netmask, ip.gw], ParsesPrinted ipaddrAddr addr) :
    Guarantees driver.handle (wifiConfStaticIp ipaddrAddr defaults ip dnsServersInfo) world
      fun _ last => SetsStaticIp ipaddrAddr defaults ip world.store last.store := by
  refine (guarantees_wifiConfStaticIp ip dnsServersInfo up).mono ?_
  intro _ last stored
  rw [mode, WifiLibMode.ofInt_toInt] at stored
  cases valid : wifiIsValidIpInfo ip with
  | true =>
      rw [if_pos ⟨rfl, valid⟩] at stored
      have sets := guarantees_wifiNvsSetStaticIpInfo (addressText_ipString ip.ip)
        (addressText_ipString ip.netmask) (addressText_ipString ip.gw) _ _ stored
      rw [convertToIpInfo_ipString parses valid] at sets
      refine ⟨sets.valid, fun other => absurd valid (by simp [other]), fun key other => ?_⟩
      rw [sets.others key other, Store.get_create]
  | false =>
      rw [if_neg (by simp [valid])] at stored
      rw [stored]
      refine ⟨fun other => absurd valid (by simp [other]),
        fun _ _ reads => readsBack_staticIp_create reads, fun key _ => Store.get_create _ _ _ _⟩

end Conf

/-! ## Runs that come through -/

section Complete

variable {δ : Type} {driver : Driver δ} {world : World δ} {ipaddrAddr : CString → UInt32}
  {defaults : WifiDefaults}

theorem achieves_store {α : Type} {program : WifiProgram α} {store : Store}
    (completes : Completes driver.handle program) (calls : Calls KeepsStore program)
    (initial : world.store = store) :
    Achieves driver.handle program world fun _ last => last.store = store :=
  Achieves.of_guarantees (completes world) (guarantees_store calls initial)

theorem completes_wifiLibPostEvent (willing : driver.Willing) (event : WifiLibEvent) :
    Completes driver.handle (wifiLibPostEvent event) := by
  intro world
  have noTimeout : EspErr.ok ≠ espErrTimeout := nofun
  refine Achieves.bind_of_ok (run_driver _) ?_
  rw [willing (.eventPostTo event) rfl world.driver, if_neg noTimeout]
  exact ⟨(), _, run_nvs_of_ok run_espErrorCheck_ok, trivial⟩

theorem completes_wifiSetDnsServer (willing : driver.Willing) (netif : Netif) (addr : UInt32)
    (type : DnsType) : Completes driver.handle (wifiSetDnsServer netif addr type) := by
  rw [wifiSetDnsServer]
  split
  · exact completes_check willing rfl
  · exact Program.completes_pure ()

/-- Where the addresses are readable and the driver obeys, setting them comes through. -/
theorem achieves_wifiConfStaticIp (willing : driver.Willing) {netif : Netif}
    (up : world.netIf = some netif) {prev : IpInfo}
    (readable : ReadsBack (wifiNvsGetStaticIpInfo ipaddrAddr defaults) world.store prev)
    (ip : IpInfo) (dnsServersInfo : DnsServersInfo) :
    Achieves driver.handle (wifiConfStaticIp ipaddrAddr defaults ip dnsServersInfo) world
      fun _ _ => True := by
  have got : getNetIf.run driver.handle world = .ok (some netif, world) := by
    rw [getNetIf, Program.run_ask, Driver.handle, up]
  refine Achieves.bind_of_ok got ?_
  refine Achieves.bind_of_ok (run_nvs_of_ok (run_wifiNvsGetMode world.store)) ?_
  split
  · have notStopped : EspErr.ok ≠ espErrEspNetifDhcpAlreadyStopped := by decide
    have created : (driver.called { world with store := world.store.create wifiNs }
        (.netifDhcpcStop netif)).store = world.store.create wifiNs := rfl
    refine Achieves.bind_of_ok (run_driver _) ?_
    rw [willing (.netifDhcpcStop netif) rfl _, if_neg notStopped]
    refine Achieves.bind_of_ok (run_nvs_of_ok run_espErrorCheck_ok) ?_
    refine (achieves_store (completes_check willing rfl) (keepsStore_check _) created).bind ?_
    intro _ _ dhcpsStopped
    refine (achieves_store (completes_check willing rfl) (keepsStore_check _) dhcpsStopped).bind ?_
    intro _ _ infoSet
    refine (achieves_store (completes_check willing rfl) (keepsStore_check _) infoSet).bind ?_
    intro _ started store_eq
    rcases run_wifiNvsSetStaticIpInfo (readsBack_staticIp_create readable)
      (addressText_ipString ip.ip) (addressText_ipString ip.netmask)
      (addressText_ipString ip.gw) with ⟨next, written⟩
    rw [← store_eq] at written
    refine Achieves.bind_of_ok (run_nvs_of_ok written) ?_
    have posted : Completes driver.handle (wifiLibPostEvent .gotIp) :=
      completes_wifiLibPostEvent willing .gotIp
    have rest := posted.bind fun _ =>
      (completes_wifiSetDnsServer willing netif dnsServersInfo.primaryDns .main).bind fun _ =>
        completes_wifiSetDnsServer willing netif dnsServersInfo.seconderyDns .backup
    exact rest _
  · exact ⟨(), _, rfl, trivial⟩

end Complete

/-! ## What is read back -/

section Law

variable {δ : Type} {driver : Driver δ} {ipaddrAddr : CString → UInt32} {defaults : WifiDefaults}
  {store : Store} {world : World δ}

/-- The setters and the access point's configuration have the addresses read back that
have been given and are valid, and the ones before in their place otherwise.  Where the
getters come through and the driver obeys, so do they. -/
theorem addresses_read_back {ipAddress netmask gw primaryDns secondDns : List UInt8}
    (ipText : AddressText ipAddress) (netmaskText : AddressText netmask)
    (gwText : AddressText gw) (primaryText : AddressText primaryDns)
    (secondText : AddressText secondDns) {netif : Netif} (up : world.netIf = some netif)
    (mode : world.store.numSetting wifiNs modeKey WifiLibMode.ap.toInt = WifiLibMode.ap.toInt)
    {ip : IpInfo} (parses : ∀ addr ∈ [ip.ip, ip.netmask, ip.gw], ParsesPrinted ipaddrAddr addr)
    (dnsServersInfo : DnsServersInfo) :
    (Guarantees Store.handle (wifiNvsSetStaticIpInfo ipaddrAddr defaults ipAddress netmask gw)
          store (fun _ next => SetsStaticIp ipaddrAddr defaults
            (convertToIpInfo ipaddrAddr ipAddress netmask gw) store next) ∧
        Guarantees driver.handle (wifiConfStaticIp ipaddrAddr defaults ip dnsServersInfo) world
          (fun _ last => SetsStaticIp ipaddrAddr defaults ip world.store last.store) ∧
        Guarantees Store.handle (wifiNvsSetDnsServers ipaddrAddr defaults primaryDns secondDns)
          store (fun _ next => SetsDnsServers ipaddrAddr defaults primaryDns secondDns store
            next)) ∧
      ((∃ prev, ReadsBack (wifiNvsGetStaticIpInfo ipaddrAddr defaults) store prev) →
        Achieves Store.handle (wifiNvsSetStaticIpInfo ipaddrAddr defaults ipAddress netmask gw)
          store fun _ _ => True) ∧
      (driver.Willing →
        (∃ prev, ReadsBack (wifiNvsGetStaticIpInfo ipaddrAddr defaults) world.store prev) →
          Achieves driver.handle (wifiConfStaticIp ipaddrAddr defaults ip dnsServersInfo) world
            fun _ _ => True) ∧
      ((∃ prev, ReadsBack (wifiNvsGetDnsServers ipaddrAddr defaults) store prev) →
        Achieves Store.handle (wifiNvsSetDnsServers ipaddrAddr defaults primaryDns secondDns)
          store fun _ _ => True) := by
  refine ⟨⟨guarantees_wifiNvsSetStaticIpInfo ipText netmaskText gwText,
    guarantees_wifiConfStaticIp_sets up mode parses,
    guarantees_wifiNvsSetDnsServers primaryText secondText⟩, ?_, ?_, ?_⟩
  · rintro ⟨prev, readable⟩
    rcases run_wifiNvsSetStaticIpInfo readable ipText netmaskText gwText with ⟨next, ran⟩
    exact ⟨(), next, ran, trivial⟩
  · rintro willing ⟨prev, readable⟩
    exact achieves_wifiConfStaticIp willing up readable ip dnsServersInfo
  · rintro ⟨prev, readable⟩
    rcases run_wifiNvsSetDnsServers readable primaryText secondText with ⟨next, ran, _⟩
    exact ⟨_, next, ran, trivial⟩

/-- The getters come through where the namespace exists and every string that is stored for
an address has at most 15 characters. -/
theorem readable_of_loads (has : store.Has wifiNs)
    (loads : ∀ key ∈ [ipKey, netmaskKey, gwKey, dns1Key, dns2Key],
      TextLoads addressSz (store.get wifiNs key)) :
    (∃ ip, ReadsBack (wifiNvsGetStaticIpInfo ipaddrAddr defaults) store ip) ∧
      ∃ dns, ReadsBack (wifiNvsGetDnsServers ipaddrAddr defaults) store dns := by
  have entry (key : String) (known : key ∈ [ipKey, netmaskKey, gwKey, dns1Key, dns2Key])
      (defValue : Literal) : ∃ addr, AddressEntry ipaddrAddr store key defValue addr :=
    ⟨_, _, stringEntry_of_loads defValue has (loads key known), rfl⟩
  rcases entry ipKey (by decide) defaults.staticIpAddr with ⟨ip, ipEntry⟩
  rcases entry netmaskKey (by decide) defaults.staticNetmaskAddr with ⟨netmask, netmaskEntry⟩
  rcases entry gwKey (by decide) defaults.staticGwAddr with ⟨gw, gwEntry⟩
  rcases entry dns1Key (by decide) defaults.mainDnsServer with ⟨primary, primaryEntry⟩
  rcases entry dns2Key (by decide) defaults.backupDnsServer with ⟨second, secondEntry⟩
  exact ⟨⟨⟨ip, netmask, gw⟩, readsBack_staticIp_iff.mpr ⟨ipEntry, netmaskEntry, gwEntry⟩⟩,
    ⟨primary, second⟩, readsBack_dnsServers_iff.mpr ⟨primaryEntry, secondEntry⟩⟩

end Law

/-- `ipaddr_addr` on the texts of one network -/
def networkAddr (text : CString) : UInt32 :=
  if text = .ofString "192.168.19.1" then 0x0113a8c0
  else if text = .ofString "10.0.0.1" then 0x0100000a
  else if text = .ofString "255.255.255.0" then 0x00ffffff
  else if text = .ofString "1.1.1.1" then 0x01010101
  else ipaddrNone

/-- A new network and a first DNS server on erased flash with its namespace created. -/
theorem addresses_read_back_network :
    let store := Store.empty.create wifiNs
    let world : World Unit := { World.powerUp store () with netIf := some .ap }
    let text (address : String) := (CString.ofString address).chars ++ [0]
    let given : IpInfo := ⟨0x0100000a, 0x00ffffff, 0x0100000a⟩
    (∃ next,
      (wifiNvsSetStaticIpInfo networkAddr .kconfig (text "10.0.0.1") (text "255.255.255.0")
            (text "10.0.0.1")).run Store.handle store = .ok ((), next) ∧
        ReadsBack (wifiNvsGetStaticIpInfo networkAddr .kconfig) next given) ∧
      (∃ last,
        (wifiConfStaticIp networkAddr .kconfig given ⟨ipaddrNone, ipaddrNone⟩).run
            (Driver.obliging boardMacs).handle world = .ok ((), last) ∧
          ReadsBack (wifiNvsGetStaticIpInfo networkAddr .kconfig) last.store given) ∧
      ∃ dns next,
        (wifiNvsSetDnsServers networkAddr .kconfig (text "1.1.1.1") (text "")).run Store.handle
            store = .ok (dns, next) ∧
          ReadsBack (wifiNvsGetDnsServers networkAddr .kconfig) next
            ⟨0x01010101, ipaddrNone⟩ := by
  intro store world text given
  have texts : ∀ address ∈ ["10.0.0.1", "255.255.255.0", "1.1.1.1", ""],
      AddressText (text address) := by
    have terminated : ∀ address ∈ ["10.0.0.1", "255.255.255.0", "1.1.1.1", ""],
        strlenReads (text address) ≤ (text address).length ∧
          (CString.ofArray (text address)).length + 1 ≤ addressSz := by
      decide
    exact fun address member => ⟨(terminated address member).1, (terminated address member).2⟩
  have printed : ∀ addr ∈ [given.ip, given.netmask, given.gw],
      networkAddr (CString.ofArray (ipString addr)) = addr := by
    rw [List.forall_mem_cons, List.forall_mem_cons, List.forall_mem_singleton]
    decide +kernel
  have default (key : String) (defValue : Literal) :
      AddressEntry networkAddr store key defValue (networkAddr (defValue.text.take addressSz)) :=
    addressEntry_of_absent (Store.has_create _ _) (Store.get_create _ _ _ _)
  have loads : ∀ key ∈ [ipKey, netmaskKey, gwKey, dns1Key, dns2Key],
      TextLoads addressSz (store.get wifiNs key) := by
    intro key _
    rw [Store.get_create]
    trivial
  have readableIp : ∃ prev, ReadsBack (wifiNvsGetStaticIpInfo networkAddr .kconfig) store prev :=
    (readable_of_loads (Store.has_create _ _) loads).1
  have readableDns : ReadsBack (wifiNvsGetDnsServers networkAddr .kconfig) store
      ⟨ipaddrNone, ipaddrNone⟩ :=
    readsBack_dnsServers_iff.mpr ⟨default _ _, default _ _⟩
  rcases @addresses_read_back Unit (Driver.obliging boardMacs) networkAddr .kconfig store world
    _ _ _ _ _
    (texts "10.0.0.1" (by decide)) (texts "255.255.255.0" (by decide))
    (texts "10.0.0.1" (by decide)) (texts "1.1.1.1" (by decide)) (texts "" (by decide)) _ rfl rfl
    _ (fun addr member _ => printed addr member) ⟨ipaddrNone, ipaddrNone⟩ with
    ⟨⟨setsIp, confs, setsDns⟩, comesIp, comesConf, comesDns⟩
  refine ⟨?_, ?_, ?_⟩
  · rcases comesIp readableIp with ⟨⟨⟩, next, ran, _⟩
    exact ⟨next, ran, (setsIp _ _ ran).valid (by decide)⟩
  · rcases comesConf (willing_obliging boardMacs) readableIp with ⟨⟨⟩, last, ran, _⟩
    exact ⟨last, ran, (confs _ _ ran).valid rfl⟩
  · rcases comesDns ⟨_, readableDns⟩ with ⟨dns, next, ran, _⟩
    rcases (setsDns _ _ ran).reads with ⟨prev, ⟨_, before⟩, after⟩
    rcases readableDns with ⟨_, read⟩
    rw [read] at before
    cases before
    exact ⟨dns, next, ran, after⟩

end WifiSniffer.Wifi
