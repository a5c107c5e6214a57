import WifiSniffer.Wifi.Lib

/-!
# What the Wi-Fi code does

Frames of the calls of `wifi_lib.c`, and what its functions leave behind: the
interface that is up, the configuration that the driver was handed first, and the
settings.
-/

namespace WifiSniffer.Wifi

open WifiSniffer.Bytes WifiSniffer.Effect WifiSniffer.Nvs WifiSniffer.Settings
open Program (Calls Guarantees Achieves)

variable {δ : Type} {driver : Driver δ} {world : World δ} {α : Type}

/-! ## Frames -/

/-- A call leaves `_esp_netif` alone. -/
def KeepsNetIf : WifiCall → Prop
  | .storeNetIf _ => False
  | _ => True

/-- A call hands no configuration to the driver. -/
def HandsNothing : WifiCall → Prop
  | .driver call => call.hands = []
  | _ => True

/-- A call leaves the flash alone. -/
def KeepsStore : WifiCall → Prop
  | .nvs call => call.Reads
  | _ => True

/-- A call with which an interface is configured: it neither starts nor stops the driver,
joins a network, waits, writes a setting nor changes the current interface. -/
def Configures : WifiCall → Prop
  | .nvs call => call.Reads
  | .driver .wifiStart | .driver .wifiStop | .driver .wifiConnect => False
  | .storeNetIf _ | .waitBits _ => False
  | _ => True

theorem Configures.keepsNetIf {call : WifiCall} (configures : Configures call) :
    KeepsNetIf call := by
  cases call with
  | storeNetIf netIf => exact configures
  | _ => trivial

theorem Configures.keepsStore {call : WifiCall} (configures : Configures call) :
    KeepsStore call := by
  cases call with
  | nvs call => exact configures
  | _ => trivial

section Frames

variable {call : WifiCall} {answer : call.Response} {next : World δ}

/-- What a call of the settings code does to the world. -/
theorem of_handle_nvs {call : NvsCall} {answer : call.Response}
    (handled : driver.handle (.nvs call) world = .ok (answer, next)) :
    ∃ store, Store.handle call world.store = .ok (answer, store) ∧
      next = { world with store } := by
  rw [Driver.handle] at handled
  cases ran : Store.handle call world.store with
  | error halt =>
      rw [ran] at handled
      cases handled
  | ok result =>
      rw [ran] at handled
      cases handled
      exact ⟨result.2, rfl, rfl⟩

/-- What a call leaves as it is: all but what it is there for, where what has been
handed over stays in any case. -/
structure Frame (call : WifiCall) (world next : World δ) : Prop where
  netIf : KeepsNetIf call → next.netIf = world.netIf
  store : KeepsStore call → next.store = world.store
  handed : ∃ more, next.handed = world.handed ++ more ∧ (HandsNothing call → more = [])

/-- A call that reaches at most the driver. -/
theorem Frame.of_eq (netIf_eq : next.netIf = world.netIf) (store_eq : next.store = world.store)
    (handed_eq : next.handed = world.handed) : Frame call world next where
  netIf _ := netIf_eq
  store _ := store_eq
  handed := ⟨[], handed_eq.trans (List.append_nil _).symm, fun _ => rfl⟩

theorem frame_of_handle (handled : driver.handle call world = .ok (answer, next)) :
    Frame call world next := by
  cases call with
  | nvs call =>
      rcases of_handle_nvs handled with ⟨store, ran, rfl⟩
      exact ⟨fun _ => rfl, fun reads => Store.eq_of_handle_reads reads ran,
        [], (List.append_nil _).symm, fun _ => rfl⟩
  | driver call =>
      cases handled
      exact ⟨fun _ => rfl, fun _ => rfl, call.hands, rfl, id⟩
  | storeNetIf netIf =>
      cases handled
      exact ⟨False.elim, fun _ => rfl, [], (List.append_nil _).symm, fun _ => rfl⟩
  | macOf interface =>
      cases handled
      exact Frame.of_eq rfl rfl rfl
  | createNetif interface =>
      cases handled
      exact Frame.of_eq rfl rfl rfl
  | destroyNetif netif =>
      cases handled
      exact Frame.of_eq rfl rfl rfl
  | loadNetIf =>
      cases handled
      exact Frame.of_eq rfl rfl rfl
  | waitBits bit =>
      cases handled
      exact Frame.of_eq rfl rfl rfl

end Frames

section FrameRules

variable {program : WifiProgram α}

theorem guarantees_netIf (calls : Calls KeepsNetIf program) {netIf : Option Netif}
    (up : world.netIf = netIf) :
    Guarantees driver.handle program world fun _ last => last.netIf = netIf := by
  refine calls.guarantees (fun world : World δ => world.netIf = netIf) ?_ up
  intro call source answer target keeps holds handled
  exact ((frame_of_handle handled).netIf keeps).trans holds

theorem guarantees_store (calls : Calls KeepsStore program) {store : Store}
    (initial : world.store = store) :
    Guarantees driver.handle program world fun _ last => last.store = store := by
  refine calls.guarantees (fun world : World δ => world.store = store) ?_ initial
  intro call source answer target keeps holds handled
  exact ((frame_of_handle handled).store keeps).trans holds

theorem guarantees_handed (calls : Calls HandsNothing program)
    {handed : List (WifiInterface × WifiConfig)} (initial : world.handed = handed) :
    Guarantees driver.handle program world fun _ last => last.handed = handed := by
  refine calls.guarantees (fun world : World δ => world.handed = handed) ?_ initial
  intro call source answer target nothing holds handled
  rcases (frame_of_handle handled).handed with ⟨more, handed_eq, more_eq⟩
  rw [handed_eq, more_eq nothing, List.append_nil, holds]

/-- The first configuration stays the first. -/
theorem guarantees_handed_head {first : WifiInterface × WifiConfig}
    (initial : world.handed.head? = some first) :
    Guarantees driver.handle program world fun _ last => last.handed.head? = some first := by
  have calls : Calls (fun _ => True) program := Program.calls_of_forall fun _ => trivial
  refine calls.guarantees (fun world : World δ => world.handed.head? = some first) ?_ initial
  intro call source answer target _ holds handled
  rcases (frame_of_handle handled).handed with ⟨more, handed_eq, _⟩
  rw [handed_eq, List.head?_append, holds, Option.some_or]

end FrameRules

/-! ## Programs of the settings code -/

section Nvs

variable {program : NvsProgram α} {property : WifiCall → Prop}

theorem guarantees_nvs (program : NvsProgram α) :
    Guarantees driver.handle (nvs program) world fun value last =>
      ∃ store, program.run Store.handle world.store = .ok (value, store) ∧
        last = { world with store } := by
  intro value last ran
  rw [run_nvs] at ran
  cases ranInner : program.run Store.handle world.store with
  | error halt =>
      rw [ranInner] at ran
      cases ran
  | ok result =>
      rw [ranInner] at ran
      cases ran
      exact ⟨result.2, rfl, rfl⟩

theorem calls_nvs (calls : Calls (fun call : NvsCall => property (.nvs call)) program) :
    Calls property (nvs program) :=
  calls.translate fun _ holds => Program.calls_ask holds

theorem calls_nvs_of_forall (holds : ∀ call, property (.nvs call)) :
    Calls property (nvs program) :=
  calls_nvs (Program.calls_of_forall holds)

theorem calls_check {call : DriverCall} (holds : property (.driver call))
    (aborts : ∀ err, property (.nvs (.abort err))) : Calls property (check call) :=
  (Program.calls_ask holds).bind fun err =>
    calls_nvs (calls_espErrorCheck err (aborts err))

theorem calls_destroyNetIf (loads : property .loadNetIf)
    (destroys : ∀ netif, property (.destroyNetif netif)) (stores : property (.storeNetIf none)) :
    Calls property destroyNetIf := by
  apply Calls.bind (Program.calls_ask loads)
  intro netif
  cases netif with
  | none => exact Program.calls_pure ()
  | some netif =>
      apply Calls.bind (Program.calls_ask (destroys netif))
      exact fun _ => Program.calls_ask stores

end Nvs

/-! ## Configuring an interface -/

section Configure

theorem configures_check (call : DriverCall) (configures : Configures (.driver call)) :
    Calls Configures (check call) :=
  calls_check configures fun _ => trivial

theorem configures_memcpy (dst src : List UInt8) (count : Nat) :
    Calls Configures (nvs (memcpy dst src count)) :=
  calls_nvs (calls_memcpy trivial trivial)

theorem configures_wifiGetIp : Calls Configures wifiGetIp := by
  apply Calls.bind (Program.calls_ask trivial)
  intro netif
  cases netif with
  | none => exact Program.calls_pure ()
  | some netif => exact configures_check (.netifGetIpInfo netif) trivial

theorem configures_wifiLibPostEvent (event : WifiLibEvent) :
    Calls Configures (wifiLibPostEvent event) := by
  apply Calls.bind (Program.calls_ask trivial)
  intro err
  split
  · exact Program.calls_pure ()
  · exact calls_nvs (calls_espErrorCheck err trivial)

theorem configures_wifiSetDnsServer (netif : Netif) (addr : UInt32) (type : DnsType) :
    Calls Configures (wifiSetDnsServer netif addr type) := by
  rw [wifiSetDnsServer]
  split
  · exact configures_check (.netifSetDnsInfo netif type addr) trivial
  · exact Program.calls_pure ()

theorem configures_wifiSetConf (mode : WifiMode) (interface : WifiInterface)
    (conf confDef : WifiConfig) : Calls Configures (wifiSetConf mode interface conf confDef) := by
  apply (configures_check (.wifiSetCountry country) trivial).bind
  intro _
  apply (configures_check (.wifiSetMode mode) trivial).bind
  intro _
  apply Calls.bind (Program.calls_ask trivial)
  intro err
  split
  · exact Calls.bind (Program.calls_ask trivial) fun _ => Program.calls_pure err
  · exact Program.calls_pure err

variable (ipaddrAddr : CString → UInt32) (defaults : WifiDefaults)

theorem configures_wifiSetSta (ssidCfg : SsidCfg) :
    Calls Configures (wifiSetSta defaults ssidCfg) := by
  apply (configures_memcpy _ _ _).bind
  intro ssid
  apply (configures_memcpy _ _ _).bind
  intro password
  apply (configures_wifiSetConf _ _ _ _).bind
  intro err
  exact Program.calls_ask trivial

theorem configures_wifiSoftAp (ssidCfg : SsidCfg) (channel : UInt8) :
    Calls Configures (wifiSoftAp defaults ssidCfg channel) := by
  refine Calls.bind ?_ fun gen => ?_
  · apply (configures_check (.wifiGetMac .ap) trivial).bind
    intro _
    exact Calls.bind (Program.calls_ask trivial) fun _ => Program.calls_pure _
  · apply (configures_memcpy _ _ _).bind
    intro ssid
    apply (configures_memcpy _ _ _).bind
    intro password
    apply (configures_wifiSetConf _ _ _ _).bind
    intro err
    exact Program.calls_ask trivial

/-- The static addresses are configured and stored. -/
theorem calls_wifiConfStaticIp {property : WifiCall → Prop}
    (configures : ∀ call, Configures call → property call)
    (stores : ∀ call, property (.nvs call)) (ip : IpInfo) (dnsServersInfo : DnsServersInfo) :
    Calls property (wifiConfStaticIp ipaddrAddr defaults ip dnsServersInfo) := by
  have checks (call : DriverCall) (configured : Configures (.driver call)) :
      Calls property (check call) := (configures_check call configured).mono configures
  apply Calls.bind (Program.calls_ask (configures .loadNetIf trivial))
  intro netif
  cases netif with
  | none => exact Program.calls_pure ()
  | some netif =>
      apply (calls_nvs_of_forall stores).bind
      intro mode
      split
      · apply Calls.bind (Program.calls_ask (configures (.driver (.netifDhcpcStop netif)) trivial))
        intro err
        apply (calls_nvs_of_forall stores).bind
        intro _
        apply (checks (.netifDhcpsStop netif) trivial).bind
        intro _
        apply (checks (.netifSetIpInfo netif ip) trivial).bind
        intro _
        apply (checks (.netifDhcpsStart netif) trivial).bind
        intro _
        apply (calls_nvs_of_forall stores).bind
        intro _
        apply ((configures_wifiLibPostEvent .gotIp).mono configures).bind
        intro _
        apply ((configures_wifiSetDnsServer netif _ .main).mono configures).bind
        intro _
        exact (configures_wifiSetDnsServer netif _ .backup).mono configures
      · exact Program.calls_pure ()

end Configure

/-! ## Bringing up an interface -/

section NetIf

variable (ipaddrAddr : CString → UInt32) (defaults : WifiDefaults)

theorem keepsNetIf_check (call : DriverCall) : Calls KeepsNetIf (check call) :=
  calls_check trivial fun _ => trivial

theorem keepsNetIf_nvs (program : NvsProgram α) : Calls KeepsNetIf (nvs program) :=
  calls_nvs_of_forall fun _ => trivial

/-- Only its settings go beyond what is configured. -/
theorem keepsNetIf_wifiConfStaticIp (ip : IpInfo) (dnsServersInfo : DnsServersInfo) :
    Calls KeepsNetIf (wifiConfStaticIp ipaddrAddr defaults ip dnsServersInfo) :=
  calls_wifiConfStaticIp ipaddrAddr defaults (fun _ => Configures.keepsNetIf)
    (fun _ => trivial) ip dnsServersInfo

/-- The last part of a program decides what it returns. -/
theorem guarantees_createNetif (interface : WifiInterface) :
    Guarantees driver.handle (ask (.createNetif interface)) world fun netif _ =>
      netif = interface := by
  intro netif last ran
  rw [Program.run_ask] at ran
  cases ran
  rfl

theorem guarantees_wifiSoftAp (ssidCfg : SsidCfg) (channel : UInt8) :
    Guarantees driver.handle (wifiSoftAp defaults ssidCfg channel) world fun netif _ =>
      netif = .ap := by
  apply Guarantees.bind_of_forall
  intro gen _
  apply Guarantees.bind_of_forall
  intro ssid _
  apply Guarantees.bind_of_forall
  intro password _
  apply Guarantees.bind_of_forall
  intro err _
  exact guarantees_createNetif .ap

theorem guarantees_wifiSetSta (ssidCfg : SsidCfg) :
    Guarantees driver.handle (wifiSetSta defaults ssidCfg) world fun netif _ =>
      netif = .sta := by
  apply Guarantees.bind_of_forall
  intro ssid _
  apply Guarantees.bind_of_forall
  intro password _
  apply Guarantees.bind_of_forall
  intro err _
  exact guarantees_createNetif .sta

theorem guarantees_setNetIf (netif : Option Netif) :
    Guarantees driver.handle (setNetIf netif) world fun _ last =>
      last = { world with netIf := netif } := by
  intro value last ran
  rw [setNetIf, Program.run_ask] at ran
  cases ran
  rfl

/-- An access point that came up is the current interface. -/
theorem guarantees_wifiAp_netIf (ssidCfg : SsidCfg) (channel : UInt8) (ip : IpInfo)
    (dnsServersInfo : DnsServersInfo) :
    Guarantees driver.handle (wifiAp ipaddrAddr defaults ssidCfg channel ip dnsServersInfo)
      world fun _ last => last.netIf = some .ap := by
  apply Guarantees.bind_of_forall
  intro _ _
  apply Guarantees.bind_of_forall
  intro _ _
  refine (guarantees_wifiSoftAp defaults ssidCfg channel).bind ?_
  rintro _ _ rfl
  refine (guarantees_setNetIf (some .ap)).bind ?_
  rintro _ _ rfl
  refine guarantees_netIf ?_ rfl
  apply (keepsNetIf_check .wifiStart).bind
  intro _
  apply (keepsNetIf_nvs (wifiApSave defaults ssidCfg channel)).bind
  intro _
  apply Calls.bind (Program.calls_ask trivial)
  intro bits
  split
  · apply (keepsNetIf_wifiConfStaticIp ipaddrAddr defaults ip dnsServersInfo).bind
    intro _
    apply (configures_wifiGetIp.mono fun _ => Configures.keepsNetIf).bind
    intro _
    exact keepsNetIf_check .wifiGetMaxTxPower
  · exact Program.calls_pure ()

/-- So is a station. -/
theorem guarantees_wifiSta_netIf (ssidCfg : SsidCfg) :
    Guarantees driver.handle (wifiSta defaults ssidCfg) world fun _ last =>
      last.netIf = some .sta := by
  apply Guarantees.bind_of_forall
  intro _ _
  apply Guarantees.bind_of_forall
  intro _ _
  refine (guarantees_wifiSetSta defaults ssidCfg).bind ?_
  rintro _ _ rfl
  refine (guarantees_setNetIf (some .sta)).bind ?_
  rintro _ _ rfl
  refine guarantees_netIf ?_ rfl
  apply (keepsNetIf_check .wifiStart).bind
  intro _
  apply Calls.bind (Program.calls_ask trivial)
  intro bits
  split
  · apply (keepsNetIf_check _).bind
    intro _
    apply (keepsNetIf_check .wifiConnect).bind
    intro _
    exact keepsNetIf_nvs (wifiNvsSetMode .sta)
  · exact Program.calls_pure ()

end NetIf

end WifiSniffer.Wifi
