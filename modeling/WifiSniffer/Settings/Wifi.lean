import WifiSniffer.Nvs.Lib

/-!
# Stored Wi-Fi settings

`wifi_lib_nvs.c`.  The strings of the settings come with a default from the build
configuration, which is copied when nothing is stored; the getters and setters for
SSIDs and those for passwords differ in the size of their local array only.
-/

namespace WifiSniffer.Settings

open WifiSniffer.Bytes WifiSniffer.Effect WifiSniffer.Nvs

/-! ## Types -/

/-- `WIFI_NS` -/
def wifiNs : String :=
  "settings"

/-- `ADDRESS_SZ` -/
def addressSz : Nat :=
  16

/-- `SSID_SZ` -/
def ssidSz : Nat :=
  32

/-- `SSID_PASS_SZ` -/
def ssidPassSz : Nat :=
  64

/-- `wifi_lib_mode_t`, which may hold any number that has been stored. -/
inductive WifiLibMode where
  | none
  | sta
  | ap
  | unsupported (value : Int) (outside : value ∉ [0, 1, 2])
  deriving DecidableEq

namespace WifiLibMode

def toInt : WifiLibMode → Int
  | none => 0
  | sta => 1
  | ap => 2
  | unsupported value _ => value

def ofInt (value : Int) : WifiLibMode :=
  if zero : value = 0 then none
  else if one : value = 1 then sta
  else if two : value = 2 then ap
  else unsupported value (by simp [zero, one, two])

@[simp]
theorem toInt_ofInt (value : Int) : (ofInt value).toInt = value := by
  rw [ofInt]
  split
  · simp [toInt, *]
  · split
    · simp [toInt, *]
    · split <;> simp [toInt, *]

@[simp]
theorem ofInt_toInt (mode : WifiLibMode) : ofInt mode.toInt = mode := by
  cases mode with
  | none => rfl
  | sta => rfl
  | ap => rfl
  | unsupported value outside =>
      simp only [List.mem_cons, List.not_mem_nil, or_false, not_or] at outside
      simp [toInt, ofInt, outside]

end WifiLibMode

/-- The default settings, which come from the build configuration but for the netmask
and the DNS servers. -/
structure WifiDefaults where
  /-- `CONFIG_DEF_AP_SSID` -/
  apSsid : Literal
  /-- `CONFIG_DEF_AP_SSID_PW` -/
  apSsidPw : Literal
  /-- `CONFIG_DEF_STA_SSID` -/
  staSsid : Literal
  /-- `CONFIG_DEF_STA_SSID_PW` -/
  staSsidPw : Literal
  /-- `CONFIG_ESP_WIFI_CHANNEL` -/
  channel : UInt8
  /-- `CONFIG_STATIC_IP_ADDR` -/
  staticIpAddr : Literal
  /-- `CONFIG_STATIC_NETMASK_ADDR` -/
  staticNetmaskAddr : Literal
  /-- `CONFIG_STATIC_GW_ADDR` -/
  staticGwAddr : Literal
  /-- `CONFIG_MAIN_DNS_SERVER` -/
  mainDnsServer : Literal
  /-- `CONFIG_BACKUP_DNS_SERVER` -/
  backupDnsServer : Literal

/-- The defaults of `Kconfig.projbuild`. -/
def WifiDefaults.kconfig : WifiDefaults where
  apSsid := .ofString "sniff"
  apSsidPw := .ofString "mypassword"
  staSsid := .ofString "ssidtojoin"
  staSsidPw := .ofString "mypassword"
  channel := 1
  staticIpAddr := .ofString "192.168.19.1"
  staticNetmaskAddr := .ofString "255.255.255.0"
  staticGwAddr := .ofString "192.168.19.1"
  mainDnsServer := .ofString ""
  backupDnsServer := .ofString ""

/-- `ssid_cfg_t` -/
structure SsidCfg where
  ssid : List UInt8
  ssidSz : Nat
  password : List UInt8
  passSz : Nat
  deriving DecidableEq

/-- `esp_netif_ip_info_t` -/
structure IpInfo where
  ip : UInt32
  netmask : UInt32
  gw : UInt32
  deriving DecidableEq

/-- `dns_servers_info_t` -/
structure DnsServersInfo where
  primaryDns : UInt32
  seconderyDns : UInt32
  deriving DecidableEq

/-! ## Mode and channel -/

def modeKey : String :=
  "mode"

def apChannelKey : String :=
  "ap-channel"

/-- `wifi_nvs_get_mode` -/
def wifiNvsGetMode : NvsProgram WifiLibMode := do
  let (_, value) ← nvsGetNum32i wifiNs modeKey WifiLibMode.ap.toInt
  return .ofInt (value.getD WifiLibMode.ap.toInt)

/-- `wifi_nvs_set_mode` -/
def wifiNvsSetMode (value : WifiLibMode) : NvsProgram Unit := do
  let prevWifiLibMode ← wifiNvsGetMode
  if prevWifiLibMode ≠ value then
    let err ← nvsSetNum32i wifiNs modeKey value.toInt
    espErrorCheck err
  else return ()

/-- `wifi_nvs_get_ap_channel` -/
def wifiNvsGetApChannel (defaults : WifiDefaults) : NvsProgram UInt8 := do
  let (_, channel) ← nvsGetNum32i wifiNs apChannelKey defaults.channel.toNat
  return .ofInt (channel.getD defaults.channel.toNat)

/-- `wifi_nvs_set_ap_channel` -/
def wifiNvsSetApChannel (defaults : WifiDefaults) (channel : UInt8) : NvsProgram Unit := do
  let prevChannel ← wifiNvsGetApChannel defaults
  if prevChannel ≠ channel then
    let err ← nvsSetNum32i wifiNs apChannelKey channel.toNat
    espErrorCheck err
  else return ()

/-! ## Names and passwords -/

/-- What `wifi_nvs_get_ssid` and `wifi_nvs_get_ssid_pw` share, with the size of `v`. -/
def getCredential (room : Nat) (key : String) (value : List UInt8) (defValue : Literal)
    (sz : Nat) : NvsProgram (List UInt8) := do
  let (err, v) ← nvsGetString wifiNs key (List.replicate room 0) defValue room
  espErrorCheck err
  strncpy value v sz

/-- `wifi_nvs_get_ssid`, with what is then in `value`. -/
def wifiNvsGetSsid :=
  getCredential ssidSz

/-- `wifi_nvs_get_ssid_pw` -/
def wifiNvsGetSsidPw :=
  getCredential ssidPassSz

/-- What `wifi_nvs_set_ssid` and `wifi_nvs_set_ssid_pw` share.  The size of `prev` is
the same in both. -/
def setCredential (room : Nat) (key : String) (value : List UInt8) (sz : Nat)
    (defValue : Literal) : NvsProgram Unit := do
  let v ← strncpy (List.replicate room 0) value room
  let prev ← getCredential room key (List.replicate ssidSz 0) defValue sz
  let changed ← strncmp v prev sz
  if changed then
    let err ← nvsSetString wifiNs key v
    espErrorCheck err
  else return ()

/-- `wifi_nvs_set_ssid` -/
def wifiNvsSetSsid :=
  setCredential ssidSz

/-- `wifi_nvs_set_ssid_pw` -/
def wifiNvsSetSsidPw :=
  setCredential ssidPassSz

def apSsidKey : String :=
  "ap-ssid"

def apSsidPwKey : String :=
  "ap-ssid-pw"

def staSsidKey : String :=
  "sta-ssid"

def staSsidPwKey : String :=
  "sta-ssid-pw"

section Credentials

variable (defaults : WifiDefaults)

/-- `wifi_nvs_set_ap_ssid` -/
def wifiNvsSetApSsid (value : List UInt8) (sz : Nat) : NvsProgram Unit :=
  wifiNvsSetSsid apSsidKey value sz defaults.apSsid

/-- `wifi_nvs_get_ap_ssid` -/
def wifiNvsGetApSsid (value : List UInt8) (sz : Nat) : NvsProgram (List UInt8) :=
  wifiNvsGetSsid apSsidKey value defaults.apSsid sz

/-- `wifi_nvs_set_ap_ssid_pw` -/
def wifiNvsSetApSsidPw (value : List UInt8) (sz : Nat) : NvsProgram Unit :=
  wifiNvsSetSsidPw apSsidPwKey value sz defaults.apSsidPw

/-- `wifi_nvs_get_ap_ssid_pw` -/
def wifiNvsGetApSsidPw (value : List UInt8) (sz : Nat) : NvsProgram (List UInt8) :=
  wifiNvsGetSsidPw apSsidPwKey value defaults.apSsidPw sz

/-- `wifi_nvs_set_sta_ssid`, which is never called. -/
def wifiNvsSetStaSsid (value : List UInt8) (sz : Nat) : NvsProgram Unit :=
  wifiNvsSetSsid staSsidKey value sz defaults.staSsid

/-- `wifi_nvs_get_sta_ssid` -/
def wifiNvsGetStaSsid (value : List UInt8) (sz : Nat) : NvsProgram (List UInt8) :=
  wifiNvsGetSsid staSsidKey value defaults.staSsid sz

/-- `wifi_nvs_set_sta_ssid_pw`, which is never called. -/
def wifiNvsSetStaSsidPw (value : List UInt8) (sz : Nat) : NvsProgram Unit :=
  wifiNvsSetSsidPw staSsidPwKey value sz defaults.staSsidPw

/-- `wifi_nvs_get_sta_ssid_pw` -/
def wifiNvsGetStaSsidPw (value : List UInt8) (sz : Nat) : NvsProgram (List UInt8) :=
  wifiNvsGetSsidPw staSsidPwKey value defaults.staSsidPw sz

/-- `convert_to_ssid_cfg`.  Its callers have the arrays of the result written in full. -/
def convertToSsidCfg (nvsSsid : List UInt8) (nvsSsidSz : Nat) (nvsSsidPw : List UInt8)
    (nvsSsidPwSz : Nat) : NvsProgram SsidCfg := do
  let ssid ← strncpy (List.replicate ssidSz 0) nvsSsid nvsSsidSz
  let ssidLen ← strlen ssid
  let password ← strncpy (List.replicate ssidPassSz 0) nvsSsidPw nvsSsidPwSz
  let passLen ← strlen password
  return ⟨ssid, ssidLen, password, passLen⟩

/-- What `wifi_nvs_get_ssid_sta_cfg` and `wifi_nvs_get_ssid_ap_cfg` share. -/
def getSsidCfg (getSsid getSsidPw : List UInt8 → Nat → NvsProgram (List UInt8)) :
    NvsProgram SsidCfg := do
  let nvsSsid ← getSsid (List.replicate ssidSz 0) ssidSz
  let nvsSsidPw ← getSsidPw (List.replicate ssidPassSz 0) ssidPassSz
  convertToSsidCfg nvsSsid ssidSz nvsSsidPw ssidPassSz

/-- `wifi_nvs_get_ssid_sta_cfg` -/
def wifiNvsGetSsidStaCfg : NvsProgram SsidCfg :=
  getSsidCfg (wifiNvsGetStaSsid defaults) (wifiNvsGetStaSsidPw defaults)

/-- `wifi_nvs_get_ssid_ap_cfg` -/
def wifiNvsGetSsidApCfg : NvsProgram SsidCfg :=
  getSsidCfg (wifiNvsGetApSsid defaults) (wifiNvsGetApSsidPw defaults)

end Credentials

/-! ## Addresses -/

/-- `IPADDR_NONE` -/
def ipaddrNone : UInt32 :=
  0xffffffff

/-- `wifi_is_valid_ip` -/
def wifiIsValidIp (addr : UInt32) : Bool :=
  addr ≠ ipaddrNone

/-- `wifi_is_valid_ip_info` -/
def wifiIsValidIpInfo (ip : IpInfo) : Bool :=
  wifiIsValidIp ip.ip && wifiIsValidIp ip.netmask && wifiIsValidIp ip.gw

def ipKey : String :=
  "ip"

def netmaskKey : String :=
  "netmask"

def gwKey : String :=
  "gw"

def dns1Key : String :=
  "dns1"

def dns2Key : String :=
  "dns2"

section Addresses

/-! `ipaddr_addr` belongs to lwIP. -/

variable (ipaddrAddr : CString → UInt32) (defaults : WifiDefaults)

/-- `convert_to_ip_info` -/
def convertToIpInfo (ipAddress netmask gw : List UInt8) : IpInfo where
  ip := ipaddrAddr (CString.ofArray ipAddress)
  netmask := ipaddrAddr (CString.ofArray netmask)
  gw := ipaddrAddr (CString.ofArray gw)

/-- `convert_to_dns_servers` -/
def convertToDnsServers (primaryDns secondDns : List UInt8) : DnsServersInfo where
  primaryDns := ipaddrAddr (CString.ofArray primaryDns)
  seconderyDns := ipaddrAddr (CString.ofArray secondDns)

/-- An array of `ADDRESS_SZ` bytes that is filled by `nvs_get_string`. -/
def getAddress (key : String) (defValue : Literal) : NvsProgram (List UInt8) := do
  let (err, address) ← nvsGetString wifiNs key (List.replicate addressSz 0) defValue addressSz
  espErrorCheck err
  return address

/-- `wifi_nvs_get_dns_servers` -/
def wifiNvsGetDnsServers : NvsProgram DnsServersInfo := do
  let primaryDns ← getAddress dns1Key defaults.mainDnsServer
  let secondDns ← getAddress dns2Key defaults.backupDnsServer
  return convertToDnsServers ipaddrAddr primaryDns secondDns

/-- `wifi_nvs_get_static_ip_info` -/
def wifiNvsGetStaticIpInfo : NvsProgram IpInfo := do
  let ipAddress ← getAddress ipKey defaults.staticIpAddr
  let netmask ← getAddress netmaskKey defaults.staticNetmaskAddr
  let gw ← getAddress gwKey defaults.staticGwAddr
  return convertToIpInfo ipaddrAddr ipAddress netmask gw

/-- `nvs_set_string` with its `ESP_ERROR_CHECK` -/
def setAddress (key : String) (address : List UInt8) : NvsProgram Unit := do
  let err ← nvsSetString wifiNs key address
  espErrorCheck err

/-- `wifi_nvs_set_static_ip_info` -/
def wifiNvsSetStaticIpInfo (ipAddress netmask gw : List UInt8) : NvsProgram Unit := do
  let espNetifIpInfo := convertToIpInfo ipaddrAddr ipAddress netmask gw
  if wifiIsValidIpInfo espNetifIpInfo then
    let prevEspNetifIpInfo ← wifiNvsGetStaticIpInfo ipaddrAddr defaults
    if espNetifIpInfo ≠ prevEspNetifIpInfo then
      setAddress ipKey ipAddress
      setAddress netmaskKey netmask
      setAddress gwKey gw
    else return ()
  else return ()

/-- One half of `wifi_nvs_set_dns_servers` -/
def setDnsServer (key : String) (dns : List UInt8) (addr prevAddr : UInt32) :
    NvsProgram Unit := do
  let len ← strlen dns
  if len ≠ 0 ∧ wifiIsValidIp addr then
    if addr ≠ prevAddr then setAddress key dns
    else return ()
  else return ()

/-- `wifi_nvs_set_dns_servers` -/
def wifiNvsSetDnsServers (primaryDns secondDns : List UInt8) : NvsProgram DnsServersInfo := do
  let dnsServersInfo := convertToDnsServers ipaddrAddr primaryDns secondDns
  let prevDnsServersInfo ← wifiNvsGetDnsServers ipaddrAddr defaults
  setDnsServer dns1Key primaryDns dnsServersInfo.primaryDns prevDnsServersInfo.primaryDns
  setDnsServer dns2Key secondDns dnsServersInfo.seconderyDns prevDnsServersInfo.seconderyDns
  return dnsServersInfo

end Addresses

/-! ## What is stored -/

/-- The string under a key if it fits its array, or the default in its place. -/
def StringSetting (store : Store) (key : String) (room : Nat) (defValue : Literal)
    (string : CString) : Prop :=
  store.get wifiNs key = some (.str string) ∧ string.length + 1 ≤ room ∨
    store.get wifiNs key = none ∧ string = defValue.text

/-- A string setting that can be loaded, which takes the namespace. -/
def StringEntry (store : Store) (key : String) (room : Nat) (defValue : Literal)
    (string : CString) : Prop :=
  store.Has wifiNs ∧ StringSetting store key room defValue string

section Load

variable {store : Store} {key : String} {room : Nat} {defValue : Literal} {string : CString}

theorem StringSetting.of_get_eq {other : Store}
    (setting : StringSetting store key room defValue string)
    (get_eq : other.get wifiNs key = store.get wifiNs key) :
    StringSetting other key room defValue string := by
  rw [StringSetting, get_eq]
  exact setting

theorem StringSetting.mono {larger : Nat} (setting : StringSetting store key room defValue string)
    (le : room ≤ larger) : StringSetting store key larger defValue string :=
  setting.imp (And.imp_right fun fits => fits.trans le) id

/-- A setting is loaded up to the size of the array. -/
theorem run_nvsGetString_of_entry (entry : StringEntry store key room defValue string) :
    ∃ v : List UInt8,
      (nvsGetString wifiNs key (List.replicate room 0) defValue room).run Store.handle store =
          .ok ((.ok, v), store) ∧
        v.length = room ∧ CString.ofArray v = string.take room := by
  have sized : (List.replicate room (0 : UInt8)).length = room := List.length_replicate
  rcases entry with ⟨has, ⟨stored, fits⟩ | ⟨absent, rfl⟩⟩
  · refine ⟨_, run_nvsGetString_of_get stored (fits.trans_eq sized.symm), ?_, ?_⟩
    · rw [CString.length] at fits
      rw [overwrite_length (by simpa using fits), sized]
    · rw [overwrite_replicate, List.append_assoc, List.singleton_append,
        CString.ofArray_append_nul, CString.take_of_length_le (Nat.le_of_succ_le fits)]
  · refine ⟨_, run_nvsGetString_of_absent has absent (Nat.le_of_eq sized.symm), ?_, ?_⟩
    · rw [overwrite_length (by simp), sized]
    · rw [overwrite_replicate, Literal.load_length, Nat.sub_self, List.replicate_zero,
        List.append_nil, Literal.ofArray_load]

/-- Only a setting is loaded without an error. -/
theorem stringEntry_of_run {v : List UInt8} {next : Store}
    (ran : (nvsGetString wifiNs key (List.replicate room 0) defValue room).run Store.handle store =
      .ok ((.ok, v), next)) :
    ∃ string, StringEntry store key room defValue string := by
  have sized : (List.replicate room (0 : UInt8)).length = room := List.length_replicate
  by_cases has : store.Has wifiNs
  · cases stored : store.get wifiNs key with
    | none => exact ⟨defValue.text, has, .inr ⟨stored, rfl⟩⟩
    | some value =>
        cases value with
        | str string =>
            by_cases fits : string.length + 1 ≤ room
            · exact ⟨string, has, .inl ⟨stored, fits⟩⟩
            · rw [run_nvsGetString_of_overflow stored
                (sized.trans_lt (Nat.not_le.mp fits))] at ran
              cases ran
        | num type number =>
            rw [run_nvsGetString_of_mismatch stored nofun] at ran
            cases ran
        | blob data =>
            rw [run_nvsGetString_of_mismatch stored nofun] at ran
            cases ran
  · rw [run_nvsGetString_of_not_has has (Nat.le_of_eq sized.symm)] at ran
    cases ran

theorem stringEntry_of_run_getAddress {result : List UInt8 × Store}
    (ran : (getAddress key defValue).run Store.handle store = .ok result) :
    ∃ string, StringEntry store key addressSz defValue string := by
  rcases (Program.run_bind_eq_ok_iff _).mp ran with ⟨⟨err, v⟩, next, loaded, rest⟩
  rcases (Program.run_bind_eq_ok_iff _).mp rest with ⟨_, _, checked, _⟩
  cases of_run_espErrorCheck checked
  exact stringEntry_of_run loaded

theorem stringEntry_of_run_getCredential {value : List UInt8} {sz : Nat}
    {result : List UInt8 × Store}
    (ran : (getCredential room key value defValue sz).run Store.handle store = .ok result) :
    ∃ string, StringEntry store key room defValue string := by
  rcases (Program.run_bind_eq_ok_iff _).mp ran with ⟨⟨err, v⟩, next, loaded, rest⟩
  rcases (Program.run_bind_eq_ok_iff _).mp rest with ⟨_, _, checked, _⟩
  cases of_run_espErrorCheck checked
  exact stringEntry_of_run loaded

theorem run_getAddress (entry : StringEntry store key addressSz defValue string) :
    ∃ address, (getAddress key defValue).run Store.handle store = .ok (address, store) ∧
      CString.ofArray address = string.take addressSz := by
  rcases run_nvsGetString_of_entry entry with ⟨address, loaded, _, address_eq⟩
  refine ⟨address, ?_, address_eq⟩
  rw [getAddress, Program.run_bind_of_ok _ loaded]
  rfl

theorem run_getCredential (entry : StringEntry store key room defValue string)
    {value : List UInt8} {sz : Nat} (inRoom : sz ≤ room) (inValue : sz ≤ value.length) :
    (getCredential room key value defValue sz).run Store.handle store =
      .ok (overwrite value (strncpyBytes (string.take room) sz), store) := by
  rcases run_nvsGetString_of_entry entry with ⟨v, loaded, sized, v_eq⟩
  have readable : strncpyReads v sz ≤ v.length :=
    (Nat.min_le_left _ _).trans (inRoom.trans_eq sized.symm)
  rw [getCredential, Program.run_bind_of_ok _ loaded]
  dsimp only
  rw [Program.run_bind_of_ok _ run_espErrorCheck_ok, run_strncpy inValue readable, v_eq]

end Load

section Numbers

variable (store : Store)

theorem run_wifiNvsGetMode :
    wifiNvsGetMode.run Store.handle store =
      .ok (.ofInt (store.numSetting wifiNs modeKey WifiLibMode.ap.toInt),
        store.create wifiNs) := by
  rcases run_nvsGetNum32i store wifiNs modeKey WifiLibMode.ap.toInt with
    ⟨err, value, got, value_eq⟩
  rw [wifiNvsGetMode, Program.run_bind_of_ok _ got]
  dsimp only
  rw [value_eq, Program.run_pure]

/-- Setting the mode creates the namespace and leaves the other entries alone. -/
theorem run_wifiNvsSetMode (value : WifiLibMode) :
    ∃ next, (wifiNvsSetMode value).run Store.handle store = .ok ((), next) ∧
      next.Has wifiNs ∧
      next.numSetting wifiNs modeKey WifiLibMode.ap.toInt = value.toInt ∧
      ∀ key, key ≠ modeKey → next.get wifiNs key = store.get wifiNs key := by
  rw [wifiNvsSetMode, Program.run_bind_of_ok _ (run_wifiNvsGetMode store)]
  by_cases same : WifiLibMode.ofInt (store.numSetting wifiNs modeKey WifiLibMode.ap.toInt) = value
  · refine ⟨store.create wifiNs, ?_, Store.has_create store wifiNs, ?_, ?_⟩
    · rw [if_neg (not_not_intro same), Program.run_pure]
    · rw [← same, WifiLibMode.toInt_ofInt, Store.numSetting, Store.get_create, Store.numSetting]
    · exact fun key _ => Store.get_create store wifiNs wifiNs key
  · refine ⟨store.set wifiNs modeKey (.num .i32 value.toInt), ?_, ?_, ?_, ?_⟩
    · rw [if_pos same, Program.run_bind_of_ok _ (run_nvsSetNum32i _ _ _ value.toInt),
        run_espErrorCheck_ok, Store.set_create]
    · exact Store.has_set store wifiNs modeKey _
    · rw [Store.numSetting, Store.get_set_self]
    · exact fun key ne => Store.get_set_of_ne store _ wifiNs ne

variable (defaults : WifiDefaults)

/-- The channel that is read from a store. -/
def storedApChannel : UInt8 :=
  .ofInt (store.numSetting wifiNs apChannelKey defaults.channel.toNat)

theorem storedApChannel_of_get {store : Store} {channel : UInt8}
    (stored : store.get wifiNs apChannelKey = some (.num .i32 channel.toNat)) :
    storedApChannel store defaults = channel := by
  have low : ((channel.toNat : Int) % 2 ^ 8).toNat = channel.toNat := by
    have lt := channel.toNat_lt
    omega
  rw [storedApChannel, Store.numSetting, stored]
  dsimp only
  rw [UInt8.ofInt, low, UInt8.ofNat_toNat]

theorem storedApChannel_of_get_eq {other : Store}
    (get_eq : other.get wifiNs apChannelKey = store.get wifiNs apChannelKey) :
    storedApChannel other defaults = storedApChannel store defaults := by
  rw [storedApChannel, storedApChannel, Store.numSetting, Store.numSetting, get_eq]

theorem run_wifiNvsGetApChannel :
    (wifiNvsGetApChannel defaults).run Store.handle store =
      .ok (storedApChannel store defaults, store.create wifiNs) := by
  rcases run_nvsGetNum32i store wifiNs apChannelKey defaults.channel.toNat with
    ⟨err, channel, got, channel_eq⟩
  rw [wifiNvsGetApChannel, Program.run_bind_of_ok _ got]
  dsimp only
  rw [channel_eq, Program.run_pure, storedApChannel]

/-- Setting the channel leaves the other entries alone, too. -/
theorem run_wifiNvsSetApChannel (channel : UInt8) :
    ∃ next, (wifiNvsSetApChannel defaults channel).run Store.handle store = .ok ((), next) ∧
      next.Has wifiNs ∧
      next.get wifiNs apChannelKey =
        (if storedApChannel store defaults = channel then store.get wifiNs apChannelKey
        else some (.num .i32 channel.toNat)) ∧
      ∀ key, key ≠ apChannelKey → next.get wifiNs key = store.get wifiNs key := by
  rw [wifiNvsSetApChannel, Program.run_bind_of_ok _ (run_wifiNvsGetApChannel store defaults)]
  by_cases same : storedApChannel store defaults = channel
  · refine ⟨store.create wifiNs, ?_, Store.has_create store wifiNs, ?_, ?_⟩
    · rw [if_neg (not_not_intro same), Program.run_pure]
    · rw [if_pos same, Store.get_create]
    · exact fun key _ => Store.get_create store wifiNs wifiNs key
  · refine ⟨store.set wifiNs apChannelKey (.num .i32 channel.toNat), ?_, ?_, ?_, ?_⟩
    · rw [if_pos same, Program.run_bind_of_ok _ (run_nvsSetNum32i _ _ _ _),
        run_espErrorCheck_ok, Store.set_create]
    · exact Store.has_set store wifiNs apChannelKey _
    · rw [if_neg same, Store.get_set_self]
    · exact fun key ne => Store.get_set_of_ne store _ wifiNs ne

end Numbers

end WifiSniffer.Settings
