import WifiSniffer.Settings.Credentials
import WifiSniffer.Wifi.Driver

/-!
# `wifi_lib.c`

Bringing up an access point or a station, the two console commands for it and the
boot.  Log messages are left out, and so are the texts that are made up for them only.
-/

namespace WifiSniffer.Wifi

open WifiSniffer.Bytes WifiSniffer.Effect WifiSniffer.Nvs WifiSniffer.Settings

/-! ## The network interface -/

/-- `set_net_if` -/
def setNetIf (netif : Option Netif) : WifiProgram Unit :=
  ask (.storeNetIf netif)

/-- `get_net_if` -/
def getNetIf : WifiProgram (Option Netif) :=
  ask .loadNetIf

/-- `destroy_net_if` -/
def destroyNetIf : WifiProgram Unit := do
  let netif ← getNetIf
  match netif with
  | some netif =>
      ask (.destroyNetif netif)
      setNetIf none
  | none => return ()

/-- `wifi_get_mac`, with what is then in `mac`. -/
def wifiGetMac (mac : Mac) : WifiProgram Mac := do
  let netif ← getNetIf
  match netif with
  | some netif =>
      check (.netifGetMac netif)
      ask (.macOf netif)
  | none => return mac

/-- `wifi_get_ip`, whose message is only shown. -/
def wifiGetIp : WifiProgram Unit := do
  let netif ← getNetIf
  match netif with
  | some netif => check (.netifGetIpInfo netif)
  | none => return ()

/-! ## Addresses -/

def espErrTimeout : EspErr :=
  .other 0x107

def espErrEspNetifDhcpAlreadyStopped : EspErr :=
  .other 0x5005

/-- `wifi_lib_post_event` -/
def wifiLibPostEvent (event : WifiLibEvent) : WifiProgram Unit := do
  let err ← ask (.driver (.eventPostTo event))
  if err = espErrTimeout then return ()
  else nvs (espErrorCheck err)

/-- `wifi_set_dns_server` -/
def wifiSetDnsServer (netif : Netif) (addr : UInt32) (type : DnsType) : WifiProgram Unit := do
  if wifiIsValidIp addr then check (.netifSetDnsInfo netif type addr)
  else return ()

/-- The decimal digits of a byte. -/
def decimal (byte : UInt8) : List UInt8 :=
  (Nat.toDigits 10 byte.toNat).map fun char => char.toNat.toUInt8

/-- An array of `ADDRESS_SZ` bytes that `IPSTR` has been printed to. -/
def ipString (addr : UInt32) : List UInt8 :=
  let part (shift : UInt32) := decimal (addr >>> shift).toUInt8
  let dot := '.'.toNat.toUInt8
  overwrite (List.replicate addressSz 0)
    (part 0 ++ dot :: part 8 ++ dot :: part 16 ++ dot :: part 24)

section Code

/-! `ipaddr_addr` belongs to lwIP. -/

variable (ipaddrAddr : CString → UInt32) (defaults : WifiDefaults)

/-- `wifi_conf_static_ip` -/
def wifiConfStaticIp (ip : IpInfo) (dnsServersInfo : DnsServersInfo) : WifiProgram Unit := do
  let netif ← getNetIf
  match netif with
  | none => return ()
  | some netif =>
      let wifiLibMode ← nvs wifiNvsGetMode
      if wifiLibMode = .ap ∧ wifiIsValidIpInfo ip then
        let err ← ask (.driver (.netifDhcpcStop netif))
        nvs (espErrorCheck (if err = espErrEspNetifDhcpAlreadyStopped then .ok else err))
        check (.netifDhcpsStop netif)
        check (.netifSetIpInfo netif ip)
        check (.netifDhcpsStart netif)
        nvs (wifiNvsSetStaticIpInfo ipaddrAddr defaults (ipString ip.ip) (ipString ip.netmask)
          (ipString ip.gw))
        wifiLibPostEvent .gotIp
        wifiSetDnsServer netif dnsServersInfo.primaryDns .main
        wifiSetDnsServer netif dnsServersInfo.seconderyDns .backup
      else return ()

/-! ## Configurations -/

/-- `CONFIG_MAX_STA_CONN` -/
def maxStaConn : Nat :=
  2

/-- Two digits of a byte, in upper case. -/
def hexadecimal (byte : UInt8) : List UInt8 :=
  let digit (value : Nat) :=
    (if value < 10 then '0'.toNat + value else 'A'.toNat + value - 10).toUInt8
  [digit (byte.toNat / 16), digit (byte.toNat % 16)]

/-- `wifi_generate_ssid`, with what is then in `gen_ssid`.  The number is that of all
characters, also of those that `snprintf` has had no room for. -/
def wifiGenerateSsid (ssidPrefix genSsid : List UInt8) : WifiProgram (List UInt8 × Nat) := do
  check (.wifiGetMac .ap)
  let mac ← ask (.macOf .ap)
  let underscore := '_'.toNat.toUInt8
  let text := (CString.ofArray ssidPrefix).chars ++ underscore :: hexadecimal mac[3] ++
    underscore :: hexadecimal mac[4] ++ underscore :: hexadecimal mac[5]
  return (overwrite genSsid (text.take (genSsid.length - 1) ++ [0]), text.length)

/-- The name that is generated from a prefix. -/
def generatedSsid (ssidPrefix : CString) (mac : Mac) : List UInt8 :=
  let underscore := '_'.toNat.toUInt8
  ssidPrefix.chars ++ underscore :: hexadecimal mac[3] ++ underscore :: hexadecimal mac[4] ++
    underscore :: hexadecimal mac[5]

/-- The country of `wifi_set_conf`. -/
def country : WifiCountry where
  cc := .ofString "01"
  schan := 1
  nchan := 14
  maxTxPower := 80
  policy := .auto

/-- `wifi_set_conf` -/
def wifiSetConf (wifiMode : WifiMode) (interface : WifiInterface) (conf confDef : WifiConfig) :
    WifiProgram EspErr := do
  check (.wifiSetCountry country)
  check (.wifiSetMode wifiMode)
  let espWifiSetConfigErr ← ask (.driver (.wifiSetConfig interface conf))
  if espWifiSetConfigErr ≠ .ok then
    let _ ← ask (.driver (.wifiSetConfig interface confDef))
    return espWifiSetConfigErr
  else return espWifiSetConfigErr

/-- `wifi_cfg_ap_def` -/
def wifiCfgApDef : WifiConfig :=
  .ap {
    ssid := strncpyBytes defaults.apSsid.text ssidSz
    ssidLen := defaults.apSsid.text.length + 1
    password := strncpyBytes defaults.apSsidPw.text ssidPassSz
    channel := defaults.channel
    maxConnection := maxStaConn
    authmode := .wpaWpa2Psk
    pmfRequired := false }

/-- `wifi_soft_ap` -/
def wifiSoftAp (ssidCfg : SsidCfg) (channel : UInt8) : WifiProgram Netif := do
  let (genSsid, sz) ← wifiGenerateSsid ssidCfg.ssid (List.replicate ssidSz 0)
  let ssid ← nvs (memcpy (List.replicate ssidSz 0) genSsid sz)
  let password ← nvs (memcpy (List.replicate ssidPassSz 0) ssidCfg.password ssidCfg.passSz)
  let wifiCfg : WifiConfig :=
    .ap {
      ssid
      ssidLen := sz
      password
      channel
      maxConnection := maxStaConn
      authmode := if ssidCfg.passSz = 0 then .open else .wpaWpa2Psk
      pmfRequired := false }
  let _ ← wifiSetConf .ap .ap wifiCfg (wifiCfgApDef defaults)
  ask (.createNetif .ap)

/-- `cfg_sta_def` -/
def cfgStaDef : WifiConfig :=
  .sta {
    ssid := strncpyBytes defaults.staSsid.text ssidSz
    password := strncpyBytes defaults.staSsidPw.text ssidPassSz
    scanMethod := .allChannel
    thresholdAuthmode := .wpa2Psk }

/-- `wifi_set_sta` -/
def wifiSetSta (ssidCfg : SsidCfg) : WifiProgram Netif := do
  let ssid ← nvs (memcpy (List.replicate ssidSz 0) ssidCfg.ssid ssidCfg.ssidSz)
  let password ← nvs (memcpy (List.replicate ssidPassSz 0) ssidCfg.password ssidCfg.passSz)
  let cfg : WifiConfig :=
    .sta { ssid, password, scanMethod := .allChannel, thresholdAuthmode := .wpa2Psk }
  let _ ← wifiSetConf .sta .sta cfg (cfgStaDef defaults)
  ask (.createNetif .sta)

/-! ## Modes -/

/-- `wifi_ap` -/
def wifiAp (ssidCfg : SsidCfg) (channel : UInt8) (ip : IpInfo)
    (dnsServersInfo : DnsServersInfo) : WifiProgram Unit := do
  check .wifiStop
  destroyNetIf
  let espNetif ← wifiSoftAp defaults ssidCfg channel
  setNetIf (some espNetif)
  check .wifiStart
  nvs (wifiApSave defaults ssidCfg channel)
  let bits ← ask (.waitBits .apStart)
  if bits.val &&& WifiEventBit.apStart.mask ≠ 0 then
    wifiConfStaticIp ipaddrAddr defaults ip dnsServersInfo
    wifiGetIp
    check .wifiGetMaxTxPower
  else return ()

/-- `wifi_sta` -/
def wifiSta (ssidCfgSta : SsidCfg) : WifiProgram Unit := do
  check .wifiStop
  destroyNetIf
  let espNetif ← wifiSetSta defaults ssidCfgSta
  setNetIf (some espNetif)
  check .wifiStart
  let bits ← ask (.waitBits .staStart)
  if bits.val &&& WifiEventBit.staStart.mask ≠ 0 then
    check (.netifDhcpsStop espNetif)
    check .wifiConnect
    nvs (wifiNvsSetMode .sta)
  else return ()

/-- The branches of `wifi_set_mode` -/
def wifiBringUp : WifiLibMode → WifiProgram Unit
  | .ap => do
      let ssidCfg ← nvs (wifiNvsGetSsidApCfg defaults)
      let channel ← nvs (wifiNvsGetApChannel defaults)
      let espNetifIpInfo ← nvs (wifiNvsGetStaticIpInfo ipaddrAddr defaults)
      let dnsServersInfo ← nvs (wifiNvsGetDnsServers ipaddrAddr defaults)
      wifiAp ipaddrAddr defaults ssidCfg channel espNetifIpInfo dnsServersInfo
  | .sta => do
      let ssidCfg ← nvs (wifiNvsGetSsidStaCfg defaults)
      wifiSta defaults ssidCfg
  | .none | .unsupported _ _ => return ()

/-- `wifi_set_mode` -/
def wifiSetMode (wifiLibMode : WifiLibMode) : WifiProgram Unit := do
  wifiBringUp ipaddrAddr defaults wifiLibMode
  wifiGetIp

/-- `config_wifi_init` after `wifi_init` -/
def configWifiInit : WifiProgram Unit := do
  let wifiLibMode ← nvs wifiNvsGetMode
  wifiSetMode ipaddrAddr defaults wifiLibMode

/-! ## Commands -/

/-- A string argument is copied, or the setting read in its place. -/
def argOr (arg : Option CString) (array : List UInt8)
    (get : List UInt8 → Nat → NvsProgram (List UInt8)) : NvsProgram (List UInt8) :=
  match arg with
  | some value => strncpy array (value.chars ++ [0]) array.length
  | none => get array array.length

/-- `console_wifi_exec_set_sta`, after its arguments have been parsed -/
def consoleWifiExecSetSta (ssidArg passwordArg : Option CString) : WifiProgram Unit := do
  let ssid ← nvs (argOr ssidArg (List.replicate ssidSz 0) (wifiNvsGetStaSsid defaults))
  let password ←
    nvs (argOr passwordArg (List.replicate ssidPassSz 0) (wifiNvsGetStaSsidPw defaults))
  let ssidCfg ← nvs (convertToSsidCfg ssid ssidSz password ssidPassSz)
  wifiSta defaults ssidCfg

/-- The channel that a command gives, or else the setting. -/
def channelOr (channelArg : Option Int) : NvsProgram UInt8 :=
  match channelArg with
  | some channel => return .ofInt channel
  | none => wifiNvsGetApChannel defaults

/-- `console_wifi_exec_set_ap`, after its arguments have been parsed -/
def consoleWifiExecSetAp (ssidArg passwordArg : Option CString) (channelArg : Option Int) :
    WifiProgram Unit := do
  let ssid ← nvs (argOr ssidArg (List.replicate ssidSz 0) (wifiNvsGetApSsid defaults))
  let password ←
    nvs (argOr passwordArg (List.replicate ssidPassSz 0) (wifiNvsGetApSsidPw defaults))
  let ssidCfg ← nvs (convertToSsidCfg ssid ssidSz password ssidPassSz)
  let ch ← nvs (channelOr defaults channelArg)
  let espNetifIpInfo ← nvs (wifiNvsGetStaticIpInfo ipaddrAddr defaults)
  let dnsServersInfo ← nvs (wifiNvsGetDnsServers ipaddrAddr defaults)
  wifiAp ipaddrAddr defaults ssidCfg ch espNetifIpInfo dnsServersInfo

end Code

end WifiSniffer.Wifi
