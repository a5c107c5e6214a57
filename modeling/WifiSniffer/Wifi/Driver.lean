import WifiSniffer.Effect.Rules
import WifiSniffer.Settings.Wifi

/-!
# The Wi-Fi driver

What `wifi_lib.c` asks of the driver, of the network interfaces and of its own
variable for the current interface, besides its settings.  What the driver answers is
left open: a driver is any state machine with the two hardware addresses.  The
configurations that it is handed are kept.
-/

namespace WifiSniffer.Wifi

open WifiSniffer.Bytes WifiSniffer.Effect WifiSniffer.Nvs WifiSniffer.Settings

/-! ## Types -/

/-- A hardware address. -/
abbrev Mac :=
  Vector UInt8 6

/-- `wifi_interface_t` -/
inductive WifiInterface where
  | sta
  | ap
  deriving DecidableEq

/-- `wifi_mode_t`, as far as it is used -/
inductive WifiMode where
  | sta
  | ap
  deriving DecidableEq

/-- `wifi_auth_mode_t`, as far as it is used -/
inductive WifiAuthMode where
  | open
  | wpa2Psk
  | wpaWpa2Psk
  deriving DecidableEq

/-- `wifi_scan_method_t` -/
inductive WifiScanMethod where
  | fast
  | allChannel
  deriving DecidableEq

/-- `wifi_country_policy_t` -/
inductive WifiCountryPolicy where
  | auto
  | manual
  deriving DecidableEq

/-- `wifi_country_t` -/
structure WifiCountry where
  cc : CString
  schan : Nat
  nchan : Nat
  maxTxPower : Nat
  policy : WifiCountryPolicy
  deriving DecidableEq

/-- The fields of `wifi_ap_config_t` that are set. -/
structure WifiApConfig where
  ssid : List UInt8
  ssidLen : Nat
  password : List UInt8
  channel : UInt8
  maxConnection : Nat
  authmode : WifiAuthMode
  pmfRequired : Bool
  deriving DecidableEq

/-- The fields of `wifi_sta_config_t` that are set. -/
structure WifiStaConfig where
  ssid : List UInt8
  password : List UInt8
  scanMethod : WifiScanMethod
  thresholdAuthmode : WifiAuthMode
  deriving DecidableEq

/-- `wifi_config_t` -/
inductive WifiConfig where
  | sta (conf : WifiStaConfig)
  | ap (conf : WifiApConfig)
  deriving DecidableEq

/-- A default network interface, which belongs to one of the driver's interfaces. -/
abbrev Netif :=
  WifiInterface

/-- `esp_netif_dns_type_t`, as far as it is used -/
inductive DnsType where
  | main
  | backup
  deriving DecidableEq

/-- `wifi_lib_event_types_t` -/
inductive WifiLibEvent where
  | gotIp
  | joinedSsid
  | leftSsid
  | hasSsid
  deriving DecidableEq

/-- The bits of `s_wifi_event_group` -/
inductive WifiEventBit where
  | apStart
  | staConnected
  | staDisconnected
  | staStart
  | apStop
  | staStop
  deriving DecidableEq

def WifiEventBit.mask : WifiEventBit → UInt32
  | apStart => 1
  | staConnected => 2
  | staDisconnected => 4
  | staStart => 8
  | apStop => 16
  | staStop => 32

/-! ## Calls -/

/-- Calls that are answered with an error code. -/
inductive DriverCall where
  | wifiStop
  | wifiStart
  | wifiConnect
  | wifiSetCountry (country : WifiCountry)
  | wifiSetMode (mode : WifiMode)
  | wifiSetConfig (interface : WifiInterface) (conf : WifiConfig)
  | wifiGetMaxTxPower
  /-- `esp_wifi_get_mac`, whose address comes apart -/
  | wifiGetMac (interface : WifiInterface)
  /-- `esp_netif_get_mac` -/
  | netifGetMac (netif : Netif)
  | netifGetIpInfo (netif : Netif)
  | netifSetIpInfo (netif : Netif) (ip : IpInfo)
  | netifSetDnsInfo (netif : Netif) (type : DnsType) (addr : UInt32)
  | netifDhcpcStop (netif : Netif)
  | netifDhcpsStop (netif : Netif)
  | netifDhcpsStart (netif : Netif)
  /-- `esp_event_post_to` the event loop of `wifi_lib.c` -/
  | eventPostTo (event : WifiLibEvent)
  deriving DecidableEq

/-- The calls of `wifi_lib.c`. -/
inductive WifiCall where
  | nvs (call : NvsCall)
  | driver (call : DriverCall)
  /-- the address that a call has written -/
  | macOf (interface : WifiInterface)
  /-- `esp_netif_create_default_wifi_ap` and `_sta` -/
  | createNetif (interface : WifiInterface)
  /-- `esp_netif_destroy_default_wifi` -/
  | destroyNetif (netif : Netif)
  /-- `_esp_netif` is read. -/
  | loadNetIf
  /-- `_esp_netif` is written. -/
  | storeNetIf (netif : Option Netif)
  /-- `xEventGroupWaitBits` for one bit, without a limit of time -/
  | waitBits (bit : WifiEventBit)

/-- What comes back from a call.  A wait without a limit ends with its bit. -/
@[reducible]
def WifiCall.Response : WifiCall → Type
  | .nvs call => call.Response
  | .driver _ => EspErr
  | .macOf _ => Mac
  | .createNetif _ => Netif
  | .destroyNetif _ | .storeNetIf _ => Unit
  | .loadNetIf => Option Netif
  | .waitBits bit => { bits : UInt32 // bits &&& bit.mask ≠ 0 }

/-- A program of the Wi-Fi code. -/
abbrev WifiProgram :=
  Program WifiCall WifiCall.Response

/-- A call as a program. -/
abbrev ask (call : WifiCall) : WifiProgram call.Response :=
  Program.ask call

/-- A program of the settings code as one of the Wi-Fi code. -/
def nvs {α : Type} (program : NvsProgram α) : WifiProgram α :=
  program.translate fun call => ask (.nvs call)

/-- A call that is answered with an error code, within `ESP_ERROR_CHECK`. -/
def check (call : DriverCall) : WifiProgram Unit := do
  let err ← ask (.driver call)
  nvs (espErrorCheck err)

/-! ## What the calls do -/

/-- A driver with its hardware. -/
structure Driver (δ : Type) where
  macs : WifiInterface → Mac
  answer : DriverCall → δ → EspErr × δ
  bits : (bit : WifiEventBit) → δ → { bits : UInt32 // bits &&& bit.mask ≠ 0 } × δ

/-- A driver that does what it is asked. -/
def Driver.obliging (macs : WifiInterface → Mac) : Driver Unit where
  macs := macs
  answer _ state := (.ok, state)
  bits bit state := (⟨bit.mask, by cases bit <;> decide⟩, state)

/-- The state around the Wi-Fi code, with what the driver has been handed so far. -/
structure World (δ : Type) where
  store : Store
  netIf : Option Netif
  driver : δ
  handed : List (WifiInterface × WifiConfig)

/-- The configurations that a call hands over. -/
def DriverCall.hands : DriverCall → List (WifiInterface × WifiConfig)
  | .wifiSetConfig interface conf => [(interface, conf)]
  | _ => []

variable {δ : Type}

/-- The store within the world. -/
def World.storePart : Program.Part (World δ) Store where
  get world := world.store
  set world store := { world with store }
  get_set _ _ := rfl
  set_set _ _ _ := rfl
  set_get _ := rfl

def Driver.handle (driver : Driver δ) :
    Program.Handler WifiCall WifiCall.Response (World δ) Halt
  | .nvs call, world => World.storePart.lift world (Store.handle call world.store)
  | .driver call, world =>
      let (err, driver) := driver.answer call world.driver
      .ok (err, { world with driver, handed := world.handed ++ call.hands })
  | .macOf interface, world => .ok (driver.macs interface, world)
  | .createNetif interface, world => .ok (interface, world)
  | .destroyNetif _, world => .ok ((), world)
  | .loadNetIf, world => .ok (world.netIf, world)
  | .storeNetIf netIf, world => .ok ((), { world with netIf })
  | .waitBits bit, world =>
      let (bits, driver) := driver.bits bit world.driver
      .ok (bits, { world with driver })

section Run

variable {driver : Driver δ} {world : World δ}

theorem run_nvs {α : Type} (program : NvsProgram α) :
    (nvs program).run driver.handle world =
      World.storePart.lift world (program.run Store.handle world.store) := by
  apply Program.run_translate World.storePart
  intro call state
  rw [Program.run_ask]
  rfl

theorem run_nvs_of_ok {α : Type} {program : NvsProgram α} {value : α} {store : Store}
    (ran : program.run Store.handle world.store = .ok (value, store)) :
    (nvs program).run driver.handle world = .ok (value, { world with store }) := by
  rw [run_nvs, ran]
  rfl

end Run

end WifiSniffer.Wifi
