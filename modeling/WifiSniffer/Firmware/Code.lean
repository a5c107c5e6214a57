import WifiSniffer.Console.Filter
import WifiSniffer.Effect.Writes
import WifiSniffer.Tasks.Code
import WifiSniffer.Transition.Labelled
import WifiSniffer.Wifi.OwnMac

/-!
# Boots and commands

What a boot does to the flash and to the driver, and what the console commands and the
button do after it, one after the other.  The own address, the frame types and the events
are in this model; the LEDs, the display, the TCP server and the capture are not, since
they leave the settings alone.

`nvs_init_flash` is left out: the flash is found in order, so that a boot does not erase it,
and NVS is a map whose writes succeed.

A boot, a command or a click may come to its end, be aborted by `ESP_ERROR_CHECK`, or lose
its power after any of its calls.
-/

namespace WifiSniffer.Firmware

open WifiSniffer.Bytes WifiSniffer.Console WifiSniffer.Effect WifiSniffer.Handler
open WifiSniffer.Nvs WifiSniffer.Settings WifiSniffer.Wifi
open WifiSniffer.Tasks (SnifferEvent clickedRssi)
open WifiSniffer.Transition (Step)

variable {α δ : Type}

/-! ## Calls -/

/-- `filter_mask` of `wifi_promiscuous_filter_t`, as far as it is used -/
inductive FrameMask where
  | all
  | data
  deriving DecidableEq

/-- The calls of `wifi_sniffer.c` to the driver and to its event loop. -/
inductive PromiscuousCall where
  | wifiSetPromiscuousRxCb
  | wifiSetPromiscuousFilter (mask : FrameMask)
  /-- `esp_wifi_set_promiscuous_ctrl_filter` for all control frames -/
  | wifiSetPromiscuousCtrlFilter
  | eventLoopCreate
  | eventHandlerRegister
  | eventPostTo (event : SnifferEvent)

inductive FirmwareCall where
  | wifi (call : WifiCall)
  | promiscuous (call : PromiscuousCall)

@[reducible]
def FirmwareCall.Response : FirmwareCall → Type
  | .wifi call => call.Response
  | .promiscuous _ => EspErr

abbrev FirmwareProgram :=
  Program FirmwareCall FirmwareCall.Response

/-- A call as a program. -/
abbrev ask (call : FirmwareCall) : FirmwareProgram call.Response :=
  Program.ask call

/-- A program of the Wi-Fi code as one of the firmware. -/
def wifi (program : WifiProgram α) : FirmwareProgram α :=
  program.translate fun call => ask (.wifi call)

/-- A program of the settings code as one of the firmware. -/
def settings (program : NvsProgram α) : FirmwareProgram α :=
  wifi (Wifi.nvs program)

/-- A call within `ESP_ERROR_CHECK`. -/
def check (call : PromiscuousCall) : FirmwareProgram Unit := do
  let err ← ask (.promiscuous call)
  settings (espErrorCheck err)

/-! ## `wifi_sniffer.c` -/

/-- `sniffer_post_event`, once the event loop is there -/
def snifferPostEvent (event : SnifferEvent) : FirmwareProgram Unit := do
  let err ← ask (.promiscuous (.eventPostTo event))
  if err = espErrTimeout then return ()
  else settings (espErrorCheck err)

/-- `sniffer_set_addr2_filter`, where the semaphore is free -/
def snifferSetAddr2Filter (filters : Filters) (addrFilter : AddrFilter) :
    FirmwareProgram Filters := do
  let filters ← settings (Settings.snifferSetAddr2Filter true filters addrFilter)
  snifferPostEvent .filterChanged
  return filters

/-- `sniffer_set_rssi_filter` -/
def snifferSetRssiFilter (filters : Filters) (rssi : Int8) : FirmwareProgram Filters := do
  let filters ← settings (Settings.snifferSetRssiFilter filters rssi)
  snifferPostEvent .filterChanged
  return filters

/-- `sniffer_set_filter_data` -/
def snifferSetFilterData : FirmwareProgram Unit :=
  check (.wifiSetPromiscuousFilter .data)

/-- `sniffer_set_no_filter` -/
def snifferSetNoFilter : FirmwareProgram Unit := do
  check .wifiSetPromiscuousCtrlFilter
  check (.wifiSetPromiscuousFilter .all)

/-- `sniffer_init_config`, after the queue and the semaphore have been created -/
def snifferInitConfig (ownMac : AddrFilter) : FirmwareProgram Filters := do
  let filters ← settings (snifferSetOwnMacFilter true filtersAtPowerUp ownMac)
  check .wifiSetPromiscuousRxCb
  check .eventLoopCreate
  check .eventHandlerRegister
  snifferPostEvent .isUp
  let rssi ← settings wifiSnifferNvsGetFilterRssi
  let filters ← snifferSetRssiFilter filters rssi
  let addrFilter ← settings (wifiSnifferNvsGetFilterMac addr2Key)
  snifferSetAddr2Filter filters addrFilter

/-! ## `console_sniffer_cmd.c` -/

/-- `console_sniffer_filter_source_arg` -/
def consoleSnifferFilterSourceArg (filters : Filters) (argSource : Option CString) :
    FirmwareProgram Filters :=
  match argSource with
  | none => return filters
  | some addr2 => do
      let (ok, filter, _) ← settings (consoleReadFilter addr2 addr2.length (.filled []))
      if ok then snifferSetAddr2Filter filters filter else return filters

/-- `console_sniffer_filter_frame_arg` -/
def consoleSnifferFilterFrameArg (argFrameType : Option CString) : FirmwareProgram Unit :=
  match argFrameType with
  | none => return ()
  | some frameType =>
      if frameType.length = 0 ∨ strncmpEqual (.ofString "a") frameType 1 then
        snifferSetNoFilter
      else if strncmpEqual (.ofString "d") frameType 1 then snifferSetFilterData
      else return ()

/-- `console_sniffer_filter_rssi_arg` -/
def consoleSnifferFilterRssiArg (filters : Filters) (argRssi : Option Int32) :
    FirmwareProgram Filters :=
  match argRssi with
  | none => return filters
  | some ival =>
      let rssi := ival.toInt8
      if rssi > 0 then return filters else snifferSetRssiFilter filters rssi

/-- `console_sniffer_filter`, after its arguments have been parsed -/
def consoleSnifferFilter (filters : Filters) (source frameType : Option CString)
    (rssi : Option Int32) : FirmwareProgram Filters := do
  let filters ← consoleSnifferFilterSourceArg filters source
  consoleSnifferFilterFrameArg frameType
  consoleSnifferFilterRssiArg filters rssi

/-! ## `console_wifi_set_ip_cmd.c` -/

section Code

variable (ipaddrAddr : CString → UInt32) (defaults : WifiDefaults)

/-- `convert_to_ip` -/
def convertToIp (ipAddress : CString) : IpInfo :=
  convertToIpInfo ipaddrAddr (ipAddress.chars ++ [0]) (defaults.staticNetmaskAddr.text.chars ++ [0])
    (ipAddress.chars ++ [0])

/-- `wifi_conf_set_static_ip` -/
def wifiConfSetStaticIp (ip : IpInfo) : WifiProgram Unit :=
  wifiConfStaticIp ipaddrAddr defaults ip ⟨ipaddrNone, ipaddrNone⟩

/-- `console_wifi_set_ip_ip_arg` -/
def consoleWifiSetIpIpArg (argIp : Option CString) : WifiProgram Unit :=
  match argIp with
  | none => return ()
  | some value => do
      let mode ← Wifi.nvs wifiNvsGetMode
      if mode ≠ .ap then return ()
      else
        let ip := convertToIp ipaddrAddr defaults value
        if wifiIsValidIp ip.ip then wifiConfSetStaticIp ipaddrAddr defaults ip
        else return ()

/-! ## `main.c` -/

/-- `button_single_click_cb` -/
def buttonSingleClickCb (filters : Filters) : FirmwareProgram Filters :=
  snifferSetRssiFilter filters (clickedRssi filters.rssiFilter)

/-- `setup`, with the filter variables it leaves -/
def setup : FirmwareProgram Filters := do
  wifi (configWifiInit ipaddrAddr defaults)
  let mac ← wifi (wifiGetMac (Vector.replicate 6 0))
  let filters ← snifferInitConfig (.filled mac.toList)
  snifferSetNoFilter
  return filters

/-! ## Boots and commands -/

/-- What happens to a board. -/
inductive Event (δ : Type) where
  /-- It is started, with the driver as it is then. -/
  | boot (state : δ)
  | setAp (ssid password : Option CString) (channel : Option Int)
  | setSta (ssid password : Option CString)
  | setIp (ip : Option CString)
  | filter (source frameType : Option CString) (rssi : Option Int32)
  /-- The button is clicked. -/
  | click

/-- What is run then, with the filter variables so far. -/
def Event.code (filters : Filters) : Event δ → FirmwareProgram Filters
  | .boot _ => setup ipaddrAddr defaults
  | .setAp ssid password channel => do
      wifi (consoleWifiExecSetAp ipaddrAddr defaults ssid password channel)
      return filters
  | .setSta ssid password => do
      wifi (consoleWifiExecSetSta defaults ssid password)
      return filters
  | .setIp ip => do
      wifi (consoleWifiSetIpIpArg ipaddrAddr defaults ip)
      return filters
  | .filter source frameType rssi => consoleSnifferFilter filters source frameType rssi
  | .click => buttonSingleClickCb filters

end Code

/-! ## What the calls do -/

/-- A driver with its promiscuous mode and an event loop. -/
structure Chip (δ : Type) extends Driver δ where
  promiscuous : PromiscuousCall → δ → EspErr × δ

/-- The state around the firmware, with the frame types that the driver has accepted. -/
structure Hardware (δ : Type) where
  world : World δ
  frames : Option FrameMask

def Hardware.powerUp (store : Store) (state : δ) : Hardware δ where
  world := .powerUp store state
  frames := none

/-- The world within the hardware. -/
def Hardware.worldPart : Program.Part (Hardware δ) (World δ) where
  get hardware := hardware.world
  set hardware world := { hardware with world }
  get_set _ _ := rfl
  set_set _ _ _ := rfl
  set_get _ := rfl

/-- The frame types after a call. -/
def PromiscuousCall.frames (call : PromiscuousCall) (err : EspErr) (frames : Option FrameMask) :
    Option FrameMask :=
  match call with
  | .wifiSetPromiscuousFilter mask => if err = .ok then some mask else frames
  | _ => frames

def Chip.handle (chip : Chip δ) :
    Program.Handler FirmwareCall FirmwareCall.Response (Hardware δ) Halt
  | .wifi call, hardware =>
      Hardware.worldPart.lift hardware (chip.toDriver.handle call hardware.world)
  | .promiscuous call, hardware =>
      let (err, driver) := chip.promiscuous call hardware.world.driver
      .ok (err, { world := { hardware.world with driver },
                  frames := call.frames err hardware.frames })

/-! ## Boards -/

/-- A board without power, of which the flash is left, or one that waits for commands. -/
inductive Board (δ : Type) where
  | down (store : Store)
  | up (hardware : Hardware δ) (filters : Filters)

def Board.store : Board δ → Store
  | .down store => store
  | .up hardware _ => hardware.world.store

/-- How a boot, a command or a click has ended. -/
inductive Outcome where
  | completed
  /-- `ESP_ERROR_CHECK` has reset the board. -/
  | aborted
  /-- The power went after some calls. -/
  | powerLost (calls : Nat)

/-- Where an event begins: a boot anew, and the others on a board that is up. -/
def Event.begins : Event δ → Board δ → Option (Hardware δ × Filters)
  | .boot state, board => some (.powerUp board.store state, filtersAtPowerUp)
  | _, .up hardware filters => some (hardware, filters)
  | _, .down _ => none

/-- What a run leaves of a board. -/
def Outcome.leaves (chip : Chip δ) (program : FirmwareProgram Filters) (hardware : Hardware δ) :
    Outcome → Option (Board δ)
  | .completed =>
      match program.run chip.handle hardware with
      | .ok (filters, hardware) => some (.up hardware filters)
      | .error _ => none
  | .aborted =>
      match program.run chip.handle hardware with
      | .error ⟨.aborted _, store⟩ => some (.down store)
      | .ok _ | .error ⟨.outOfBounds, _⟩ => none
  | .powerLost calls =>
      (program.afterCalls chip.handle calls hardware).map fun hardware =>
        .down hardware.world.store

/-- A boot, a command or a click, with its outcome. -/
def boardStep (ipaddrAddr : CString → UInt32) (defaults : WifiDefaults) (chip : Chip δ) :
    Step (Board δ) (Event δ × Outcome)
  | board, (event, outcome) =>
      (event.begins board).bind fun (hardware, filters) =>
        outcome.leaves chip (event.code ipaddrAddr defaults filters) hardware

end WifiSniffer.Firmware
