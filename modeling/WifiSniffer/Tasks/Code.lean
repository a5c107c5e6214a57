import WifiSniffer.Effect.Pool
import WifiSniffer.Nvs.Local
import WifiSniffer.Settings.Filter
import WifiSniffer.Wifi.Lib

/-!
# Tasks around the filters

Once `setup` has returned, the console, the button, the driver and two event loops all
call into `wifi_sniffer.c`.  This module is what they do with the filter variables, the
flash, `_filter_sem` and the queue of the sniffer's event loop, one access at a time.

An address filter is set under the semaphore, a threshold without it.  Either way an event
asks for the filters to be shown, and the loop that gets it reads them without the
semaphore.  What is only logged is left out.
-/

namespace WifiSniffer.Tasks

open WifiSniffer.Effect WifiSniffer.Handler WifiSniffer.Nvs WifiSniffer.Settings
open Program (Action)

/-! ## Calls -/

/-- `sniffer_event_types_t` -/
inductive SnifferEvent where
  | queueFull
  | captureStarted
  | captureStopped
  | isUp
  | filterChanged
  deriving DecidableEq

/-- What the tasks do with what they share. -/
inductive SnifferCall where
  /-- `xSemaphoreTake(_filter_sem, portMAX_DELAY)` -/
  | semTake
  /-- `xSemaphoreGive(_filter_sem)` -/
  | semGive
  /-- `addr2_filter` is assigned, or read. -/
  | storeAddr2 (addrFilter : AddrFilter)
  | loadAddr2
  /-- `rssi_filter` is assigned, or read. -/
  | storeRssi (rssi : Int8)
  | loadRssi
  | nvs (call : NvsCall)
  /-- `esp_event_post_to` the event loop, waiting for at most 10 ms -/
  | eventPostTo (event : SnifferEvent)
  /-- The event loop takes its next event. -/
  | eventReceive
  /-- The line with the filters is put out. -/
  | show (addrFilter : AddrFilter) (rssi : Int8)

@[reducible]
def SnifferCall.Response : SnifferCall → Type
  | .semTake | .semGive => Bool
  | .loadAddr2 => AddrFilter
  | .loadRssi => Int8
  | .nvs call => call.Response
  | .eventPostTo _ => EspErr
  | .eventReceive => SnifferEvent
  | .storeAddr2 _ | .storeRssi _ | .show _ _ => Unit

abbrev SnifferProgram :=
  Program SnifferCall SnifferCall.Response

/-- A call as a program. -/
abbrev ask (call : SnifferCall) : SnifferProgram call.Response :=
  Program.ask call

/-- A program of the settings code as one of a task. -/
def nvs {α : Type} (program : NvsProgram α) : SnifferProgram α :=
  program.translate fun call => ask (.nvs call)

/-! ## `wifi_sniffer.c` -/

/-- `sniffer_post_event`, once the event loop is there -/
def snifferPostEvent (event : SnifferEvent) : SnifferProgram Unit := do
  let err ← ask (.eventPostTo event)
  if err = Wifi.espErrTimeout then return ()
  else nvs (espErrorCheck err)

/-- `sniffer_set_filter` with the variable `addr2_filter` -/
def snifferSetFilter (key : String) (addrFilter : AddrFilter) : SnifferProgram Bool := do
  let taken ← ask .semTake
  if taken then
    ask (.storeAddr2 addrFilter)
    nvs (wifiSnifferNvsSetFilterMac key addrFilter)
    let _ ← ask .semGive
    return true
  else return false

/-- `sniffer_set_addr2_filter` -/
def snifferSetAddr2Filter (addrFilter : AddrFilter) : SnifferProgram Unit := do
  let set ← snifferSetFilter addr2Key addrFilter
  if set then snifferPostEvent .filterChanged
  else return ()

/-- `sniffer_set_rssi_filter` -/
def snifferSetRssiFilter (rssi : Int8) : SnifferProgram Unit := do
  let rssi := if rssi = 0 then snifferRssiFilterDefault else rssi
  ask (.storeRssi rssi)
  nvs (wifiSnifferNvsSetFilterRssi rssi)
  snifferPostEvent .filterChanged

/-- `wifi_sniffer_packet_handler`, as far as it touches what is shared here.  The record of
an accepted packet may find `_packet_queue` full. -/
def wifiSnifferPacketHandler (full : Bool) : SnifferProgram Unit := do
  let _ ← ask .loadRssi
  let taken ← ask .semTake
  if taken then
    let _ ← ask .semGive
    let _ ← ask .loadAddr2
    if full then snifferPostEvent .queueFull
    else return ()
  else
    if full then snifferPostEvent .queueFull
    else return ()

/-! ## `main.c` -/

/-- The threshold that a click chooses after the given one. -/
def clickedRssi (rssi : Int8) : Int8 :=
  if rssi ≥ -50 then -70
  else if rssi ≤ -51 ∧ rssi ≥ -70 then -96
  else -50

/-- `button_single_click_cb` -/
def buttonSingleClickCb : SnifferProgram Unit := do
  let rssi ← ask .loadRssi
  snifferSetRssiFilter (clickedRssi rssi)

/-- `sniffer_display_filter` -/
def snifferDisplayFilter : SnifferProgram Unit := do
  let addrFilter ← ask .loadAddr2
  let rssi ← ask .loadRssi
  ask (.show addrFilter rssi)

/-- `sniffer_on_event_handler`.  Blinking touches nothing that is shared. -/
def snifferOnEventHandler (event : SnifferEvent) : SnifferProgram Unit :=
  match event with
  | .filterChanged => snifferDisplayFilter
  | .queueFull | .isUp | .captureStarted | .captureStopped => pure ()

/-- One round of the sniffer's event loop. -/
def eventLoopRound : SnifferProgram Unit := do
  let event ← ask .eventReceive
  snifferOnEventHandler event

/-! ## Jobs -/

/-- What a task may be asked to do. -/
inductive Job where
  /-- `sniffer_set_addr2_filter` -/
  | setAddr2 (addrFilter : AddrFilter)
  /-- `sniffer_set_rssi_filter` -/
  | setRssi (rssi : Int8)
  /-- `button_single_click_cb` -/
  | click
  /-- `wifi_sniffer_packet_handler` -/
  | packet (full : Bool)
  /-- `sniffer_task` announces that it has started. -/
  | captureStarted
  /-- a round of the sniffer's event loop -/
  | event
  /-- `on_wifi_lib_event_handler` of the other event loop, which shows the filters too -/
  | wifiLibEvent

def Job.code : Job → SnifferProgram Unit
  | .setAddr2 addrFilter => snifferSetAddr2Filter addrFilter
  | .setRssi rssi => snifferSetRssiFilter rssi
  | .click => buttonSingleClickCb
  | .packet full => wifiSnifferPacketHandler full
  | .captureStarted => snifferPostEvent .captureStarted
  | .event => eventLoopRound
  | .wifiLibEvent => snifferDisplayFilter

/-! ## What is shared -/

variable {ι : Type}

/-- What the tasks share.  Which tasks there are is left open. -/
structure Shared (ι : Type) where
  store : Store
  addr2Filter : AddrFilter
  rssiFilter : Int8
  /-- the holder of `_filter_sem` -/
  holder : Option ι
  /-- the queue of the event loop, oldest event first -/
  queue : List SnifferEvent
  /-- the events that found no room in the queue, oldest first -/
  refused : List SnifferEvent
  /-- the lines put out, oldest first, with the task that did it -/
  shown : List (ι × AddrFilter × Int8)

/-- `SNIFFER_EVENT_QUEUE_SIZE` -/
def snifferEventQueueSize : Nat :=
  20

/-- The flash within what is shared. -/
def Shared.storePart : Program.Part (Shared ι) Store where
  get shared := shared.store
  set shared store := { shared with store }
  get_set _ _ := rfl
  set_set _ _ _ := rfl
  set_get _ := rfl

variable [DecidableEq ι]

/-- What a call of a task does.  It waits for the semaphore and for an event.  A post that
finds the queue full has waited for room in vain. -/
def act (task : ι) : Action SnifferCall SnifferCall.Response (Shared ι) Halt
  | .semTake, shared =>
      match shared.holder with
      | none => some (.ok (true, { shared with holder := some task }))
      | some _ => none
  | .semGive, shared =>
      if shared.holder = some task then some (.ok (true, { shared with holder := none }))
      else some (.ok (false, shared))
  | .storeAddr2 addrFilter, shared => some (.ok ((), { shared with addr2Filter := addrFilter }))
  | .loadAddr2, shared => some (.ok (shared.addr2Filter, shared))
  | .storeRssi rssi, shared => some (.ok ((), { shared with rssiFilter := rssi }))
  | .loadRssi, shared => some (.ok (shared.rssiFilter, shared))
  | .nvs call, shared => some (Shared.storePart.lift shared (Store.handle call shared.store))
  | .eventPostTo event, shared =>
      if shared.queue.length < snifferEventQueueSize then
        some (.ok (.ok, { shared with queue := shared.queue ++ [event] }))
      else some (.ok (Wifi.espErrTimeout, { shared with refused := shared.refused ++ [event] }))
  | .eventReceive, shared =>
      match shared.queue with
      | [] => none
      | event :: queue => some (.ok (event, { shared with queue }))
  | .show addrFilter rssi, shared =>
      some (.ok ((), { shared with shown := shared.shown ++ [(task, addrFilter, rssi)] }))

/-- The tasks that run these jobs in the firmware.  The two loops are those of the sniffer's
events and of the events of the Wi-Fi library. -/
inductive SnifferTask where
  | console
  | button
  | wifi
  | sniffer
  | snifferLoop
  | wifiLibLoop
  deriving DecidableEq

/-- Tasks and what they share. -/
abbrev TaskPool (ι : Type) :=
  Program.Pool SnifferCall SnifferCall.Response ι (Shared ι)

abbrev TaskEvent (ι : Type) :=
  Program.PoolEvent ι Job

/-- One step of the tasks. -/
abbrev taskStep : Transition.Step (TaskPool ι) (TaskEvent ι) :=
  Program.poolStep act Job.code

end WifiSniffer.Tasks
