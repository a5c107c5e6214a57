import WifiSniffer.Bytes.Framing
import WifiSniffer.Handler.PacketHandler
import Mathlib.Logic.Function.Basic

/-!
# Session state

The global state that a capture session lives in and the functions that change
it: the accept handler and the capture callbacks of `main.c`, the send path of
`tcp_server.c`, and the task control of `wifi_sniffer.c`.

Sockets are descriptors, and descriptors are reused.  Every accepted client
therefore also gets a connection number of its own, which the descriptor table
maps to and which nothing in the code ever sees.  Tasks are numbered the same way.
-/

namespace WifiSniffer.Session

open WifiSniffer.Bytes WifiSniffer.Capture WifiSniffer.Handler
open Function (update)

/-! ## State -/

/-- How far a live `sniffer_task` has come: created but never scheduled, or past
its start-up and inside its loop. -/
inductive TaskPhase where
  | created
  | looping
  deriving DecidableEq

/-- A misuse of the operating system that the calling code should never commit. -/
inductive Fault where
  /-- `close` of a descriptor that is not open -/
  | badClose (sock : Nat)
  /-- `vTaskDelete` of a task that is not alive -/
  | badDelete (task : Nat)
  deriving DecidableEq

/-- The firmware's global state once `setup` is done, together with the part of
the operating system's state that it controls. -/
structure State (cfg : SdkConfig) where
  /-- `_sock` -/
  sock : Nat
  /-- `xHandle_sniff` -/
  xHandleSniff : Option Nat
  /-- the content of `_packet_queue`, oldest record first -/
  packetQueue : List (PcapRec cfg.snapLen)
  /-- whether the driver is in promiscuous mode -/
  promiscuous : Bool
  /-- the sniffer tasks that are alive -/
  tasks : Nat → Option TaskPhase
  nextTask : Nat
  /-- the open client sockets, with the connection each belongs to -/
  files : Nat → Option Nat
  nextConn : Nat
  /-- the calls of `write` on each connection: the buffer and how many of its
  bytes were accepted -/
  writes : Nat → List (List UInt8 × Nat)
  /-- the records handed to `on_capture`, oldest first -/
  captured : List (PcapRec cfg.snapLen)
  faults : List Fault

variable {cfg : SdkConfig}

/-- The bytes that a connection has accepted. -/
def State.received (state : State cfg) (conn : Nat) : List UInt8 :=
  delivered (state.writes conn)

/-! ## Operating system -/

/-- `accept` returns a descriptor for a new connection. -/
def accept (state : State cfg) (sock : Nat) : State cfg :=
  { state with
    files := update state.files sock (some state.nextConn)
    nextConn := state.nextConn + 1 }

/-- The effect of `write` on the connection behind a descriptor.  A descriptor
that is not open leads nowhere. -/
def write (state : State cfg) (conn : Option Nat) (buffer : List UInt8) (result : Int) :
    State cfg :=
  { state with
    writes :=
      match conn with
      | some conn =>
          update state.writes conn (state.writes conn ++ [(buffer, result.toNat)])
      | none => state.writes }

/-- The results that `write` may return: a number of accepted bytes, or a
negative one for an error, and always an error if the descriptor is not open. -/
def WriteResult (conn : Option Nat) (buffer : List UInt8) (result : Int) : Prop :=
  result ≤ buffer.length ∧ (conn = none → result < 0)

instance (conn : Option Nat) (buffer : List UInt8) (result : Int) :
    Decidable (WriteResult conn buffer result) :=
  inferInstanceAs (Decidable (_ ∧ _))

/-- `xTaskCreate` of a `sniffer_task`, which stores the handle only if there was
enough memory for the task. -/
def xTaskCreate (state : State cfg) (created : Bool) : State cfg :=
  if created then
    { state with
      xHandleSniff := some state.nextTask
      tasks := update state.tasks state.nextTask (some .created)
      nextTask := state.nextTask + 1 }
  else state

/-- `vTaskDelete`, for which a null handle means the calling task. -/
def vTaskDelete (state : State cfg) (caller : Nat) (handle : Option Nat) : State cfg :=
  let task := handle.getD caller
  { state with
    tasks := update state.tasks task none
    faults :=
      if state.tasks task = none then .badDelete task :: state.faults else state.faults }

/-! ## `tcp_server.c` -/

/-- `disconnect_socket` -/
def disconnectSocket (state : State cfg) (sock : Nat) : State cfg :=
  if sock ≠ 0 then
    { state with
      files := update state.files sock none
      faults :=
        if state.files sock = none then .badClose sock :: state.faults else state.faults }
  else state

/-- `onSend` from where `write` has returned. -/
def onSendReturn (state : State cfg) (sock : Nat) (result : Int) : State cfg × Bool :=
  if result < 0 then (disconnectSocket state sock, false) else (state, true)

/-- `onSend`, with the result of its `write`. -/
def onSend (state : State cfg) (sock : Nat) (buffer : List UInt8) (result : Int) :
    State cfg × Bool :=
  onSendReturn (write state (state.files sock) buffer result) sock result

/-! ## `wifi_sniffer.c` -/

/-- `wifi_sniffer_init` -/
def wifiSnifferInit (state : State cfg) : State cfg :=
  { state with promiscuous := true }

/-- `wifi_sniffer_deinit` -/
def wifiSnifferDeinit (state : State cfg) : State cfg :=
  { state with promiscuous := false }

/-- `sniffer_start`.  It stores a new handle without looking at the old one. -/
def snifferStart (state : State cfg) (created : Bool) : State cfg :=
  xTaskCreate state created

/-- `sniffer_stop`.  It deletes the task of the handle, whichever task calls it,
and leaves the handle as it is. -/
def snifferStop (state : State cfg) (caller : Nat) : State cfg :=
  vTaskDelete (wifiSnifferDeinit state) caller state.xHandleSniff

/-- `sniffer_add_queue`; a record that finds the queue full is dropped. -/
def snifferAddQueue (state : State cfg) (record : PcapRec cfg.snapLen) : State cfg :=
  if state.packetQueue.length < cfg.queueSize then
    { state with packetQueue := state.packetQueue ++ [record] }
  else state

/-! ## `main.c` -/

/-- `on_socket_accept_handler`.  Whether the task could be created is up to the
system. -/
def onSocketAcceptHandler (state : State cfg) (sock : Nat) (created : Bool) : State cfg :=
  snifferStart { disconnectSocket state state.sock with sock := sock } created

/-- What `on_start_capture` and `on_capture` do when `onSend` comes back. -/
def afterSend (sent : State cfg × Bool) (caller : Nat) : State cfg :=
  if !sent.2 then snifferStop { sent.1 with sock := 0 } caller else sent.1

/-- `on_start_capture`, called by a task with the result its `write` is going to
get. -/
def onStartCapture (state : State cfg) (caller : Nat) (pcapHdr : PcapHdr) (result : Int) :
    State cfg :=
  if state.sock ≠ 0 then
    afterSend (onSend state state.sock pcapHdr.bytes result) caller
  else state

/-- `on_capture`, up to its output on the display. -/
def onCapture (state : State cfg) (caller : Nat) (pcapRec : PcapRec cfg.snapLen)
    (totalSize : UInt32) (result : Int) : State cfg :=
  if state.sock ≠ 0 ∧ pcapRec.pcapRecHdr.origLen > 0 then
    afterSend (onSend state state.sock (pcapRec.bytes.take totalSize.toNat) result) caller
  else state

/-! ## The sniffer task -/

/-- `capture_start`, with the callbacks that `setup` has registered. -/
def captureStart (state : State cfg) (caller : Nat) (result : Int) : State cfg :=
  onStartCapture state caller (pcapHdr cfg) result

/-- `capture_on_send`, with the callbacks that `setup` has registered. -/
def captureOnSend (state : State cfg) (caller : Nat) (pcapRec : PcapRec cfg.snapLen)
    (result : Int) : State cfg :=
  onCapture { state with captured := state.captured ++ [pcapRec] } caller pcapRec
    (captureGetSize pcapRec.pcapRecHdr) result

/-- The task goes on to its loop, unless it has been deleted meanwhile. -/
def enterLoop (state : State cfg) (task : Nat) : State cfg :=
  { state with
    tasks := update state.tasks task ((state.tasks task).map fun _ => .looping) }

/-- `sniffer_task` up to its loop. -/
def snifferTaskStartup (state : State cfg) (task : Nat) (result : Int) : State cfg :=
  enterLoop (captureStart (wifiSnifferInit state) task result) task

/-- One round of the loop in `sniffer_task`. -/
def snifferTaskIterate (state : State cfg) (task : Nat) (result : Int) : State cfg :=
  match state.packetQueue with
  | [] => state
  | msg :: rest => captureOnSend { state with packetQueue := rest } task msg result

/-- The state once `setup` has returned.  On the LILYGO board it starts a sniffer
task without waiting for a client. -/
def initial (cfg : SdkConfig) : State cfg :=
  let idle : State cfg :=
    { sock := 0
      xHandleSniff := none
      packetQueue := []
      promiscuous := false
      tasks := fun _ => none
      nextTask := 0
      files := fun _ => none
      nextConn := 0
      writes := fun _ => []
      captured := []
      faults := [] }
  if cfg.liligoS3 then snifferStart idle true else idle

end WifiSniffer.Session
