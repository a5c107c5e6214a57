import WifiSniffer.Effect.Protocol
import WifiSniffer.Transition.Labelled
import WifiSniffer.Wifi.StaticIp

/-!
# Waiting for the driver

`wifi_ap` and `wifi_sta` start the driver and wait for its start event.  The event
handler tells them by a bit of an event group, and nobody ever clears that bit: from the
second start of a mode on, the wait is over before it has begun.  A switch of the mode is
taken call by call here, with the events of the driver coming in between.
-/

namespace WifiSniffer.Wifi

open WifiSniffer.Bytes WifiSniffer.Effect WifiSniffer.Nvs WifiSniffer.Settings
  WifiSniffer.Transition
open Program (Calls Follows)

/-! ## Events -/

/-- The Wi-Fi events that the handler distinguishes. -/
inductive WifiEvent where
  | staStart
  | staStop
  | apStart
  | apStop
  | apStaConnected
  | apStaDisconnected
  | staConnected
  | staDisconnected
  | staBeaconTimeout
  | other
  deriving DecidableEq

/-- The bit that the handler sets. -/
def WifiEvent.bit : WifiEvent → Option WifiEventBit
  | staStart => some .staStart
  | staStop => some .staStop
  | apStart => some .apStart
  | apStop => some .apStop
  | staConnected => some .staConnected
  | staDisconnected => some .staDisconnected
  | apStaConnected | apStaDisconnected | staBeaconTimeout | other => none

/-- The event that the handler posts. -/
def WifiEvent.posts : WifiEvent → Option WifiLibEvent
  | apStart => some .hasSsid
  | apStaDisconnected | staDisconnected => some .leftSsid
  | staConnected => some .joinedSsid
  | staStart | staStop | apStop | apStaConnected | staBeaconTimeout | other => none

/-- The bits of the event group after an event: `xEventGroupSetBits`. -/
def setBits (group : UInt32) (event : WifiEvent) : UInt32 :=
  group ||| (event.bit.elim 0 WifiEventBit.mask)

/-- What else `wifi_event_handler` does. -/
def wifiEventHandler (event : WifiEvent) : WifiProgram Unit :=
  match event.posts with
  | some posted => wifiLibPostEvent posted
  | none => return ()

/-! ## Switches of the mode -/

/-- The board between two calls. -/
structure Switching (δ : Type) where
  world : World δ
  /-- `s_wifi_event_group` -/
  group : UInt32
  /-- the kind of the switch that is running, or of the last one -/
  mode : WifiInterface
  /-- what the switch has still to do -/
  program : WifiProgram Unit
  /-- the events since the switch has started the driver -/
  since : Option (List WifiEvent)

/-- What can happen next. -/
inductive SwitchEvent where
  /-- `wifi_ap` is called -/
  | ap (ssidCfg : SsidCfg) (channel : UInt8) (ip : IpInfo) (dnsServersInfo : DnsServersInfo)
  /-- `wifi_sta` is called -/
  | sta (ssidCfg : SsidCfg)
  /-- the switch makes its next call -/
  | proceed
  /-- the event loop runs the handler -/
  | deliver (event : WifiEvent)

namespace Switching

section Code

variable {δ : Type} (driver : Driver δ) (ipaddrAddr : CString → UInt32)
  (defaults : WifiDefaults)

def initial (world : World δ) : Switching δ where
  world := world
  group := 0
  mode := .ap
  program := return ()
  since := none

/-- A call of the switch.  A wait ends when its bit is set, and leaves the bit. -/
def answer (group : UInt32) (question : WifiCall) (world : World δ) :
    Option (question.Response × World δ) :=
  match question with
  | .waitBits bit =>
      if passed : group &&& bit.mask ≠ 0 then some (⟨group, passed⟩, world) else none
  | question => (driver.handle question world).toOption

/-- A call starts the driver. -/
def startsDriver : WifiCall → Bool
  | .driver .wifiStart => true
  | _ => false

/-- A failed `ESP_ERROR_CHECK` ends the run. -/
def step : Step (Switching δ) SwitchEvent
  | state, .ap ssidCfg channel ip dnsServersInfo =>
      match state.program with
      | .pure _ =>
          some { state with
            mode := .ap
            program := wifiAp ipaddrAddr defaults ssidCfg channel ip dnsServersInfo
            since := none }
      | .request _ _ => none
  | state, .sta ssidCfg =>
      match state.program with
      | .pure _ =>
          some { state with mode := .sta, program := wifiSta defaults ssidCfg, since := none }
      | .request _ _ => none
  | state, .proceed =>
      match state.program with
      | .pure _ => none
      | .request question next =>
          (answer driver state.group question state.world).map fun (response, world) =>
            { state with
              world
              program := next response
              since := if startsDriver question then some [] else state.since }
  | state, .deliver event =>
      match (wifiEventHandler event).run driver.handle state.world with
      | .ok (_, world) =>
          some { state with
            world
            group := setBits state.group event
            since := state.since.map (· ++ [event]) }
      | .error _ => none

end Code

variable {δ : Type}

/-- The bit that a switch waits for. -/
def startBit : WifiInterface → WifiEventBit
  | .ap => .apStart
  | .sta => .staStart

/-- The event for which a switch waits. -/
def startEvent : WifiInterface → WifiEvent
  | .ap => .apStart
  | .sta => .staStart

/-- The event that has to come before a call is over: the end of its wait is where
`wifi_ap` enters `wifi_conf_static_ip`. -/
def needs : WifiCall → Option WifiEvent
  | .waitBits .apStart => some .apStart
  | .driver .wifiConnect => some .staStart
  | _ => none

/-- The next call of the switch. -/
def call (state : Switching δ) : Option WifiCall :=
  match state.program with
  | .pure _ => none
  | .request question _ => some question

/-- Before a call that needs it, the start event has been delivered since this switch has
started the driver. -/
def Fresh (source : Switching δ) (event : SwitchEvent) (_ : Switching δ) : Prop :=
  match event with
  | .proceed => ∀ question ∈ source.call, ∀ start ∈ needs question,
      ∃ events ∈ source.since, start ∈ events
  | .ap _ _ _ _ | .sta _ | .deliver _ => True

/-- Where the driver is started, the bit of the start event is not set. -/
def StartsClear (source : Switching δ) (event : SwitchEvent) (_ : Switching δ) : Prop :=
  match event with
  | .proceed => ∀ question ∈ source.call, startsDriver question = true →
      source.group &&& (startBit source.mode).mask = 0
  | .ap _ _ _ _ | .sta _ | .deliver _ => True

instance decidableFresh (source : Switching δ) :
    (event : SwitchEvent) → (target : Switching δ) → Decidable (Fresh source event target)
  | .proceed, _ => inferInstanceAs (Decidable (∀ question ∈ source.call,
      ∀ start ∈ needs question, ∃ events ∈ source.since, start ∈ events))
  | .ap _ _ _ _, _ | .sta _, _ | .deliver _, _ => .isTrue trivial

instance decidableStartsClear (source : Switching δ) :
    (event : SwitchEvent) → (target : Switching δ) →
      Decidable (StartsClear source event target)
  | .proceed, _ => inferInstanceAs (Decidable (∀ question ∈ source.call,
      startsDriver question = true → source.group &&& (startBit source.mode).mask = 0))
  | .ap _ _ _ _, _ | .sta _, _ | .deliver _, _ => .isTrue trivial

/-! ## The order of the calls -/

/-- How far a switch has come. -/
inductive Stage where
  | entered
  | started
  | passed
  deriving DecidableEq

/-- A switch starts the driver, then waits for its event, and joins a network after
that. -/
def leads (mode : WifiInterface) : Stage → WifiCall → Option Stage
  | .entered, .driver .wifiStart => some .started
  | .started, .waitBits bit => if bit = startBit mode then some .passed else none
  | .passed, .driver .wifiConnect => if mode = .sta then some .passed else none
  | _, .driver .wifiStart | _, .driver .wifiConnect | _, .waitBits _ => none
  | stage, _ => some stage

/-- What a switch can do in a stage. -/
theorem leads_cases {mode : WifiInterface} {stage after : Stage} {call : WifiCall}
    (allowed : leads mode stage call = some after) :
    (call = .driver .wifiStart ∧ stage = .entered ∧ after = .started) ∨
      (call = .waitBits (startBit mode) ∧ stage = .started ∧ after = .passed) ∨
      (call = .driver .wifiConnect ∧ mode = .sta ∧ stage = .passed ∧ after = .passed) ∨
      (startsDriver call = false ∧ needs call = none ∧ after = stage) := by
  cases call with
  | driver call => cases call <;> cases stage <;> simp_all [leads, startsDriver, needs]
  | waitBits bit => cases stage <;> simp_all [leads]
  | _ => cases stage <;> simp_all [leads, startsDriver, needs]

section Order

variable {mode : WifiInterface} {stage : Stage} {α : Type}

theorem leads_of_configures {call : WifiCall} (configures : Configures call) :
    leads mode stage call = some stage := by
  cases call with
  | driver call => cases call <;> cases stage <;> first | rfl | exact configures.elim
  | waitBits bit => exact configures.elim
  | _ => cases stage <;> rfl

theorem stays_of_configures {program : WifiProgram α} (calls : Calls Configures program) :
    Calls (fun call => leads mode stage call = some stage) program :=
  calls.mono fun _ => leads_of_configures

theorem stays_nvs (program : NvsProgram α) :
    Calls (fun call => leads mode stage call = some stage) (nvs program) :=
  calls_nvs_of_forall fun _ => by cases stage <;> rfl

theorem stays_wifiStop :
    Calls (fun call => leads mode stage call = some stage) (check .wifiStop) :=
  calls_check (by cases stage <;> rfl) fun _ => by cases stage <;> rfl

theorem stays_destroyNetIf :
    Calls (fun call => leads mode stage call = some stage) destroyNetIf :=
  calls_destroyNetIf (by cases stage <;> rfl) (fun _ => by cases stage <;> rfl)
    (by cases stage <;> rfl)

theorem stays_setNetIf (netif : Option Netif) :
    Calls (fun call => leads mode stage call = some stage) (setNetIf netif) :=
  Program.calls_ask (by cases stage <;> rfl)

theorem follows_check {after : Stage} {call : DriverCall}
    (allowed : leads mode stage (.driver call) = some after) :
    Follows (leads mode) (fun last => last = after) stage (check call) := by
  refine (Program.follows_ask allowed).bind ?_
  rintro err last rfl
  exact (stays_nvs (espErrorCheck err)).follows

variable (ipaddrAddr : CString → UInt32) (defaults : WifiDefaults)

theorem follows_wifiAp (ssidCfg : SsidCfg) (channel : UInt8) (ip : IpInfo)
    (dnsServersInfo : DnsServersInfo) :
    Follows (leads .ap) (fun _ => True) .entered
      (wifiAp ipaddrAddr defaults ssidCfg channel ip dnsServersInfo) := by
  have starts : leads .ap .entered (.driver .wifiStart) = some .started := rfl
  have waits : leads .ap .started (.waitBits .apStart) = some .passed := rfl
  refine stays_wifiStop.follows_bind fun _ => ?_
  refine stays_destroyNetIf.follows_bind fun _ => ?_
  refine (stays_of_configures (configures_wifiSoftAp defaults ssidCfg channel)).follows_bind
    fun netif => ?_
  refine (stays_setNetIf (some netif)).follows_bind fun _ => ?_
  refine (follows_check starts).bind ?_
  rintro _ _ rfl
  refine (stays_nvs (wifiApSave defaults ssidCfg channel)).follows_bind fun _ => ?_
  refine (Program.follows_ask waits).bind ?_
  rintro bits _ rfl
  split
  · have conf : Calls (fun call => leads .ap .passed call = some .passed)
        (wifiConfStaticIp ipaddrAddr defaults ip dnsServersInfo) :=
      calls_wifiConfStaticIp ipaddrAddr defaults (fun _ => leads_of_configures) (fun _ => rfl) ip
        dnsServersInfo
    refine conf.follows_bind fun _ => ?_
    refine (stays_of_configures configures_wifiGetIp).follows_bind fun _ => ?_
    have power : Calls (fun call => leads .ap .passed call = some .passed)
        (check .wifiGetMaxTxPower) :=
      stays_of_configures (configures_check .wifiGetMaxTxPower trivial)
    exact power.follows.mono fun _ _ => trivial
  · trivial

theorem follows_wifiSta (ssidCfg : SsidCfg) :
    Follows (leads .sta) (fun _ => True) .entered (wifiSta defaults ssidCfg) := by
  have starts : leads .sta .entered (.driver .wifiStart) = some .started := rfl
  have waits : leads .sta .started (.waitBits .staStart) = some .passed := rfl
  have joins : leads .sta .passed (.driver .wifiConnect) = some .passed := rfl
  refine stays_wifiStop.follows_bind fun _ => ?_
  refine stays_destroyNetIf.follows_bind fun _ => ?_
  refine (stays_of_configures (configures_wifiSetSta defaults ssidCfg)).follows_bind
    fun netif => ?_
  refine (stays_setNetIf (some netif)).follows_bind fun _ => ?_
  refine (follows_check starts).bind ?_
  rintro _ _ rfl
  refine (Program.follows_ask waits).bind ?_
  rintro bits _ rfl
  split
  · have stopped : Calls (fun call => leads .sta .passed call = some .passed)
        (check (.netifDhcpsStop netif)) :=
      stays_of_configures (configures_check (.netifDhcpsStop netif) trivial)
    refine stopped.follows_bind fun _ => ?_
    refine (follows_check joins).bind ?_
    rintro _ _ rfl
    exact (stays_nvs (wifiNvsSetMode .sta)).follows.mono fun _ _ => trivial
  · trivial

end Order

/-! ## What is known of the events -/

/-- What a stage says of the start event. -/
def Known (mode : WifiInterface) (group : UInt32) (since : Option (List WifiEvent)) :
    Stage → Prop
  | .entered => True
  | .started => ∃ events ∈ since,
      group &&& (startBit mode).mask ≠ 0 → startEvent mode ∈ events
  | .passed => ∃ events ∈ since, startEvent mode ∈ events

/-- The switch keeps to the order, and the bit has been set by an event that it has
waited for. -/
def Orderly (state : Switching δ) : Prop :=
  ∃ stage, Follows (leads state.mode) (fun _ => True) stage state.program ∧
    Known state.mode state.group state.since stage

/-- Only the start event sets its bit. -/
theorem setBits_and_ne_zero {group : UInt32} {event : WifiEvent} {mode : WifiInterface}
    (set : setBits group event &&& (startBit mode).mask ≠ 0) :
    group &&& (startBit mode).mask ≠ 0 ∨ event = startEvent mode := by
  by_cases same : event = startEvent mode
  · exact .inr same
  · have other : event.bit.elim 0 WifiEventBit.mask &&& (startBit mode).mask = 0 := by
      cases event <;> cases mode <;> first | rfl | exact absurd rfl same
    have bits : setBits group event &&& (startBit mode).mask =
        (group &&& (startBit mode).mask) |||
          (event.bit.elim 0 WifiEventBit.mask &&& (startBit mode).mask) :=
      UInt32.toBitVec_inj.mp BitVec.and_or_distrib_right
    rw [bits, other, UInt32.or_zero] at set
    exact .inl set

theorem Known.deliver {mode : WifiInterface} {group : UInt32}
    {since : Option (List WifiEvent)} {stage : Stage} (event : WifiEvent)
    (known : Known mode group since stage) :
    Known mode (setBits group event) (since.map (· ++ [event])) stage := by
  cases stage with
  | entered => trivial
  | started =>
      rcases known with ⟨events, rfl, heard⟩
      refine ⟨events ++ [event], rfl, fun set => ?_⟩
      rcases setBits_and_ne_zero set with before | start
      · exact List.mem_append_left [event] (heard before)
      · exact List.mem_append_right events (List.mem_singleton.mpr start.symm)
  | passed =>
      rcases known with ⟨events, rfl, heard⟩
      exact ⟨events ++ [event], rfl, List.mem_append_left [event] heard⟩

section Orderly

variable {driver : Driver δ} {ipaddrAddr : CString → UInt32} {defaults : WifiDefaults}
  {source target : Switching δ}

theorem Orderly.deliver {event : WifiEvent} (orderly : Orderly source)
    (taken : step driver ipaddrAddr defaults source (.deliver event) = some target) :
    Orderly target := by
  rcases orderly with ⟨stage, follows, known⟩
  rw [step] at taken
  split at taken
  · cases taken
    exact ⟨stage, follows, known.deliver event⟩
  · cases taken

/-- A wait for a bit ends when the bit is set. -/
theorem answer_waitBits_eq_some {group : UInt32} {bit : WifiEventBit} {world next : World δ}
    {bits : (WifiCall.waitBits bit).Response}
    (answered : answer driver group (.waitBits bit) world = some (bits, next)) :
    group &&& bit.mask ≠ 0 := by
  rw [answer] at answered
  split at answered
  · assumption
  · cases answered

/-- What is known before a call is enough for the call, and is known after it. -/
theorem Known.answer {mode : WifiInterface} {group : UInt32} {since : Option (List WifiEvent)}
    {stage after : Stage} {question : WifiCall} {response : question.Response}
    {world next : World δ} (known : Known mode group since stage)
    (allowed : leads mode stage question = some after)
    (clear : startsDriver question = true → group &&& (startBit mode).mask = 0)
    (answered : Switching.answer driver group question world = some (response, next)) :
    (∀ start ∈ needs question, ∃ events ∈ since, start ∈ events) ∧
      Known mode group (if startsDriver question then some [] else since) after := by
  rcases leads_cases allowed with
    ⟨rfl, rfl, rfl⟩ | ⟨rfl, rfl, rfl⟩ | ⟨rfl, rfl, rfl, rfl⟩ | ⟨starts, waits, rfl⟩
  · -- The bit is clear, so it is set later by an event that comes after the start.
    refine ⟨fun start needed => ?_, [], rfl, fun set => absurd (clear rfl) set⟩
    cases needed
  · rcases known with ⟨events, recorded, heard⟩
    have passed := heard (answer_waitBits_eq_some answered)
    refine ⟨fun start needed => ⟨events, recorded, ?_⟩, events, recorded, passed⟩
    cases mode <;> cases needed
    exact passed
  · rcases known with ⟨events, recorded, passed⟩
    refine ⟨fun start needed => ⟨events, recorded, ?_⟩, events, recorded, passed⟩
    cases needed
    exact passed
  · refine ⟨fun start needed => ?_, ?_⟩
    · rw [waits] at needed
      cases needed
    · rw [starts]
      exact known

/-- What a call of the switch does. -/
theorem step_proceed_iff :
    step driver ipaddrAddr defaults source .proceed = some target ↔
      ∃ question next, source.program = .request question next ∧
        ∃ response world, answer driver source.group question source.world =
          some (response, world) ∧
        target = { source with
          world
          program := next response
          since := if startsDriver question then some [] else source.since } := by
  rcases source with ⟨world, group, mode, program, since⟩
  cases program with
  | pure value => simp [step]
  | request question next =>
      simp only [step, Option.map_eq_some_iff, Prod.exists, Program.request.injEq]
      constructor
      · rintro ⟨response, world', answered, rfl⟩
        exact ⟨question, next, ⟨rfl, .rfl⟩, response, world', answered, rfl⟩
      · rintro ⟨_, _, ⟨rfl, ⟨⟩⟩, response, world', answered, rfl⟩
        exact ⟨response, world', answered, rfl⟩

theorem call_of_program {question : WifiCall} {next : question.Response → WifiProgram Unit}
    (program : source.program = .request question next) : source.call = some question := by
  rw [call, program]

theorem Orderly.proceed (orderly : Orderly source) (clear : StartsClear source .proceed target)
    (taken : step driver ipaddrAddr defaults source .proceed = some target) :
    Fresh source .proceed target ∧ Orderly target := by
  rcases orderly with ⟨stage, follows, known⟩
  rcases step_proceed_iff.mp taken with
    ⟨question, next, program, response, world, answered, rfl⟩
  rw [program] at follows
  rcases follows with ⟨after, allowed, follows⟩
  have called := call_of_program program
  have step := Known.answer known allowed (clear question called) answered
  refine ⟨?_, after, follows response, step.2⟩
  intro question' called'
  cases called.symm.trans called'
  exact step.1

/-- A new switch has not come far. -/
theorem Orderly.step (orderly : Orderly source) {event : SwitchEvent}
    (clear : StartsClear source event target)
    (taken : step driver ipaddrAddr defaults source event = some target) :
    Fresh source event target ∧ Orderly target := by
  cases event with
  | ap ssidCfg channel ip dnsServersInfo =>
      rw [Switching.step] at taken
      split at taken
      · cases taken
        exact ⟨trivial, .entered, follows_wifiAp ipaddrAddr defaults ssidCfg channel ip
          dnsServersInfo, trivial⟩
      · cases taken
  | sta ssidCfg =>
      rw [Switching.step] at taken
      split at taken
      · cases taken
        exact ⟨trivial, .entered, follows_wifiSta defaults ssidCfg, trivial⟩
      · cases taken
  | proceed => exact orderly.proceed clear taken
  | deliver event => exact ⟨trivial, orderly.deliver taken⟩

end Orderly

/-! ## Stale events -/

/-- Since the driver was started, no event has come, and the bits have not changed. -/
def Unheard (group : UInt32) (mode : WifiInterface) (state : Switching δ) : Prop :=
  state.since = some [] ∧ state.group = group ∧ state.mode = mode

section Stale

variable (driver : Driver δ) (ipaddrAddr : CString → UInt32) (defaults : WifiDefaults)

/-- A switch that goes on by itself is sent nothing, and changes no bit. -/
theorem unheard_of_proceeds {source last : Switching δ} {count : Nat}
    (starts : source.call = some (.driver .wifiStart))
    (run : exec (step driver ipaddrAddr defaults) source (List.replicate (count + 1) .proceed) =
      some last) : Unheard source.group source.mode last := by
  rw [List.replicate_succ, exec_cons_eq_some_iff] at run
  rcases run with ⟨started, taken, rest⟩
  have begun : Unheard source.group source.mode started := by
    rcases step_proceed_iff.mp taken with ⟨question, next, program, response, world, -, rfl⟩
    cases (call_of_program program).symm.trans starts
    exact ⟨rfl, rfl, rfl⟩
  have only : ∀ event ∈ List.replicate count SwitchEvent.proceed, event = .proceed :=
    fun event => List.eq_of_mem_replicate
  refine exec_invariant begun ?_ (eachStep_of_forall_mem only) rest
  rintro middle _ target ⟨unheard, same⟩ rfl taken
  rcases step_proceed_iff.mp taken with ⟨question, next, program, response, world, -, rfl⟩
  refine ⟨?_, same⟩
  rw [unheard, ite_self]

/-- Where the driver is started with the bit set, a switch that is sent nothing gets
through its wait, and acts on an older event. -/
theorem stale_of_set {source last : Switching δ} {count : Nat}
    (starts : source.call = some (.driver .wifiStart))
    (set : source.group &&& (startBit source.mode).mask ≠ 0)
    (run : exec (step driver ipaddrAddr defaults) source (List.replicate (count + 1) .proceed) =
      some last) :
    (last.call = some (.waitBits (startBit last.mode)) →
        ∃ target, step driver ipaddrAddr defaults last .proceed = some target) ∧
      ∀ question ∈ last.call, ∀ start ∈ needs question, ∀ target,
        ¬ Fresh last .proceed target := by
  rcases unheard_of_proceeds driver ipaddrAddr defaults starts run with ⟨unheard, group, mode⟩
  constructor
  · intro waits
    rw [← group, ← mode] at set
    rw [call] at waits
    split at waits
    · cases waits
    · rename_i program
      cases waits
      have passes : answer driver last.group (.waitBits (startBit last.mode)) last.world =
          some (⟨last.group, set⟩, last.world) := dif_pos set
      exact ⟨_, step_proceed_iff.mpr ⟨_, _, program, _, _, passes, rfl⟩⟩
  · intro question called start needed target fresh
    rcases fresh question called start needed with ⟨events, recorded, heard⟩
    rw [unheard] at recorded
    cases recorded
    cases heard

/-- If every start of the driver finds the bit of its event clear, no switch acts on an
event that is older than the start. -/
theorem fresh_of_startsClear (world : World δ) (events : List SwitchEvent)
    (clear : EachStep (step driver ipaddrAddr defaults) StartsClear (initial world) events) :
    EachStep (step driver ipaddrAddr defaults) Fresh (initial world) events := by
  have orderly : Orderly (initial world) := ⟨.entered, trivial, trivial⟩
  apply clear.of_invariant orderly
  intro source event target orderly clear taken
  exact orderly.step clear taken

end Stale

/-! ### On one board -/

/-- `wifi_ap`, as the console runs it. -/
def apCall : SwitchEvent :=
  .ap (ssidCfgOf (.ofString "snifferlab") (.ofString "secret12")) 6
    ⟨0x0100000a, 0x00ffffff, 0x0100000a⟩ ⟨0x01010101, ipaddrNone⟩

/-- A first `wifi_ap` up to its wait, the event of its start, and the rest of it. -/
def firstAp : List SwitchEvent :=
  apCall :: List.replicate 50 .proceed ++ .deliver .apStart :: List.replicate 44 .proceed

/-- The first switch behaves. -/
theorem fresh_firstAp :
    (exec (step (Driver.obliging boardMacs) networkAddr .kconfig)
        (initial (.powerUp .empty ())) firstAp).isSome = true ∧
      EachStep (step (Driver.obliging boardMacs) networkAddr .kconfig) Fresh
        (initial (.powerUp .empty ())) firstAp := by
  refine ⟨by decide +kernel, fresh_of_startsClear _ _ _ _ _ ?_⟩
  decide +kernel

/-- A second one passes its wait before the driver has started. -/
theorem not_fresh_secondAp :
    ¬ EachStep (step (Driver.obliging boardMacs) networkAddr .kconfig) Fresh
      (initial (.powerUp .empty ())) (firstAp ++ apCall :: List.replicate 60 .proceed) := by
  decide +kernel

end Switching

end WifiSniffer.Wifi
