import WifiSniffer.Firmware.Commands
import WifiSniffer.Transition.Relation
import WifiSniffer.Wifi.DottedAddress

/-!
# Histories of a board

A board that is booted, given commands and clicked, aborted and cut off its power, again
and again, does nothing that is not in this list: a command that is completed makes all its
writes, one that is cut short the first few of them, and a boot makes none.  While a board
is up, the filters it goes by are the stored ones.
-/

namespace WifiSniffer.Firmware

open WifiSniffer.Bytes WifiSniffer.Effect WifiSniffer.Handler WifiSniffer.Nvs
open WifiSniffer.Settings WifiSniffer.Transition WifiSniffer.Wifi
open WifiSniffer.Tasks (clickedRssi)
open Program (Calls Guarantees Performs Throughout)

variable {δ : Type} {chip : Chip δ} {hardware : Hardware δ} {ipaddrAddr : CString → UInt32}
  {defaults : WifiDefaults}

/-! ## What events mean -/

section Meaning

variable (ipaddrAddr : CString → UInt32) (defaults : WifiDefaults)

/-- An address argument is written while the board is an access point. -/
def ipWrites (settings : Settings) (argIp : Option CString) : List (Settings → Settings) :=
  match argIp with
  | none => []
  | some value =>
      let ip := convertToIp ipaddrAddr defaults value
      if settings.mode = .ap ∧ wifiIsValidIpInfo ip then staticIpWrites ip else []

/-- The writes of an event. -/
def Event.writes (settings : Settings) : Event δ → List (Settings → Settings)
  | .boot _ => []
  | .setAp ssid password channel =>
      bringUpWrites (ssid.getD settings.apSsid) (password.getD settings.apSsidPw)
        ((channel.map UInt8.ofInt).getD settings.channel)
  | .setSta _ _ => [.setMode .sta]
  | .setIp ip => ipWrites ipaddrAddr defaults settings ip
  | .filter source _ rssi => sourceWrites source ++ rssiWrites rssi
  | .click => [.setRssi (clickedRssi settings.rssi)]

/-- The frame types after an event. -/
def Event.frames (frames : Option FrameMask) : Event δ → Option FrameMask
  | .boot _ => some .all
  | .filter _ frameType _ => framesGiven frameType frames
  | .setAp _ _ _ | .setSta _ _ | .setIp _ | .click => frames

/-- The settings, and the frame types of a board that is up. -/
structure Status where
  settings : Settings
  frames : Option FrameMask

/-- What an event with its outcome may make of a status. -/
def After (status : Status) : Event δ × Outcome → Status → Prop
  | (event, .completed), next =>
      next.settings = perform (event.writes ipaddrAddr defaults status.settings) status.settings ∧
        next.frames = event.frames status.frames
  | (event, .aborted), next | (event, .powerLost _), next =>
      CutShort (event.writes ipaddrAddr defaults status.settings) status.settings next.settings ∧
        next.frames = none

end Meaning

/-! ## Boards -/

/-- What a board stands for. -/
def Board.status (ipaddrAddr : CString → UInt32) (defaults : WifiDefaults) : Board δ → Status
  | .down store => ⟨settingsIn ipaddrAddr defaults store, none⟩
  | .up hardware _ => ⟨hardwareSettings ipaddrAddr defaults hardware, hardware.frames⟩

/-- A board that is up has the filters of its settings and the interface of its mode. -/
structure Running (settings : Settings) (hardware : Hardware δ) (filters : Filters) : Prop where
  inUse : InUse settings filters
  netIf : hardware.world.netIf = interfaceOf settings.mode

def Board.Sound (ipaddrAddr : CString → UInt32) (defaults : WifiDefaults) : Board δ → Prop
  | .down _ => True
  | .up hardware filters => Running (hardwareSettings ipaddrAddr defaults hardware) hardware filters

/-! ## Steps -/

section Step

variable {filters : Filters}

variable {driver : Driver δ} {world : World δ}

theorem performs_wifiConfSetStaticIp (parses : ∀ addr, ParsesPrinted ipaddrAddr addr) (ip : IpInfo)
    {settings : Settings} (stored : worldSettings ipaddrAddr defaults world = settings)
    (up : world.netIf.isSome = true) :
    Performs (worldSettings ipaddrAddr defaults) driver.handle
      (wifiConfSetStaticIp ipaddrAddr defaults ip) world
      (if settings.mode = .ap ∧ wifiIsValidIpInfo ip then staticIpWrites ip else [])
      fun _ _ => True := by
  have performs : Performs (worldSettings ipaddrAddr defaults) driver.handle
      (wifiConfSetStaticIp ipaddrAddr defaults ip) world
      (if world.netIf.isSome ∧ (worldSettings ipaddrAddr defaults world).mode = .ap ∧
          wifiIsValidIpInfo ip then staticIpWrites ip
        else []) fun _ _ => True := performs_wifiConfStaticIp parses ip ⟨ipaddrNone, ipaddrNone⟩
  simpa only [up, true_and, stored] using performs

theorem performs_consoleWifiSetIpIpArg (parses : ∀ addr, ParsesPrinted ipaddrAddr addr)
    (argIp : Option CString)
    (up : world.netIf = interfaceOf (worldSettings ipaddrAddr defaults world).mode) :
    Performs (worldSettings ipaddrAddr defaults) driver.handle
      (consoleWifiSetIpIpArg ipaddrAddr defaults argIp) world
      (ipWrites ipaddrAddr defaults (worldSettings ipaddrAddr defaults world) argIp)
      fun _ _ => True := by
  cases argIp with
  | none => exact Program.performs_pure trivial
  | some value =>
      have gets : Performs (settingsIn ipaddrAddr defaults) Store.handle wifiNvsGetMode world.store
          [] fun mode _ => mode = (worldSettings ipaddrAddr defaults world).mode :=
        performs_wifiNvsGetMode
      refine (performs_nvs gets).bind_nil ?_
      rintro mode _ ⟨store, mode_eq, rfl⟩ same
      rw [ipWrites]
      dsimp only
      by_cases ap : mode = .ap
      · have mode : (worldSettings ipaddrAddr defaults world).mode = .ap := mode_eq.symm.trans ap
        rw [if_neg (not_not_intro ap)]
        by_cases valid : wifiIsValidIp (convertToIp ipaddrAddr defaults value).ip = true
        · rw [if_pos valid]
          refine performs_wifiConfSetStaticIp parses _ same ?_
          dsimp only
          rw [up, mode]
          rfl
        · rw [if_neg valid, if_neg]
          · exact Program.performs_pure trivial
          · rintro ⟨_, info⟩
            rw [wifiIsValidIpInfo, Bool.and_assoc, Bool.and_eq_true] at info
            exact valid info.1
      · rw [if_pos ap, if_neg fun sets => ap (mode_eq.trans sets.1)]
        exact Program.performs_pure trivial

theorem keepsNetIf_consoleWifiSetIpIpArg (argIp : Option CString) :
    Calls KeepsNetIf (consoleWifiSetIpIpArg ipaddrAddr defaults argIp) := by
  cases argIp with
  | none => exact Program.calls_pure ()
  | some value =>
      apply (keepsNetIf_nvs wifiNvsGetMode).bind
      intro mode
      split
      · exact Program.calls_pure ()
      · dsimp only
        split
        · exact keepsNetIf_wifiConfStaticIp ipaddrAddr defaults _ _
        · exact Program.calls_pure ()

/-- The writes to the mode, the strings and the addresses leave the filters alone. -/
theorem InUse.congr {settings next : Settings} (inUse : InUse settings filters)
    (source : next.source = settings.source) (rssi : next.rssi = settings.rssi) :
    InUse next filters :=
  ⟨inUse.source.trans source.symm, inUse.fits, inUse.rssi.trans rssi.symm⟩

/-- A command that writes no filter. -/
theorem performs_command {program : WifiProgram Unit} {writes : List (Settings → Settings)}
    {settings : Settings} (stored : hardwareSettings ipaddrAddr defaults hardware = settings)
    (inUse : InUse settings filters)
    (performs : Performs (worldSettings ipaddrAddr defaults) chip.toDriver.handle program
      hardware.world writes fun _ last => last.netIf = interfaceOf (perform writes settings).mode)
    (source : (perform writes settings).source = settings.source)
    (rssi : (perform writes settings).rssi = settings.rssi) :
    Performs (hardwareSettings ipaddrAddr defaults) chip.handle
      (wifi program >>= fun _ => pure filters) hardware writes fun filters last =>
        Running (hardwareSettings ipaddrAddr defaults last) last filters ∧
          last.frames = hardware.frames := by
  refine (performs_wifi performs).nil_bind ?_
  rintro _ _ ⟨world, netIf, rfl⟩ wrote
  rw [stored] at wrote
  refine Program.performs_pure ⟨?_, rfl⟩
  rw [wrote]
  exact ⟨inUse.congr source rssi, netIf⟩

theorem perform_ipWrites (settings : Settings) (argIp : Option CString) :
    let next := perform (ipWrites ipaddrAddr defaults settings argIp) settings
    next.mode = settings.mode ∧ next.source = settings.source ∧ next.rssi = settings.rssi := by
  intro next
  cases argIp with
  | none => exact ⟨rfl, rfl, rfl⟩
  | some value =>
      simp only [next, ipWrites]
      split
      · exact ⟨rfl, rfl, rfl⟩
      · exact ⟨rfl, rfl, rfl⟩

theorem perform_filterWrites (settings : Settings) (source : Option CString) (rssi : Option Int32) :
    (perform (sourceWrites source ++ rssiWrites rssi) settings).mode = settings.mode := by
  have sourced : (perform (sourceWrites source) settings).mode = settings.mode := by
    rw [sourceWrites]
    split
    · split
      · rfl
      · rfl
    · rfl
  rw [perform_append]
  cases rssi with
  | none => exact sourced
  | some ival =>
      rw [rssiWrites]
      split
      · exact sourced
      · exact sourced

/-- The writes of an event, with what is left behind. -/
theorem performs_code (parses : ∀ addr, ParsesPrinted ipaddrAddr addr) {event : Event δ}
    {board : Board δ} (sound : board.Sound ipaddrAddr defaults)
    (begins : event.begins board = some (hardware, filters)) {settings : Settings}
    (stored : hardwareSettings ipaddrAddr defaults hardware = settings) :
    Performs (hardwareSettings ipaddrAddr defaults) chip.handle
      (event.code ipaddrAddr defaults filters) hardware (event.writes ipaddrAddr defaults settings)
      fun filters last => Running (hardwareSettings ipaddrAddr defaults last) last filters ∧
        last.frames = event.frames hardware.frames := by
  cases event with
  | boot state =>
      cases begins
      refine (performs_setup parses rfl rfl rfl).seen.mono ?_
      rintro filters last ⟨brought, seen⟩
      rw [seen]
      exact ⟨⟨brought.inUse, brought.netIf⟩, brought.frames⟩
  | setAp ssid password channel =>
      cases board with
      | down store => cases begins
      | up hardware filters =>
          cases begins
          subst stored
          rcases perform_bringUpWrites _ _ _ (hardwareSettings ipaddrAddr defaults hardware) with
            ⟨source, rssi, mode⟩
          refine performs_command rfl sound.inUse ?_ source rssi
          refine ((performs_consoleWifiExecSetAp defaults parses ssid password channel).and
            (guarantees_command chip.toDriver ipaddrAddr defaults
              (.setAp ssid password channel))).mono ?_
          rintro _ last ⟨short, netIf⟩
          exact netIf.trans (congrArg interfaceOf (mode short).symm)
  | setSta ssid password =>
      cases board with
      | down store => cases begins
      | up hardware filters =>
          cases begins
          subst stored
          refine performs_command rfl sound.inUse ?_ rfl rfl
          refine ((performs_consoleWifiExecSetSta defaults ssid password).and
            (guarantees_command chip.toDriver ipaddrAddr defaults (.setSta ssid password))).mono ?_
          rintro _ last ⟨_, netIf⟩
          exact netIf
  | setIp ip =>
      cases board with
      | down store => cases begins
      | up hardware filters =>
          cases begins
          subst stored
          rcases perform_ipWrites (hardwareSettings ipaddrAddr defaults hardware) ip with
            ⟨mode, source, rssi⟩
          refine performs_command rfl sound.inUse ?_ source rssi
          refine ((performs_consoleWifiSetIpIpArg parses ip sound.netIf).and
            (guarantees_netIf (keepsNetIf_consoleWifiSetIpIpArg ip) sound.netIf)).mono ?_
          rintro _ last ⟨_, netIf⟩
          exact netIf.trans (congrArg interfaceOf mode.symm)
  | filter source frameType rssi =>
      cases board with
      | down store => cases begins
      | up hardware filters =>
          cases begins
          subst stored
          refine (performs_consoleSnifferFilter sound.inUse source frameType rssi).seen.mono ?_
          rintro filters last ⟨⟨same, inUse⟩, wrote⟩
          refine ⟨⟨inUse, ?_⟩, same.frames⟩
          rw [wrote, perform_filterWrites, same.netIf]
          exact sound.netIf
  | click =>
      cases board with
      | down store => cases begins
      | up hardware filters =>
          cases begins
          subst stored
          rw [Event.writes, ← sound.inUse.rssi]
          refine (performs_setRssiFilter filters _).seen.mono ?_
          rintro _ last ⟨⟨same, rfl⟩, wrote⟩
          refine ⟨⟨?_, ?_⟩, same.frames⟩
          · rw [wrote]
            exact sound.inUse.setRssi _
          · rw [wrote, same.netIf]
            exact sound.netIf

theorem store_of_handle_error {call : FirmwareCall} {halt : Halt}
    (stopped : chip.handle call hardware = .error halt) : halt.store = hardware.world.store := by
  cases call with
  | promiscuous call => cases stopped
  | wifi call =>
      rw [Chip.handle] at stopped
      cases ran : chip.toDriver.handle call hardware.world with
      | ok result =>
          rw [ran] at stopped
          cases stopped
      | error inner =>
          rw [ran] at stopped
          cases stopped
          cases call with
          | nvs call =>
              rw [Driver.handle] at ran
              cases handled : Store.handle call hardware.world.store with
              | ok result =>
                  rw [handled] at ran
                  cases ran
              | error innermost =>
                  rw [handled] at ran
                  cases ran
                  exact Store.store_of_handle_error handled
          | _ => cases ran

theorem status_of_begins {event : Event δ} {board : Board δ}
    (begins : event.begins board = some (hardware, filters)) :
    (board.status ipaddrAddr defaults).settings = hardwareSettings ipaddrAddr defaults hardware ∧
      event.frames (board.status ipaddrAddr defaults).frames = event.frames hardware.frames := by
  cases event with
  | boot state =>
      cases begins
      cases board with
      | down store => exact ⟨rfl, rfl⟩
      | up hardware filters => exact ⟨rfl, rfl⟩
  | _ =>
      cases board with
      | down store => cases begins
      | up hardware filters =>
          cases begins
          exact ⟨rfl, rfl⟩

/-- What a run leaves, whatever its outcome. -/
theorem after_of_leaves {event : Event δ} {outcome : Outcome} {next : Board δ} {status : Status}
    {program : FirmwareProgram Filters}
    (stored : status.settings = hardwareSettings ipaddrAddr defaults hardware)
    (performs : Performs (hardwareSettings ipaddrAddr defaults) chip.handle program hardware
      (event.writes ipaddrAddr defaults status.settings) fun filters last =>
        Running (hardwareSettings ipaddrAddr defaults last) last filters ∧
          last.frames = event.frames status.frames)
    (leaves : outcome.leaves chip program hardware = some next) :
    After ipaddrAddr defaults status (event, outcome) (next.status ipaddrAddr defaults) ∧
      next.Sound ipaddrAddr defaults := by
  cases outcome with
  | completed =>
      rw [Outcome.leaves] at leaves
      cases ran : program.run chip.handle hardware with
      | error halt =>
          rw [ran] at leaves
          cases leaves
      | ok result =>
          rcases result with ⟨filters, last⟩
          rw [ran] at leaves
          cases leaves
          rcases performs.ends _ _ ran with ⟨wrote, running, frames⟩
          rw [← stored] at wrote
          exact ⟨⟨wrote, frames⟩, running⟩
  | aborted =>
      rw [Outcome.leaves] at leaves
      cases ran : program.run chip.handle hardware with
      | ok result =>
          rw [ran] at leaves
          cases leaves
      | error halt =>
          rcases performs.throughout.of_error ran with ⟨call, reached, stopped, cut⟩
          have store_eq := store_of_handle_error stopped
          rcases halt with ⟨_ | err, store⟩
          · rw [ran] at leaves
            cases leaves
          · rw [ran] at leaves
            cases leaves
            rw [← stored] at cut
            refine ⟨⟨?_, rfl⟩, trivial⟩
            change CutShort _ _ (settingsIn ipaddrAddr defaults store)
            rw [show store = reached.world.store from store_eq]
            exact cut
  | powerLost calls =>
      rcases Option.map_eq_some_iff.mp leaves with ⟨reached, lost, rfl⟩
      have cut := performs.throughout.of_afterCalls lost
      rw [← stored] at cut
      exact ⟨⟨cut, rfl⟩, trivial⟩

/-- A step is one that its event and outcome allow. -/
theorem after_of_boardStep (parses : ∀ addr, ParsesPrinted ipaddrAddr addr) {board next : Board δ}
    {label : Event δ × Outcome} (sound : board.Sound ipaddrAddr defaults)
    (taken : boardStep ipaddrAddr defaults chip board label = some next) :
    After ipaddrAddr defaults (board.status ipaddrAddr defaults) label
        (next.status ipaddrAddr defaults) ∧
      next.Sound ipaddrAddr defaults := by
  rcases label with ⟨event, outcome⟩
  rcases Option.bind_eq_some_iff.mp taken with ⟨⟨hardware, filters⟩, begins, leaves⟩
  rcases status_of_begins begins with ⟨stored, frames⟩
  refine after_of_leaves stored ?_ leaves
  rw [frames]
  exact performs_code parses sound begins stored.symm

end Step

/-! ## Runs -/

section Runs

variable {store : Store} {events : List (Event δ × Outcome)} {board : Board δ}

theorem run_of_exec (parses : ∀ addr, ParsesPrinted ipaddrAddr addr)
    (ran : exec (boardStep ipaddrAddr defaults chip) (.down store) events = some board) :
    Along (After ipaddrAddr defaults) ⟨settingsIn ipaddrAddr defaults store, none⟩ events
        (board.status ipaddrAddr defaults) ∧
      board.Sound ipaddrAddr defaults := by
  have matched (source : Board δ) (label : Event δ × Outcome) (target : Board δ)
      (sound : source.Sound ipaddrAddr defaults)
      (taken : boardStep ipaddrAddr defaults chip source label = some target) :=
    after_of_boardStep parses sound taken
  have initial : (Board.down store : Board δ).Sound ipaddrAddr defaults := trivial
  exact along_of_exec matched initial ran

/-- Whatever happens to a board, its settings are those that its events have written, in
their order and as far as they came, and a board that is up goes by them. -/
theorem settings_follow_events (parses : ∀ addr, ParsesPrinted ipaddrAddr addr)
    (ran : exec (boardStep ipaddrAddr defaults chip) (.down store) events = some board) :
    Along (After ipaddrAddr defaults) ⟨settingsIn ipaddrAddr defaults store, none⟩ events
        (board.status ipaddrAddr defaults) ∧
      board.Sound ipaddrAddr defaults :=
  run_of_exec parses ran

/-- A driver that does what it is asked. -/
def Chip.obliging : Chip Unit where
  toDriver := .obliging boardMacs
  promiscuous _ state := (.ok, state)

/-- A network is set up, and the power goes while a filter is set. -/
def cutRun : List (Event Unit × Outcome) :=
  [(.boot (), .completed),
    (.setAp (some (.ofString "lab")) (some (.ofString "secret12")) (some 6), .completed),
    (.filter (some (.ofString "246f28")) (some (.ofString "d")) (some (-70)), .powerLost 12),
    (.boot (), .completed), (.click, .completed)]

theorem exists_of_cutRun :
    ∃ board, exec (boardStep dottedAddr .kconfig .obliging) (.down .empty) cutRun =
      some board := by
  have comes : (exec (boardStep dottedAddr .kconfig .obliging) (.down .empty) cutRun).isSome =
      true := by decide +kernel
  exact Option.isSome_iff_exists.mp comes

theorem settings_follow_events_cut :
    ∃ board, exec (boardStep dottedAddr .kconfig .obliging) (.down .empty) cutRun = some board ∧
      Along (After dottedAddr .kconfig) ⟨settingsIn dottedAddr .kconfig .empty, none⟩ cutRun
        (board.status dottedAddr .kconfig) ∧
      board.Sound dottedAddr .kconfig := by
  rcases exists_of_cutRun with ⟨board, ran⟩
  exact ⟨board, ran, settings_follow_events parsesPrinted_dottedAddr ran⟩

/-- What every write of an event keeps holds after it, however it has ended. -/
theorem After.invariant {holds : Settings → Prop} {status next : Status}
    {label : Event δ × Outcome} (after : After ipaddrAddr defaults status label next)
    (keeps : ∀ write ∈ label.1.writes ipaddrAddr defaults status.settings, ∀ reached,
      holds reached → holds (write reached))
    (initial : holds status.settings) : holds next.settings := by
  have cut : CutShort (label.1.writes ipaddrAddr defaults status.settings) status.settings
      next.settings := by
    rcases label with ⟨event, outcome⟩
    cases outcome with
    | completed =>
        rw [after.1]
        exact cutShort_perform _ _
    | aborted => exact after.1
    | powerLost calls => exact after.1
  exact cut.invariant keeps initial

theorem effectiveRssi_neg {rssi : Int8} (passes : ¬ rssi > 0) : effectiveRssi rssi < 0 := by
  rw [effectiveRssi]
  split
  · decide
  · rename_i nonzero
    rw [Int8.lt_iff_toInt_lt]
    rw [gt_iff_lt, Int8.lt_iff_toInt_lt] at passes
    have other : rssi.toInt ≠ (0 : Int8).toInt := fun same => nonzero (Int8.toInt_inj.mp same)
    omega

theorem clickedRssi_neg (rssi : Int8) : ¬ clickedRssi rssi > 0 := by
  rw [clickedRssi]
  split
  · decide
  · split
    · decide
    · decide

/-- The writes that there are. -/
inductive MayWrite : (Settings → Settings) → Prop where
  | mode (mode : WifiLibMode) : MayWrite (.setMode mode)
  | channel (channel : UInt8) : MayWrite (.setChannel channel)
  | apSsid (ssid : CString) (short : ssid.length ≤ 23) : MayWrite (.setApSsid ssid)
  | apSsidPw (password : CString) (short : password.length ≤ ssidSz) :
      MayWrite (.setApSsidPw password)
  | ip (ip : UInt32) : MayWrite (.setIp ip)
  | netmask (netmask : UInt32) : MayWrite (.setNetmask netmask)
  | gw (gw : UInt32) : MayWrite (.setGw gw)
  | source (bytes : List UInt8) (short : bytes.length ≤ 6) : MayWrite (.setSource bytes)
  | rssi (rssi : Int8) (passes : ¬ rssi > 0) : MayWrite (.setRssi rssi)

theorem mayWrite_of_bringUp {ssid password : CString} {channel : UInt8} :
    ∀ write ∈ bringUpWrites ssid password channel, MayWrite write := by
  intro write member
  rw [bringUpWrites] at member
  split at member
  · rename_i short
    simp only [apWrites, List.mem_cons] at member
    rcases member with rfl | rfl | rfl | member
    · exact .mode .ap
    · exact .channel channel
    · exact .apSsid ssid short
    · rw [pwWrites] at member
      split at member
      · rename_i pwShort
        rw [List.mem_singleton.mp member]
        exact .apSsidPw password pwShort
      · cases member
  · cases member

theorem mayWrite_of_filter {source : Option CString} {rssi : Option Int32} :
    ∀ write ∈ sourceWrites source ++ rssiWrites rssi, MayWrite write := by
  intro write member
  rcases List.mem_append.mp member with member | member
  · rw [sourceWrites] at member
    split at member
    · split at member
      · rename_i bytes _ short
        rw [List.mem_singleton.mp member]
        exact .source bytes short
      · cases member
    · cases member
  · cases rssi with
    | none => cases member
    | some ival =>
        rw [rssiWrites] at member
        split at member
        · cases member
        · rename_i passes
          rw [List.mem_singleton.mp member]
          exact .rssi ival.toInt8 passes

/-- The writes of an event are among them. -/
theorem mayWrite_of_mem {event : Event δ} {settings : Settings} :
    ∀ write ∈ event.writes ipaddrAddr defaults settings, MayWrite write := by
  intro write member
  cases event with
  | boot state => cases member
  | setAp ssid password channel => exact mayWrite_of_bringUp write member
  | setSta ssid password =>
      rw [List.mem_singleton.mp member]
      exact .mode .sta
  | setIp ip =>
      cases ip with
      | none => cases member
      | some value =>
          simp only [Event.writes, ipWrites] at member
          split at member
          · simp only [staticIpWrites, List.mem_cons, List.not_mem_nil, or_false] at member
            rcases member with rfl | rfl | rfl
            · exact .ip _
            · exact .netmask _
            · exact .gw _
          · cases member
  | filter source frameType rssi => exact mayWrite_of_filter write member
  | click =>
      rw [List.mem_singleton.mp member]
      exact .rssi _ (clickedRssi_neg settings.rssi)

/-- What every write keeps holds after every run. -/
theorem settings_invariant (parses : ∀ addr, ParsesPrinted ipaddrAddr addr)
    (ran : exec (boardStep ipaddrAddr defaults chip) (.down store) events = some board)
    {holds : Settings → Prop}
    (keeps : ∀ write, MayWrite write → ∀ reached, holds reached → holds (write reached))
    (initial : holds (settingsIn ipaddrAddr defaults store)) :
    holds (board.status ipaddrAddr defaults).settings := by
  rcases run_of_exec parses ran with ⟨along, _⟩
  have along_keeps (source : Status) (label : Event δ × Outcome) (target : Status)
      (after : After ipaddrAddr defaults source label target) (kept : holds source.settings) :
      holds target.settings :=
    after.invariant (fun write member => keeps write (mayWrite_of_mem write member)) kept
  have stays := along.invariant along_keeps
  exact stays initial

/-- A threshold below zero stays below zero: no command, no click and no cut makes the
sniffer reject every packet. -/
theorem threshold_stays_negative (parses : ∀ addr, ParsesPrinted ipaddrAddr addr)
    (ran : exec (boardStep ipaddrAddr defaults chip) (.down store) events = some board)
    (initial : (settingsIn ipaddrAddr defaults store).rssi < 0) :
    (board.status ipaddrAddr defaults).settings.rssi < 0 ∧
      ∀ hardware filters, board = .up hardware filters → filters.rssiFilter < 0 := by
  have keeps (write : Settings → Settings) (may : MayWrite write) (reached : Settings)
      (kept : reached.rssi < 0) : (write reached).rssi < 0 := by
    cases may with
    | rssi rssi passes => exact effectiveRssi_neg passes
    | _ => exact kept
  have stays : (board.status ipaddrAddr defaults).settings.rssi < 0 :=
    settings_invariant parses ran keeps initial
  have sound := (run_of_exec parses ran).2
  refine ⟨stays, ?_⟩
  rintro hardware filters rfl
  have inUse := sound.inUse.rssi
  rw [inUse]
  exact stays

theorem threshold_stays_negative_cut :
    ∃ board, exec (boardStep dottedAddr .kconfig .obliging) (.down .empty) cutRun = some board ∧
      (board.status dottedAddr .kconfig).settings.rssi < 0 ∧
        ∀ hardware filters, board = .up hardware filters → filters.rssiFilter < 0 := by
  rcases exists_of_cutRun with ⟨board, ran⟩
  exact ⟨board, ran, threshold_stays_negative parsesPrinted_dottedAddr ran (by decide)⟩

end Runs

end WifiSniffer.Firmware
