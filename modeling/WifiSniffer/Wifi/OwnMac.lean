import WifiSniffer.Settings.Filter
import WifiSniffer.Transition.Labelled
import WifiSniffer.Wifi.Reboot

/-!
# The own address

`setup` reads the address of the interface once and hands it to the sniffer.  The
console commands exchange the interface and leave the sniffer's address as it is.
-/

namespace WifiSniffer.Wifi

open WifiSniffer.Bytes WifiSniffer.Effect WifiSniffer.Handler WifiSniffer.Nvs
open WifiSniffer.Settings WifiSniffer.Transition
open Program (Guarantees)

variable {δ : Type} {driver : Driver δ} {world : World δ}

/-! ## Boot -/

/-- The interface that a mode brings up. -/
def interfaceOf : WifiLibMode → Option WifiInterface
  | .ap => some .ap
  | .sta => some .sta
  | .none | .unsupported _ _ => none

/-- What `wifi_get_mac` reports, where the array has been set to zeros. -/
def macOf (driver : Driver δ) (netIf : Option Netif) : Mac :=
  match netIf with
  | some netif => driver.macs netif
  | none => Vector.replicate 6 0

section Boot

variable (ipaddrAddr : CString → UInt32) (defaults : WifiDefaults)

/-- `setup`, as far as the network interface and the filters go -/
def setup : WifiProgram Filters := do
  configWifiInit ipaddrAddr defaults
  let mac ← wifiGetMac (Vector.replicate 6 0)
  nvs (snifferInitConfig filtersAtPowerUp (.filled mac.toList))

theorem guarantees_wifiGetMac :
    Guarantees driver.handle (wifiGetMac (Vector.replicate 6 0)) world fun mac last =>
      mac = macOf driver world.netIf ∧ last.netIf = world.netIf := by
  refine Guarantees.bind_of_ok (Program.run_ask _ _ _) ?_
  cases up : world.netIf with
  | none => exact Program.guarantees_pure ⟨rfl, up⟩
  | some netif =>
      refine (guarantees_netIf (keepsNetIf_check (.netifGetMac netif)) up).bind ?_
      intro _ middle kept mac last ran
      rw [Program.run_ask] at ran
      cases ran
      exact ⟨rfl, kept⟩

theorem guarantees_wifiBringUp (down : world.netIf = none) (mode : WifiLibMode) :
    Guarantees driver.handle (wifiBringUp ipaddrAddr defaults mode) world fun _ last =>
      last.netIf = interfaceOf mode := by
  cases mode with
  | ap =>
      apply Guarantees.bind_of_forall
      intro ssidCfg _
      apply Guarantees.bind_of_forall
      intro channel _
      apply Guarantees.bind_of_forall
      intro ip _
      apply Guarantees.bind_of_forall
      intro dnsServersInfo _
      exact guarantees_wifiAp_netIf ipaddrAddr defaults ssidCfg channel ip dnsServersInfo
  | sta =>
      apply Guarantees.bind_of_forall
      intro ssidCfg _
      exact guarantees_wifiSta_netIf defaults ssidCfg
  | none => exact Program.guarantees_pure down
  | unsupported value outside => exact Program.guarantees_pure down

/-- The stored mode. -/
def bootMode (store : Store) : WifiLibMode :=
  .ofInt (store.numSetting wifiNs modeKey WifiLibMode.ap.toInt)

theorem guarantees_configWifiInit (down : world.netIf = none) :
    Guarantees driver.handle (configWifiInit ipaddrAddr defaults) world fun _ last =>
      last.netIf = interfaceOf (bootMode world.store) := by
  have stillDown : ({ world with store := world.store.create wifiNs } : World δ).netIf = none :=
    down
  refine Guarantees.bind_of_ok (run_nvs_of_ok (run_wifiNvsGetMode world.store)) ?_
  refine (guarantees_wifiBringUp ipaddrAddr defaults stillDown _).bind ?_
  intro _ _ up
  exact guarantees_netIf (configures_wifiGetIp.mono fun _ => Configures.keepsNetIf) up

/-- After the boot, the own address is that of the interface, or zero without one. -/
theorem guarantees_setup (down : world.netIf = none) :
    Guarantees driver.handle (setup ipaddrAddr defaults) world fun filters _ =>
      filters.addrOwnMac =
        .filled (macOf driver (interfaceOf (bootMode world.store))).toList := by
  refine (guarantees_configWifiInit ipaddrAddr defaults down).bind ?_
  intro _ booted up
  refine guarantees_wifiGetMac.bind ?_
  rintro mac _ ⟨mac_eq, _⟩
  refine (guarantees_nvs _).mono ?_
  rintro filters _ ⟨store, ran, rfl⟩
  rw [guarantees_snifferInitConfig _ _ _ _ ran, mac_eq, up]

end Boot

/-! ## Commands -/

/-- The commands that bring up an interface, with their arguments. -/
inductive Command where
  /-- `set-ap` -/
  | setAp (ssid password : Option CString) (channel : Option Int)
  /-- `set-sta` -/
  | setSta (ssid password : Option CString)

/-- The interface that a command brings up. -/
def Command.interface : Command → WifiInterface
  | .setAp _ _ _ => .ap
  | .setSta _ _ => .sta

/-- The world and the sniffer's filters. -/
structure System (δ : Type) where
  world : World δ
  filters : Filters

section Commands

variable (driver) (ipaddrAddr : CString → UInt32) (defaults : WifiDefaults)

def Command.program : Command → WifiProgram Unit
  | .setAp ssid password channel => consoleWifiExecSetAp ipaddrAddr defaults ssid password channel
  | .setSta ssid password => consoleWifiExecSetSta defaults ssid password

/-- A command that comes through. -/
def commandStep : Step (System δ) Command :=
  fun system command =>
    match (command.program ipaddrAddr defaults).run driver.handle system.world with
    | .ok (_, world) => some { system with world }
    | .error _ => none

/-- The own address is that of the interface that is up. -/
def OwnMacFollows (system : System δ) : Prop :=
  ∀ netif, system.world.netIf = some netif →
    system.filters.addrOwnMac.bytes = (macOf driver (some netif)).toList

/-- A command brings up an interface with the address that the mode at boot has. -/
def Keeps (mode : WifiLibMode) (command : Command) : Prop :=
  match interfaceOf mode with
  | some interface => command.interface = interface
  | none => driver.macs command.interface = Vector.replicate 6 0

theorem guarantees_command (command : Command) :
    Guarantees driver.handle (command.program ipaddrAddr defaults) world fun _ last =>
      last.netIf = some command.interface := by
  cases command with
  | setAp ssid password channel =>
      apply Guarantees.bind_of_forall
      intro nvsSsid _
      apply Guarantees.bind_of_forall
      intro nvsSsidPw _
      apply Guarantees.bind_of_forall
      intro ssidCfg _
      apply Guarantees.bind_of_forall
      intro ch _
      apply Guarantees.bind_of_forall
      intro ip _
      apply Guarantees.bind_of_forall
      intro dnsServersInfo _
      exact guarantees_wifiAp_netIf ipaddrAddr defaults ssidCfg ch ip dnsServersInfo
  | setSta ssid password =>
      apply Guarantees.bind_of_forall
      intro nvsSsid _
      apply Guarantees.bind_of_forall
      intro nvsSsidPw _
      apply Guarantees.bind_of_forall
      intro ssidCfg _
      exact guarantees_wifiSta_netIf defaults ssidCfg

/-- What a command does: its interface is up, and the filters are as before. -/
theorem commandStep_cases {driver : Driver δ} {system target : System δ} {command : Command}
    (taken : commandStep driver ipaddrAddr defaults system command = some target) :
    target.world.netIf = some command.interface ∧ target.filters = system.filters := by
  rw [commandStep] at taken
  cases ran : (command.program ipaddrAddr defaults).run driver.handle system.world with
  | error halt =>
      rw [ran] at taken
      cases taken
  | ok result =>
      rw [ran] at taken
      cases taken
      exact ⟨guarantees_command driver ipaddrAddr defaults command _ _ ran, rfl⟩

end Commands

/-! ## Runs of commands -/

section Runs

variable (ipaddrAddr : CString → UInt32) (defaults : WifiDefaults)

/-- With two different addresses, keeping the address is keeping the interface. -/
theorem keeps_iff (distinct : driver.macs .ap ≠ driver.macs .sta) (mode : WifiLibMode)
    (command : Command) :
    Keeps driver mode command ↔
      driver.macs command.interface = macOf driver (interfaceOf mode) := by
  rw [Keeps]
  cases interfaceOf mode with
  | none => rfl
  | some interface =>
      cases command.interface <;> cases interface <;> simp [macOf, distinct, distinct.symm]

/-- The sniffer goes by an address as its own. -/
def OwnIs (mac : Mac) (system : System δ) : Prop :=
  system.filters.addrOwnMac = .filled mac.toList

/-- The own address follows an interface exactly if it is that of the interface. -/
theorem ownMacFollows_iff {system : System δ} {mac : Mac} {interface : WifiInterface}
    (own : OwnIs mac system) (up : system.world.netIf = some interface) :
    OwnMacFollows driver system ↔ driver.macs interface = mac := by
  rw [OwnMacFollows, own, AddrFilter.filled_bytes, up]
  constructor
  · intro follows
    exact (Vector.toList_inj.mp (follows interface rfl)).symm
  · rintro mac_eq _ ⟨⟩
    exact congrArg Vector.toList mac_eq.symm

/-- After a command the own address is as before, and follows the interface exactly if
the command keeps to the address that the sniffer goes by. -/
theorem ownMacFollows_iff_of_commandStep (distinct : driver.macs .ap ≠ driver.macs .sta)
    {mode : WifiLibMode} {source target : System δ} {command : Command}
    (own : OwnIs (macOf driver (interfaceOf mode)) source)
    (taken : commandStep driver ipaddrAddr defaults source command = some target) :
    (OwnMacFollows driver target ↔ Keeps driver mode command) ∧
      OwnIs (macOf driver (interfaceOf mode)) target := by
  rcases commandStep_cases ipaddrAddr defaults taken with ⟨up, kept⟩
  have ownTarget : OwnIs (macOf driver (interfaceOf mode)) target := by
    rw [OwnIs, kept]
    exact own
  exact ⟨(ownMacFollows_iff ownTarget up).trans (keeps_iff distinct mode command).symm, ownTarget⟩

/-- In a run of commands after a boot, the own address follows the interface exactly if
every command brings up the interface of the boot. -/
theorem ownMac_follows_iff {booted : World δ} {filters : Filters}
    (distinct : driver.macs .ap ≠ driver.macs .sta) (down : world.netIf = none)
    (boot : (setup ipaddrAddr defaults).run driver.handle world = .ok (filters, booted))
    (commands : List Command) :
    EachStep (commandStep driver ipaddrAddr defaults)
        (fun _ _ target => OwnMacFollows driver target) ⟨booted, filters⟩ commands ↔
      EachStep (commandStep driver ipaddrAddr defaults)
        (fun _ command _ => Keeps driver (bootMode world.store) command)
        ⟨booted, filters⟩ commands := by
  have initial : OwnIs (macOf driver (interfaceOf (bootMode world.store)))
      (⟨booted, filters⟩ : System δ) := guarantees_setup ipaddrAddr defaults down _ _ boot
  apply eachStep_iff_of_invariant initial
  intro source command target own taken
  exact ownMacFollows_iff_of_commandStep ipaddrAddr defaults distinct own taken

/-- A boot with the commands that follow it. -/
def bootAndRun (driver : Driver δ) (world : World δ) (commands : List Command) :
    Option (System δ) :=
  match (setup ipaddrAddr defaults).run driver.handle world with
  | .ok (filters, booted) =>
      exec (commandStep driver ipaddrAddr defaults) ⟨booted, filters⟩ commands
  | .error _ => none

theorem exists_of_bootAndRun {commands : List Command}
    (comes : (bootAndRun ipaddrAddr defaults driver world commands).isSome = true) :
    ∃ filters booted last,
      (setup ipaddrAddr defaults).run driver.handle world = .ok (filters, booted) ∧
        exec (commandStep driver ipaddrAddr defaults) ⟨booted, filters⟩ commands = some last := by
  rw [bootAndRun] at comes
  cases boot : (setup ipaddrAddr defaults).run driver.handle world with
  | error halt =>
      rw [boot] at comes
      cases comes
  | ok result =>
      rw [boot] at comes
      rcases Option.isSome_iff_exists.mp comes with ⟨last, ran⟩
      exact ⟨result.1, result.2, last, rfl, ran⟩

/-- After erased flash has been booted, in the mode of an access point, another access
point is set up. -/
theorem ownMac_follows_setAp :
    let driver := Driver.obliging boardMacs
    let step := commandStep driver (fun _ => ipaddrNone) .kconfig
    let commands := [Command.setAp (some (.ofString "lab")) (some (.ofString "secret12")) (some 6),
      .setAp none none none]
    ∃ filters booted last,
      (setup (fun _ => ipaddrNone) .kconfig).run driver.handle (.powerUp .empty ()) =
          .ok (filters, booted) ∧
        exec step ⟨booted, filters⟩ commands = some last ∧
        EachStep step (fun _ _ target => OwnMacFollows driver target) ⟨booted, filters⟩
          commands := by
  intro driver step commands
  have comes : (bootAndRun (fun _ => ipaddrNone) .kconfig driver (.powerUp .empty ())
      commands).isSome = true := by decide +kernel
  rcases exists_of_bootAndRun _ _ comes with ⟨filters, booted, last, boot, ran⟩
  refine ⟨filters, booted, last, boot, ran, ?_⟩
  refine (ownMac_follows_iff _ _ (by decide) rfl boot commands).mpr (eachStep_of_forall_mem ?_)
  have mode : interfaceOf (bootMode .empty) = some .ap := by decide
  intro command member
  change Keeps driver (bootMode .empty) command
  rw [Keeps, mode]
  rcases List.mem_cons.mp member with rfl | rest
  · rfl
  · rw [List.mem_singleton.mp rest]
    rfl

/-- After the same boot, a station keeps the address of the access point. -/
theorem ownMac_stale_setSta :
    let driver := Driver.obliging boardMacs
    let step := commandStep driver (fun _ => ipaddrNone) .kconfig
    let command := Command.setSta (some (.ofString "home")) (some (.ofString "secret12"))
    ∃ filters booted target,
      (setup (fun _ => ipaddrNone) .kconfig).run driver.handle (.powerUp .empty ()) =
          .ok (filters, booted) ∧
        step ⟨booted, filters⟩ command = some target ∧ ¬ OwnMacFollows driver target := by
  intro driver step command
  have comes : (bootAndRun (fun _ => ipaddrNone) .kconfig driver (.powerUp .empty ())
      [command]).isSome = true := by decide +kernel
  rcases exists_of_bootAndRun _ _ comes with ⟨filters, booted, target, boot, ran⟩
  rw [exec_singleton] at ran
  refine ⟨filters, booted, target, boot, ran, ?_⟩
  have own : OwnIs (macOf driver (interfaceOf (bootMode .empty)))
      (⟨booted, filters⟩ : System Unit) := guarantees_setup _ _ rfl _ _ boot
  rcases commandStep_cases _ _ ran with ⟨up, kept⟩
  rw [OwnIs, ← kept] at own
  rw [ownMacFollows_iff own up]
  decide

end Runs

end WifiSniffer.Wifi
