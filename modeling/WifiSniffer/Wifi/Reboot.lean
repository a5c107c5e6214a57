import WifiSniffer.Wifi.Spec

/-!
# Station settings over a reboot

`set-sta` stores the mode and no credentials, so the next boot joins the network of the
settings that were in force before.
-/

namespace WifiSniffer.Wifi

open WifiSniffer.Bytes WifiSniffer.Effect WifiSniffer.Nvs WifiSniffer.Settings
open Program (Calls Guarantees Achieves Completes)

variable {δ : Type} {driver : Driver δ} {world : World δ} {α : Type}

/-! ## What `set-sta` stores -/

section Store

theorem reads_strncpy (dst src : List UInt8) (count : Nat) :
    Calls NvsCall.Reads (strncpy dst src count) :=
  Calls.bind (Program.calls_ask trivial) fun _ => Program.calls_pure _

theorem reads_strlen (array : List UInt8) : Calls NvsCall.Reads (strlen array) :=
  Calls.bind (Program.calls_ask trivial) fun _ => Program.calls_pure _

theorem reads_convertToSsidCfg (nvsSsid : List UInt8) (nvsSsidSz : Nat) (nvsSsidPw : List UInt8)
    (nvsSsidPwSz : Nat) :
    Calls NvsCall.Reads (convertToSsidCfg nvsSsid nvsSsidSz nvsSsidPw nvsSsidPwSz) := by
  apply (reads_strncpy _ _ _).bind
  intro ssid
  apply (reads_strlen ssid).bind
  intro ssidLen
  apply (reads_strncpy _ _ _).bind
  intro password
  exact (reads_strlen password).bind fun passLen => Program.calls_pure _

theorem keepsStore_nvs {program : NvsProgram α} (reads : Calls NvsCall.Reads program) :
    Calls KeepsStore (nvs program) :=
  calls_nvs reads

/-- A configuration is not stored. -/
theorem guarantees_store_of_configures {program : WifiProgram α}
    (calls : Calls Configures program) {store : Store} (initial : world.store = store) :
    Guarantees driver.handle program world fun _ last => last.store = store :=
  guarantees_store (calls.mono fun _ => Configures.keepsStore) initial

theorem keepsStore_check (call : DriverCall) : Calls KeepsStore (check call) :=
  calls_check trivial fun _ => trivial

theorem keepsStore_setNetIf (netif : Option Netif) : Calls KeepsStore (setNetIf netif) :=
  Program.calls_ask trivial

theorem keepsStore_destroyNetIf : Calls KeepsStore destroyNetIf :=
  calls_destroyNetIf trivial (fun _ => trivial) trivial

variable (defaults : WifiDefaults)

/-- All that joining a network stores is the mode. -/
theorem guarantees_wifiSta_store (ssidCfg : SsidCfg) :
    Guarantees driver.handle (wifiSta defaults ssidCfg) world fun _ last =>
      (wifiNvsSetMode .sta).run Store.handle world.store = .ok ((), last.store) := by
  refine (guarantees_store (keepsStore_check .wifiStop) rfl).bind ?_
  intro _ _ stopped
  refine (guarantees_store keepsStore_destroyNetIf stopped).bind ?_
  intro _ _ destroyed
  refine (guarantees_store_of_configures (configures_wifiSetSta defaults ssidCfg) destroyed).bind
    ?_
  intro netif _ configured
  refine (guarantees_store (keepsStore_setNetIf (some netif)) configured).bind ?_
  intro _ _ upped
  refine (guarantees_store (keepsStore_check .wifiStart) upped).bind ?_
  intro _ _ started
  have waits : Calls KeepsStore (ask (.waitBits .staStart)) := Program.calls_ask trivial
  refine (guarantees_store waits started).bind ?_
  intro bits _ waited
  rw [if_pos bits.property]
  refine (guarantees_store (keepsStore_check _) waited).bind ?_
  intro _ _ dhcpsStopped
  refine (guarantees_store (keepsStore_check .wifiConnect) dhcpsStopped).bind ?_
  intro _ connected store_eq
  refine (guarantees_nvs (wifiNvsSetMode .sta)).mono ?_
  rintro _ _ ⟨store, ran, rfl⟩
  rw [← store_eq]
  exact ran

theorem guarantees_consoleWifiExecSetSta_store (ssid password : CString) :
    Guarantees driver.handle (consoleWifiExecSetSta defaults (some ssid) (some password)) world
      fun _ last =>
        (wifiNvsSetMode .sta).run Store.handle world.store = .ok ((), last.store) := by
  refine (guarantees_store (keepsStore_nvs (reads_strncpy _ _ _)) rfl).bind ?_
  intro nvsSsid _ named
  refine (guarantees_store (keepsStore_nvs (reads_strncpy _ _ _)) named).bind ?_
  intro nvsSsidPw _ locked
  refine (guarantees_store (keepsStore_nvs (reads_convertToSsidCfg _ _ _ _)) locked).bind ?_
  intro ssidCfg middle converted
  rw [← converted]
  exact guarantees_wifiSta_store defaults ssidCfg

end Store

/-! ## What a boot hands over -/

section Hand

variable (defaults : WifiDefaults) {ssid password : CString}

/-- A station configuration carries a name and a password. -/
def WifiStaConfig.Joins (conf : WifiStaConfig) (ssid password : CString) : Prop :=
  CString.ofArray conf.ssid = ssid ∧ CString.ofArray conf.password = password

/-- What `wifi_set_sta` makes of a name and a password. -/
def staConfOf (ssid password : CString) : WifiStaConfig where
  ssid := overwrite (List.replicate ssidSz 0) ((strncpyBytes ssid ssidSz).take ssid.length)
  password := overwrite (List.replicate ssidPassSz 0)
    ((strncpyBytes password ssidPassSz).take password.length)
  scanMethod := .allChannel
  thresholdAuthmode := .wpa2Psk

theorem ofArray_overwrite_take {string : CString} {size : Nat} (fits : string.length < size) :
    CString.ofArray (overwrite (List.replicate size 0)
        ((strncpyBytes string size).take string.length)) = string := by
  have chars_eq : (strncpyBytes string size).take string.length = string.chars := by
    rw [strncpyBytes, List.take_of_length_le (Nat.le_of_lt fits)]
    exact List.take_left
  rw [chars_eq, overwrite_replicate, CString.ofArray_append_replicate]

theorem run_memcpy_strncpyBytes {store : Store} {string : CString} {size : Nat}
    (fits : string.length < size) :
    (memcpy (List.replicate size 0) (strncpyBytes string size) string.length).run
        Store.handle store =
      .ok (overwrite (List.replicate size 0) ((strncpyBytes string size).take string.length),
        store) := by
  apply run_memcpy
  · exact (Nat.le_of_lt fits).trans_eq (strncpyBytes_length string size).symm
  · exact (Nat.le_of_lt fits).trans_eq List.length_replicate.symm

theorem joins_staConfOf (ssidFits : ssid.length < ssidSz)
    (passwordFits : password.length < ssidPassSz) :
    (staConfOf ssid password).Joins ssid password :=
  ⟨ofArray_overwrite_take ssidFits, ofArray_overwrite_take passwordFits⟩

theorem handsNothing_check {call : DriverCall} (nothing : call.hands = []) :
    Calls HandsNothing (check call) :=
  calls_check nothing fun _ => trivial

theorem handsNothing_destroyNetIf : Calls HandsNothing destroyNetIf :=
  calls_destroyNetIf trivial (fun _ => trivial) trivial

theorem guarantees_wifiSetConf_head (mode : WifiMode) (interface : WifiInterface)
    (conf confDef : WifiConfig) (initial : world.handed = []) :
    Guarantees driver.handle (wifiSetConf mode interface conf confDef) world fun _ last =>
      last.handed.head? = some (interface, conf) := by
  refine (guarantees_handed (handsNothing_check rfl) initial).bind ?_
  intro _ _ countrySet
  refine (guarantees_handed (handsNothing_check rfl) countrySet).bind ?_
  intro _ configured modeSet
  refine Guarantees.bind_of_ok (Program.run_ask _ _ _) (guarantees_handed_head ?_)
  rw [modeSet]
  rfl

/-- The first configuration is the one that has been asked for, whether the driver
takes it or not. -/
theorem guarantees_wifiSetSta_head (ssidFits : ssid.length < ssidSz)
    (passwordFits : password.length < ssidPassSz) (initial : world.handed = []) :
    Guarantees driver.handle (wifiSetSta defaults (ssidCfgOf ssid password)) world fun _ last =>
      last.handed.head? = some (.sta, .sta (staConfOf ssid password)) := by
  refine Guarantees.bind_of_ok (run_nvs_of_ok (run_memcpy_strncpyBytes ssidFits)) ?_
  refine Guarantees.bind_of_ok (run_nvs_of_ok (run_memcpy_strncpyBytes passwordFits)) ?_
  refine (guarantees_wifiSetConf_head _ _ _ _ initial).bind ?_
  intro _ _ head
  exact guarantees_handed_head head

theorem guarantees_wifiSta_head (ssidFits : ssid.length < ssidSz)
    (passwordFits : password.length < ssidPassSz) (initial : world.handed = []) :
    Guarantees driver.handle (wifiSta defaults (ssidCfgOf ssid password)) world fun _ last =>
      last.handed.head? = some (.sta, .sta (staConfOf ssid password)) := by
  refine (guarantees_handed (handsNothing_check rfl) initial).bind ?_
  intro _ _ stopped
  refine (guarantees_handed handsNothing_destroyNetIf stopped).bind ?_
  intro _ _ destroyed
  refine (guarantees_wifiSetSta_head defaults ssidFits passwordFits destroyed).bind ?_
  intro _ _ head
  exact guarantees_handed_head head

end Hand

/-! ## Boots that come through -/

section Complete

/-- Apart from configurations, which it may reject, the driver does what it is asked. -/
def Driver.Willing (driver : Driver δ) : Prop :=
  ∀ call : DriverCall, call.hands = [] → ∀ state, (driver.answer call state).1 = .ok

theorem completes_nvs {program : NvsProgram α}
    (total : ∀ store, ∃ value next, program.run Store.handle store = .ok (value, next)) :
    Completes driver.handle (nvs program) := by
  intro world
  rcases total world.store with ⟨value, store, ran⟩
  exact ⟨value, { world with store }, run_nvs_of_ok ran, trivial⟩

theorem completes_check (willing : driver.Willing) {call : DriverCall} (nothing : call.hands = []) :
    Completes driver.handle (check call) := by
  intro world
  have answered : (ask (.driver call)).run driver.handle world =
      .ok ((driver.answer call world.driver).1,
        { world with driver := (driver.answer call world.driver).2,
                     handed := world.handed ++ call.hands }) := Program.run_ask _ _ _
  refine Achieves.bind_of_ok answered ?_
  rw [willing call nothing world.driver]
  exact ⟨(), _, run_nvs_of_ok run_espErrorCheck_ok, trivial⟩

/-- A call that is always answered. -/
theorem completes_ask {call : WifiCall}
    (answers : ∀ world : World δ, ∃ answer next, driver.handle call world = .ok (answer, next)) :
    Completes driver.handle (ask call) := by
  intro world
  rcases answers world with ⟨answer, next, handled⟩
  exact ⟨answer, next, (Program.run_ask _ _ _).trans handled, trivial⟩

theorem completes_getNetIf : Completes driver.handle getNetIf :=
  completes_ask fun _ => ⟨_, _, rfl⟩

theorem completes_setNetIf (netif : Option Netif) : Completes driver.handle (setNetIf netif) :=
  completes_ask fun _ => ⟨_, _, rfl⟩

theorem completes_destroyNetIf : Completes driver.handle destroyNetIf := by
  apply completes_getNetIf.bind
  intro netif
  cases netif with
  | none => exact Program.completes_pure ()
  | some netif =>
      refine Completes.bind ?_ fun _ => completes_setNetIf none
      exact completes_ask fun _ => ⟨_, _, rfl⟩

theorem completes_wifiGetIp (willing : driver.Willing) : Completes driver.handle wifiGetIp := by
  apply completes_getNetIf.bind
  intro netif
  cases netif with
  | none => exact Program.completes_pure ()
  | some netif => exact completes_check willing rfl

theorem completes_wifiSetConf (willing : driver.Willing) (mode : WifiMode)
    (interface : WifiInterface) (conf confDef : WifiConfig) :
    Completes driver.handle (wifiSetConf mode interface conf confDef) := by
  apply (completes_check willing rfl).bind
  intro _
  apply (completes_check willing rfl).bind
  intro _
  have hands (conf : WifiConfig) :
      Completes driver.handle (ask (.driver (.wifiSetConfig interface conf))) :=
    completes_ask fun _ => ⟨_, _, rfl⟩
  apply (hands conf).bind
  intro err
  split
  · exact (hands confDef).bind fun _ => Program.completes_pure err
  · exact Program.completes_pure err

variable (defaults : WifiDefaults) {ssid password : CString}

theorem completes_wifiSta (willing : driver.Willing) (ssidFits : ssid.length < ssidSz)
    (passwordFits : password.length < ssidPassSz) :
    Completes driver.handle (wifiSta defaults (ssidCfgOf ssid password)) := by
  have copied {string : CString} {size : Nat} (fits : string.length < size) :
      Completes driver.handle
        (nvs (memcpy (List.replicate size 0) (strncpyBytes string size) string.length)) :=
    completes_nvs fun store => ⟨_, store, run_memcpy_strncpyBytes fits⟩
  have created : Completes driver.handle (ask (.createNetif .sta)) :=
    completes_ask fun _ => ⟨_, _, rfl⟩
  have waits : Completes driver.handle (ask (.waitBits .staStart)) :=
    completes_ask fun _ => ⟨_, _, rfl⟩
  apply (completes_check willing rfl).bind
  intro _
  apply completes_destroyNetIf.bind
  intro _
  refine Completes.bind ?_ fun netif => ?_
  · apply (copied ssidFits).bind
    intro ssid
    apply (copied passwordFits).bind
    intro password
    exact (completes_wifiSetConf willing _ _ _ _).bind fun _ => created
  · apply (completes_setNetIf (some netif)).bind
    intro _
    apply (completes_check willing rfl).bind
    intro _
    apply waits.bind
    intro bits
    rw [if_pos bits.property]
    apply (completes_check willing rfl).bind
    intro _
    apply (completes_check willing rfl).bind
    intro _
    refine completes_nvs fun store => ?_
    rcases run_wifiNvsSetMode store .sta with ⟨next, ran, _⟩
    exact ⟨(), next, ran⟩

end Complete

/-! ## The next boot -/

section Boot

variable (ipaddrAddr : CString → UInt32) (driver : Driver δ) (defaults : WifiDefaults)
  {ssid password : CString}

/-- The world at power-up. -/
def World.powerUp (store : Store) (state : δ) : World δ where
  store := store
  netIf := none
  driver := state
  handed := []

/-- A boot comes through and hands the driver the network first. -/
def BootJoins (world : World δ) (ssid password : CString) : Prop :=
  Achieves driver.handle (configWifiInit ipaddrAddr defaults) world fun _ last =>
    ∃ conf, last.handed.head? = some (.sta, .sta conf) ∧ conf.Joins ssid password

/-- The boot of a station. -/
def staBoot : WifiProgram Unit := do
  let ssidCfg ← nvs (wifiNvsGetSsidStaCfg defaults)
  wifiSta defaults ssidCfg
  wifiGetIp

/-- In the mode of a station, the boot comes down to loading the settings and joining. -/
theorem run_configWifiInit_sta {store : Store} (state : δ)
    (mode : store.numSetting wifiNs modeKey WifiLibMode.ap.toInt = WifiLibMode.sta.toInt) :
    (configWifiInit ipaddrAddr defaults).run driver.handle (.powerUp store state) =
      (staBoot defaults).run driver.handle (.powerUp (store.create wifiNs) state) := by
  have moded := run_wifiNvsGetMode store
  rw [mode, WifiLibMode.ofInt_toInt] at moded
  rw [configWifiInit, Program.run_bind_of_ok _ (run_nvs_of_ok moded), wifiSetMode, wifiBringUp,
    Program.bind_assoc]
  rfl

variable {driver}

/-- The next boot in the mode of a station joins the network of the settings. -/
theorem bootJoins_iff {store : Store} (state : δ) (willing : driver.Willing)
    (mode : store.numSetting wifiNs modeKey WifiLibMode.ap.toInt = WifiLibMode.sta.toInt)
    (ssidFits : ssid.length < ssidSz) (passwordFits : password.length < ssidPassSz) :
    BootJoins ipaddrAddr driver defaults (.powerUp store state) ssid password ↔
      StringSetting store staSsidKey ssidSz defaults.staSsid ssid ∧
        StringSetting store staSsidPwKey ssidPassSz defaults.staSsidPw password := by
  have ssid_get := Store.get_create store wifiNs wifiNs staSsidKey
  have pw_get := Store.get_create store wifiNs wifiNs staSsidPwKey
  rw [BootJoins, Achieves, run_configWifiInit_sta ipaddrAddr driver defaults state mode]
  constructor
  · rintro ⟨_, last, ran, conf, head, joins⟩
    rcases (Program.run_bind_eq_ok_iff _).mp ran with ⟨cfg, middle, got, rest⟩
    rcases guarantees_nvs _ _ _ got with ⟨stored, gotCfg, rfl⟩
    rcases entries_of_run_getSsidCfg gotCfg with
      ⟨ssid', password', ssidEntry, pwEntry, ssidFits', passwordFits', rfl, rfl⟩
    have joined := (guarantees_wifiSta_head defaults ssidFits' passwordFits' rfl).bind
      (fun _ _ head => guarantees_handed_head head) _ _ rest
    rw [joined] at head
    cases head
    rcases joins_staConfOf ssidFits' passwordFits' with ⟨ssid_eq, password_eq⟩
    cases ssid_eq.symm.trans joins.1
    cases password_eq.symm.trans joins.2
    exact ⟨ssidEntry.2.of_get_eq ssid_get.symm, pwEntry.2.of_get_eq pw_get.symm⟩
  · rintro ⟨ssidSetting, pwSetting⟩
    have has := Store.has_create store wifiNs
    have got : (wifiNvsGetSsidStaCfg defaults).run Store.handle (store.create wifiNs) =
        .ok (ssidCfgOf ssid password, store.create wifiNs) :=
      (run_getSsidCfg ⟨has, ssidSetting.of_get_eq ssid_get⟩
        ⟨has, pwSetting.of_get_eq pw_get⟩).trans (run_convertToSsidCfg ssidFits passwordFits)
    have completes := (completes_wifiSta defaults willing ssidFits passwordFits).bind
      fun _ => completes_wifiGetIp willing
    refine Achieves.of_guarantees (Achieves.bind_of_ok (run_nvs_of_ok got) (completes _)) ?_
    refine Guarantees.bind_of_ok (run_nvs_of_ok got) ?_
    refine (guarantees_wifiSta_head defaults ssidFits passwordFits rfl).bind ?_
    intro _ _ head
    refine (guarantees_handed_head head).mono ?_
    exact fun _ _ head => ⟨_, head, joins_staConfOf ssidFits passwordFits⟩

/-- After `set-sta`, the mode is that of a station and all other settings are as before. -/
theorem store_of_run_setSta {δ' : Type} {setter : Driver δ'} {world last : World δ'}
    (set : (consoleWifiExecSetSta defaults (some ssid) (some password)).run setter.handle world =
      .ok ((), last)) :
    last.store.numSetting wifiNs modeKey WifiLibMode.ap.toInt = WifiLibMode.sta.toInt ∧
      ∀ key, key ≠ modeKey → last.store.get wifiNs key = world.store.get wifiNs key := by
  have stored := guarantees_consoleWifiExecSetSta_store defaults ssid password () last set
  rcases run_wifiNvsSetMode world.store .sta with ⟨next, ran, _, mode, others⟩
  rw [stored] at ran
  cases ran
  exact ⟨mode, others⟩

/-- After `set-sta` has come through, the next boot joins the same network exactly if
the settings were those of the network already. -/
theorem staSettings_survive_iff {δ' : Type} {setter : Driver δ'} {world last : World δ'}
    (ssidShort : ssid.length ≤ 31) (passwordShort : password.length ≤ 31)
    (set : (consoleWifiExecSetSta defaults (some ssid) (some password)).run setter.handle world =
      .ok ((), last)) (willing : driver.Willing) (state : δ) :
    BootJoins ipaddrAddr driver defaults (.powerUp last.store state) ssid password ↔
      StringSetting world.store staSsidKey ssidSz defaults.staSsid ssid ∧
        StringSetting world.store staSsidPwKey ssidPassSz defaults.staSsidPw password := by
  rcases store_of_run_setSta defaults set with ⟨mode, others⟩
  have ssid_get := others staSsidKey (by decide)
  have pw_get := others staSsidPwKey (by decide)
  have ssidFits : ssid.length < ssidSz := Nat.lt_succ_of_le ssidShort
  have passwordFits : password.length < ssidPassSz :=
    Nat.lt_of_le_of_lt passwordShort (by decide)
  rw [bootJoins_iff ipaddrAddr defaults state willing mode ssidFits passwordFits, StringSetting,
    StringSetting, ssid_get, pw_get]
  rfl

end Boot

/-! ### On one board -/

/-- The addresses of a board. -/
def boardMacs : WifiInterface → Mac
  | .sta => #v[0x24, 0x6f, 0x28, 0x10, 0x20, 0x30]
  | .ap => #v[0x24, 0x6f, 0x28, 0x10, 0x20, 0x31]

theorem willing_obliging (macs : WifiInterface → Mac) : (Driver.obliging macs).Willing :=
  fun _ _ _ => rfl

/-- The network of the settings is joined once more. -/
theorem staSettings_survive_home :
    let store := (Store.empty.set wifiNs staSsidKey (.str (.ofString "home"))).set wifiNs
      staSsidPwKey (.str (.ofString "secret12"))
    ∃ last,
      (consoleWifiExecSetSta .kconfig (some (.ofString "home"))
          (some (.ofString "secret12"))).run (Driver.obliging boardMacs).handle
          (.powerUp store ()) = .ok ((), last) ∧
        BootJoins (fun _ => ipaddrNone) (Driver.obliging boardMacs) .kconfig
          (.powerUp last.store ()) (.ofString "home") (.ofString "secret12") := by
  intro store
  have comes : ((consoleWifiExecSetSta .kconfig (some (.ofString "home"))
      (some (.ofString "secret12"))).run (Driver.obliging boardMacs).handle
      (.powerUp store ())).isOk = true := by decide +kernel
  rcases Program.exists_of_isOk _ comes with ⟨⟨⟩, last, ran⟩
  refine ⟨last, ran, ?_⟩
  refine (staSettings_survive_iff (fun _ => ipaddrNone) .kconfig (by decide) (by decide) ran
    (willing_obliging boardMacs) ()).mpr ⟨.inl ⟨?_, by decide⟩, .inl ⟨?_, by decide⟩⟩
  · exact (Store.get_set_of_ne _ _ _ (by decide)).trans (Store.get_set_self _ _ _ _)
  · exact Store.get_set_self _ _ _ _

/-- On erased flash, the network is forgotten. -/
theorem staSettings_lost_home :
    ∃ last,
      (consoleWifiExecSetSta .kconfig (some (.ofString "home"))
          (some (.ofString "secret12"))).run (Driver.obliging boardMacs).handle
          (.powerUp .empty ()) = .ok ((), last) ∧
        ¬ BootJoins (fun _ => ipaddrNone) (Driver.obliging boardMacs) .kconfig
          (.powerUp last.store ()) (.ofString "home") (.ofString "secret12") := by
  have comes : ((consoleWifiExecSetSta .kconfig (some (.ofString "home"))
      (some (.ofString "secret12"))).run (Driver.obliging boardMacs).handle
      (.powerUp .empty ())).isOk = true := by decide +kernel
  rcases Program.exists_of_isOk _ comes with ⟨⟨⟩, last, ran⟩
  refine ⟨last, ran, ?_⟩
  rcases store_of_run_setSta .kconfig ran with ⟨mode, others⟩
  rw [bootJoins_iff (fun _ => ipaddrNone) .kconfig () (willing_obliging boardMacs) mode
    (by decide) (by decide)]
  rintro ⟨⟨stored, _⟩ | ⟨_, default⟩, _⟩
  · rw [others staSsidKey (by decide)] at stored
    cases stored
  · exact absurd default (by decide)

end WifiSniffer.Wifi
