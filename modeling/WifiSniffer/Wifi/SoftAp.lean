import WifiSniffer.Wifi.Reboot

/-!
# The name of an access point

`wifi_soft_ap` copies as many bytes as the generated name has characters, whether
`snprintf` had room for them or not.  A configuration that the driver rejects is
followed by the default one, whose length counts the terminator of its name.
-/

namespace WifiSniffer.Wifi

open WifiSniffer.Bytes WifiSniffer.Effect WifiSniffer.Nvs WifiSniffer.Settings
open Program (Calls EachRequest Guarantees)

variable {δ : Type} {driver : Driver δ} {world : World δ} {α : Type}

/-! ## Calls of the driver -/

/-- The world after a call of the driver. -/
def Driver.called (driver : Driver δ) (world : World δ) (call : DriverCall) : World δ :=
  { world with
    driver := (driver.answer call world.driver).2
    handed := world.handed ++ call.hands }

/-- The driver answers one call after the other without an error. -/
def Driver.Obeys (driver : Driver δ) : World δ → List DriverCall → Prop
  | _, [] => True
  | world, call :: calls =>
      (driver.answer call world.driver).1 = .ok ∧
        driver.Obeys (driver.called world call) calls

section Called

variable {call : DriverCall} {property : WifiCall → Prop}

theorem run_driver (call : DriverCall) :
    (ask (.driver call)).run driver.handle world =
      .ok ((driver.answer call world.driver).1, driver.called world call) :=
  Program.run_ask _ _ _

theorem run_check_of_ok (answered : (driver.answer call world.driver).1 = .ok) :
    (check call).run driver.handle world = .ok ((), driver.called world call) := by
  rw [check, Program.run_bind_of_ok _ (run_driver call), answered]
  exact run_nvs_of_ok run_espErrorCheck_ok

/-- `ESP_ERROR_CHECK` lets a program go on only behind a call that went well. -/
theorem of_run_check {last : World δ}
    (ran : (check call).run driver.handle world = .ok ((), last)) :
    (driver.answer call world.driver).1 = .ok ∧ last = driver.called world call := by
  rcases (Program.run_bind_eq_ok_iff _).mp ran with ⟨err, middle, asked, checked⟩
  rw [run_driver] at asked
  cases asked
  rcases guarantees_nvs _ _ _ checked with ⟨store, passed, _⟩
  have answered := of_run_espErrorCheck passed
  rw [run_check_of_ok answered] at ran
  cases ran
  exact ⟨answered, rfl⟩

theorem eachRequest_check_iff (aborts : ∀ err, property (.nvs (.abort err))) :
    EachRequest driver.handle property (check call) world ↔ property (.driver call) := by
  rw [check, Program.eachRequest_bind_iff_left, Program.eachRequest_ask_iff]
  intro err middle
  exact (calls_nvs (calls_espErrorCheck err (aborts err))).eachRequest

/-- The calls behind `ESP_ERROR_CHECK` are made if the driver has obeyed. -/
theorem eachRequest_check_bind_iff {next : Unit → WifiProgram α}
    (aborts : ∀ err, property (.nvs (.abort err))) :
    EachRequest driver.handle property (check call >>= next) world ↔
      property (.driver call) ∧
        ((driver.answer call world.driver).1 = .ok →
          EachRequest driver.handle property (next ()) (driver.called world call)) := by
  rw [Program.eachRequest_bind_iff, eachRequest_check_iff aborts]
  apply and_congr_right
  intro _
  constructor
  · intro goesOn answered
    exact goesOn () _ (run_check_of_ok answered)
  · rintro goesOn ⟨⟩ middle ran
    rcases of_run_check ran with ⟨answered, rfl⟩
    exact goesOn answered

/-- The calls of a program of the settings code -/
theorem eachRequest_nvs_iff {program : NvsProgram α} :
    EachRequest driver.handle property (nvs program) world ↔
      EachRequest Store.handle (fun call => property (.nvs call)) program world.store := by
  apply Program.eachRequest_translate_iff World.storePart
  · intro call world
    rw [Program.run_ask]
    rfl
  · exact fun call world => Program.eachRequest_ask_iff _ _

end Called

/-! ## The configuration -/

/-- What `snprintf` leaves in `gen_ssid`. -/
def genSsid (ssidPrefix : CString) (mac : Mac) : List UInt8 :=
  overwrite (List.replicate ssidSz 0)
    ((generatedSsid ssidPrefix mac).take ((List.replicate ssidSz (0 : UInt8)).length - 1) ++ [0])

/-- The configuration that `wifi_soft_ap` builds. -/
def builtApConfig (ssidCfg : SsidCfg) (channel : UInt8) (ssidPrefix : CString) (mac : Mac) :
    WifiApConfig where
  ssid := overwrite (List.replicate ssidSz 0)
    ((genSsid ssidPrefix mac).take (generatedSsid ssidPrefix mac).length)
  ssidLen := (generatedSsid ssidPrefix mac).length
  password := overwrite (List.replicate ssidPassSz 0) (ssidCfg.password.take ssidCfg.passSz)
  channel := channel
  maxConnection := maxStaConn
  authmode := if ssidCfg.passSz = 0 then .open else .wpaWpa2Psk
  pmfRequired := false

/-- The name in a configuration is inside its array and has no terminator. -/
def WifiApConfig.NulFree (conf : WifiApConfig) : Prop :=
  conf.ssidLen ≤ ssidSz ∧ 0 ∉ conf.ssid.take conf.ssidLen

/-- An access stays inside its array, and a configuration that is handed over has a
proper name. -/
def SoundCall : WifiCall → Prop
  | .nvs (.read size count) | .nvs (.write size count) => count ≤ size
  | .driver (.wifiSetConfig _ (.ap conf)) => conf.NulFree
  | _ => True

section Config

variable {ssidCfg : SsidCfg} {channel : UInt8} {ssidPrefix : CString} {mac : Mac}

theorem generatedSsid_length :
    (generatedSsid ssidPrefix mac).length = ssidPrefix.length + 9 := by
  simp [generatedSsid, hexadecimal, CString.length]

theorem zero_notMem_hexadecimal (byte : UInt8) : 0 ∉ hexadecimal byte := by
  have all : ∀ value : Fin 256, 0 ∉ hexadecimal (UInt8.ofFin value) := by
    decide +kernel
  exact all byte.toFin

theorem zero_notMem_generatedSsid : 0 ∉ generatedSsid ssidPrefix mac := by
  have nulFree := ssidPrefix.nulFree
  have digits := zero_notMem_hexadecimal
  simp [generatedSsid, nulFree, digits]

theorem genSsid_length : (genSsid ssidPrefix mac).length = ssidSz := by
  rw [genSsid, overwrite_length]
  · exact List.length_replicate
  · rw [List.length_append, List.length_take, List.length_replicate]
    exact Nat.add_le_add_right (Nat.min_le_left (ssidSz - 1) _) 1

/-- A name that `snprintf` has room for is copied in full. -/
theorem genSsid_take (fits : ssidPrefix.length ≤ 22) :
    (genSsid ssidPrefix mac).take (generatedSsid ssidPrefix mac).length =
      generatedSsid ssidPrefix mac := by
  have length_le : (generatedSsid ssidPrefix mac).length ≤ ssidSz - 1 := by
    rw [generatedSsid_length, ssidSz]
    omega
  rw [genSsid, List.length_replicate, List.take_of_length_le length_le, overwrite_replicate,
    List.append_assoc, List.take_left]

/-- The terminator counts if there is room for it and for nothing behind. -/
theorem genSsid_take_full (length_eq : ssidPrefix.length = 23) :
    0 ∈ (genSsid ssidPrefix mac).take (generatedSsid ssidPrefix mac).length := by
  have length_eq : (generatedSsid ssidPrefix mac).length = ssidSz := by
    rw [generatedSsid_length, length_eq]
    rfl
  rw [length_eq, List.take_of_length_le (Nat.le_of_eq genSsid_length), genSsid]
  simp [overwrite]

theorem builtApConfig_take (fits : ssidPrefix.length ≤ 22) :
    (builtApConfig ssidCfg channel ssidPrefix mac).ssid.take
        (builtApConfig ssidCfg channel ssidPrefix mac).ssidLen =
      generatedSsid ssidPrefix mac := by
  rw [builtApConfig, genSsid_take fits]
  simp [overwrite]

variable (ssidCfg channel ssidPrefix mac) in
theorem builtApConfig_ssidLen :
    (builtApConfig ssidCfg channel ssidPrefix mac).ssidLen = ssidPrefix.length + 9 :=
  generatedSsid_length

theorem builtApConfig_nulFree_iff :
    (builtApConfig ssidCfg channel ssidPrefix mac).NulFree ↔ ssidPrefix.length ≤ 22 := by
  rw [WifiApConfig.NulFree, builtApConfig_ssidLen, ssidSz]
  constructor
  · rintro ⟨ssidLen_le, nulFree⟩
    by_contra long
    have length_eq : ssidPrefix.length = 23 := by omega
    have copied_length : ((genSsid ssidPrefix mac).take
        (generatedSsid ssidPrefix mac).length).length = ssidPrefix.length + 9 := by
      rw [List.length_take, genSsid_length, generatedSsid_length, length_eq]
      rfl
    apply nulFree
    rw [builtApConfig, overwrite, List.take_append_of_le_length (Nat.le_of_eq copied_length.symm),
      List.take_of_length_le (Nat.le_of_eq copied_length)]
    exact genSsid_take_full length_eq
  · intro fits
    refine ⟨by omega, ?_⟩
    rw [← builtApConfig_ssidLen ssidCfg channel ssidPrefix mac, builtApConfig_take fits]
    exact zero_notMem_generatedSsid

/-- The default name is never free of its terminator. -/
theorem not_nulFree_wifiCfgApDef (defaults : WifiDefaults) {interface : WifiInterface} :
    ¬ SoundCall (.driver (.wifiSetConfig interface (wifiCfgApDef defaults))) := by
  rintro ⟨ssidLen_le, nulFree⟩
  apply nulFree
  have length_lt : defaults.apSsid.text.length < ssidSz := ssidLen_le
  rw [CString.length] at length_lt
  obtain ⟨more, size_eq⟩ := Nat.exists_eq_add_of_lt length_lt
  simp [strncpyBytes, CString.length, size_eq, Nat.add_assoc, Nat.add_comm more 1,
    List.replicate_add, List.take_append]

end Config

/-! ## The calls -/

section Calls

variable {ssidCfg : SsidCfg} {channel : UInt8} {ssidPrefix password : CString}

theorem eachRequest_memcpy_iff {dst src : List UInt8} {count : Nat} {store : Store} :
    EachRequest Store.handle (fun call => SoundCall (.nvs call)) (memcpy dst src count) store ↔
      count ≤ src.length ∧ count ≤ dst.length := by
  rw [memcpy, Program.eachRequest_bind_iff]
  simp only [Program.eachRequest_ask_iff, Program.run_ask, Store.handle_read]
  rw [SoundCall]
  apply and_congr_right
  intro readable
  simp [Store.access, readable, Program.eachRequest_bind_iff, SoundCall]

/-- The calls of the driver in front of the configuration. -/
def apPreparation : List DriverCall :=
  [.wifiGetMac .ap, .wifiSetCountry country, .wifiSetMode .ap]

/-- The world in which the configuration is handed over. -/
def Driver.apPrepared (driver : Driver δ) (world : World δ) : World δ :=
  apPreparation.foldl driver.called world

/-- `wifi_soft_ap` from the country on -/
theorem eachRequest_wifiSetConf_iff {conf : WifiApConfig} {confDef : WifiConfig}
    {next : EspErr → WifiProgram α}
    (sound : ∀ err world, EachRequest driver.handle SoundCall (next err) world)
    (unsound : ¬ SoundCall (.driver (.wifiSetConfig .ap confDef))) :
    EachRequest driver.handle SoundCall
        (wifiSetConf .ap .ap (.ap conf) confDef >>= next) world ↔
      (driver.Obeys world [.wifiSetCountry country, .wifiSetMode .ap] →
        conf.NulFree ∧
          (driver.answer (.wifiSetConfig .ap (.ap conf))
            (driver.called (driver.called world (.wifiSetCountry country))
              (.wifiSetMode .ap)).driver).1 = .ok) := by
  have aborts (err : EspErr) : SoundCall (.nvs (.abort err)) := trivial
  rw [Program.eachRequest_bind_iff_left sound, wifiSetConf,
    eachRequest_check_bind_iff aborts, eachRequest_check_bind_iff aborts,
    Program.eachRequest_bind_iff_of_ok (run_driver _), Program.eachRequest_ask_iff]
  have rest (err : EspErr) (world : World δ) :
      EachRequest driver.handle SoundCall
          (if err ≠ .ok then do
            let _ ← ask (.driver (.wifiSetConfig .ap confDef))
            return err
          else return err) world ↔ err = .ok := by
    split
    · rename_i failed
      rw [Program.eachRequest_bind_iff_left fun _ world => Program.eachRequest_pure _ world,
        Program.eachRequest_ask_iff]
      exact iff_of_false unsound failed
    · rename_i answered
      exact iff_of_true (Program.eachRequest_pure _ _) (not_ne_iff.mp answered)
  rw [rest]
  simp [Driver.Obeys, SoundCall]

theorem soundCall_wifiGenerateSsid (ssid gen : List UInt8) :
    Calls SoundCall (wifiGenerateSsid ssid gen) := by
  apply (calls_check trivial fun _ => trivial).bind
  intro _
  exact Calls.bind (Program.calls_ask trivial) fun _ => Program.calls_pure _

theorem run_wifiGenerateSsid (holds : CfgHolds ssidCfg ssidPrefix password)
    (answered : (driver.answer (.wifiGetMac .ap) world.driver).1 = .ok) :
    (wifiGenerateSsid ssidCfg.ssid (List.replicate ssidSz 0)).run driver.handle world =
      .ok ((genSsid ssidPrefix (driver.macs .ap),
          (generatedSsid ssidPrefix (driver.macs .ap)).length),
        driver.called world (.wifiGetMac .ap)) := by
  have got : (ask (.macOf .ap)).run driver.handle (driver.called world (.wifiGetMac .ap)) =
      .ok (driver.macs .ap, driver.called world (.wifiGetMac .ap)) := Program.run_ask _ _ _
  rw [wifiGenerateSsid, Program.run_bind_of_ok _ (run_check_of_ok answered),
    Program.run_bind_of_ok _ got, holds.ssid_eq]
  rfl

/-- Without the hardware address, nothing follows. -/
theorem answered_of_run_wifiGenerateSsid {ssid gen : List UInt8} {result : List UInt8 × Nat}
    {last : World δ}
    (ran : (wifiGenerateSsid ssid gen).run driver.handle world = .ok (result, last)) :
    (driver.answer (.wifiGetMac .ap) world.driver).1 = .ok := by
  rcases (Program.run_bind_eq_ok_iff _).mp ran with ⟨⟨⟩, _, checked, _⟩
  exact (of_run_check checked).1

variable (ssidCfg channel) in
theorem run_copySsid {store : Store} {mac : Mac} (fits : ssidPrefix.length ≤ 23) :
    (memcpy (List.replicate ssidSz 0) (genSsid ssidPrefix mac)
          (generatedSsid ssidPrefix mac).length).run Store.handle store =
      .ok ((builtApConfig ssidCfg channel ssidPrefix mac).ssid, store) := by
  have inside : (generatedSsid ssidPrefix mac).length ≤ ssidSz := by
    rw [generatedSsid_length, ssidSz]
    omega
  exact run_memcpy (by rwa [genSsid_length]) (by rwa [List.length_replicate])

variable (channel) in
theorem run_copyPassword {store : Store} (mac : Mac)
    (holds : CfgHolds ssidCfg ssidPrefix password) :
    (memcpy (List.replicate ssidPassSz 0) ssidCfg.password ssidCfg.passSz).run Store.handle
          store =
      .ok ((builtApConfig ssidCfg channel ssidPrefix mac).password, store) := by
  have inside := holds.passSz_le
  exact run_memcpy (by rwa [holds.password_length]) (by rwa [List.length_replicate])

/-- The name is copied inside its arrays if it and its terminator fit. -/
theorem eachRequest_copySsid_iff {mac : Mac} :
    EachRequest driver.handle SoundCall
        (nvs (memcpy (List.replicate ssidSz 0) (genSsid ssidPrefix mac)
          (generatedSsid ssidPrefix mac).length)) world ↔
      ssidPrefix.length ≤ 23 := by
  rw [eachRequest_nvs_iff, eachRequest_memcpy_iff, genSsid_length, List.length_replicate,
    and_self, generatedSsid_length, ssidSz]
  omega

theorem eachRequest_copyPassword (holds : CfgHolds ssidCfg ssidPrefix password) :
    EachRequest driver.handle SoundCall
      (nvs (memcpy (List.replicate ssidPassSz 0) ssidCfg.password ssidCfg.passSz)) world := by
  rw [eachRequest_nvs_iff, eachRequest_memcpy_iff, holds.password_length,
    List.length_replicate, and_self]
  exact holds.passSz_le

/-- Where the calls of `wifi_soft_ap` are sound. -/
theorem eachRequest_wifiSoftAp_iff (defaults : WifiDefaults)
    (holds : CfgHolds ssidCfg ssidPrefix password) :
    EachRequest driver.handle SoundCall (wifiSoftAp defaults ssidCfg channel) world ↔
      (driver.Obeys world [.wifiGetMac .ap] → ssidPrefix.length ≤ 23) ∧
        (driver.Obeys world apPreparation →
          ssidPrefix.length ≤ 22 ∧
            (driver.answer
              (.wifiSetConfig .ap
                (.ap (builtApConfig ssidCfg channel ssidPrefix (driver.macs .ap))))
              (driver.apPrepared world).driver).1 = .ok) := by
  have generates := soundCall_wifiGenerateSsid ssidCfg.ssid (List.replicate ssidSz 0)
  have create (world : World δ) :
      EachRequest driver.handle SoundCall (ask (.createNetif .ap)) world :=
    (Program.eachRequest_ask_iff _ _).mpr trivial
  by_cases answered : (driver.answer (.wifiGetMac .ap) world.driver).1 = .ok
  · have obeys_iff : driver.Obeys world [.wifiGetMac .ap] ↔ True :=
      iff_true_intro ⟨answered, trivial⟩
    rw [wifiSoftAp, Program.eachRequest_bind_iff_of_ok (run_wifiGenerateSsid holds answered),
      and_iff_right generates.eachRequest, obeys_iff, true_imp_iff]
    by_cases fits : ssidPrefix.length ≤ 23
    · dsimp only
      rw [Program.eachRequest_bind_iff_of_ok (run_nvs_of_ok
          (run_copySsid ssidCfg channel fits)),
        eachRequest_copySsid_iff,
        Program.eachRequest_bind_iff_of_ok (run_nvs_of_ok
          (run_copyPassword channel (driver.macs .ap) holds)),
        and_iff_right (eachRequest_copyPassword holds)]
      apply and_congr_right
      intro _
      refine (eachRequest_wifiSetConf_iff (fun _ => create)
        (not_nulFree_wifiCfgApDef defaults)).trans ?_
      have named_iff : (builtApConfig ssidCfg channel ssidPrefix (driver.macs .ap)).NulFree ↔
          ssidPrefix.length ≤ 22 :=
        builtApConfig_nulFree_iff
      constructor
      · rintro proper ⟨_, prepared⟩
        rcases proper prepared with ⟨named, accepted⟩
        exact ⟨named_iff.mp named, accepted⟩
      · intro proper prepared
        rcases proper ⟨answered, prepared⟩ with ⟨short, accepted⟩
        exact ⟨named_iff.mpr short, accepted⟩
    · rw [Program.eachRequest_bind_iff, eachRequest_copySsid_iff]
      exact iff_of_false (fun holds => fits holds.1) (fun holds => fits holds.1)
  · have disobeys (calls : List DriverCall) : ¬ driver.Obeys world (.wifiGetMac .ap :: calls) :=
      fun obeys => answered obeys.1
    refine iff_of_true ?_ ⟨fun obeys => absurd obeys (disobeys _),
      fun obeys => absurd obeys (disobeys _)⟩
    rw [wifiSoftAp, Program.eachRequest_bind_iff]
    refine ⟨generates.eachRequest, ?_⟩
    rintro ⟨_, _⟩ last ran
    exact absurd (answered_of_run_wifiGenerateSsid ran) answered

/-- The configuration that has been asked for is handed over, and maybe another one. -/
theorem guarantees_wifiSetConf_handed (mode : WifiMode) (interface : WifiInterface)
    (conf confDef : WifiConfig) :
    Guarantees driver.handle (wifiSetConf mode interface conf confDef) world fun _ last =>
      driver.Obeys world [.wifiSetCountry country, .wifiSetMode mode] ∧
        ∃ rest, last.handed = world.handed ++ (interface, conf) :: rest := by
  intro err last ran
  rcases (Program.run_bind_eq_ok_iff _).mp ran with ⟨⟨⟩, _, countrySet, ran⟩
  rcases of_run_check countrySet with ⟨countryOk, rfl⟩
  rcases (Program.run_bind_eq_ok_iff _).mp ran with ⟨⟨⟩, _, modeSet, ran⟩
  rcases of_run_check modeSet with ⟨modeOk, rfl⟩
  refine ⟨⟨countryOk, modeOk, trivial⟩, ?_⟩
  rw [Program.run_bind_of_ok _ (run_driver _)] at ran
  split at ran
  · rw [Program.run_bind_of_ok _ (run_driver _)] at ran
    cases ran
    exact ⟨[(interface, confDef)], by simp [Driver.called, DriverCall.hands]⟩
  · cases ran
    exact ⟨[], by simp [Driver.called, DriverCall.hands]⟩

/-- An access point that has been brought up has been handed the configuration that was
built, of a name that fits. -/
theorem guarantees_wifiSoftAp_handed (defaults : WifiDefaults)
    (holds : CfgHolds ssidCfg ssidPrefix password) :
    Guarantees driver.handle (wifiSoftAp defaults ssidCfg channel) world fun _ last =>
      driver.Obeys world apPreparation ∧ ssidPrefix.length ≤ 23 ∧
        ∃ rest, last.handed = world.handed ++
          (.ap, .ap (builtApConfig ssidCfg channel ssidPrefix (driver.macs .ap))) :: rest := by
  intro netif last ran
  rcases (Program.run_bind_eq_ok_iff _).mp ran with ⟨_, _, generated, ran⟩
  have answered := answered_of_run_wifiGenerateSsid generated
  rw [run_wifiGenerateSsid holds answered] at generated
  cases generated
  dsimp only at ran
  rcases (Program.run_bind_eq_ok_iff _).mp ran with ⟨ssid, _, named, ran⟩
  rcases guarantees_nvs _ _ _ named with ⟨store, copied, rfl⟩
  have fits : ssidPrefix.length ≤ 23 := by
    have inside := (inside_of_run_memcpy copied).1
    rw [genSsid_length, generatedSsid_length, ssidSz] at inside
    omega
  rw [run_copySsid ssidCfg channel fits] at copied
  cases copied
  rw [Program.run_bind_of_ok _ (run_nvs_of_ok
    (run_copyPassword channel (driver.macs .ap) holds))] at ran
  rcases (Program.run_bind_eq_ok_iff _).mp ran with ⟨err, _, configured, ran⟩
  rcases guarantees_wifiSetConf_handed _ _ _ _ _ _ configured with
    ⟨⟨countryOk, modeOk, _⟩, rest, handed⟩
  rw [Program.run_ask] at ran
  cases ran
  refine ⟨⟨answered, countryOk, modeOk, trivial⟩, fits, rest, ?_⟩
  rw [handed]
  simp [Driver.called, DriverCall.hands, builtApConfig]

end Calls

/-! ## Proper names -/

section Proper

variable (driver : Driver δ) (defaults : WifiDefaults) {ssidCfg : SsidCfg} (channel : UInt8)
  {ssidPrefix password : CString} (world : World δ)

/-- Bringing up an access point stays inside the arrays, hands over only names without
terminators, and hands over the generated name first, as far as `gen_ssid` has room. -/
structure NamesProperly (ssidCfg : SsidCfg) (ssidPrefix : CString) : Prop where
  sound : EachRequest driver.handle SoundCall (wifiSoftAp defaults ssidCfg channel) world
  built : Guarantees driver.handle (wifiSoftAp defaults ssidCfg channel) world fun _ last =>
    ∃ conf rest, last.handed = world.handed ++ (.ap, .ap conf) :: rest ∧
      conf.ssid.take conf.ssidLen =
        (generatedSsid ssidPrefix (driver.macs .ap)).take (ssidSz - 1)

/-- Names are proper exactly if the prefix has at most 22 characters and the driver
accepts the configuration, where it comes to that. -/
theorem namesProperly_iff (holds : CfgHolds ssidCfg ssidPrefix password) :
    NamesProperly driver defaults channel world ssidCfg ssidPrefix ↔
      (driver.Obeys world [.wifiGetMac .ap] → ssidPrefix.length ≤ 23) ∧
        (driver.Obeys world apPreparation →
          ssidPrefix.length ≤ 22 ∧
            (driver.answer
              (.wifiSetConfig .ap
                (.ap (builtApConfig ssidCfg channel ssidPrefix (driver.macs .ap))))
              (driver.apPrepared world).driver).1 = .ok) := by
  rw [← eachRequest_wifiSoftAp_iff defaults holds]
  constructor
  · exact fun proper => proper.sound
  · intro sound
    refine ⟨sound, ?_⟩
    intro netif last ran
    rcases guarantees_wifiSoftAp_handed defaults holds netif last ran with
      ⟨prepared, _, rest, handed⟩
    have short := (((eachRequest_wifiSoftAp_iff defaults holds).mp sound).2 prepared).1
    refine ⟨_, rest, handed, ?_⟩
    rw [builtApConfig_take short, List.take_of_length_le]
    rw [generatedSsid_length, ssidSz]
    omega

end Proper

/-- The default prefix with a driver that obeys. -/
theorem namesProperly_sniff :
    NamesProperly (Driver.obliging boardMacs) .kconfig 1 (.powerUp .empty ())
      (ssidCfgOf (.ofString "sniff") (.ofString "mypassword")) (.ofString "sniff") :=
  (namesProperly_iff _ _ _ _ (cfgHolds_ssidCfgOf (by decide) (by decide))).mpr
    ⟨fun _ => by decide, fun _ => ⟨by decide, rfl⟩⟩

/-- A prefix of 23 characters comes with its terminator, and one of 24 characters is
copied from behind `gen_ssid`. -/
theorem not_namesProperly_long :
    ¬ NamesProperly (Driver.obliging boardMacs) .kconfig 1 (.powerUp .empty ())
        (ssidCfgOf (.ofString "anchorage-harbour-north") (.ofString "mypassword"))
        (.ofString "anchorage-harbour-north") ∧
      ¬ NamesProperly (Driver.obliging boardMacs) .kconfig 1 (.powerUp .empty ())
        (ssidCfgOf (.ofString "anchorage-harbour-north2") (.ofString "mypassword"))
        (.ofString "anchorage-harbour-north2") := by
  constructor
  · intro proper
    have short := ((eachRequest_wifiSoftAp_iff _
      (cfgHolds_ssidCfgOf (by decide) (by decide))).mp proper.sound).2 ⟨rfl, rfl, rfl, trivial⟩
    exact absurd short.1 (by decide)
  · intro proper
    have short := ((eachRequest_wifiSoftAp_iff _
      (cfgHolds_ssidCfgOf (by decide) (by decide))).mp proper.sound).1 ⟨rfl, trivial⟩
    exact absurd short (by decide)

end WifiSniffer.Wifi
