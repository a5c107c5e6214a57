import WifiSniffer.Wifi.StaticIp

/-!
# Settings of a rejected access point

`wifi_ap` stores channel, name and password whether the driver has taken the
configuration or not.  The setters then leave alone what is in force already, so for a
rejected configuration it is a question of what there was before.
-/

namespace WifiSniffer.Wifi

open WifiSniffer.Bytes WifiSniffer.Effect WifiSniffer.Nvs WifiSniffer.Settings
open Program (Calls Guarantees)

variable {δ : Type} {driver : Driver δ} {world : World δ} {ipaddrAddr : CString → UInt32}
  {defaults : WifiDefaults}

/-! ## What a run stores -/

section Run

variable {ssidCfg : SsidCfg} {ssid password : CString} (channel : UInt8) (ip : IpInfo)
  (dnsServersInfo : DnsServersInfo)

theorem guarantees_has {α : Type} {program : WifiProgram α} {ns : String}
    (has : world.store.Has ns) :
    Guarantees driver.handle program world fun _ last => last.store.Has ns := by
  have calls : Calls (fun _ => True) program := Program.calls_of_forall fun _ => trivial
  refine calls.guarantees (fun world : World δ => world.store.Has ns) ?_ has
  intro call source answer target _ holds handled
  cases call with
  | nvs call =>
      rcases of_handle_nvs handled with ⟨store, ran, rfl⟩
      exact Store.has_of_handle holds ran
  | _ =>
      rw [(frame_of_handle handled).store trivial]
      exact holds

theorem guarantees_wifiConfStaticIp_others :
    Guarantees driver.handle (wifiConfStaticIp ipaddrAddr defaults ip dnsServersInfo) world
      fun _ last => ∀ key, key ∉ [ipKey, netmaskKey, gwKey] →
        last.store.get wifiNs key = world.store.get wifiNs key := by
  cases up : world.netIf with
  | none =>
      have got : getNetIf.run driver.handle world = .ok (none, world) := by
        rw [getNetIf, Program.run_ask, Driver.handle, up]
      exact Guarantees.bind_of_ok got (Program.guarantees_pure fun _ _ => rfl)
  | some netif =>
      refine (guarantees_wifiConfStaticIp ip dnsServersInfo up).mono ?_
      intro _ last stored key other
      split at stored
      · have sets := guarantees_wifiNvsSetStaticIpInfo (addressText_ipString ip.ip)
          (addressText_ipString ip.netmask) (addressText_ipString ip.gw) _ _ stored
        rw [sets.others key other, Store.get_create]
      · rw [stored, Store.get_create]

/-- Of the settings, `wifi_ap` leaves what its setters have written, but for the static
addresses. -/
theorem guarantees_wifiAp_saved (holds : CfgHolds ssidCfg ssid password) :
    Guarantees driver.handle (wifiAp ipaddrAddr defaults ssidCfg channel ip dnsServersInfo) world
      fun _ last => ssid.length ≤ 23 ∧ last.store.Has wifiNs ∧
        ∃ saved,
          (wifiApSave defaults ssidCfg channel).run Store.handle world.store = .ok ((), saved) ∧
            ∀ key, key ∉ [ipKey, netmaskKey, gwKey] →
              last.store.get wifiNs key = saved.get wifiNs key := by
  refine (guarantees_store (keepsStore_check .wifiStop) rfl).bind ?_
  intro _ _ stopped
  refine (guarantees_store keepsStore_destroyNetIf stopped).bind ?_
  intro _ destroyed destroyed_eq
  have softAp : Guarantees driver.handle (wifiSoftAp defaults ssidCfg channel) destroyed
      fun _ last => last.store = world.store ∧ ssid.length ≤ 23 := by
    intro netif last ran
    have stored := guarantees_store_of_configures
      (configures_wifiSoftAp defaults ssidCfg channel) destroyed_eq _ _ ran
    exact ⟨stored, (guarantees_wifiSoftAp_handed defaults holds _ _ ran).2.1⟩
  refine softAp.bind ?_
  rintro netif _ ⟨configured, short⟩
  refine (guarantees_store (keepsStore_setNetIf (some netif)) configured).bind ?_
  intro _ _ upped
  refine (guarantees_store (keepsStore_check .wifiStart) upped).bind ?_
  intro _ started store_eq
  refine (guarantees_nvs _).bind ?_
  rintro ⟨⟩ _ ⟨saved, ran, rfl⟩
  rw [store_eq] at ran
  have has : saved.Has wifiNs :=
    (entries_of_run_wifiApSave holds (Nat.lt_of_le_of_lt short (by decide)) ran).2.1
  have waits : Calls KeepsStore (ask (.waitBits .apStart)) := Program.calls_ask trivial
  have rest : Guarantees driver.handle
      (do
        let bits ← ask (.waitBits .apStart)
        if bits.val &&& WifiEventBit.apStart.mask ≠ 0 then
          wifiConfStaticIp ipaddrAddr defaults ip dnsServersInfo
          wifiGetIp
          check .wifiGetMaxTxPower
        else return ())
      { started with store := saved } fun _ last => ∀ key, key ∉ [ipKey, netmaskKey, gwKey] →
        last.store.get wifiNs key = saved.get wifiNs key := by
    refine (guarantees_store waits rfl).bind ?_
    rintro bits middle store_eq
    rw [if_pos bits.property]
    refine (guarantees_wifiConfStaticIp_others ip dnsServersInfo).bind ?_
    intro _ confed others
    refine (guarantees_store_of_configures configures_wifiGetIp rfl).bind ?_
    intro _ _ printed
    refine (guarantees_store (keepsStore_check _) printed).mono ?_
    intro _ last kept key other
    rw [kept, others key other, store_eq]
  intro _ last ended
  exact ⟨short, guarantees_has has _ _ ended, saved, ran, rest _ _ ended⟩

end Run

/-! ## Rejected and accepted configurations -/

section Follow

variable (driver defaults) (ssidCfg : SsidCfg) (channel : UInt8) (ssid password : CString)
  (world : World δ)

/-- The driver's answer to the configuration that `wifi_ap` builds. -/
def apAnswer : EspErr :=
  (driver.answer
    (.wifiSetConfig .ap (.ap (builtApConfig ssidCfg channel ssid (driver.macs .ap))))
    (driver.apPrepared (driver.called world .wifiStop)).driver).1

/-- The settings follow the configuration that is running: if it has been rejected, they
are stored as before, and if it has been accepted, its channel, name and password are
read back. -/
structure SettingsFollow (last : World δ) : Prop where
  rejected : apAnswer driver ssidCfg channel ssid world ≠ .ok →
    ∀ key ∈ [apSsidKey, apSsidPwKey, apChannelKey],
      last.store.get wifiNs key = world.store.get wifiNs key
  accepted : apAnswer driver ssidCfg channel ssid world = .ok →
    ReadsBack (wifiNvsGetApChannel defaults) last.store channel ∧
      ∃ loaded, ReadsBack (wifiNvsGetSsidApCfg defaults) last.store loaded ∧
        CfgHolds loaded ssid password

/-- The settings in force are the given ones, or longer strings that begin with them. -/
structure InForceAlready (store : Store) : Prop where
  channel : storedApChannel store defaults = channel
  ssid : ssid.chars <+: (stringInForce store apSsidKey defaults.apSsid).chars
  password : password.chars <+: (stringInForce store apSsidPwKey defaults.apSsidPw).chars

end Follow

section Iff

variable {ssidCfg : SsidCfg} {channel : UInt8} {ssid password : CString} {ip : IpInfo}
  {dnsServersInfo : DnsServersInfo} {last : World δ}

/-- A run leaves the entries of an access point as they are exactly if there is nothing
to be set. -/
theorem entries_kept_iff (holds : CfgHolds ssidCfg ssid password)
    (ran : (wifiAp ipaddrAddr defaults ssidCfg channel ip dnsServersInfo).run driver.handle world =
      .ok ((), last)) :
    (∀ key ∈ [apSsidKey, apSsidPwKey, apChannelKey],
        last.store.get wifiNs key = world.store.get wifiNs key) ↔
      InForceAlready defaults channel ssid password world.store := by
  rcases guarantees_wifiAp_saved channel ip dnsServersInfo holds _ _ ran with
    ⟨short, _, saved, written, others⟩
  rcases entries_of_run_wifiApSave holds (Nat.lt_of_le_of_lt short (by decide)) written with
    ⟨_, _, ssidSetting, pwSetting, channel_eq, ssid_eq, pw_eq⟩
  rw [← others apChannelKey (by decide)] at channel_eq
  rw [← others apSsidKey (by decide)] at ssid_eq
  rw [← others apSsidPwKey (by decide)] at pw_eq
  have channel_iff : last.store.get wifiNs apChannelKey = world.store.get wifiNs apChannelKey ↔
      storedApChannel world.store defaults = channel := by
    rw [channel_eq]
    split
    · rename_i same
      exact iff_of_true rfl same
    · rename_i differs
      exact iff_of_false (fun stored => differs (storedApChannel_of_get _ stored.symm)) differs
  have ssid_iff := get_eq_iff_of_setCredential ssidSetting ssid_eq
  have pw_iff := get_eq_iff_of_setCredential pwSetting pw_eq
  simp only [List.forall_mem_cons, List.not_mem_nil, false_imp_iff, implies_true, and_true]
  rw [ssid_iff, pw_iff, channel_iff]
  constructor
  · rintro ⟨ssid, password, channel⟩
    exact ⟨channel, ssid, password⟩
  · rintro ⟨channel, ssid, password⟩
    exact ⟨ssid, password, channel⟩

/-- After a run, the given channel is read back, and the given strings exactly if they do
not shorten the ones before. -/
theorem settings_taken_iff (holds : CfgHolds ssidCfg ssid password)
    (ran : (wifiAp ipaddrAddr defaults ssidCfg channel ip dnsServersInfo).run driver.handle world =
      .ok ((), last)) :
    (ReadsBack (wifiNvsGetApChannel defaults) last.store channel ∧
        ∃ loaded, ReadsBack (wifiNvsGetSsidApCfg defaults) last.store loaded ∧
          CfgHolds loaded ssid password) ↔
      ¬ Shortens ssid (stringInForce world.store apSsidKey defaults.apSsid) ∧
        ¬ Shortens password (stringInForce world.store apSsidPwKey defaults.apSsidPw) := by
  rcases guarantees_wifiAp_saved channel ip dnsServersInfo holds _ _ ran with
    ⟨short, has, saved, written, others⟩
  have ssidFits : ssid.length < ssidSz := Nat.lt_of_le_of_lt short (by decide)
  rcases entries_of_run_wifiApSave holds ssidFits written with
    ⟨pwShort, _, ssidSetting, pwSetting, channel_eq, ssid_eq, pw_eq⟩
  have pwFits : password.length < ssidPassSz := Nat.lt_of_le_of_lt pwShort (by decide)
  rw [← others apChannelKey (by decide)] at channel_eq
  rw [← others apSsidKey (by decide)] at ssid_eq
  rw [← others apSsidPwKey (by decide)] at pw_eq
  have read : ReadsBack (wifiNvsGetApChannel defaults) last.store channel := by
    have stored_eq : storedApChannel last.store defaults = channel := by
      split at channel_eq
      · rename_i same
        rw [storedApChannel_of_get_eq _ _ channel_eq, same]
      · exact storedApChannel_of_get _ channel_eq
    rw [← stored_eq]
    exact ⟨_, run_wifiNvsGetApChannel last.store defaults⟩
  have ssidEntry := stringSetting_savedAs ssidSetting ssidFits ssid_eq
  have pwEntry := stringSetting_savedAs pwSetting pwFits pw_eq
  rw [and_iff_right read]
  refine Iff.trans ?_ ((loads_iff ⟨has, ssidEntry⟩ ⟨has, pwEntry⟩ ssidFits pwFits).trans
    (and_congr savedAs_eq_iff savedAs_eq_iff))
  constructor
  · rintro ⟨loaded, ⟨stored, got⟩, loads⟩
    exact ⟨loaded, stored, got, loads⟩
  · rintro ⟨loaded, stored, got, loads⟩
    exact ⟨loaded, ⟨stored, got⟩, loads⟩

/-- After a run, the settings follow the configuration exactly if a rejected one has been
in force already, and an accepted one does not shorten what was. -/
theorem settings_follow_iff (holds : CfgHolds ssidCfg ssid password)
    (ran : (wifiAp ipaddrAddr defaults ssidCfg channel ip dnsServersInfo).run driver.handle world =
      .ok ((), last)) :
    SettingsFollow driver defaults ssidCfg channel ssid password world last ↔
      (apAnswer driver ssidCfg channel ssid world ≠ .ok →
          InForceAlready defaults channel ssid password world.store) ∧
        (apAnswer driver ssidCfg channel ssid world = .ok →
          ¬ Shortens ssid (stringInForce world.store apSsidKey defaults.apSsid) ∧
            ¬ Shortens password (stringInForce world.store apSsidPwKey defaults.apSsidPw)) := by
  rw [← entries_kept_iff holds ran, ← settings_taken_iff holds ran]
  exact ⟨fun follow => ⟨follow.rejected, follow.accepted⟩, fun ⟨kept, taken⟩ => ⟨kept, taken⟩⟩

end Iff

/-! ## On erased flash -/

/-- A driver that rejects an access point whose password has fewer than eight characters,
with `ESP_ERR_WIFI_PASSWORD`, and does what it is asked otherwise. -/
def Driver.strict (macs : WifiInterface → Mac) : Driver Unit where
  macs := macs
  answer
    | .wifiSetConfig _ (.ap conf), state =>
        if conf.authmode ≠ .open ∧ (CString.ofArray conf.password).length < 8 then
          (.other 0x300b, state)
        else (.ok, state)
    | _, state => (.ok, state)
  bits := (Driver.obliging macs).bits

/-- A network that the driver accepts. -/
theorem settings_follow_lab :
    ∃ last,
      (wifiAp (fun _ => ipaddrNone) .kconfig
          (ssidCfgOf (.ofString "lab") (.ofString "secret12")) 6
          ⟨ipaddrNone, ipaddrNone, ipaddrNone⟩ ⟨ipaddrNone, ipaddrNone⟩).run
          (Driver.obliging boardMacs).handle (.powerUp .empty ()) = .ok ((), last) ∧
        SettingsFollow (Driver.obliging boardMacs) .kconfig
          (ssidCfgOf (.ofString "lab") (.ofString "secret12")) 6 (.ofString "lab")
          (.ofString "secret12") (.powerUp .empty ()) last := by
  have comes : ((wifiAp (fun _ => ipaddrNone) .kconfig
      (ssidCfgOf (.ofString "lab") (.ofString "secret12")) 6
      ⟨ipaddrNone, ipaddrNone, ipaddrNone⟩ ⟨ipaddrNone, ipaddrNone⟩).run
      (Driver.obliging boardMacs).handle (.powerUp .empty ())).isOk = true := by decide +kernel
  rcases Program.exists_of_isOk _ comes with ⟨⟨⟩, last, ran⟩
  refine ⟨last, ran, (settings_follow_iff (cfgHolds_ssidCfgOf (by decide) (by decide)) ran).mpr
    ⟨fun rejected => absurd rfl rejected, fun _ => ?_⟩⟩
  decide

/-- A network that is rejected for its password is stored all the same. -/
theorem not_settings_follow_lab :
    ∃ last,
      (wifiAp (fun _ => ipaddrNone) .kconfig
          (ssidCfgOf (.ofString "lab") (.ofString "short")) 6
          ⟨ipaddrNone, ipaddrNone, ipaddrNone⟩ ⟨ipaddrNone, ipaddrNone⟩).run
          (Driver.strict boardMacs).handle (.powerUp .empty ()) = .ok ((), last) ∧
        ¬ SettingsFollow (Driver.strict boardMacs) .kconfig
          (ssidCfgOf (.ofString "lab") (.ofString "short")) 6 (.ofString "lab")
          (.ofString "short") (.powerUp .empty ()) last := by
  have comes : ((wifiAp (fun _ => ipaddrNone) .kconfig
      (ssidCfgOf (.ofString "lab") (.ofString "short")) 6
      ⟨ipaddrNone, ipaddrNone, ipaddrNone⟩ ⟨ipaddrNone, ipaddrNone⟩).run
      (Driver.strict boardMacs).handle (.powerUp .empty ())).isOk = true := by decide +kernel
  rcases Program.exists_of_isOk _ comes with ⟨⟨⟩, last, ran⟩
  refine ⟨last, ran, fun follow => ?_⟩
  have kept := (entries_kept_iff (cfgHolds_ssidCfgOf (by decide) (by decide)) ran).mp
    (follow.rejected (by decide))
  exact absurd kept.channel (by decide)

end WifiSniffer.Wifi
