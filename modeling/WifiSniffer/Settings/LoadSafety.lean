import WifiSniffer.Settings.Filter
import WifiSniffer.Settings.Wifi

/-!
# Bounds when settings are loaded

Which contents of the flash and which defaults keep the loaders within their arrays
and within the default strings.  A getter goes by the length that is stored, or by
the size of the array that a default is copied to, and never compares the two sizes.
-/

namespace WifiSniffer.Settings

open WifiSniffer.Bytes WifiSniffer.Effect WifiSniffer.Handler WifiSniffer.Nvs

/-- A call writes no array beyond its end and reads no literal beyond its terminator. -/
def Confined : NvsCall → Prop
  | .write size count => count ≤ size
  | .load literal count => count ≤ literal.text.length + 1
  | _ => True

/-- Every access of a program is confined. -/
abbrev RunsConfined {α : Type} (program : NvsProgram α) (store : Store) : Prop :=
  Program.EachRequest Store.handle Confined program store

/-! ## Conditions -/

/-- What is stored under the key of a filter fits its array. -/
def BlobFits (store : Store) (ns key : String) (room : Nat) : Prop :=
  match store.get ns key with
  | some (.blob data) => data.length ≤ room
  | some (.num _ _) | some (.str _) | none => True

/-- The string that is stored fits the array, and a default that takes its place
reaches to the end of the array. -/
def StringFits (store : Store) (ns key : String) (room : Nat) (defValue : Literal) : Prop :=
  match store.get ns key with
  | some (.str string) => string.length + 1 ≤ room
  | none => room ≤ defValue.text.length + 1
  | some (.num _ _) | some (.blob _) => True

/-- Loading a string ends without an error. -/
def StringLoads (store : Store) (ns key : String) : Prop :=
  store.Has ns ∧
    match store.get ns key with
    | some (.str _) | none => True
    | some (.num _ _) | some (.blob _) => False

/-- Strings are loaded one after the other until one of them fails. -/
def AddressesFit (store : Store) : List (String × Literal) → Prop
  | [] => True
  | (key, defValue) :: rest =>
      StringFits store wifiNs key addressSz defValue ∧
        (StringLoads store wifiNs key → AddressesFit store rest)

/-! ## Getters -/

section Getters

variable {store : Store} {ns key : String}

theorem runsConfined_espErrorCheck (err : EspErr) : RunsConfined (espErrorCheck err) store := by
  rw [espErrorCheck]
  split
  · exact Program.eachRequest_pure () store
  · rw [RunsConfined, Program.eachRequest_bind_iff]
    simp [Confined]

theorem runsConfined_memcpy_iff {dst src : List UInt8} {count : Nat}
    (readable : count ≤ src.length) :
    RunsConfined (memcpy dst src count) store ↔ count ≤ dst.length := by
  simp [memcpy, RunsConfined, Program.eachRequest_bind_iff, Confined, Store.access, readable]

theorem runsConfined_memcpyLiteral_iff {dst : List UInt8} {src : Literal} {count : Nat} :
    RunsConfined (memcpyLiteral dst src count) store ↔
      count ≤ src.text.length + 1 ∧ count ≤ dst.length := by
  simp [memcpyLiteral, RunsConfined, Program.eachRequest_bind_iff, Confined]

theorem runsConfined_nvsGetArray_iff {value defValue : List UInt8} {sz defSz : Nat}
    (fits : defSz ≤ value.length) (readable : defSz ≤ defValue.length) :
    RunsConfined (nvsGetArray ns key value sz defValue defSz) store ↔
      BlobFits store ns key value.length := by
  have copied : RunsConfined (memcpy value defValue defSz) store :=
    (runsConfined_memcpy_iff readable).mpr fits
  rw [RunsConfined] at copied ⊢
  rw [BlobFits]
  cases stored : store.get ns key with
  | none =>
      by_cases has : store.Has ns
      · simp [nvsGetArray, Program.eachRequest_bind_iff,
          Store.handle_open_readonly_of_has has, Store.blob_of_absent stored, Except.map,
          Confined, copied]
      · simp [nvsGetArray, Program.eachRequest_bind_iff,
          Store.handle_open_readonly_of_not_has has, Confined, copied]
  | some value =>
      have has := Store.has_of_get stored
      cases value with
      | blob data =>
          simp [nvsGetArray, Program.eachRequest_bind_iff,
            Store.handle_open_readonly_of_has has, Store.blob_of_get stored, Except.map,
            Store.sized, Confined]
      | num type number =>
          simp [nvsGetArray, Program.eachRequest_bind_iff,
            Store.handle_open_readonly_of_has has, Store.blob, Store.entry, stored, Except.map,
            Confined]
      | str string =>
          simp [nvsGetArray, Program.eachRequest_bind_iff,
            Store.handle_open_readonly_of_has has, Store.blob, Store.entry, stored, Except.map,
            Confined]

theorem runsConfined_nvsGetString_iff {outValue : List UInt8} {defValue : Literal}
    {room : Nat} (sized : outValue.length = room) :
    RunsConfined (nvsGetString ns key outValue defValue room) store ↔
      StringFits store ns key room defValue := by
  subst sized
  have copied : RunsConfined (memcpyLiteral outValue defValue outValue.length) store ↔
      outValue.length ≤ defValue.text.length + 1 := by
    rw [runsConfined_memcpyLiteral_iff, and_iff_left (Nat.le_refl _)]
  rw [RunsConfined] at copied ⊢
  rw [StringFits]
  cases stored : store.get ns key with
  | none =>
      by_cases has : store.Has ns
      · simp [nvsGetString, Program.eachRequest_bind_iff,
          Store.handle_open_readonly_of_has has, Store.str_of_absent stored, Except.map,
          Confined, copied]
      · simp [nvsGetString, Program.eachRequest_bind_iff,
          Store.handle_open_readonly_of_not_has has, Store.str, Store.entry, Except.map,
          Confined, copied]
  | some value =>
      have has := Store.has_of_get stored
      cases value with
      | str string =>
          simp [nvsGetString, Program.eachRequest_bind_iff,
            Store.handle_open_readonly_of_has has, Store.str_of_get stored, Except.map,
            Store.sized, Confined, CString.length]
      | num type number =>
          simp [nvsGetString, Program.eachRequest_bind_iff,
            Store.handle_open_readonly_of_has has, Store.str, Store.entry, stored, Except.map,
            Confined]
      | blob data =>
          simp [nvsGetString, Program.eachRequest_bind_iff,
            Store.handle_open_readonly_of_has has, Store.str, Store.entry, stored, Except.map,
            Confined]

end Getters

/-! ## Loaders -/

section Loaders

variable {store : Store} {key : String}

theorem runsConfined_wifiSnifferNvsGetFilterMac_iff :
    RunsConfined (wifiSnifferNvsGetFilterMac key) store ↔ BlobFits store snifferNs key 6 := by
  rw [wifiSnifferNvsGetFilterMac, RunsConfined, Program.eachRequest_bind_iff_left]
  · exact runsConfined_nvsGetArray_iff (Nat.zero_le 6) (Nat.zero_le 6)
  · rintro ⟨err, addr, size⟩ middle
    rw [Program.eachRequest_bind_iff_left]
    · exact runsConfined_espErrorCheck err
    · exact fun _ middle => Program.eachRequest_pure _ middle

/-- The number of bytes that is handed on is that of a stored filter. -/
theorem size_le_of_wifiSnifferNvsGetFilterMac {addrFilter : AddrFilter} {next : Store}
    (ran : (wifiSnifferNvsGetFilterMac key).run Store.handle store = .ok (addrFilter, next)) :
    addrFilter.size ≤ 6 := by
  rcases filterEntry_of_run ran with ⟨data, entry⟩
  rw [run_wifiSnifferNvsGetFilterMac entry] at ran
  cases ran
  exact entry.1

theorem runsConfined_getCredential_iff {room sz : Nat} {value : List UInt8}
    {defValue : Literal} :
    RunsConfined (getCredential room key value defValue sz) store ↔
      StringFits store wifiNs key room defValue := by
  rw [getCredential, RunsConfined, Program.eachRequest_bind_iff_left]
  · exact runsConfined_nvsGetString_iff List.length_replicate
  · rintro ⟨err, v⟩ middle
    rw [Program.eachRequest_bind_iff_left]
    · exact runsConfined_espErrorCheck err
    · intro _ middle
      simp [strncpy, Program.eachRequest_bind_iff, Confined]

theorem runsConfined_getAddress_iff {defValue : Literal} :
    RunsConfined (getAddress key defValue) store ↔
      StringFits store wifiNs key addressSz defValue := by
  rw [getAddress, RunsConfined, Program.eachRequest_bind_iff_left]
  · exact runsConfined_nvsGetString_iff List.length_replicate
  · rintro ⟨err, address⟩ middle
    rw [Program.eachRequest_bind_iff_left]
    · exact runsConfined_espErrorCheck err
    · exact fun _ middle => Program.eachRequest_pure _ middle

/-- A string that fits and loads without an error is a setting. -/
theorem StringLoads.entry {room : Nat} {defValue : Literal} (loads : StringLoads store wifiNs key)
    (fits : StringFits store wifiNs key room defValue) :
    ∃ string, StringEntry store key room defValue string := by
  rcases loads with ⟨has, loads⟩
  rw [StringFits] at fits
  cases stored : store.get wifiNs key with
  | none => exact ⟨defValue.text, has, .inr ⟨stored, rfl⟩⟩
  | some value =>
      rw [stored] at fits loads
      cases value with
      | str string => exact ⟨string, has, .inl ⟨stored, fits⟩⟩
      | num type number => exact loads.elim
      | blob data => exact loads.elim

theorem StringEntry.loads {room : Nat} {defValue : Literal} {string : CString}
    (entry : StringEntry store key room defValue string) : StringLoads store wifiNs key := by
  rcases entry with ⟨has, ⟨stored, _⟩ | ⟨absent, _⟩⟩
  · exact ⟨has, by rw [stored]; trivial⟩
  · exact ⟨has, by rw [absent]; trivial⟩

/-- What follows an address is reached only if the address loads. -/
theorem runsConfined_getAddress_bind_iff {α : Type} {defValue : Literal}
    {next : List UInt8 → NvsProgram α} {condition : Prop}
    (rest : ∀ address, RunsConfined (next address) store ↔ condition) :
    RunsConfined (getAddress key defValue >>= next) store ↔
      StringFits store wifiNs key addressSz defValue ∧
        (StringLoads store wifiNs key → condition) := by
  rw [RunsConfined, Program.eachRequest_bind_iff]
  have first : Program.EachRequest Store.handle Confined (getAddress key defValue) store ↔
      StringFits store wifiNs key addressSz defValue := runsConfined_getAddress_iff
  rw [first]
  apply and_congr_right
  intro fits
  by_cases loads : StringLoads store wifiNs key
  · rcases loads.entry fits with ⟨string, entry⟩
    rcases run_getAddress entry with ⟨address, ran, _⟩
    rw [ran]
    simpa [loads] using rest address
  · refine iff_of_true ?_ fun loaded => absurd loaded loads
    intro address middle ran
    rcases stringEntry_of_run_getAddress ran with ⟨string, entry⟩
    exact absurd entry.loads loads

variable {ipaddrAddr : CString → UInt32} {defaults : WifiDefaults}

theorem runsConfined_wifiNvsGetStaticIpInfo_iff :
    RunsConfined (wifiNvsGetStaticIpInfo ipaddrAddr defaults) store ↔
      AddressesFit store
        [(ipKey, defaults.staticIpAddr), (netmaskKey, defaults.staticNetmaskAddr),
          (gwKey, defaults.staticGwAddr)] := by
  apply runsConfined_getAddress_bind_iff
  intro ipAddress
  apply runsConfined_getAddress_bind_iff
  intro netmask
  apply runsConfined_getAddress_bind_iff
  intro gw
  exact iff_of_true (Program.eachRequest_pure _ store) trivial

theorem runsConfined_wifiNvsGetDnsServers_iff :
    RunsConfined (wifiNvsGetDnsServers ipaddrAddr defaults) store ↔
      AddressesFit store
        [(dns1Key, defaults.mainDnsServer), (dns2Key, defaults.backupDnsServer)] := by
  apply runsConfined_getAddress_bind_iff
  intro primaryDns
  apply runsConfined_getAddress_bind_iff
  intro secondDns
  exact iff_of_true (Program.eachRequest_pure _ store) trivial

end Loaders

/-! ## All loaders -/

/-- The settings that are loaded: the key of a filter, those of a name and a password
with their defaults, and the defaults of the addresses. -/
structure LoadedSettings where
  filterKey : String
  ssidKey : String
  ssidDefault : Literal
  ssidPwKey : String
  ssidPwDefault : Literal
  defaults : WifiDefaults

/-- Every loader stays within its arrays and the default strings, and a filter that is
loaded has at most six bytes. -/
structure LoadsConfined (ipaddrAddr : CString → UInt32) (settings : LoadedSettings)
    (store : Store) : Prop where
  filterMac : RunsConfined (wifiSnifferNvsGetFilterMac settings.filterKey) store
  filterSize : ∀ addrFilter next,
    (wifiSnifferNvsGetFilterMac settings.filterKey).run Store.handle store =
      .ok (addrFilter, next) → addrFilter.size ≤ 6
  ssid : ∀ value sz,
    RunsConfined (wifiNvsGetSsid settings.ssidKey value settings.ssidDefault sz) store
  ssidPw : ∀ value sz,
    RunsConfined (wifiNvsGetSsidPw settings.ssidPwKey value settings.ssidPwDefault sz) store
  staticIpInfo : RunsConfined (wifiNvsGetStaticIpInfo ipaddrAddr settings.defaults) store
  dnsServers : RunsConfined (wifiNvsGetDnsServers ipaddrAddr settings.defaults) store

/-- What is stored fits the arrays it is loaded to, and so do the defaults of what is
not stored, to the byte. -/
structure SettingsFit (settings : LoadedSettings) (store : Store) : Prop where
  filterMac : BlobFits store snifferNs settings.filterKey 6
  ssid : StringFits store wifiNs settings.ssidKey ssidSz settings.ssidDefault
  ssidPw : StringFits store wifiNs settings.ssidPwKey ssidPassSz settings.ssidPwDefault
  staticIpInfo : AddressesFit store
    [(ipKey, settings.defaults.staticIpAddr), (netmaskKey, settings.defaults.staticNetmaskAddr),
      (gwKey, settings.defaults.staticGwAddr)]
  dnsServers : AddressesFit store
    [(dns1Key, settings.defaults.mainDnsServer), (dns2Key, settings.defaults.backupDnsServer)]

/-- Loading is safe exactly for the contents of the flash that fit. -/
theorem loadsConfined_iff (ipaddrAddr : CString → UInt32) (settings : LoadedSettings)
    (store : Store) : LoadsConfined ipaddrAddr settings store ↔ SettingsFit settings store := by
  constructor
  · intro confined
    constructor
    · exact runsConfined_wifiSnifferNvsGetFilterMac_iff.mp confined.filterMac
    · exact runsConfined_getCredential_iff.mp (confined.ssid [] 0)
    · exact runsConfined_getCredential_iff.mp (confined.ssidPw [] 0)
    · exact runsConfined_wifiNvsGetStaticIpInfo_iff.mp confined.staticIpInfo
    · exact runsConfined_wifiNvsGetDnsServers_iff.mp confined.dnsServers
  · intro fit
    constructor
    · exact runsConfined_wifiSnifferNvsGetFilterMac_iff.mpr fit.filterMac
    · exact fun _ _ => size_le_of_wifiSnifferNvsGetFilterMac
    · exact fun _ _ => runsConfined_getCredential_iff.mpr fit.ssid
    · exact fun _ _ => runsConfined_getCredential_iff.mpr fit.ssidPw
    · exact runsConfined_wifiNvsGetStaticIpInfo_iff.mpr fit.staticIpInfo
    · exact runsConfined_wifiNvsGetDnsServers_iff.mpr fit.dnsServers

/-- On erased flash, the default name takes less room than the array that is filled
from it. -/
theorem not_loadsConfined_erased :
    ¬ LoadsConfined (fun _ => ipaddrNone)
      ⟨addr2Key, apSsidKey, WifiDefaults.kconfig.apSsid, apSsidPwKey,
        WifiDefaults.kconfig.apSsidPw, .kconfig⟩ .empty := by
  intro confined
  have fits : ssidSz ≤ WifiDefaults.kconfig.apSsid.text.length + 1 :=
    runsConfined_getCredential_iff.mp (confined.ssid [] 0)
  exact absurd fits (by decide)

end WifiSniffer.Settings
