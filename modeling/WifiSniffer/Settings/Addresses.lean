import WifiSniffer.Effect.Rules
import WifiSniffer.Settings.Wifi

/-!
# Stored addresses

The static addresses and the DNS servers after a setter, as their getters read them
back.  A setter compares parsed addresses and writes only what differs, so an old text
may stay that stands for the same address.
-/

namespace WifiSniffer.Settings

open WifiSniffer.Bytes WifiSniffer.Effect WifiSniffer.Nvs
open Program (Guarantees)

/-- A getter comes through and gives the value. -/
def ReadsBack {α : Type} (get : NvsProgram α) (store : Store) (value : α) : Prop :=
  ∃ last, get.run Store.handle store = .ok (value, last)

/-- The text of an address in an array, which the array of a getter has room for. -/
structure AddressText (array : List UInt8) : Prop where
  terminated : strlenReads array ≤ array.length
  fits : (CString.ofArray array).length + 1 ≤ addressSz

/-! ## One address -/

section Address

variable {ipaddrAddr : CString → UInt32} {store : Store} {key : String} {defValue : Literal}

/-- The setting under a key stands for an address. -/
def AddressEntry (ipaddrAddr : CString → UInt32) (store : Store) (key : String)
    (defValue : Literal) (addr : UInt32) : Prop :=
  ∃ string, StringEntry store key addressSz defValue string ∧
    ipaddrAddr (string.take addressSz) = addr

theorem AddressEntry.of_get_eq {other : Store} {addr : UInt32} (has : other.Has wifiNs)
    (entry : AddressEntry ipaddrAddr store key defValue addr)
    (get_eq : other.get wifiNs key = store.get wifiNs key) :
    AddressEntry ipaddrAddr other key defValue addr := by
  rcases entry with ⟨string, ⟨_, setting⟩, parsed⟩
  exact ⟨string, ⟨has, setting.of_get_eq get_eq⟩, parsed⟩

/-- A text that has been stored stands for what it is parsed to. -/
theorem addressEntry_of_set {array : List UInt8} (has : store.Has wifiNs)
    (text : AddressText array)
    (stored : store.get wifiNs key = some (.str (CString.ofArray array))) :
    AddressEntry ipaddrAddr store key defValue (ipaddrAddr (CString.ofArray array)) := by
  refine ⟨CString.ofArray array, ⟨has, .inl ⟨stored, text.fits⟩⟩, ?_⟩
  rw [CString.take_of_length_le (Nat.le_of_succ_le text.fits)]

/-- Where nothing has been stored, the default stands. -/
theorem addressEntry_of_absent (has : store.Has wifiNs) (absent : store.get wifiNs key = none) :
    AddressEntry ipaddrAddr store key defValue (ipaddrAddr (defValue.text.take addressSz)) :=
  ⟨defValue.text, ⟨has, .inr ⟨absent, rfl⟩⟩, rfl⟩

variable (ipaddrAddr) in
theorem addressEntry_of_run {address : List UInt8} {last : Store}
    (ran : (getAddress key defValue).run Store.handle store = .ok (address, last)) :
    last = store ∧
      AddressEntry ipaddrAddr store key defValue (ipaddrAddr (CString.ofArray address)) := by
  rcases stringEntry_of_run_getAddress ran with ⟨string, entry⟩
  rcases run_getAddress entry with ⟨_, ran', address_eq⟩
  rw [ran'] at ran
  cases ran
  exact ⟨rfl, string, entry, congrArg ipaddrAddr address_eq.symm⟩

theorem run_getAddress_of_addressEntry {addr : UInt32}
    (entry : AddressEntry ipaddrAddr store key defValue addr) :
    ∃ address, (getAddress key defValue).run Store.handle store = .ok (address, store) ∧
      ipaddrAddr (CString.ofArray address) = addr := by
  rcases entry with ⟨string, entry, parsed⟩
  rcases run_getAddress entry with ⟨address, ran, address_eq⟩
  exact ⟨address, ran, (congrArg ipaddrAddr address_eq).trans parsed⟩

theorem run_setAddress {address : List UInt8}
    (terminated : strlenReads address ≤ address.length) :
    (setAddress key address).run Store.handle store =
      .ok ((), store.set wifiNs key (.str (CString.ofArray address))) := by
  rw [setAddress, Program.run_bind_of_ok _ (run_nvsSetString terminated), run_espErrorCheck_ok]

end Address

/-! ## The getters -/

section Get

variable {ipaddrAddr : CString → UInt32} {defaults : WifiDefaults} {store : Store}

/-- The stored static addresses. -/
structure StaticIpEntry (ipaddrAddr : CString → UInt32) (defaults : WifiDefaults) (store : Store)
    (info : IpInfo) : Prop where
  ip : AddressEntry ipaddrAddr store ipKey defaults.staticIpAddr info.ip
  netmask : AddressEntry ipaddrAddr store netmaskKey defaults.staticNetmaskAddr info.netmask
  gw : AddressEntry ipaddrAddr store gwKey defaults.staticGwAddr info.gw

/-- The stored DNS servers. -/
structure DnsServersEntry (ipaddrAddr : CString → UInt32) (defaults : WifiDefaults)
    (store : Store) (dns : DnsServersInfo) : Prop where
  primary : AddressEntry ipaddrAddr store dns1Key defaults.mainDnsServer dns.primaryDns
  secondery : AddressEntry ipaddrAddr store dns2Key defaults.backupDnsServer dns.seconderyDns

theorem run_wifiNvsGetStaticIpInfo_iff {ip : IpInfo} {last : Store} :
    (wifiNvsGetStaticIpInfo ipaddrAddr defaults).run Store.handle store = .ok (ip, last) ↔
      last = store ∧ StaticIpEntry ipaddrAddr defaults store ip := by
  constructor
  · intro ran
    rcases (Program.run_bind_eq_ok_iff _).mp ran with ⟨ipAddress, _, gotIp, afterIp⟩
    rcases addressEntry_of_run ipaddrAddr gotIp with ⟨rfl, ipEntry⟩
    rcases (Program.run_bind_eq_ok_iff _).mp afterIp with ⟨netmask, _, gotNetmask, afterNetmask⟩
    rcases addressEntry_of_run ipaddrAddr gotNetmask with ⟨rfl, netmaskEntry⟩
    rcases (Program.run_bind_eq_ok_iff _).mp afterNetmask with ⟨gw, _, gotGw, ended⟩
    rcases addressEntry_of_run ipaddrAddr gotGw with ⟨rfl, gwEntry⟩
    cases ended
    exact ⟨rfl, ipEntry, netmaskEntry, gwEntry⟩
  · rintro ⟨rfl, ⟨ipEntry, netmaskEntry, gwEntry⟩⟩
    rcases run_getAddress_of_addressEntry ipEntry with ⟨ipAddress, gotIp, ip_eq⟩
    rcases run_getAddress_of_addressEntry netmaskEntry with ⟨netmask, gotNetmask, netmask_eq⟩
    rcases run_getAddress_of_addressEntry gwEntry with ⟨gw, gotGw, gw_eq⟩
    rw [wifiNvsGetStaticIpInfo, Program.run_bind_of_ok _ gotIp,
      Program.run_bind_of_ok _ gotNetmask, Program.run_bind_of_ok _ gotGw, convertToIpInfo,
      ip_eq, netmask_eq, gw_eq, Program.run_pure]

theorem run_wifiNvsGetDnsServers_iff {dns : DnsServersInfo} {last : Store} :
    (wifiNvsGetDnsServers ipaddrAddr defaults).run Store.handle store = .ok (dns, last) ↔
      last = store ∧ DnsServersEntry ipaddrAddr defaults store dns := by
  constructor
  · intro ran
    rcases (Program.run_bind_eq_ok_iff _).mp ran with ⟨primaryDns, _, gotPrimary, afterPrimary⟩
    rcases addressEntry_of_run ipaddrAddr gotPrimary with ⟨rfl, primaryEntry⟩
    rcases (Program.run_bind_eq_ok_iff _).mp afterPrimary with ⟨secondDns, _, gotSecond, ended⟩
    rcases addressEntry_of_run ipaddrAddr gotSecond with ⟨rfl, secondEntry⟩
    cases ended
    exact ⟨rfl, primaryEntry, secondEntry⟩
  · rintro ⟨rfl, ⟨primaryEntry, secondEntry⟩⟩
    rcases run_getAddress_of_addressEntry primaryEntry with ⟨primaryDns, gotPrimary, primary_eq⟩
    rcases run_getAddress_of_addressEntry secondEntry with ⟨secondDns, gotSecond, second_eq⟩
    rw [wifiNvsGetDnsServers, Program.run_bind_of_ok _ gotPrimary,
      Program.run_bind_of_ok _ gotSecond, convertToDnsServers, primary_eq, second_eq,
      Program.run_pure]

theorem readsBack_staticIp_iff {ip : IpInfo} :
    ReadsBack (wifiNvsGetStaticIpInfo ipaddrAddr defaults) store ip ↔
      StaticIpEntry ipaddrAddr defaults store ip := by
  simp [ReadsBack, run_wifiNvsGetStaticIpInfo_iff]

theorem readsBack_dnsServers_iff {dns : DnsServersInfo} :
    ReadsBack (wifiNvsGetDnsServers ipaddrAddr defaults) store dns ↔
      DnsServersEntry ipaddrAddr defaults store dns := by
  simp [ReadsBack, run_wifiNvsGetDnsServers_iff]

end Get

/-! ## The setters -/

section Set

variable {ipaddrAddr : CString → UInt32} {defaults : WifiDefaults} {store : Store}

/-- Static addresses have been set: valid ones are read back, others change nothing that
is read, and the other settings stay. -/
structure SetsStaticIp (ipaddrAddr : CString → UInt32) (defaults : WifiDefaults) (given : IpInfo)
    (store next : Store) : Prop where
  valid : wifiIsValidIpInfo given = true →
    ReadsBack (wifiNvsGetStaticIpInfo ipaddrAddr defaults) next given
  invalid : wifiIsValidIpInfo given = false → ∀ prev,
    ReadsBack (wifiNvsGetStaticIpInfo ipaddrAddr defaults) store prev →
      ReadsBack (wifiNvsGetStaticIpInfo ipaddrAddr defaults) next prev
  others : ∀ key, key ∉ [ipKey, netmaskKey, gwKey] → next.get wifiNs key = store.get wifiNs key

/-- What is in force after a DNS server has been given: the server if there is one, or
else the one before. -/
def dnsServerOr (ipaddrAddr : CString → UInt32) (dns : List UInt8) (prev : UInt32) : UInt32 :=
  let given := CString.ofArray dns
  if given.length ≠ 0 ∧ wifiIsValidIp (ipaddrAddr given) then ipaddrAddr given else prev

/-- DNS servers have been set, each for itself, and the other settings stay. -/
structure SetsDnsServers (ipaddrAddr : CString → UInt32) (defaults : WifiDefaults)
    (primaryDns secondDns : List UInt8) (store next : Store) : Prop where
  reads : ∃ prev, ReadsBack (wifiNvsGetDnsServers ipaddrAddr defaults) store prev ∧
    ReadsBack (wifiNvsGetDnsServers ipaddrAddr defaults) next
      ⟨dnsServerOr ipaddrAddr primaryDns prev.primaryDns,
        dnsServerOr ipaddrAddr secondDns prev.seconderyDns⟩
  others : ∀ key, key ∉ [dns1Key, dns2Key] → next.get wifiNs key = store.get wifiNs key

variable {ipAddress netmask gw : List UInt8}

/-- Three texts that have been stored are read back as what they are parsed to. -/
theorem staticIpEntry_set (ipText : AddressText ipAddress) (netmaskText : AddressText netmask)
    (gwText : AddressText gw) :
    StaticIpEntry ipaddrAddr defaults
      (((store.set wifiNs ipKey (.str (CString.ofArray ipAddress))).set wifiNs netmaskKey
        (.str (CString.ofArray netmask))).set wifiNs gwKey (.str (CString.ofArray gw)))
      (convertToIpInfo ipaddrAddr ipAddress netmask gw) where
  ip := addressEntry_of_set (Store.has_set _ _ _ _) ipText (by
    rw [Store.get_set_of_ne _ _ _ (by decide), Store.get_set_of_ne _ _ _ (by decide),
      Store.get_set_self])
  netmask := addressEntry_of_set (Store.has_set _ _ _ _) netmaskText (by
    rw [Store.get_set_of_ne _ _ _ (by decide), Store.get_set_self])
  gw := addressEntry_of_set (Store.has_set _ _ _ _) gwText (Store.get_set_self _ _ _ _)

theorem guarantees_wifiNvsSetStaticIpInfo (ipText : AddressText ipAddress)
    (netmaskText : AddressText netmask) (gwText : AddressText gw) :
    Guarantees Store.handle (wifiNvsSetStaticIpInfo ipaddrAddr defaults ipAddress netmask gw) store
      fun _ next =>
        SetsStaticIp ipaddrAddr defaults (convertToIpInfo ipaddrAddr ipAddress netmask gw) store
          next := by
  intro value next ran
  rw [wifiNvsSetStaticIpInfo] at ran
  cases valid : wifiIsValidIpInfo (convertToIpInfo ipaddrAddr ipAddress netmask gw) with
  | false =>
      rw [if_neg (by simp [valid])] at ran
      cases ran
      exact ⟨fun other => absurd valid (by simp [other]), fun _ _ reads => reads, fun _ _ => rfl⟩
  | true =>
      rw [if_pos valid] at ran
      rcases (Program.run_bind_eq_ok_iff _).mp ran with ⟨prev, _, got, written⟩
      rcases run_wifiNvsGetStaticIpInfo_iff.mp got with ⟨rfl, entry⟩
      split at written
      · rw [Program.run_bind_of_ok _ (run_setAddress ipText.terminated),
          Program.run_bind_of_ok _ (run_setAddress netmaskText.terminated),
          run_setAddress gwText.terminated] at written
        cases written
        refine ⟨fun _ => readsBack_staticIp_iff.mpr (staticIpEntry_set ipText netmaskText gwText),
          fun other => absurd valid (by simp [other]), ?_⟩
        intro key other
        simp only [List.mem_cons, List.not_mem_nil, or_false, not_or] at other
        rw [Store.get_set_of_ne _ _ _ other.2.2, Store.get_set_of_ne _ _ _ other.2.1,
          Store.get_set_of_ne _ _ _ other.1]
      · rename_i same
        cases written
        refine ⟨fun _ => ?_, fun other => absurd valid (by simp [other]), fun _ _ => rfl⟩
        rw [not_ne_iff.mp same]
        exact readsBack_staticIp_iff.mpr entry

/-- The setter comes through wherever the getter does. -/
theorem run_wifiNvsSetStaticIpInfo {prev : IpInfo}
    (readable : ReadsBack (wifiNvsGetStaticIpInfo ipaddrAddr defaults) store prev)
    (ipText : AddressText ipAddress) (netmaskText : AddressText netmask)
    (gwText : AddressText gw) :
    ∃ next,
      (wifiNvsSetStaticIpInfo ipaddrAddr defaults ipAddress netmask gw).run Store.handle store =
        .ok ((), next) := by
  rcases readable with ⟨last, got⟩
  rw [wifiNvsSetStaticIpInfo]
  split
  · rw [Program.run_bind_of_ok _ got]
    split
    · rw [Program.run_bind_of_ok _ (run_setAddress ipText.terminated),
        Program.run_bind_of_ok _ (run_setAddress netmaskText.terminated),
        run_setAddress gwText.terminated]
      exact ⟨_, rfl⟩
    · exact ⟨last, rfl⟩
  · exact ⟨store, rfl⟩

section Dns

variable {key : String} {defValue : Literal} {dns : List UInt8} {prev : UInt32}

theorem run_setDnsServer (entry : AddressEntry ipaddrAddr store key defValue prev)
    (text : AddressText dns) :
    ∃ next,
      (setDnsServer key dns (ipaddrAddr (CString.ofArray dns)) prev).run Store.handle store =
          .ok ((), next) ∧
        next.Has wifiNs ∧
        AddressEntry ipaddrAddr next key defValue (dnsServerOr ipaddrAddr dns prev) ∧
        ∀ other, other ≠ key → next.get wifiNs other = store.get wifiNs other := by
  have has : store.Has wifiNs := by
    rcases entry with ⟨_, entry, _⟩
    exact entry.1
  rw [setDnsServer, Program.run_bind_of_ok _ (run_strlen text.terminated), dnsServerOr]
  split
  · split
    · refine ⟨_, run_setAddress text.terminated, Store.has_set _ _ _ _, ?_, ?_⟩
      · exact addressEntry_of_set (Store.has_set _ _ _ _) text (Store.get_set_self _ _ _ _)
      · exact fun other ne => Store.get_set_of_ne store _ wifiNs ne
    · rename_i same
      rw [not_ne_iff.mp same]
      exact ⟨store, rfl, has, entry, fun _ _ => rfl⟩
  · exact ⟨store, rfl, has, entry, fun _ _ => rfl⟩

variable {primaryDns secondDns : List UInt8}

theorem run_wifiNvsSetDnsServers {prev : DnsServersInfo}
    (readable : ReadsBack (wifiNvsGetDnsServers ipaddrAddr defaults) store prev)
    (primaryText : AddressText primaryDns) (secondText : AddressText secondDns) :
    ∃ next,
      (wifiNvsSetDnsServers ipaddrAddr defaults primaryDns secondDns).run Store.handle store =
          .ok (convertToDnsServers ipaddrAddr primaryDns secondDns, next) ∧
        SetsDnsServers ipaddrAddr defaults primaryDns secondDns store next := by
  rcases readable with ⟨last, got⟩
  rcases run_wifiNvsGetDnsServers_iff.mp got with ⟨rfl, entry⟩
  rcases run_setDnsServer entry.primary primaryText with
    ⟨middle, ranPrimary, has, primaryEntry, primaryOthers⟩
  have secondEntry := entry.secondery.of_get_eq has (primaryOthers dns2Key (by decide))
  rcases run_setDnsServer secondEntry secondText with
    ⟨next, ranSecond, hasNext, secondEntry, secondOthers⟩
  refine ⟨next, ?_, ⟨prev, ⟨_, got⟩, readsBack_dnsServers_iff.mpr ⟨?_, secondEntry⟩⟩, ?_⟩
  · rw [wifiNvsSetDnsServers, Program.run_bind_of_ok _ got, convertToDnsServers,
      Program.run_bind_of_ok _ ranPrimary, Program.run_bind_of_ok _ ranSecond, Program.run_pure]
  · exact primaryEntry.of_get_eq hasNext (secondOthers dns1Key (by decide))
  · intro key other
    simp only [List.mem_cons, List.not_mem_nil, or_false, not_or] at other
    rw [secondOthers key other.2, primaryOthers key other.1]

/-- DNS servers are set only where they have been readable. -/
theorem guarantees_wifiNvsSetDnsServers (primaryText : AddressText primaryDns)
    (secondText : AddressText secondDns) :
    Guarantees Store.handle (wifiNvsSetDnsServers ipaddrAddr defaults primaryDns secondDns) store
      fun _ next => SetsDnsServers ipaddrAddr defaults primaryDns secondDns store next := by
  intro value next ran
  rcases (Program.run_bind_eq_ok_iff _).mp ran with ⟨prev, middle, got, _⟩
  rcases run_wifiNvsSetDnsServers ⟨middle, got⟩ primaryText secondText with ⟨_, ran', sets⟩
  rw [ran'] at ran
  cases ran
  exact sets

end Dns

end Set

end WifiSniffer.Settings
