import WifiSniffer.Effect.Interrupt
import WifiSniffer.Wifi.StaticIp

/-!
# Static addresses after an interruption

The three addresses are written one after the other.  A write that fails makes the
firmware abort, and the power may be lost between two of them; the next boot then reads
the addresses that have been written with the other ones as they were.
-/

namespace WifiSniffer.Wifi

open WifiSniffer.Bytes WifiSniffer.Effect WifiSniffer.Nvs WifiSniffer.Settings
open Program (Calls)

/-! ## Interruptions -/

/-- The call stores a string. -/
def storesString : NvsCall → Bool
  | .setStr _ _ _ => true
  | _ => false

/-- What takes the place of a write. -/
inductive Fault where
  | fails (err : EspErr) (failed : err ≠ .ok)
  | powerLost

/-- A failing write leaves the flash as it is, as does one that is not reached. -/
def Fault.apply (fault : Fault) :
    (call : NvsCall) → Store → Except Store (call.Response × Store)
  | .setStr _ _ _, store =>
      match fault with
      | .fails err _ => .ok (err, store)
      | .powerLost => .error store
  | _, store => .error store

/-- A handler under which writes run out. -/
def limited (fault : Fault) :
    Program.Handler NvsCall NvsCall.Response (Store × Nat) Store :=
  Program.limit storesString fault.apply Halt.store Store.handle

/-- The flash at the end of a program, or where it comes to a halt, if a fault takes the
place of the next write after so many of them. -/
def flashAfter (fault : Fault) (writes : Nat) (program : NvsProgram Unit) (store : Store) :
    Store :=
  match program.run (limited fault) (store, writes) with
  | .ok (_, (store, _)) => store
  | .error store => store

/-! ## Programs that do not write -/

section Reads

theorem reads_nvsGetString (ns key : String) (outValue : List UInt8) (defValue : Literal)
    (defValueSz : Nat) :
    Calls NvsCall.Reads (nvsGetString ns key outValue defValue defValueSz) := by
  have closed (nvs : Option Handle) (result : EspErr × List UInt8) :
      Calls NvsCall.Reads (Nvs.ask (.close nvs) >>= fun _ => pure result) :=
    Calls.bind (Program.calls_ask trivial) fun _ => Program.calls_pure _
  apply Calls.bind (Program.calls_ask trivial)
  rintro ⟨err, nvs⟩
  dsimp only
  refine Calls.ite_bind (calls_memcpyLiteral trivial trivial) (Program.calls_pure _) ?_
  intro outValue
  apply Calls.bind (Program.calls_ask trivial)
  intro found
  split
  · apply Calls.bind (Program.calls_ask trivial)
    intro got
    split
    · exact Calls.bind (Program.calls_ask trivial) fun _ => closed nvs _
    · exact closed nvs _
  · exact (calls_memcpyLiteral trivial trivial).bind fun _ => closed nvs _
  · exact closed nvs _

theorem reads_getAddress (key : String) (defValue : Literal) :
    Calls NvsCall.Reads (getAddress key defValue) := by
  apply (reads_nvsGetString _ _ _ _ _).bind
  rintro ⟨err, address⟩
  exact (calls_espErrorCheck err trivial).bind fun _ => Program.calls_pure _

theorem reads_wifiNvsGetStaticIpInfo (ipaddrAddr : CString → UInt32) (defaults : WifiDefaults) :
    Calls NvsCall.Reads (wifiNvsGetStaticIpInfo ipaddrAddr defaults) := by
  apply (reads_getAddress _ _).bind
  intro ipAddress
  apply (reads_getAddress _ _).bind
  intro netmask
  apply (reads_getAddress _ _).bind
  intro gw
  exact Program.calls_pure _

end Reads

/-! ## One write -/

section Write

variable {fault : Fault} {writes : Nat} {store : Store} {key : String} {address : List UInt8}

@[simp]
theorem limited_open (ns : String) (mode : OpenMode) :
    limited fault (.open ns mode) (store, writes) =
      Program.carry Halt.store writes (Store.handle (.open ns mode) store) :=
  rfl

@[simp]
theorem limited_close (nvs : Option Handle) :
    limited fault (.close nvs) (store, writes) =
      Program.carry Halt.store writes (Store.handle (.close nvs) store) :=
  rfl

@[simp]
theorem limited_commit (nvs : Option Handle) :
    limited fault (.commit nvs) (store, writes) =
      Program.carry Halt.store writes (Store.handle (.commit nvs) store) :=
  rfl

@[simp]
theorem limited_read (size count : Nat) :
    limited fault (.read size count) (store, writes) =
      Program.carry Halt.store writes (Store.handle (.read size count) store) :=
  rfl

@[simp]
theorem limited_abort (err : EspErr) :
    limited fault (.abort err) (store, writes) =
      Program.carry Halt.store writes (Store.handle (.abort err) store) :=
  rfl

@[simp]
theorem limited_setStr (nvs : Option Handle) (value : CString) :
    limited fault (.setStr nvs key value) (store, writes + 1) =
      Program.carry Halt.store writes (Store.handle (.setStr nvs key value) store) :=
  Program.limit_succ rfl

@[simp]
theorem limited_setStr_zero (nvs : Option Handle) (value : CString) :
    limited fault (.setStr nvs key value) (store, 0) =
      Program.carry id 0 (fault.apply (.setStr nvs key value) store) :=
  Program.limit_zero rfl

/-- A namespace that is there is not changed by opening it. -/
theorem create_of_has {ns : String} (has : store.Has ns) : store.create ns = store := by
  rcases Option.isSome_iff_exists.mp has with ⟨entries, entries_eq⟩
  have same : Function.update store.namespaces ns (some entries) = store.namespaces := by
    rw [← entries_eq, Function.update_eq_self]
  rw [Store.create, entries_eq, Option.getD_some, same]

/-- With credit, an address is written. -/
theorem run_limited_setAddress (terminated : strlenReads address ≤ address.length) :
    (setAddress key address).run (limited fault) (store, writes + 1) =
      .ok ((), (store.set wifiNs key (.str (CString.ofArray address)), writes)) := by
  simp [setAddress, nvsSetString, Program.carry, Store.access, terminated, espErrorCheck]

/-- Without, the flash stays as it is. -/
theorem run_limited_setAddress_zero (has : store.Has wifiNs)
    (terminated : strlenReads address ≤ address.length) :
    (setAddress key address).run (limited fault) (store, 0) = .error store := by
  cases fault with
  | fails err failed =>
      simp [setAddress, nvsSetString, Program.carry, Store.access, terminated, espErrorCheck,
        Fault.apply, failed, create_of_has has]
  | powerLost =>
      simp [setAddress, nvsSetString, Program.carry, Store.access, terminated, Fault.apply,
        create_of_has has]

end Write

/-! ## Three writes -/

section Triple

variable {ipaddrAddr : CString → UInt32} {defaults : WifiDefaults} {store : Store}
  {ipAddress netmask gw : List UInt8} {old given : IpInfo} {fault : Fault} {writes : Nat}

/-- The addresses of which the first ones have been written. -/
def mixed (old given : IpInfo) (writes : Nat) : IpInfo where
  ip := if 1 ≤ writes then given.ip else old.ip
  netmask := if 2 ≤ writes then given.netmask else old.netmask
  gw := if 3 ≤ writes then given.gw else old.gw

theorem mixed_self (old : IpInfo) (writes : Nat) : mixed old old writes = old := by
  simp only [mixed, ite_self]

/-- The flash after the first writes. -/
def written (store : Store) (ipAddress netmask gw : List UInt8) : Nat → Store
  | 0 => store
  | 1 => store.set wifiNs ipKey (.str (CString.ofArray ipAddress))
  | 2 => (store.set wifiNs ipKey (.str (CString.ofArray ipAddress))).set wifiNs netmaskKey
      (.str (CString.ofArray netmask))
  | _ + 3 => ((store.set wifiNs ipKey (.str (CString.ofArray ipAddress))).set wifiNs netmaskKey
      (.str (CString.ofArray netmask))).set wifiNs gwKey (.str (CString.ofArray gw))

/-- What has been written is read, and what has not been is read as before. -/
theorem staticIpEntry_written (entry : StaticIpEntry ipaddrAddr defaults store old)
    (ipText : AddressText ipAddress) (netmaskText : AddressText netmask)
    (gwText : AddressText gw) :
    StaticIpEntry ipaddrAddr defaults (written store ipAddress netmask gw writes)
      (mixed old (convertToIpInfo ipaddrAddr ipAddress netmask gw) writes) := by
  rcases writes with _ | _ | _ | writes
  · exact entry
  · refine ⟨addressEntry_of_set (Store.has_set _ _ _ _) ipText (Store.get_set_self _ _ _ _),
      entry.netmask.of_get_eq (Store.has_set _ _ _ _) ?_,
      entry.gw.of_get_eq (Store.has_set _ _ _ _) ?_⟩
    · exact Store.get_set_of_ne _ _ _ (by decide)
    · exact Store.get_set_of_ne _ _ _ (by decide)
  · refine ⟨addressEntry_of_set (Store.has_set _ _ _ _) ipText ?_,
      addressEntry_of_set (Store.has_set _ _ _ _) netmaskText (Store.get_set_self _ _ _ _),
      entry.gw.of_get_eq (Store.has_set _ _ _ _) ?_⟩
    · change (written store ipAddress netmask gw 2).get wifiNs ipKey = _
      rw [written, Store.get_set_of_ne _ _ _ (by decide), Store.get_set_self]
    · change (written store ipAddress netmask gw 2).get wifiNs gwKey = _
      rw [written, Store.get_set_of_ne _ _ _ (by decide),
        Store.get_set_of_ne _ _ _ (by decide)]
  · have first : 1 ≤ writes + 3 := by omega
    have second : 2 ≤ writes + 3 := by omega
    have third : 3 ≤ writes + 3 := by omega
    have complete : mixed old (convertToIpInfo ipaddrAddr ipAddress netmask gw) (writes + 3) =
        convertToIpInfo ipaddrAddr ipAddress netmask gw := by
      rw [mixed, if_pos first, if_pos second, if_pos third]
    change StaticIpEntry _ _ _ (mixed _ _ (writes + 3))
    rw [complete]
    exact staticIpEntry_set ipText netmaskText gwText

/-- The getter, which the setter begins with, writes nothing. -/
theorem run_limited_getStaticIp (entry : StaticIpEntry ipaddrAddr defaults store old) :
    (wifiNvsGetStaticIpInfo ipaddrAddr defaults).run (limited fault) (store, writes) =
      .ok (old, (store, writes)) := by
  have harmless : Calls (fun call => storesString call = false)
      (wifiNvsGetStaticIpInfo ipaddrAddr defaults) :=
    (reads_wifiNvsGetStaticIpInfo ipaddrAddr defaults).mono fun call reads => by
      cases call with
      | setStr nvs key value => exact reads.elim
      | _ => rfl
  rw [limited, Program.run_limit_of_calls harmless,
    run_wifiNvsGetStaticIpInfo_iff.mpr ⟨rfl, entry⟩]
  rfl

/-- Where the setter stops. -/
theorem flashAfter_wifiNvsSetStaticIpInfo (entry : StaticIpEntry ipaddrAddr defaults store old)
    (valid : wifiIsValidIpInfo (convertToIpInfo ipaddrAddr ipAddress netmask gw) = true)
    (differs : convertToIpInfo ipaddrAddr ipAddress netmask gw ≠ old)
    (ipText : AddressText ipAddress) (netmaskText : AddressText netmask)
    (gwText : AddressText gw) :
    flashAfter fault writes
        (wifiNvsSetStaticIpInfo ipaddrAddr defaults ipAddress netmask gw) store =
      written store ipAddress netmask gw writes := by
  have has : store.Has wifiNs := by
    rcases entry.ip with ⟨_, entry, _⟩
    exact entry.1
  rw [flashAfter, wifiNvsSetStaticIpInfo, if_pos valid,
    Program.run_bind_of_ok _ (run_limited_getStaticIp entry), if_pos differs]
  rcases writes with _ | _ | _ | writes
  · rw [Program.run_bind, run_limited_setAddress_zero has ipText.terminated]
    rfl
  · rw [Program.run_bind_of_ok _ (run_limited_setAddress ipText.terminated), Program.run_bind,
      run_limited_setAddress_zero (Store.has_set _ _ _ _) netmaskText.terminated]
    rfl
  · rw [Program.run_bind_of_ok _ (run_limited_setAddress ipText.terminated),
      Program.run_bind_of_ok _ (run_limited_setAddress netmaskText.terminated),
      run_limited_setAddress_zero (Store.has_set _ _ _ _) gwText.terminated]
    rfl
  · rw [Program.run_bind_of_ok _ (run_limited_setAddress ipText.terminated),
      Program.run_bind_of_ok _ (run_limited_setAddress netmaskText.terminated),
      run_limited_setAddress gwText.terminated]
    rfl

/-- The same addresses again are not written. -/
theorem flashAfter_of_eq (entry : StaticIpEntry ipaddrAddr defaults store old)
    (valid : wifiIsValidIpInfo (convertToIpInfo ipaddrAddr ipAddress netmask gw) = true)
    (same : convertToIpInfo ipaddrAddr ipAddress netmask gw = old) :
    flashAfter fault writes
        (wifiNvsSetStaticIpInfo ipaddrAddr defaults ipAddress netmask gw) store = store := by
  rw [flashAfter, wifiNvsSetStaticIpInfo, if_pos valid,
    Program.run_bind_of_ok _ (run_limited_getStaticIp entry), if_neg (not_not_intro same)]
  rfl

/-- After an interruption the written addresses are read with the others as they were. -/
theorem readsBack_mixed (entry : StaticIpEntry ipaddrAddr defaults store old)
    (valid : wifiIsValidIpInfo (convertToIpInfo ipaddrAddr ipAddress netmask gw) = true)
    (ipText : AddressText ipAddress) (netmaskText : AddressText netmask)
    (gwText : AddressText gw) :
    ReadsBack (wifiNvsGetStaticIpInfo ipaddrAddr defaults)
      (flashAfter fault writes
        (wifiNvsSetStaticIpInfo ipaddrAddr defaults ipAddress netmask gw) store)
      (mixed old (convertToIpInfo ipaddrAddr ipAddress netmask gw) writes) := by
  rw [readsBack_staticIp_iff]
  by_cases same : convertToIpInfo ipaddrAddr ipAddress netmask gw = old
  · rw [flashAfter_of_eq entry valid same, same, mixed_self]
    exact entry
  · rw [flashAfter_wifiNvsSetStaticIpInfo entry valid same ipText netmaskText gwText]
    exact staticIpEntry_written entry ipText netmaskText gwText

/-- A getter gives one value. -/
theorem readsBack_iff_eq {α : Type} {get : NvsProgram α} {value other : α}
    (reads : ReadsBack get store value) : ReadsBack get store other ↔ value = other := by
  rcases reads with ⟨last, ran⟩
  rw [ReadsBack, ran]
  constructor
  · rintro ⟨_, ended⟩
    cases ended
    rfl
  · rintro rfl
    exact ⟨last, rfl⟩

theorem readsBack_flashAfter_iff
    (readable : ReadsBack (wifiNvsGetStaticIpInfo ipaddrAddr defaults) store old)
    (valid : wifiIsValidIpInfo (convertToIpInfo ipaddrAddr ipAddress netmask gw) = true)
    (ipText : AddressText ipAddress) (netmaskText : AddressText netmask)
    (gwText : AddressText gw) (fault : Fault) (writes : Nat) (result : IpInfo) :
    ReadsBack (wifiNvsGetStaticIpInfo ipaddrAddr defaults)
        (flashAfter fault writes
          (wifiNvsSetStaticIpInfo ipaddrAddr defaults ipAddress netmask gw) store) result ↔
      mixed old (convertToIpInfo ipaddrAddr ipAddress netmask gw) writes = result :=
  readsBack_iff_eq (readsBack_mixed (readsBack_staticIp_iff.mp readable) valid ipText netmaskText
    gwText)

/-- At most one of the addresses differs. -/
def ShareTwo (first second : IpInfo) : Prop :=
  first.ip = second.ip ∧ first.netmask = second.netmask ∨
    first.ip = second.ip ∧ first.gw = second.gw ∨
    first.netmask = second.netmask ∧ first.gw = second.gw

instance (first second : IpInfo) : Decidable (ShareTwo first second) :=
  inferInstanceAs (Decidable (_ ∨ _))

/-- No number of writes makes a mixture. -/
theorem mixed_iff_shareTwo :
    (∀ writes, mixed old given writes = old ∨ mixed old given writes = given) ↔
      ShareTwo given old := by
  rcases old with ⟨oldIp, oldNetmask, oldGw⟩
  rcases given with ⟨ip, netmask, gw⟩
  constructor
  · intro whole
    have first : (⟨ip, oldNetmask, oldGw⟩ : IpInfo) = ⟨oldIp, oldNetmask, oldGw⟩ ∨
        (⟨ip, oldNetmask, oldGw⟩ : IpInfo) = ⟨ip, netmask, gw⟩ := whole 1
    have second : (⟨ip, netmask, oldGw⟩ : IpInfo) = ⟨oldIp, oldNetmask, oldGw⟩ ∨
        (⟨ip, netmask, oldGw⟩ : IpInfo) = ⟨ip, netmask, gw⟩ := whole 2
    simp only [IpInfo.mk.injEq, true_and, and_true] at first second
    rcases first with ip_eq | ⟨netmask_eq, gw_eq⟩
    · rcases second with ⟨_, netmask_eq⟩ | gw_eq
      · exact .inl ⟨ip_eq, netmask_eq⟩
      · exact .inr (.inl ⟨ip_eq, gw_eq.symm⟩)
    · exact .inr (.inr ⟨netmask_eq.symm, gw_eq.symm⟩)
  · rintro share (_ | _ | _ | writes)
    · exact .inl rfl
    · change (⟨ip, oldNetmask, oldGw⟩ : IpInfo) = _ ∨ (⟨ip, oldNetmask, oldGw⟩ : IpInfo) = _
      rcases share with ⟨rfl, _⟩ | ⟨rfl, _⟩ | ⟨rfl, rfl⟩
      · exact .inl rfl
      · exact .inl rfl
      · exact .inr rfl
    · change (⟨ip, netmask, oldGw⟩ : IpInfo) = _ ∨ (⟨ip, netmask, oldGw⟩ : IpInfo) = _
      rcases share with ⟨rfl, rfl⟩ | ⟨_, rfl⟩ | ⟨_, rfl⟩
      · exact .inl rfl
      · exact .inr rfl
      · exact .inr rfl
    · right
      have first : 1 ≤ writes + 3 := by omega
      have second : 2 ≤ writes + 3 := by omega
      have third : 3 ≤ writes + 3 := by omega
      rw [mixed, if_pos first, if_pos second, if_pos third]

end Triple

/-! ## All or nothing -/

/-- Wherever the writes stop, the addresses before or the new ones are read. -/
def AllOrNothing (ipaddrAddr : CString → UInt32) (defaults : WifiDefaults) (store : Store)
    (ipAddress netmask gw : List UInt8) : Prop :=
  ∀ fault writes old, ReadsBack (wifiNvsGetStaticIpInfo ipaddrAddr defaults) store old →
    let next := flashAfter fault writes
      (wifiNvsSetStaticIpInfo ipaddrAddr defaults ipAddress netmask gw) store
    ReadsBack (wifiNvsGetStaticIpInfo ipaddrAddr defaults) next old ∨
      ReadsBack (wifiNvsGetStaticIpInfo ipaddrAddr defaults) next
        (convertToIpInfo ipaddrAddr ipAddress netmask gw)

/-- Valid addresses are stored all or nothing exactly if at most one of them differs from
the address that is in force. -/
theorem allOrNothing_iff (ipaddrAddr : CString → UInt32) (defaults : WifiDefaults)
    (store : Store) (ipAddress netmask gw : List UInt8) (ipText : AddressText ipAddress)
    (netmaskText : AddressText netmask) (gwText : AddressText gw)
    (valid : wifiIsValidIpInfo (convertToIpInfo ipaddrAddr ipAddress netmask gw) = true) :
    AllOrNothing ipaddrAddr defaults store ipAddress netmask gw ↔
      ∀ old, ReadsBack (wifiNvsGetStaticIpInfo ipaddrAddr defaults) store old →
        ShareTwo (convertToIpInfo ipaddrAddr ipAddress netmask gw) old := by
  have read_iff (old : IpInfo)
      (readable : ReadsBack (wifiNvsGetStaticIpInfo ipaddrAddr defaults) store old) :=
    readsBack_flashAfter_iff readable valid ipText netmaskText gwText
  constructor
  · intro whole old readable
    rw [← mixed_iff_shareTwo]
    intro writes
    exact (whole .powerLost writes old readable).imp (read_iff old readable _ _ _).mp
      (read_iff old readable _ _ _).mp
  · intro share fault writes old readable
    exact (mixed_iff_shareTwo.mpr (share old readable) writes).imp
      (read_iff old readable _ _ _).mpr (read_iff old readable _ _ _).mpr

/-- A text with its terminator. -/
def terminated (address : String) : List UInt8 :=
  (CString.ofString address).chars ++ [0]

theorem addressText_network (address : String)
    (member : address ∈ ["192.168.19.1", "10.0.0.1", "255.255.255.0"]) :
    AddressText (terminated address) := by
  have texts : ∀ address ∈ ["192.168.19.1", "10.0.0.1", "255.255.255.0"],
      strlenReads (terminated address) ≤ (terminated address).length ∧
        (CString.ofArray (terminated address)).length + 1 ≤ addressSz := by
    decide
  exact ⟨(texts address member).1, (texts address member).2⟩

/-- The default network is in force on flash where nothing has been stored. -/
theorem readsBack_created :
    ReadsBack (wifiNvsGetStaticIpInfo networkAddr .kconfig) (Store.empty.create wifiNs)
      ⟨0x0113a8c0, 0x00ffffff, 0x0113a8c0⟩ := by
  have absent (key : String) (defValue : Literal) :
      AddressEntry networkAddr (Store.empty.create wifiNs) key defValue
        (networkAddr (defValue.text.take addressSz)) :=
    addressEntry_of_absent (Store.has_create _ _) (Store.get_create _ _ _ _)
  exact readsBack_staticIp_iff.mpr ⟨absent _ _, absent _ _, absent _ _⟩

/-- Power is lost after the first of three writes, and the next boot takes the new address
with the old gateway. -/
theorem not_allOrNothing_network :
    ¬ AllOrNothing networkAddr .kconfig (Store.empty.create wifiNs) (terminated "10.0.0.1")
      (terminated "255.255.255.0") (terminated "10.0.0.1") := by
  intro whole
  have torn := readsBack_flashAfter_iff readsBack_created (by decide)
    (addressText_network "10.0.0.1" (by decide)) (addressText_network "255.255.255.0" (by decide))
    (addressText_network "10.0.0.1" (by decide)) .powerLost 1
  rcases whole .powerLost 1 _ readsBack_created with old | new
  · exact absurd ((torn _).mp old) (by decide)
  · exact absurd ((torn _).mp new) (by decide)

/-- The condition for that network. -/
theorem allOrNothing_network_iff :
    AllOrNothing networkAddr .kconfig (Store.empty.create wifiNs) (terminated "10.0.0.1")
        (terminated "255.255.255.0") (terminated "10.0.0.1") ↔
      ∀ old, ReadsBack (wifiNvsGetStaticIpInfo networkAddr .kconfig) (Store.empty.create wifiNs)
          old →
        ShareTwo (convertToIpInfo networkAddr (terminated "10.0.0.1")
          (terminated "255.255.255.0") (terminated "10.0.0.1")) old :=
  allOrNothing_iff networkAddr .kconfig _ _ _ _ (addressText_network _ (by decide))
    (addressText_network _ (by decide)) (addressText_network _ (by decide)) (by decide)

end WifiSniffer.Wifi
