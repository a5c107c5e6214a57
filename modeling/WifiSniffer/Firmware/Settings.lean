import WifiSniffer.Effect.Writes
import WifiSniffer.Settings.Entries
import WifiSniffer.Wifi.StaticIpWrites

/-!
# Settings

Everything that the firmware keeps in its flash, as one record, and what the setters do to
it.  Each setter makes one write, or one for each address, and none of them comes to a halt
once it has begun to write.
-/

namespace WifiSniffer.Firmware

open WifiSniffer.Bytes WifiSniffer.Effect WifiSniffer.Handler WifiSniffer.Nvs
open WifiSniffer.Settings WifiSniffer.Wifi
open Program (Asks Calls Guarantees Performs Throughout)

variable {α : Type} {ns key : String} {keys : List String} {store next : Store}

/-! ## The record -/

/-- The settings in force, and whether a boot can load them all. -/
@[ext]
structure Settings where
  mode : WifiLibMode
  channel : UInt8
  apSsid : CString
  apSsidPw : CString
  staSsid : CString
  staSsidPw : CString
  staticIp : IpInfo
  dns : DnsServersInfo
  /-- the bytes of the address filter -/
  source : List UInt8
  /-- the threshold -/
  rssi : Int8
  loads : Prop

/-- The address filter that an entry stands for. -/
def sourceOf : Option NvsValue → List UInt8
  | some (.blob data) => data
  | some (.num _ _) | some (.str _) | none => []

/-- Bytes that a filter has room for, or none. -/
def FilterLoads : Option NvsValue → Prop
  | none => True
  | some (.blob data) => data.length ≤ 6
  | some (.num _ _) | some (.str _) => False

/-- Every string and every filter can be loaded. -/
def loadsIn (store : Store) : Prop :=
  TextLoads ssidSz (store.get wifiNs apSsidKey) ∧
    TextLoads ssidPassSz (store.get wifiNs apSsidPwKey) ∧
    TextLoads ssidSz (store.get wifiNs staSsidKey) ∧
    TextLoads ssidPassSz (store.get wifiNs staSsidPwKey) ∧
    TextLoads addressSz (store.get wifiNs ipKey) ∧
    TextLoads addressSz (store.get wifiNs netmaskKey) ∧
    TextLoads addressSz (store.get wifiNs gwKey) ∧
    TextLoads addressSz (store.get wifiNs dns1Key) ∧
    TextLoads addressSz (store.get wifiNs dns2Key) ∧
    FilterLoads (store.get snifferNs addr2Key) ∧ FilterLoads (store.get snifferNs ownKey)

section Record

variable (ipaddrAddr : CString → UInt32) (defaults : WifiDefaults)

/-- The address that is in force under a key. -/
def addressInForce (store : Store) (key : String) (defValue : Literal) : UInt32 :=
  ipaddrAddr ((stringInForce store key defValue).take addressSz)

/-- The settings that are in the flash. -/
def settingsIn (store : Store) : Settings where
  mode := .ofInt (store.numSetting wifiNs modeKey WifiLibMode.ap.toInt)
  channel := storedApChannel store defaults
  apSsid := stringInForce store apSsidKey defaults.apSsid
  apSsidPw := stringInForce store apSsidPwKey defaults.apSsidPw
  staSsid := stringInForce store staSsidKey defaults.staSsid
  staSsidPw := stringInForce store staSsidPwKey defaults.staSsidPw
  staticIp := ⟨addressInForce ipaddrAddr store ipKey defaults.staticIpAddr,
    addressInForce ipaddrAddr store netmaskKey defaults.staticNetmaskAddr,
    addressInForce ipaddrAddr store gwKey defaults.staticGwAddr⟩
  dns := ⟨addressInForce ipaddrAddr store dns1Key defaults.mainDnsServer,
    addressInForce ipaddrAddr store dns2Key defaults.backupDnsServer⟩
  source := sourceOf (store.get snifferNs addr2Key)
  rssi := effectiveRssi (storedRssi store)
  loads := loadsIn store

end Record

/-! ### Entries -/

/-- Only entries under some keys of one namespace have changed. -/
def SameBut (ns : String) (keys : List String) (store next : Store) : Prop :=
  ∀ other key, other ≠ ns ∨ key ∉ keys → next.get other key = store.get other key

theorem sameBut_of_goesBy {program : NvsProgram α} (goesBy : GoesBy ns keys program) :
    Guarantees Store.handle program store fun _ next => SameBut ns keys store next := by
  have each : Program.EachRequest Store.handle (NvsCall.Among ns keys) program store :=
    goesBy.eachRequest (fun _ _ _ _ => Store.answers_of_handle) store
  have keeps (call : NvsCall) (source : Store) (answer : call.Response) (target : Store)
      (among : call.Among ns keys) (same : SameBut ns keys store source)
      (handled : Store.handle call source = .ok (answer, target)) :
      SameBut ns keys store target :=
    fun other key elsewhere =>
      (Store.get_of_handle_among among handled elsewhere).trans (same other key elsewhere)
  have ends := each.ends keeps (fun _ _ _ _ _ _ => trivial) fun _ _ _ => rfl
  intro value next ran
  rw [ran] at ends
  exact ends

section Fields

variable {ipaddrAddr : CString → UInt32} {defaults : WifiDefaults}

/-- Settings are read off the entries. -/
theorem settingsIn_of_get_eq (get_eq : next.get = store.get) :
    settingsIn ipaddrAddr defaults next = settingsIn ipaddrAddr defaults store := by
  simp only [settingsIn, addressInForce, stringInForce, storedApChannel, storedRssi,
    Store.numSetting, loadsIn, get_eq]

theorem filterLoads_of_entry {data : List UInt8} (entry : FilterEntry store key data) :
    FilterLoads (store.get snifferNs key) := by
  rcases entry with ⟨fits, stored | ⟨absent, _⟩⟩
  · rw [stored]
    exact fits
  · rw [absent]
    trivial

/-! Where a single entry has changed, a single field has. -/

theorem settingsIn_of_mode (same : SameBut wifiNs [modeKey] store next) :
    settingsIn ipaddrAddr defaults next = { settingsIn ipaddrAddr defaults store with
      mode := .ofInt (next.numSetting wifiNs modeKey WifiLibMode.ap.toInt) } := by
  rw [SameBut] at same
  simp (disch := decide) only [settingsIn, addressInForce, stringInForce, storedApChannel,
    storedRssi, Store.numSetting, loadsIn, same]

theorem settingsIn_of_channel (same : SameBut wifiNs [apChannelKey] store next) :
    settingsIn ipaddrAddr defaults next = { settingsIn ipaddrAddr defaults store with
      channel := storedApChannel next defaults } := by
  rw [SameBut] at same
  simp (disch := decide) only [settingsIn, addressInForce, stringInForce, storedApChannel,
    storedRssi, Store.numSetting, loadsIn, same]

theorem settingsIn_of_apSsid (same : SameBut wifiNs [apSsidKey] store next)
    (loads : TextLoads ssidSz (next.get wifiNs apSsidKey) ↔
      TextLoads ssidSz (store.get wifiNs apSsidKey)) :
    settingsIn ipaddrAddr defaults next = { settingsIn ipaddrAddr defaults store with
      apSsid := stringInForce next apSsidKey defaults.apSsid } := by
  rw [SameBut] at same
  simp (disch := decide) only [settingsIn, addressInForce, stringInForce, storedApChannel,
    storedRssi, Store.numSetting, loadsIn, same, loads]

theorem settingsIn_of_apSsidPw (same : SameBut wifiNs [apSsidPwKey] store next)
    (loads : TextLoads ssidPassSz (next.get wifiNs apSsidPwKey) ↔
      TextLoads ssidPassSz (store.get wifiNs apSsidPwKey)) :
    settingsIn ipaddrAddr defaults next = { settingsIn ipaddrAddr defaults store with
      apSsidPw := stringInForce next apSsidPwKey defaults.apSsidPw } := by
  rw [SameBut] at same
  simp (disch := decide) only [settingsIn, addressInForce, stringInForce, storedApChannel,
    storedRssi, Store.numSetting, loadsIn, same, loads]

theorem settingsIn_of_ip (same : SameBut wifiNs [ipKey] store next)
    (loads : TextLoads addressSz (next.get wifiNs ipKey) ↔
      TextLoads addressSz (store.get wifiNs ipKey)) :
    settingsIn ipaddrAddr defaults next = { settingsIn ipaddrAddr defaults store with
      staticIp := { (settingsIn ipaddrAddr defaults store).staticIp with
        ip := addressInForce ipaddrAddr next ipKey defaults.staticIpAddr } } := by
  rw [SameBut] at same
  simp (disch := decide) only [settingsIn, addressInForce, stringInForce, storedApChannel,
    storedRssi, Store.numSetting, loadsIn, same, loads]

theorem settingsIn_of_netmask (same : SameBut wifiNs [netmaskKey] store next)
    (loads : TextLoads addressSz (next.get wifiNs netmaskKey) ↔
      TextLoads addressSz (store.get wifiNs netmaskKey)) :
    settingsIn ipaddrAddr defaults next = { settingsIn ipaddrAddr defaults store with
      staticIp := { (settingsIn ipaddrAddr defaults store).staticIp with
        netmask := addressInForce ipaddrAddr next netmaskKey defaults.staticNetmaskAddr } } := by
  rw [SameBut] at same
  simp (disch := decide) only [settingsIn, addressInForce, stringInForce, storedApChannel,
    storedRssi, Store.numSetting, loadsIn, same, loads]

theorem settingsIn_of_gw (same : SameBut wifiNs [gwKey] store next)
    (loads : TextLoads addressSz (next.get wifiNs gwKey) ↔
      TextLoads addressSz (store.get wifiNs gwKey)) :
    settingsIn ipaddrAddr defaults next = { settingsIn ipaddrAddr defaults store with
      staticIp := { (settingsIn ipaddrAddr defaults store).staticIp with
        gw := addressInForce ipaddrAddr next gwKey defaults.staticGwAddr } } := by
  rw [SameBut] at same
  simp (disch := decide) only [settingsIn, addressInForce, stringInForce, storedApChannel,
    storedRssi, Store.numSetting, loadsIn, same, loads]

theorem settingsIn_of_source (same : SameBut snifferNs [addr2Key] store next)
    (loads : FilterLoads (next.get snifferNs addr2Key) ↔
      FilterLoads (store.get snifferNs addr2Key)) :
    settingsIn ipaddrAddr defaults next = { settingsIn ipaddrAddr defaults store with
      source := sourceOf (next.get snifferNs addr2Key) } := by
  rw [SameBut] at same
  simp (disch := decide) only [settingsIn, addressInForce, stringInForce, storedApChannel,
    storedRssi, Store.numSetting, loadsIn, same, loads]

theorem settingsIn_of_rssi (same : SameBut snifferNs [rssiKey] store next) :
    settingsIn ipaddrAddr defaults next = { settingsIn ipaddrAddr defaults store with
      rssi := effectiveRssi (storedRssi next) } := by
  rw [SameBut] at same
  simp (disch := decide) only [settingsIn, addressInForce, stringInForce, storedApChannel,
    storedRssi, Store.numSetting, loadsIn, same]

/-- The own address is no setting. -/
theorem settingsIn_of_own (same : SameBut snifferNs [ownKey] store next)
    (loads : FilterLoads (next.get snifferNs ownKey) ↔ FilterLoads (store.get snifferNs ownKey)) :
    settingsIn ipaddrAddr defaults next = settingsIn ipaddrAddr defaults store := by
  rw [SameBut] at same
  simp (disch := decide) only [settingsIn, addressInForce, stringInForce, storedApChannel,
    storedRssi, Store.numSetting, loadsIn, same, loads]

end Fields

/-! ## Writes -/

namespace Settings

def setMode (mode : WifiLibMode) (settings : Settings) : Settings :=
  { settings with mode }

def setChannel (channel : UInt8) (settings : Settings) : Settings :=
  { settings with channel }

/-- A name is set, unless the one in force goes on where it ends. -/
def setApSsid (ssid : CString) (settings : Settings) : Settings :=
  { settings with apSsid := savedAs ssid settings.apSsid }

def setApSsidPw (password : CString) (settings : Settings) : Settings :=
  { settings with apSsidPw := savedAs password settings.apSsidPw }

def setIp (ip : UInt32) (settings : Settings) : Settings :=
  { settings with staticIp := { settings.staticIp with ip } }

def setNetmask (netmask : UInt32) (settings : Settings) : Settings :=
  { settings with staticIp := { settings.staticIp with netmask } }

def setGw (gw : UInt32) (settings : Settings) : Settings :=
  { settings with staticIp := { settings.staticIp with gw } }

def setSource (source : List UInt8) (settings : Settings) : Settings :=
  { settings with source }

/-- A threshold is set, and the default in place of zero. -/
def setRssi (rssi : Int8) (settings : Settings) : Settings :=
  { settings with rssi := effectiveRssi rssi }

end Settings

/-! ## Programs that write nothing -/

section Keeps

/-- A call that writes no entry. -/
def KeepsEntries : NvsCall → Prop
  | .setNum _ _ _ _ | .setStr _ _ _ | .setBlob _ _ _ => False
  | _ => True

theorem keepsEntries_of_reads {call : NvsCall} (reads : call.Reads) : KeepsEntries call := by
  cases call <;> first | exact trivial | exact reads

theorem get_of_handle_keepsEntries {call : NvsCall} {answer : call.Response}
    (keeps : KeepsEntries call) (handled : Store.handle call store = .ok (answer, next)) :
    next.get = store.get := by
  by_cases reads : call.Reads
  · rw [Store.eq_of_handle_reads reads handled]
  cases call with
  | «open» opened mode =>
      cases mode with
      | readwrite =>
          cases handled
          funext ns key
          exact Store.get_create store opened ns key
      | readonly => exact absurd trivial reads
  | setNum nvs name type value => exact keeps.elim
  | setStr nvs name value => exact keeps.elim
  | setBlob nvs name value => exact keeps.elim
  | _ => exact absurd trivial reads

theorem throughout_of_keeps {program : NvsProgram α} (calls : Calls KeepsEntries program) :
    Throughout Store.handle (fun reached => reached.get = store.get) program store :=
  calls.eachRequest.throughout
    (fun _ _ _ _ keeps same handled => (get_of_handle_keepsEntries keeps handled).trans same) rfl

theorem guarantees_get_of_keeps {program : NvsProgram α} (calls : Calls KeepsEntries program) :
    Guarantees Store.handle program store fun _ next => next.get = store.get :=
  fun _ _ ran => (throughout_of_keeps calls).of_ok ran

/-- At any time, the entries are those before or those at the end. -/
def Once (program : NvsProgram α) (store : Store) : Prop :=
  Throughout Store.handle (fun reached => reached.get = store.get ∨
    ∃ value next, program.run Store.handle store = .ok (value, next) ∧ reached.get = next.get)
    program store

theorem once_of_keeps {program : NvsProgram α} (calls : Calls KeepsEntries program) :
    Once program store :=
  (throughout_of_keeps calls).mono fun _ => .inl

/-- A first part that writes nothing. -/
theorem once_bind {β : Type} {program : NvsProgram α} {rest : α → NvsProgram β}
    (calls : Calls KeepsEntries program)
    (later : ∀ value next, program.run Store.handle store = .ok (value, next) →
      Once (rest value) next) : Once (program >>= rest) store := by
  refine Throughout.bind ((throughout_of_keeps calls).mono fun _ => .inl) ?_
  intro value next ran
  have same := guarantees_get_of_keeps calls value next ran
  refine (later value next ran).mono ?_
  rintro reached (before | ⟨last, after, ranRest, ended⟩)
  · exact .inl (before.trans same)
  · refine .inr ⟨last, after, ?_, ended⟩
    rw [Program.run_bind_of_ok _ ran, ranRest]

/-- A last part that writes nothing and comes to its end. -/
theorem once_bind_keeps {β : Type} {program : NvsProgram α} {rest : α → NvsProgram β}
    (first : Once program store) (calls : ∀ value, Calls KeepsEntries (rest value))
    (ends : ∀ value next, program.run Store.handle store = .ok (value, next) →
      ∃ result, (rest value).run Store.handle next = .ok result) :
    Once (program >>= rest) store := by
  have ended {value : α} {next : Store} (ran : program.run Store.handle store = .ok (value, next))
      {reached : Store} (same : reached.get = next.get) : ∃ last after,
        (program >>= rest).run Store.handle store = .ok (last, after) ∧
          reached.get = after.get := by
    rcases ends value next ran with ⟨⟨last, after⟩, ranRest⟩
    refine ⟨last, after, (Program.run_bind_of_ok _ ran).trans ranRest, same.trans ?_⟩
    exact (guarantees_get_of_keeps (calls value) last after ranRest).symm
  refine Throughout.bind (first.mono ?_) ?_
  · rintro reached (before | ⟨value, next, ran, same⟩)
    · exact .inl before
    · exact .inr (ended ran same)
  · intro value next ran
    exact (throughout_of_keeps (calls value)).mono fun reached same => .inr (ended ran same)

/-- A call that writes, before a last part that does not and that comes to its end. -/
theorem once_write {call : NvsCall} {rest : call.Response → NvsProgram α}
    (calls : ∀ answer, Calls KeepsEntries (rest answer))
    (ends : ∃ result, (Nvs.ask call >>= rest).run Store.handle store = .ok result) :
    Once (Nvs.ask call >>= rest) store := by
  rcases ends with ⟨⟨value, last⟩, ran⟩
  refine Throughout.bind (Program.throughout_ask (.inl rfl) ?_) ?_
  · intro answer reached handled
    have asked : (Nvs.ask call).run Store.handle store = .ok (answer, reached) :=
      (Program.run_ask _ _ _).trans handled
    refine .inr ⟨value, last, ran, ?_⟩
    rw [Program.run_bind_of_ok _ asked] at ran
    exact (guarantees_get_of_keeps (calls answer) value last ran).symm
  · intro answer reached asked
    refine (throughout_of_keeps (calls answer)).mono ?_
    intro between kept
    refine .inr ⟨value, last, ran, kept.trans ?_⟩
    rw [Program.run_bind_of_ok _ asked] at ran
    exact (guarantees_get_of_keeps (calls answer) value last ran).symm

/-- What follows a call that writes. -/
def settle (nvs : Option Handle) (err : EspErr) : NvsProgram EspErr := do
  let err ← if err = .ok then Nvs.ask (.commit nvs) else pure err
  Nvs.ask (.close nvs)
  return err

theorem keepsEntries_settle (nvs : Option Handle) (err : EspErr) :
    Calls KeepsEntries (settle nvs err >>= espErrorCheck) := by
  have settles : Calls KeepsEntries (settle nvs err) := by
    refine Calls.ite_bind (Program.calls_ask trivial) (Program.calls_pure _) ?_
    intro err
    exact Calls.bind (Program.calls_ask trivial) fun _ => Program.calls_pure _
  exact settles.bind fun err => calls_espErrorCheck err trivial

/-- A namespace is opened for writing. -/
theorem once_open {rest : EspErr × Option Handle → NvsProgram α}
    (later : Once (rest (.ok, some ⟨ns, .readwrite⟩)) (store.create ns)) :
    Once (Nvs.ask (.open ns .readwrite) >>= rest) store := by
  have opens : Calls KeepsEntries (Nvs.ask (.open ns .readwrite)) := Program.calls_ask trivial
  apply once_bind opens
  intro answer next ran
  rw [Program.run_ask, Store.handle_open_readwrite] at ran
  cases ran
  exact later

/-- An entry is written through a handle that is open for it. -/
theorem once_put {call : NvsCall} {value : NvsValue} (err_eq : call.Response = EspErr)
    (put : ∀ store, Store.handle call store =
      .ok (cast err_eq.symm .ok, store.set ns key value)) :
    Once (Nvs.ask call >>= fun err => settle (some ⟨ns, .readwrite⟩) (cast err_eq err) >>=
      espErrorCheck) store := by
  apply once_write fun err => keepsEntries_settle _ _
  refine ⟨((), store.set ns key value), ?_⟩
  rw [Program.run_bind, Program.run_ask, put]
  simp [settle]

theorem once_setNum32i (value : Int) :
    Once (do
      let err ← nvsSetNum32i ns key value
      espErrorCheck err) store := by
  rw [nvsSetNum32i, Program.bind_assoc]
  apply once_open
  dsimp only
  rw [if_neg (not_not_intro rfl), Program.bind_assoc]
  exact once_put rfl fun _ => rfl

theorem once_setString (value : List UInt8) :
    Once (do
      let err ← nvsSetString ns key value
      espErrorCheck err) store := by
  rw [nvsSetString, Program.bind_assoc]
  apply once_open
  dsimp only
  rw [if_neg (not_not_intro rfl), Program.bind_assoc]
  have reads : Calls KeepsEntries (Nvs.ask (.read value.length (strlenReads value))) :=
    Program.calls_ask trivial
  apply once_bind reads
  intro _ next _
  rw [Program.bind_assoc]
  exact once_put rfl fun _ => rfl

theorem once_setArray (value : List UInt8) (sz : Nat) :
    Once (do
      let err ← nvsSetArray ns key value sz
      espErrorCheck err) store := by
  rw [nvsSetArray, Program.bind_assoc]
  apply once_open
  dsimp only
  rw [if_neg (not_not_intro rfl), Program.bind_assoc]
  have reads : Calls KeepsEntries (Nvs.ask (.read value.length sz)) := Program.calls_ask trivial
  apply once_bind reads
  intro _ next _
  rw [Program.bind_assoc]
  exact once_put rfl fun _ => rfl

theorem keepsEntries_nvsGetNum32i (ns key : String) (defValue : Int) :
    Calls KeepsEntries (nvsGetNum32i ns key defValue) := by
  apply Calls.bind (Program.calls_ask trivial)
  rintro ⟨err, nvs⟩
  dsimp only
  split
  · exact Program.calls_pure _
  · apply Calls.bind (Program.calls_ask trivial)
    intro found
    apply Calls.bind (Program.calls_ask trivial)
    intro _
    split <;> exact Program.calls_pure _

variable {ipaddrAddr : CString → UInt32} {defaults : WifiDefaults}

theorem performs_of_keeps {program : NvsProgram α} (calls : Calls KeepsEntries program) :
    Performs (settingsIn ipaddrAddr defaults) Store.handle program store [] fun _ next =>
      next.get = store.get where
  ends := (guarantees_get_of_keeps calls).mono fun _ _ same => ⟨settingsIn_of_get_eq same, same⟩
  throughout := by
    refine (throughout_of_keeps calls).mono ?_
    intro reached same
    rw [settingsIn_of_get_eq same]
    exact cutShort_refl [] _

theorem performs_of_reads {program : NvsProgram α} (calls : Calls NvsCall.Reads program) :
    Performs (settingsIn ipaddrAddr defaults) Store.handle program store [] fun _ next =>
      store = next := by
  have keeps : Calls KeepsEntries program := calls.mono fun _ => keepsEntries_of_reads
  have kept : Guarantees Store.handle program store fun _ next => store = next := by
    refine calls.guarantees (fun next => store = next) ?_ rfl
    intro call source answer target reads same handled
    exact same.trans (Store.eq_of_handle_reads reads handled).symm
  exact ((performs_of_keeps keeps).and kept).mono fun _ _ => And.right

/-- A program whose entries change at once. -/
theorem performs_of_once {program : NvsProgram α} {writes : List (Settings → Settings)}
    {post : α → Store → Prop}
    (guarantees : Guarantees Store.handle program store fun value next =>
      settingsIn ipaddrAddr defaults next =
        perform writes (settingsIn ipaddrAddr defaults store) ∧ post value next)
    (once : Once program store) :
    Performs (settingsIn ipaddrAddr defaults) Store.handle program store writes post where
  ends := guarantees
  throughout := by
    refine once.mono ?_
    rintro reached (before | ⟨value, next, ran, ended⟩)
    · rw [settingsIn_of_get_eq before]
      exact cutShort_refl writes _
    · rw [settingsIn_of_get_eq ended, (guarantees value next ran).1]
      exact cutShort_perform writes _

/-- A run that is known. -/
theorem performs_of_run {program : NvsProgram α} {writes : List (Settings → Settings)}
    {post : α → Store → Prop} {value : α} (once : Once program store)
    (ran : program.run Store.handle store = .ok (value, next))
    (wrote : settingsIn ipaddrAddr defaults next =
      perform writes (settingsIn ipaddrAddr defaults store)) (holds : post value next) :
    Performs (settingsIn ipaddrAddr defaults) Store.handle program store writes post := by
  refine performs_of_once ?_ once
  intro value' next' ran'
  rw [ran] at ran'
  cases ran'
  exact ⟨wrote, holds⟩

/-! ### Setters -/

theorem once_wifiNvsSetMode (mode : WifiLibMode) : Once (wifiNvsSetMode mode) store := by
  have gets : Calls KeepsEntries wifiNvsGetMode :=
    (keepsEntries_nvsGetNum32i _ _ _).bind fun _ => Program.calls_pure _
  apply once_bind gets
  intro prevWifiLibMode _ _
  split
  · exact once_setNum32i mode.toInt
  · exact once_of_keeps (Program.calls_pure ())

theorem once_wifiNvsSetApChannel (channel : UInt8) :
    Once (wifiNvsSetApChannel defaults channel) store := by
  have gets : Calls KeepsEntries (wifiNvsGetApChannel defaults) :=
    (keepsEntries_nvsGetNum32i _ _ _).bind fun _ => Program.calls_pure _
  apply once_bind gets
  intro prevChannel _ _
  split
  · exact once_setNum32i channel.toNat
  · exact once_of_keeps (Program.calls_pure ())

theorem reads_getCredential (room : Nat) (key : String) (value : List UInt8) (defValue : Literal)
    (sz : Nat) : Calls NvsCall.Reads (getCredential room key value defValue sz) := by
  apply (reads_nvsGetString _ _ _ _ _).bind
  rintro ⟨err, v⟩
  exact (calls_espErrorCheck err trivial).bind fun _ => reads_strncpy _ _ _

theorem once_setCredential (room : Nat) (value : List UInt8) (sz : Nat) (defValue : Literal) :
    Once (setCredential room key value sz defValue) store := by
  apply once_bind ((reads_strncpy _ _ _).mono fun _ => keepsEntries_of_reads)
  intro v _ _
  apply once_bind ((reads_getCredential _ _ _ _ _).mono fun _ => keepsEntries_of_reads)
  intro prev _ _
  have compares : Calls KeepsEntries (strncmp v prev sz) :=
    Calls.bind (Program.calls_ask trivial) fun _ => Program.calls_pure _
  apply once_bind compares
  intro changed _ _
  split
  · exact once_setString v
  · exact once_of_keeps (Program.calls_pure ())

theorem once_wifiSnifferNvsSetFilterRssi (rssi : Int8) :
    Once (wifiSnifferNvsSetFilterRssi rssi) store := by
  have gets : Calls KeepsEntries wifiSnifferNvsGetFilterRssi :=
    (keepsEntries_nvsGetNum32i _ _ _).bind fun _ => Program.calls_pure _
  apply once_bind gets
  intro prevRssi _ _
  split
  · exact once_setNum32i rssi.toInt
  · exact once_of_keeps (Program.calls_pure ())

end Keeps

/-! ## Setters of Wi-Fi -/

section Wifi

variable {ipaddrAddr : CString → UInt32} {defaults : WifiDefaults}

theorem performs_wifiNvsSetMode (mode : WifiLibMode) :
    Performs (settingsIn ipaddrAddr defaults) Store.handle (wifiNvsSetMode mode) store
      [.setMode mode] fun _ _ => True := by
  rcases run_wifiNvsSetMode store mode with ⟨next, ran, _, num_eq, _⟩
  have same : SameBut wifiNs [modeKey] store next :=
    sameBut_of_goesBy (goesBy_wifiNvsSetMode (by decide) mode) _ _ ran
  refine performs_of_run (once_wifiNvsSetMode mode) ran ?_ trivial
  rw [settingsIn_of_mode same, num_eq, WifiLibMode.ofInt_toInt]
  rfl

theorem performs_wifiNvsGetMode :
    Performs (settingsIn ipaddrAddr defaults) Store.handle wifiNvsGetMode store [] fun mode _ =>
      mode = (settingsIn ipaddrAddr defaults store).mode := by
  have calls : Calls KeepsEntries wifiNvsGetMode :=
    (keepsEntries_nvsGetNum32i _ _ _).bind fun _ => Program.calls_pure _
  refine performs_of_run (once_of_keeps calls) (run_wifiNvsGetMode store) ?_ rfl
  apply settingsIn_of_get_eq
  funext ns key
  exact Store.get_create store wifiNs ns key

theorem performs_wifiNvsGetApChannel :
    Performs (settingsIn ipaddrAddr defaults) Store.handle (wifiNvsGetApChannel defaults) store []
      fun channel _ => channel = (settingsIn ipaddrAddr defaults store).channel := by
  have calls : Calls KeepsEntries (wifiNvsGetApChannel defaults) :=
    (keepsEntries_nvsGetNum32i _ _ _).bind fun _ => Program.calls_pure _
  refine performs_of_run (once_of_keeps calls) (run_wifiNvsGetApChannel store defaults) ?_ rfl
  apply settingsIn_of_get_eq
  funext ns key
  exact Store.get_create store wifiNs ns key

/-- A loaded string is the one in force. -/
theorem performs_getCredential {room : Nat} {defValue : Literal} :
    Performs (settingsIn ipaddrAddr defaults) Store.handle
      (getCredential room key (List.replicate room 0) defValue room) store [] fun value next =>
        store = next ∧ value = strncpyBytes (stringInForce store key defValue) room := by
  refine (performs_of_reads (reads_getCredential _ _ _ _ _)).and ?_
  intro value next ran
  rcases stringEntry_of_run_getCredential ran with ⟨string, entry⟩
  rw [run_getCredential_full entry] at ran
  cases ran
  rw [entry.2.inForce_eq]

/-- The strings that get through. -/
theorem performs_convertToSsidCfg {ssid password : CString} :
    Performs (settingsIn ipaddrAddr defaults) Store.handle
      (convertToSsidCfg (strncpyBytes ssid ssidSz) ssidSz (strncpyBytes password ssidPassSz)
        ssidPassSz) store [] fun ssidCfg next =>
        store = next ∧ ssid.length < ssidSz ∧ password.length < ssidPassSz ∧
          ssidCfg = ssidCfgOf ssid password := by
  refine (performs_of_reads (reads_convertToSsidCfg _ _ _ _)).and ?_
  intro ssidCfg next ran
  rcases fits_of_run_convertToSsidCfg ran with ⟨ssidFits, passwordFits⟩
  rw [run_convertToSsidCfg ssidFits passwordFits] at ran
  cases ran
  exact ⟨ssidFits, passwordFits, rfl⟩

theorem performs_getSsidCfg {ssidKey pwKey : String} {ssidDefault pwDefault : Literal}
    {ssid password : CString} (ssid_eq : stringInForce store ssidKey ssidDefault = ssid)
    (password_eq : stringInForce store pwKey pwDefault = password) :
    Performs (settingsIn ipaddrAddr defaults) Store.handle
      (getSsidCfg (fun value sz => wifiNvsGetSsid ssidKey value ssidDefault sz)
        (fun value sz => wifiNvsGetSsidPw pwKey value pwDefault sz)) store []
      fun ssidCfg next => store = next ∧ ssid.length < ssidSz ∧ password.length < ssidPassSz ∧
        ssidCfg = ssidCfgOf ssid password := by
  subst ssid_eq password_eq
  refine performs_getCredential.bind_nil ?_
  rintro _ _ ⟨rfl, rfl⟩ _
  refine performs_getCredential.bind_nil ?_
  rintro _ _ ⟨rfl, rfl⟩ _
  exact performs_convertToSsidCfg

theorem performs_wifiNvsSetApChannel (channel : UInt8) :
    Performs (settingsIn ipaddrAddr defaults) Store.handle (wifiNvsSetApChannel defaults channel)
      store [.setChannel channel] fun _ _ => True := by
  rcases run_wifiNvsSetApChannel store defaults channel with ⟨next, ran, _, get_eq, _⟩
  have same : SameBut wifiNs [apChannelKey] store next :=
    sameBut_of_goesBy (goesBy_wifiNvsSetApChannel defaults (by decide) channel) _ _ ran
  have channel_eq : storedApChannel next defaults = channel := by
    split at get_eq
    · rename_i stored
      rw [storedApChannel_of_get_eq _ _ get_eq, stored]
    · exact storedApChannel_of_get _ get_eq
  refine performs_of_run (once_wifiNvsSetApChannel channel) ran ?_ trivial
  rw [settingsIn_of_channel same, channel_eq]
  rfl

/-- A setter of credentials that comes through. -/
theorem guarantees_setCredential {room : Nat} {value : List UInt8} {new : CString} {sz : Nat}
    {defValue : Literal} (value_eq : CString.ofArray value = new) (sized : value.length = room)
    (fits : new.length < room) (sz_eq : sz = new.length) :
    Guarantees Store.handle (setCredential room key value sz defValue) store fun _ next =>
      new.length ≤ ssidSz ∧ SameBut wifiNs [key] store next ∧
        (TextLoads room (next.get wifiNs key) ↔ TextLoads room (store.get wifiNs key)) ∧
        stringInForce next key defValue = savedAs new (stringInForce store key defValue) := by
  subst sz_eq
  intro result next ran
  have same : SameBut wifiNs [key] store next :=
    sameBut_of_goesBy (goesBy_setCredential List.mem_cons_self _ _ _ _) _ _ ran
  rcases entry_of_run_setCredential sized ran with ⟨⟨prev, entry⟩, short⟩
  rcases run_setCredential entry value_eq sized fits short with ⟨next', ran', saved, _⟩
  rw [ran] at ran'
  cases ran'
  refine ⟨short, same, iff_of_true ?_ ?_, ?_⟩
  · exact textLoads_of_setting saved.2
  · exact textLoads_of_setting entry.2
  · rw [saved.2.inForce_eq, entry.2.inForce_eq]

variable {ssidCfg : SsidCfg} {ssid password : CString}

theorem performs_wifiNvsSetApSsid (holds : CfgHolds ssidCfg ssid password)
    (fits : ssid.length < ssidSz) :
    Performs (settingsIn ipaddrAddr defaults) Store.handle
      (wifiNvsSetApSsid defaults ssidCfg.ssid ssidCfg.ssidSz) store [.setApSsid ssid]
      fun _ _ => True := by
  refine performs_of_once ?_ (once_setCredential _ _ _ _)
  refine (guarantees_setCredential holds.ssid_eq holds.ssid_length fits holds.ssidSz_eq).mono ?_
  rintro _ next ⟨_, same, loads, saved⟩
  refine ⟨?_, trivial⟩
  rw [settingsIn_of_apSsid same loads, saved]
  rfl

/-- A password that is longer than a name gets nowhere. -/
def pwWrites (password : CString) : List (Settings → Settings) :=
  if password.length ≤ ssidSz then [.setApSsidPw password] else []

theorem performs_wifiNvsSetApSsidPw (holds : CfgHolds ssidCfg ssid password)
    (fits : password.length < ssidPassSz) :
    Performs (settingsIn ipaddrAddr defaults) Store.handle
      (wifiNvsSetApSsidPw defaults ssidCfg.password ssidCfg.passSz) store (pwWrites password)
      fun _ _ => True := by
  refine performs_of_once ?_ (once_setCredential _ _ _ _)
  refine (guarantees_setCredential holds.password_eq holds.password_length fits
    holds.passSz_eq).mono ?_
  rintro _ next ⟨short, same, loads, saved⟩
  refine ⟨?_, trivial⟩
  rw [pwWrites, if_pos short, settingsIn_of_apSsidPw same loads, saved]
  rfl

/-- The writes of an access point, in the order of its setters. -/
def apWrites (ssid password : CString) (channel : UInt8) : List (Settings → Settings) :=
  .setMode .ap :: .setChannel channel :: .setApSsid ssid :: pwWrites password

theorem performs_wifiApSave (channel : UInt8) (holds : CfgHolds ssidCfg ssid password)
    (ssidFits : ssid.length < ssidSz) (passwordFits : password.length < ssidPassSz) :
    Performs (settingsIn ipaddrAddr defaults) Store.handle (wifiApSave defaults ssidCfg channel)
      store (apWrites ssid password channel) fun _ _ => True := by
  apply (performs_wifiNvsSetMode .ap).bind
  intro _ _ _ _
  apply (performs_wifiNvsSetApChannel channel).bind
  intro _ _ _ _
  apply (performs_wifiNvsSetApSsid holds ssidFits).bind
  intro _ _ _ _
  exact performs_wifiNvsSetApSsidPw holds passwordFits

/-! ### Addresses -/

theorem addressInForce_of_entry {addr : UInt32} {defValue : Literal}
    (entry : AddressEntry ipaddrAddr store key defValue addr) :
    addressInForce ipaddrAddr store key defValue = addr := by
  rcases entry with ⟨string, stored, parsed⟩
  rw [addressInForce, stored.2.inForce_eq, parsed]

/-- The texts that an address is written as are understood again. -/
theorem addressInForce_set {addr : UInt32} {defValue : Literal} (valid : wifiIsValidIp addr = true)
    (parses : ParsesPrinted ipaddrAddr addr)
    (stored : store.get wifiNs key = some (.str (CString.ofArray (ipString addr)))) :
    addressInForce ipaddrAddr store key defValue = addr := by
  have text := addressText_ipString addr
  have whole : (CString.ofArray (ipString addr)).take addressSz = CString.ofArray (ipString addr) :=
    CString.take_of_length_le (Nat.le_of_succ_le text.fits)
  have other : addr ≠ ipaddrNone := of_decide_eq_true valid
  rw [addressInForce, stringInForce, stored]
  dsimp only
  rw [whole, parses other]

theorem SameBut.set (store : Store) (ns key : String) (value : NvsValue)
    (member : key ∈ keys) : SameBut ns keys store (store.set ns key value) := by
  rintro other name (elsewhere | absent)
  · exact Store.get_set_of_ns_ne store key name value elsewhere
  · by_cases same : other = ns
    · subst same
      refine Store.get_set_of_ne store value other ?_
      rintro rfl
      exact absent member
    · exact Store.get_set_of_ns_ne store key name value same

/-- The writes of a static address. -/
def staticIpWrites (info : IpInfo) : List (Settings → Settings) :=
  [.setIp info.ip, .setNetmask info.netmask, .setGw info.gw]

theorem performs_setIp {addr : UInt32} (valid : wifiIsValidIp addr = true)
    (parses : ParsesPrinted ipaddrAddr addr)
    (loads : TextLoads addressSz (store.get wifiNs ipKey)) :
    Performs (settingsIn ipaddrAddr defaults) Store.handle (setAddress ipKey (ipString addr))
      store [.setIp addr] fun _ next => SameBut wifiNs [ipKey] store next := by
  have text := addressText_ipString addr
  have same (value : NvsValue) : SameBut wifiNs [ipKey] store (store.set wifiNs ipKey value) :=
    SameBut.set store wifiNs ipKey value List.mem_cons_self
  have stored (value : NvsValue) := Store.get_set_self store wifiNs ipKey value
  refine performs_of_run (once_setString _) (run_setAddress text.terminated) ?_ (same _)
  rw [settingsIn_of_ip (same _), addressInForce_set valid parses (stored _)]
  · rfl
  · rw [stored]
    exact iff_of_true text.fits loads

theorem performs_setNetmask {addr : UInt32} (valid : wifiIsValidIp addr = true)
    (parses : ParsesPrinted ipaddrAddr addr)
    (loads : TextLoads addressSz (store.get wifiNs netmaskKey)) :
    Performs (settingsIn ipaddrAddr defaults) Store.handle (setAddress netmaskKey (ipString addr))
      store [.setNetmask addr] fun _ next => SameBut wifiNs [netmaskKey] store next := by
  have text := addressText_ipString addr
  have same (value : NvsValue) :
      SameBut wifiNs [netmaskKey] store (store.set wifiNs netmaskKey value) :=
    SameBut.set store wifiNs netmaskKey value List.mem_cons_self
  have stored (value : NvsValue) := Store.get_set_self store wifiNs netmaskKey value
  refine performs_of_run (once_setString _) (run_setAddress text.terminated) ?_ (same _)
  rw [settingsIn_of_netmask (same _), addressInForce_set valid parses (stored _)]
  · rfl
  · rw [stored]
    exact iff_of_true text.fits loads

theorem performs_setGw {addr : UInt32} (valid : wifiIsValidIp addr = true)
    (parses : ParsesPrinted ipaddrAddr addr)
    (loads : TextLoads addressSz (store.get wifiNs gwKey)) :
    Performs (settingsIn ipaddrAddr defaults) Store.handle (setAddress gwKey (ipString addr))
      store [.setGw addr] fun _ next => SameBut wifiNs [gwKey] store next := by
  have text := addressText_ipString addr
  have same (value : NvsValue) : SameBut wifiNs [gwKey] store (store.set wifiNs gwKey value) :=
    SameBut.set store wifiNs gwKey value List.mem_cons_self
  have stored (value : NvsValue) := Store.get_set_self store wifiNs gwKey value
  refine performs_of_run (once_setString _) (run_setAddress text.terminated) ?_ (same _)
  rw [settingsIn_of_gw (same _), addressInForce_set valid parses (stored _)]
  · rfl
  · rw [stored]
    exact iff_of_true text.fits loads

theorem textLoads_of_addressEntry {addr : UInt32} {defValue : Literal}
    (entry : AddressEntry ipaddrAddr store key defValue addr) :
    TextLoads addressSz (store.get wifiNs key) := by
  rcases entry with ⟨string, stored, _⟩
  exact textLoads_of_setting stored.2

theorem performs_wifiNvsGetStaticIpInfo :
    Performs (settingsIn ipaddrAddr defaults) Store.handle
      (wifiNvsGetStaticIpInfo ipaddrAddr defaults) store [] fun info next =>
        store = next ∧ info = (settingsIn ipaddrAddr defaults store).staticIp ∧
          ∀ key ∈ [ipKey, netmaskKey, gwKey], TextLoads addressSz (store.get wifiNs key) := by
  refine (performs_of_reads (reads_wifiNvsGetStaticIpInfo ipaddrAddr defaults)).and ?_
  intro info next ran
  rcases run_wifiNvsGetStaticIpInfo_iff.mp ran with ⟨_, entry⟩
  refine ⟨?_, ?_⟩
  · rw [settingsIn, addressInForce_of_entry entry.ip, addressInForce_of_entry entry.netmask,
      addressInForce_of_entry entry.gw]
  · intro key member
    simp only [List.mem_cons, List.not_mem_nil, or_false] at member
    rcases member with rfl | rfl | rfl
    · exact textLoads_of_addressEntry entry.ip
    · exact textLoads_of_addressEntry entry.netmask
    · exact textLoads_of_addressEntry entry.gw

theorem performs_wifiNvsGetDnsServers :
    Performs (settingsIn ipaddrAddr defaults) Store.handle
      (wifiNvsGetDnsServers ipaddrAddr defaults) store [] fun info next =>
        store = next ∧ info = (settingsIn ipaddrAddr defaults store).dns := by
  have reads : Calls NvsCall.Reads (wifiNvsGetDnsServers ipaddrAddr defaults) := by
    apply (reads_getAddress _ _).bind
    intro primaryDns
    exact (reads_getAddress _ _).bind fun secondDns => Program.calls_pure _
  refine (performs_of_reads reads).and ?_
  intro info next ran
  rcases run_wifiNvsGetDnsServers_iff.mp ran with ⟨_, entry⟩
  rw [settingsIn, addressInForce_of_entry entry.primary, addressInForce_of_entry entry.secondery]

/-- Static addresses are written one after the other, unless all of them are in force. -/
theorem performs_wifiNvsSetStaticIpInfo {info : IpInfo} (valid : wifiIsValidIpInfo info = true)
    (parses : ∀ addr, ParsesPrinted ipaddrAddr addr) :
    Performs (settingsIn ipaddrAddr defaults) Store.handle
      (wifiNvsSetStaticIpInfo ipaddrAddr defaults (ipString info.ip) (ipString info.netmask)
        (ipString info.gw)) store (staticIpWrites info) fun _ _ => True := by
  have info_eq := convertToIpInfo_ipString (fun addr _ => parses addr) valid
  rw [wifiNvsSetStaticIpInfo, info_eq, if_pos valid]
  refine performs_wifiNvsGetStaticIpInfo.bind_nil ?_
  rintro prev _ ⟨rfl, rfl, loads⟩ _
  split
  · simp only [wifiIsValidIpInfo, Bool.and_eq_true] at valid
    rcases valid with ⟨⟨ipValid, netmaskValid⟩, gwValid⟩
    apply (performs_setIp ipValid (parses info.ip) (loads ipKey (by decide))).bind
    intro _ afterIp sameIp _
    have netmask_eq := sameIp wifiNs netmaskKey (by decide)
    have gw_eq := sameIp wifiNs gwKey (by decide)
    apply (performs_setNetmask netmaskValid (parses info.netmask) ?_).bind
    · intro _ _ sameNetmask _
      refine (performs_setGw gwValid (parses info.gw) ?_).mono fun _ _ _ => trivial
      rw [sameNetmask wifiNs gwKey (by decide), gw_eq]
      exact loads gwKey (by decide)
    · rw [netmask_eq]
      exact loads netmaskKey (by decide)
  · rename_i same
    refine (Program.performs_pure trivial).of_nil ?_
    rw [not_ne_iff.mp same]
    rfl

end Wifi

/-! ## Setters of the filters -/

section Filters

variable {ipaddrAddr : CString → UInt32} {defaults : WifiDefaults}

theorem keepsEntries_wifiSnifferNvsGetFilterMac (key : String) :
    Calls KeepsEntries (wifiSnifferNvsGetFilterMac key) := by
  have closes (nvs : Option Handle) (result : EspErr × List UInt8 × Nat) :
      Calls KeepsEntries (Nvs.ask (.close nvs) >>= fun _ => pure result) :=
    Calls.bind (Program.calls_ask trivial) fun _ => Program.calls_pure _
  have gets : Calls KeepsEntries
      (nvsGetArray snifferNs key (List.replicate 6 0) 0 (List.replicate 6 0) 0) := by
    apply Calls.bind (Program.calls_ask trivial)
    rintro ⟨err, nvs⟩
    dsimp only
    split
    · split
      · exact (calls_memcpy trivial trivial).bind fun _ => Program.calls_pure _
      · exact Program.calls_pure _
    · apply Calls.bind (Program.calls_ask trivial)
      intro found
      split
      · apply Calls.bind (Program.calls_ask trivial)
        intro got
        split
        · exact Calls.bind (Program.calls_ask trivial) fun _ => closes nvs _
        · exact closes nvs _
      · exact (calls_memcpy trivial trivial).bind fun _ => closes nvs _
      · exact closes nvs _
  apply gets.bind
  rintro ⟨err, addr, size⟩
  exact (calls_espErrorCheck err trivial).bind fun _ => Program.calls_pure _

theorem keepsEntries_filterChanged (addrFilter prevAddrFilter : AddrFilter) :
    Calls KeepsEntries (filterChanged addrFilter prevAddrFilter) := by
  rw [filterChanged]
  split
  · exact Program.calls_pure _
  · exact Calls.bind (Program.calls_ask trivial) fun _ => Program.calls_pure _

theorem sourceOf_of_entry {data : List UInt8} (entry : FilterEntry store key data) :
    sourceOf (store.get snifferNs key) = data := by
  rcases entry with ⟨_, stored | ⟨absent, rfl⟩⟩
  · rw [stored, sourceOf]
  · rw [absent, sourceOf]

/-- A filter that has been loaded is the one that is stored. -/
theorem guarantees_wifiSnifferNvsGetFilterMac :
    Guarantees Store.handle (wifiSnifferNvsGetFilterMac key) store fun addrFilter next =>
      next = store ∧ FilterEntry store key addrFilter.bytes ∧ addrFilter.size ≤ 6 := by
  intro addrFilter next ran
  rcases filterEntry_of_run ran with ⟨data, entry⟩
  rw [run_wifiSnifferNvsGetFilterMac entry] at ran
  cases ran
  rw [AddrFilter.filled_bytes]
  exact ⟨rfl, entry, entry.1⟩

theorem once_wifiSnifferNvsSetFilterMac (addrFilter : AddrFilter) :
    Once (wifiSnifferNvsSetFilterMac key addrFilter) store := by
  apply once_bind (keepsEntries_wifiSnifferNvsGetFilterMac key)
  intro prevAddrFilter _ _
  apply once_bind (keepsEntries_filterChanged _ _)
  intro changed _ _
  split
  · exact once_setArray _ _
  · exact once_of_keeps (Program.calls_pure ())

/-- Only filters that fit their array get through. -/
theorem guarantees_wifiSnifferNvsSetFilterMac (addrFilter : AddrFilter) :
    Guarantees Store.handle (wifiSnifferNvsSetFilterMac key addrFilter) store fun _ next =>
      addrFilter.size ≤ 6 ∧ SameBut snifferNs [key] store next ∧
        (FilterLoads (next.get snifferNs key) ↔ FilterLoads (store.get snifferNs key)) ∧
        FilterEntry next key addrFilter.bytes := by
  intro result next ran
  have same : SameBut snifferNs [key] store next :=
    sameBut_of_goesBy (goesBy_of_local (asks_wifiSnifferNvsSetFilterMac key addrFilter)
      List.mem_cons_self) _ _ ran
  have peeled := ran
  rcases (Program.run_bind_eq_ok_iff _).mp peeled with ⟨prev, middle, got, rest⟩
  rcases guarantees_wifiSnifferNvsGetFilterMac _ _ got with ⟨rfl, entry, prevFits⟩
  by_cases fits : addrFilter.size ≤ 6
  · rcases run_wifiSnifferNvsSetFilterMac entry fits with ⟨next', ran', written, _⟩
    rw [ran] at ran'
    cases ran'
    have loads := iff_of_true (filterLoads_of_entry written) (filterLoads_of_entry entry)
    exact ⟨fits, same, loads, written⟩
  · have differs : addrFilter.size ≠ prev.size := by
      rintro sized
      exact fits (sized ▸ prevFits)
    have changed :
        (filterChanged addrFilter prev).run Store.handle middle = .ok (true, middle) := by
      rw [filterChanged, if_pos differs]
      rfl
    have halted : (nvsSetArray snifferNs key addrFilter.array addrFilter.size).run
        Store.handle middle = .error ⟨.outOfBounds, middle.create snifferNs⟩ := by
      simp [nvsSetArray, Store.access, fits]
    rw [Program.run_bind_of_ok _ changed, if_pos rfl, Program.run_bind, halted] at rest
    cases rest

theorem performs_snifferSetAddr2Filter (filters : Filters) (addrFilter : AddrFilter) :
    Performs (settingsIn ipaddrAddr defaults) Store.handle
      (Settings.snifferSetAddr2Filter true filters addrFilter) store [.setSource addrFilter.bytes]
      fun result _ => addrFilter.size ≤ 6 ∧
        result = { filters with addr2Filter := addrFilter } := by
  have sets : Performs (settingsIn ipaddrAddr defaults) Store.handle
      (wifiSnifferNvsSetFilterMac addr2Key addrFilter) store [.setSource addrFilter.bytes]
      fun _ _ => addrFilter.size ≤ 6 := by
    refine performs_of_once ?_ (once_wifiSnifferNvsSetFilterMac addrFilter)
    refine (guarantees_wifiSnifferNvsSetFilterMac addrFilter).mono ?_
    rintro _ next ⟨fits, same, loads, entry⟩
    refine ⟨?_, fits⟩
    rw [settingsIn_of_source same loads, sourceOf_of_entry entry]
    rfl
  rw [Settings.snifferSetAddr2Filter, snifferSetFilter, if_pos rfl, Program.bind_assoc]
  refine sets.nil_bind ?_
  intro _ _ fits _
  exact Program.performs_pure ⟨fits, rfl⟩

/-- A filter that is too long gets nowhere. -/
theorem performs_snifferSetAddr2Filter_of_lt (filters : Filters) {addrFilter : AddrFilter}
    (large : 6 < addrFilter.size) :
    Performs (settingsIn ipaddrAddr defaults) Store.handle
      (Settings.snifferSetAddr2Filter true filters addrFilter) store [] fun _ _ => False := by
  have sets : Performs (settingsIn ipaddrAddr defaults) Store.handle
      (wifiSnifferNvsSetFilterMac addr2Key addrFilter) store [] fun _ _ => False := by
    refine performs_of_once ?_ (once_wifiSnifferNvsSetFilterMac addrFilter)
    intro result next ran
    have fits := (guarantees_wifiSnifferNvsSetFilterMac addrFilter result next ran).1
    exact absurd large (Nat.not_lt.mpr fits)
  rw [Settings.snifferSetAddr2Filter, snifferSetFilter, if_pos rfl, Program.bind_assoc]
  exact sets.bind_nil fun _ _ halts _ => halts.elim

/-- Setting the own address writes no setting. -/
theorem performs_snifferSetOwnMacFilter (filters : Filters) (addrFilter : AddrFilter) :
    Performs (settingsIn ipaddrAddr defaults) Store.handle
      (snifferSetOwnMacFilter true filters addrFilter) store []
      fun result _ => result = { filters with addrOwnMac := addrFilter } := by
  have sets : Performs (settingsIn ipaddrAddr defaults) Store.handle
      (wifiSnifferNvsSetFilterMac ownKey addrFilter) store [] fun _ _ => True := by
    refine performs_of_once ?_ (once_wifiSnifferNvsSetFilterMac addrFilter)
    refine (guarantees_wifiSnifferNvsSetFilterMac addrFilter).mono ?_
    rintro _ next ⟨_, same, loads, _⟩
    exact ⟨settingsIn_of_own same loads, trivial⟩
  rw [snifferSetOwnMacFilter, snifferSetFilter, if_pos rfl, Program.bind_assoc]
  refine sets.bind_nil ?_
  intro _ _ _ _
  exact Program.performs_pure rfl

theorem effectiveRssi_idem (rssi : Int8) :
    effectiveRssi (effectiveRssi rssi) = effectiveRssi rssi :=
  if_neg (effectiveRssi_ne_zero rssi)

theorem performs_snifferSetRssiFilter (filters : Filters) (rssi : Int8) :
    Performs (settingsIn ipaddrAddr defaults) Store.handle
      (Settings.snifferSetRssiFilter filters rssi) store
      [.setRssi rssi] fun result _ =>
        result = { filters with rssiFilter := effectiveRssi rssi } := by
  rcases run_snifferSetRssiFilter filters rssi store with ⟨next, ran, stored⟩
  have same : SameBut snifferNs [rssiKey] store next := by
    have goesBy : GoesBy snifferNs [rssiKey] (wifiSnifferNvsSetFilterRssi (effectiveRssi rssi)) :=
      goesBy_of_local ((asks_wifiSnifferNvsSetFilterRssi _).imp fun _ => And.left)
        List.mem_cons_self
    exact sameBut_of_goesBy (goesBy.bind fun _ _ => Program.asks_pure trivial) _ _ ran
  have once : Once (Settings.snifferSetRssiFilter filters rssi) store :=
    once_bind_keeps (once_wifiSnifferNvsSetFilterRssi _) (fun _ => Program.calls_pure _)
      fun _ _ _ => ⟨_, rfl⟩
  refine performs_of_run once ran ?_ rfl
  rw [settingsIn_of_rssi same, stored, effectiveRssi_idem]
  rfl

theorem performs_wifiSnifferNvsGetFilterMac :
    Performs (settingsIn ipaddrAddr defaults) Store.handle (wifiSnifferNvsGetFilterMac addr2Key)
      store [] fun addrFilter _ =>
        addrFilter.bytes = (settingsIn ipaddrAddr defaults store).source ∧ addrFilter.size ≤ 6 := by
  refine ((performs_of_keeps (keepsEntries_wifiSnifferNvsGetFilterMac addr2Key)).and
    guarantees_wifiSnifferNvsGetFilterMac).mono ?_
  rintro addrFilter _ ⟨_, _, entry, fits⟩
  exact ⟨(sourceOf_of_entry entry).symm, fits⟩

theorem performs_wifiSnifferNvsGetFilterRssi :
    Performs (settingsIn ipaddrAddr defaults) Store.handle wifiSnifferNvsGetFilterRssi store []
      fun rssi _ => effectiveRssi rssi = (settingsIn ipaddrAddr defaults store).rssi := by
  have gets : Calls KeepsEntries wifiSnifferNvsGetFilterRssi :=
    (keepsEntries_nvsGetNum32i _ _ _).bind fun _ => Program.calls_pure _
  refine performs_of_run (once_of_keeps gets) (run_wifiSnifferNvsGetFilterRssi_stored store) ?_ rfl
  apply settingsIn_of_get_eq
  funext ns key
  exact Store.get_create store snifferNs ns key

end Filters

end WifiSniffer.Firmware
