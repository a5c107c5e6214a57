import WifiSniffer.Settings.Wifi

/-!
# Stored credentials

What setting a name or a password leaves behind.  A setter compares as many characters
as the new string has, and so takes a string for unchanged that the old one begins
with.
-/

namespace WifiSniffer.Settings

open WifiSniffer.Bytes WifiSniffer.Effect WifiSniffer.Nvs

/-! ## Setting one string -/

/-- The old string begins with the new one and goes on. -/
def Shortens (new prev : CString) : Prop :=
  new.chars <+: prev.chars ∧ new ≠ prev

instance (new prev : CString) : Decidable (Shortens new prev) :=
  inferInstanceAs (Decidable (_ ∧ _))

/-- What is in force after a setter. -/
def savedAs (new prev : CString) : CString :=
  if Shortens new prev then prev else new

theorem savedAs_eq_iff {new prev : CString} : savedAs new prev = new ↔ ¬ Shortens new prev := by
  rw [savedAs]
  split
  · rename_i shortens
    exact iff_of_false (Ne.symm shortens.2) (not_not_intro shortens)
  · rename_i shortens
    exact iff_of_true rfl shortens

/-- An old string stays that begins with the new one. -/
theorem savedAs_eq_prev {new prev : CString} (begins : new.chars <+: prev.chars) :
    savedAs new prev = prev := by
  rw [savedAs]
  split
  · rfl
  · rename_i shortens
    exact not_ne_iff.mp fun ne => shortens ⟨begins, ne⟩

/-- `strncmp` over the length of the new string finds no difference to what has been
read of the old one. -/
theorem strncmpEqual_take_iff {new prev : CString} {room : Nat} (short : new.length < room) :
    strncmpEqual new ((prev.take room).take new.length) new.length ↔
      new.chars <+: prev.chars := by
  have new_eq : new.take new.length = new := CString.take_of_length_le (Nat.le_refl _)
  have prev_eq : ((prev.take room).take new.length).take new.length = prev.take new.length := by
    rw [CString.take_take, CString.take_take, Nat.min_self, Nat.min_eq_left (Nat.le_of_lt short)]
  rw [strncmpEqual, new_eq, prev_eq, CString.prefix_iff_eq_take]

/-- The front of an array that holds zeros otherwise. -/
theorem ofArray_overwrite_strncpyBytes (string : CString) {count size : Nat} :
    CString.ofArray (overwrite (List.replicate size 0) (strncpyBytes string count)) =
      string.take count := by
  rw [overwrite_replicate, strncpyBytes, List.append_assoc, List.replicate_append_replicate]
  exact CString.ofArray_append_replicate (string.take count) _

section Set

variable {store : Store} {key : String} {room : Nat} {defValue : Literal} {prev new : CString}

/-- An array is copied in full to one of its size. -/
theorem run_strncpy_full {array : List UInt8} {size : Nat} (sized : array.length = size) :
    (strncpy (List.replicate size 0) array size).run Store.handle store =
      .ok (strncpyBytes (CString.ofArray array) size, store) := by
  rw [run_strncpy (by simp) ((Nat.min_le_left _ _).trans_eq sized.symm), overwrite_replicate,
    strncpyBytes_length, Nat.sub_self, List.replicate_zero, List.append_nil]

/-- A string with its terminator is copied as far as the array goes. -/
theorem run_strncpy_terminated (string : CString) (rest : List UInt8) (size : Nat) :
    (strncpy (List.replicate size 0) (string.chars ++ 0 :: rest) size).run Store.handle store =
      .ok (strncpyBytes string size, store) := by
  have string_eq : CString.ofArray (string.chars ++ 0 :: rest) = string :=
    CString.ofArray_append_nul string rest
  have readable :
      strncpyReads (string.chars ++ 0 :: rest) size ≤ (string.chars ++ 0 :: rest).length := by
    rw [strncpyReads, strlenReads, string_eq, List.length_append, List.length_cons]
    exact (Nat.min_le_right _ _).trans (Nat.add_le_add_left (Nat.le_add_left 1 _) _)
  rw [run_strncpy (by simp) readable, string_eq, overwrite_replicate, strncpyBytes_length,
    Nat.sub_self, List.replicate_zero, List.append_nil]

/-- What a setter compares: the new string with the beginning of the old one. -/
theorem run_strncmp_prev (fits : new.length < room) (short : new.length ≤ ssidSz) :
    (strncmp (strncpyBytes new room)
        (overwrite (List.replicate ssidSz 0) (strncpyBytes (prev.take room) new.length))
        new.length).run Store.handle store =
      .ok (!decide (new.chars <+: prev.chars), store) := by
  have prevSized : (overwrite (List.replicate ssidSz 0)
      (strncpyBytes (prev.take room) new.length)).length = ssidSz := by
    rw [overwrite_length (by simpa using short), List.length_replicate]
  rw [run_strncmp ((Nat.le_of_lt fits).trans_eq (strncpyBytes_length new room).symm)
      (short.trans_eq prevSized.symm),
    ofArray_strncpyBytes, CString.take_of_length_le (Nat.le_of_lt fits),
    ofArray_overwrite_strncpyBytes]
  simp only [strncmpEqual_take_iff fits]

/-- A setter that has copied the new string writes it unless the old one begins with it. -/
theorem run_setCredential_of_copied (entry : StringEntry store key room defValue prev)
    {value : List UInt8}
    (copied : (strncpy (List.replicate room 0) value room).run Store.handle store =
      .ok (strncpyBytes new room, store))
    (fits : new.length < room) (short : new.length ≤ ssidSz) :
    ∃ next,
      (setCredential room key value new.length defValue).run Store.handle store =
          .ok ((), next) ∧
        next.Has wifiNs ∧
        next.get wifiNs key =
          (if new.chars <+: prev.chars then store.get wifiNs key else some (.str new)) ∧
        ∀ other, other ≠ key → next.get wifiNs other = store.get wifiNs other := by
  have prevSized : (List.replicate ssidSz (0 : UInt8)).length = ssidSz := List.length_replicate
  rw [setCredential, Program.run_bind_of_ok _ copied,
    Program.run_bind_of_ok _ (run_getCredential entry (Nat.le_of_lt fits)
      (short.trans_eq prevSized.symm)),
    Program.run_bind_of_ok _ (run_strncmp_prev fits short)]
  by_cases begins : new.chars <+: prev.chars
  · refine ⟨store, ?_, entry.1, (if_pos begins).symm, fun _ _ => rfl⟩
    simp [begins]
  · have new_eq : CString.ofArray (strncpyBytes new room) = new := by
      rw [ofArray_strncpyBytes, CString.take_of_length_le (Nat.le_of_lt fits)]
    have terminated : strlenReads (strncpyBytes new room) ≤ (strncpyBytes new room).length := by
      rw [strlenReads, new_eq, strncpyBytes_length]
      exact fits
    refine ⟨store.set wifiNs key (.str new), ?_, Store.has_set _ _ _ _, ?_, ?_⟩
    · rw [if_pos (by simp [begins]), Program.run_bind_of_ok _ (run_nvsSetString terminated),
        run_espErrorCheck_ok, new_eq]
    · rw [if_neg begins, Store.get_set_self]
    · exact fun other ne => Store.get_set_of_ne store _ wifiNs ne

theorem run_setCredential_entry (entry : StringEntry store key room defValue prev)
    {value : List UInt8} (value_eq : CString.ofArray value = new) (sized : value.length = room)
    (fits : new.length < room) (short : new.length ≤ ssidSz) :
    ∃ next,
      (setCredential room key value new.length defValue).run Store.handle store =
          .ok ((), next) ∧
        next.Has wifiNs ∧
        next.get wifiNs key =
          (if new.chars <+: prev.chars then store.get wifiNs key else some (.str new)) ∧
        ∀ other, other ≠ key → next.get wifiNs other = store.get wifiNs other := by
  have copied : (strncpy (List.replicate room 0) value room).run Store.handle store =
      .ok (strncpyBytes new room, store) := by
    rw [run_strncpy_full sized, value_eq]
  exact run_setCredential_of_copied entry copied fits short

/-- In force is then the new string or the longer old one. -/
theorem stringSetting_savedAs (setting : StringSetting store key room defValue prev)
    (fits : new.length < room) {next : Store}
    (next_eq : next.get wifiNs key =
      if new.chars <+: prev.chars then store.get wifiNs key else some (.str new)) :
    StringSetting next key room defValue (savedAs new prev) := by
  by_cases begins : new.chars <+: prev.chars
  · rw [if_pos begins] at next_eq
    rw [savedAs_eq_prev begins]
    exact setting.of_get_eq next_eq
  · rw [if_neg begins] at next_eq
    rw [savedAs_eq_iff.mpr fun shortens => begins shortens.1]
    exact .inl ⟨next_eq, fits⟩

/-- A setter that comes through has loaded the old string to its array. -/
theorem entry_of_run_setCredential {value : List UInt8} {sz : Nat} {result : Unit × Store}
    (sized : value.length = room)
    (ran : (setCredential room key value sz defValue).run Store.handle store = .ok result) :
    (∃ prev, StringEntry store key room defValue prev) ∧ sz ≤ ssidSz := by
  rw [setCredential, Program.run_bind_of_ok _ (run_strncpy_full sized)] at ran
  rcases (Program.run_bind_eq_ok_iff _).mp ran with ⟨prev, middle, got, _⟩
  refine ⟨stringEntry_of_run_getCredential got, ?_⟩
  rcases (Program.run_bind_eq_ok_iff _).mp got with ⟨_, _, _, rest⟩
  rcases (Program.run_bind_eq_ok_iff _).mp rest with ⟨_, _, _, copied⟩
  exact (inside_of_run_strncpy copied).trans_eq List.length_replicate

/-- What a setter of credentials leaves behind. -/
theorem run_setCredential (entry : StringEntry store key room defValue prev)
    {value : List UInt8} (value_eq : CString.ofArray value = new) (sized : value.length = room)
    (fits : new.length < room) (short : new.length ≤ ssidSz) :
    ∃ next,
      (setCredential room key value new.length defValue).run Store.handle store =
          .ok ((), next) ∧
        StringEntry next key room defValue (savedAs new prev) ∧
        ∀ other, other ≠ key → next.get wifiNs other = store.get wifiNs other := by
  rcases run_setCredential_entry entry value_eq sized fits short with
    ⟨next, ran, has, next_eq, others⟩
  exact ⟨next, ran, ⟨has, stringSetting_savedAs entry.2 fits next_eq⟩, others⟩

end Set

/-! ## Loading a name and a password -/

/-- A name and a password, as `wifi_lib.c` hands them around. -/
structure CfgHolds (cfg : SsidCfg) (ssid password : CString) : Prop where
  ssid_length : cfg.ssid.length = ssidSz
  ssid_eq : CString.ofArray cfg.ssid = ssid
  ssidSz_eq : cfg.ssidSz = ssid.length
  password_length : cfg.password.length = ssidPassSz
  password_eq : CString.ofArray cfg.password = password
  passSz_eq : cfg.passSz = password.length

theorem CfgHolds.passSz_le {cfg : SsidCfg} {ssid password : CString}
    (holds : CfgHolds cfg ssid password) : cfg.passSz ≤ ssidPassSz := by
  rw [holds.passSz_eq, ← holds.password_eq, ← holds.password_length]
  exact (List.takeWhile_sublist _).length_le

/-- The configuration of two strings, filled up with zeros. -/
def ssidCfgOf (ssid password : CString) : SsidCfg where
  ssid := strncpyBytes ssid ssidSz
  ssidSz := ssid.length
  password := strncpyBytes password ssidPassSz
  passSz := password.length

theorem cfgHolds_ssidCfgOf {ssid password : CString} (ssidFits : ssid.length < ssidSz)
    (passwordFits : password.length < ssidPassSz) :
    CfgHolds (ssidCfgOf ssid password) ssid password where
  ssid_length := strncpyBytes_length ssid ssidSz
  ssid_eq := by
    rw [ssidCfgOf, ofArray_strncpyBytes, CString.take_of_length_le (Nat.le_of_lt ssidFits)]
  ssidSz_eq := rfl
  password_length := strncpyBytes_length password ssidPassSz
  password_eq := by
    rw [ssidCfgOf, ofArray_strncpyBytes, CString.take_of_length_le (Nat.le_of_lt passwordFits)]
  passSz_eq := rfl

section Load

variable {store : Store} {ssid password : CString}

theorem run_strncpy_strncpyBytes (string : CString) (size : Nat) :
    (strncpy (List.replicate size 0) (strncpyBytes string size) size).run Store.handle store =
      .ok (strncpyBytes string size, store) := by
  rw [run_strncpy_full (strncpyBytes_length string size), ofArray_strncpyBytes, strncpyBytes_take]

theorem run_strlen_strncpyBytes {string : CString} {size : Nat} (fits : string.length < size) :
    (strlen (strncpyBytes string size)).run Store.handle store = .ok (string.length, store) := by
  have string_eq : CString.ofArray (strncpyBytes string size) = string := by
    rw [ofArray_strncpyBytes, CString.take_of_length_le (Nat.le_of_lt fits)]
  rw [run_strlen, string_eq]
  rw [strlenReads, string_eq, strncpyBytes_length]
  exact fits

/-- A string that leaves no room for its terminator is read beyond its array. -/
theorem run_strlen_strncpyBytes_of_le {string : CString} {size : Nat}
    (overflows : size ≤ string.length) :
    (strlen (strncpyBytes string size)).run Store.handle store =
      .error ⟨.outOfBounds, store⟩ := by
  have length_eq : (CString.ofArray (strncpyBytes string size)).length = size := by
    rw [ofArray_strncpyBytes, CString.length, CString.take, List.length_take]
    exact Nat.min_eq_left overflows
  apply run_strlen_of_unterminated
  rw [strlenReads, length_eq, strncpyBytes_length]
  exact Nat.lt_succ_self size

theorem run_convertToSsidCfg (ssidFits : ssid.length < ssidSz)
    (passwordFits : password.length < ssidPassSz) :
    (convertToSsidCfg (strncpyBytes ssid ssidSz) ssidSz (strncpyBytes password ssidPassSz)
          ssidPassSz).run Store.handle store =
      .ok (ssidCfgOf ssid password, store) := by
  rw [convertToSsidCfg, Program.run_bind_of_ok _ (run_strncpy_strncpyBytes ssid ssidSz),
    Program.run_bind_of_ok _ (run_strlen_strncpyBytes ssidFits),
    Program.run_bind_of_ok _ (run_strncpy_strncpyBytes password ssidPassSz),
    Program.run_bind_of_ok _ (run_strlen_strncpyBytes passwordFits)]
  rfl

/-- Strings that are too long do not get through. -/
theorem fits_of_run_convertToSsidCfg {result : SsidCfg × Store}
    (ran : (convertToSsidCfg (strncpyBytes ssid ssidSz) ssidSz
        (strncpyBytes password ssidPassSz) ssidPassSz).run Store.handle store = .ok result) :
    ssid.length < ssidSz ∧ password.length < ssidPassSz := by
  by_contra overflows
  rw [convertToSsidCfg, Program.run_bind_of_ok _ (run_strncpy_strncpyBytes ssid ssidSz)] at ran
  by_cases ssidFits : ssid.length < ssidSz
  · have tooLong : ssidPassSz ≤ password.length :=
      Nat.not_lt.mp fun passwordFits => overflows ⟨ssidFits, passwordFits⟩
    rw [Program.run_bind_of_ok _ (run_strlen_strncpyBytes ssidFits),
      Program.run_bind_of_ok _ (run_strncpy_strncpyBytes password ssidPassSz),
      Program.run_bind, run_strlen_strncpyBytes_of_le tooLong] at ran
    cases ran
  · rw [Program.run_bind, run_strlen_strncpyBytes_of_le (Nat.not_lt.mp ssidFits)] at ran
    cases ran

variable {ssidKey pwKey : String} {ssidDefault pwDefault : Literal}

/-- A setting is loaded to an array of the size of the local one. -/
theorem run_getCredential_full {room : Nat}
    (entry : StringEntry store ssidKey room ssidDefault ssid) :
    (getCredential room ssidKey (List.replicate room 0) ssidDefault room).run Store.handle store =
      .ok (strncpyBytes ssid room, store) := by
  have sized : (List.replicate room (0 : UInt8)).length = room := List.length_replicate
  rw [run_getCredential entry (Nat.le_refl room) (Nat.le_of_eq sized.symm), strncpyBytes_take,
    overwrite_replicate, strncpyBytes_length, Nat.sub_self, List.replicate_zero, List.append_nil]

/-- Loading comes down to the conversion of the settings. -/
theorem run_getSsidCfg (ssidEntry : StringEntry store ssidKey ssidSz ssidDefault ssid)
    (pwEntry : StringEntry store pwKey ssidPassSz pwDefault password) :
    (getSsidCfg (fun value sz => wifiNvsGetSsid ssidKey value ssidDefault sz)
          (fun value sz => wifiNvsGetSsidPw pwKey value pwDefault sz)).run Store.handle store =
      (convertToSsidCfg (strncpyBytes ssid ssidSz) ssidSz (strncpyBytes password ssidPassSz)
          ssidPassSz).run Store.handle store := by
  rw [getSsidCfg, wifiNvsGetSsid, Program.run_bind_of_ok _ (run_getCredential_full ssidEntry),
    wifiNvsGetSsidPw, Program.run_bind_of_ok _ (run_getCredential_full pwEntry)]

/-- What is loaded are settings that fit. -/
theorem entries_of_run_getSsidCfg {cfg : SsidCfg} {next : Store}
    (ran : (getSsidCfg (fun value sz => wifiNvsGetSsid ssidKey value ssidDefault sz)
        (fun value sz => wifiNvsGetSsidPw pwKey value pwDefault sz)).run Store.handle store =
      .ok (cfg, next)) :
    ∃ ssid password, StringEntry store ssidKey ssidSz ssidDefault ssid ∧
      StringEntry store pwKey ssidPassSz pwDefault password ∧
      ssid.length < ssidSz ∧ password.length < ssidPassSz ∧
      cfg = ssidCfgOf ssid password ∧ next = store := by
  have peeled := ran
  rcases (Program.run_bind_eq_ok_iff _).mp peeled with ⟨v, middle, gotSsid, rest⟩
  rcases stringEntry_of_run_getCredential gotSsid with ⟨ssid, ssidEntry⟩
  rw [wifiNvsGetSsid, run_getCredential_full ssidEntry] at gotSsid
  cases gotSsid
  rcases (Program.run_bind_eq_ok_iff _).mp rest with ⟨v, middle, gotPw, _⟩
  rcases stringEntry_of_run_getCredential gotPw with ⟨password, pwEntry⟩
  rw [run_getSsidCfg ssidEntry pwEntry] at ran
  rcases fits_of_run_convertToSsidCfg ran with ⟨ssidFits, passwordFits⟩
  rw [run_convertToSsidCfg ssidFits passwordFits] at ran
  cases ran
  exact ⟨ssid, password, ssidEntry, pwEntry, ssidFits, passwordFits, rfl, rfl⟩

/-- Exactly the strings in force are loaded. -/
theorem loads_iff {other otherPw : CString}
    (ssidEntry : StringEntry store ssidKey ssidSz ssidDefault ssid)
    (pwEntry : StringEntry store pwKey ssidPassSz pwDefault password)
    (otherFits : other.length < ssidSz) (otherPwFits : otherPw.length < ssidPassSz) :
    (∃ cfg next,
        (getSsidCfg (fun value sz => wifiNvsGetSsid ssidKey value ssidDefault sz)
            (fun value sz => wifiNvsGetSsidPw pwKey value pwDefault sz)).run Store.handle store =
          .ok (cfg, next) ∧ CfgHolds cfg other otherPw) ↔
      ssid = other ∧ password = otherPw := by
  rw [run_getSsidCfg ssidEntry pwEntry]
  constructor
  · rintro ⟨cfg, next, ran, holds⟩
    rcases fits_of_run_convertToSsidCfg ran with ⟨ssidFits, passwordFits⟩
    rw [run_convertToSsidCfg ssidFits passwordFits] at ran
    cases ran
    have loaded := cfgHolds_ssidCfgOf ssidFits passwordFits
    exact ⟨loaded.ssid_eq.symm.trans holds.ssid_eq,
      loaded.password_eq.symm.trans holds.password_eq⟩
  · rintro ⟨rfl, rfl⟩
    exact ⟨_, store, run_convertToSsidCfg otherFits otherPwFits,
      cfgHolds_ssidCfgOf otherFits otherPwFits⟩

end Load

/-! ## Setting an access point -/

/-- The setters that `wifi_ap` calls, in its order. -/
def wifiApSave (defaults : WifiDefaults) (ssidCfg : SsidCfg) (channel : UInt8) :
    NvsProgram Unit := do
  wifiNvsSetMode .ap
  wifiNvsSetApChannel defaults channel
  wifiNvsSetApSsid defaults ssidCfg.ssid ssidCfg.ssidSz
  wifiNvsSetApSsidPw defaults ssidCfg.password ssidCfg.passSz

section Save

variable {store : Store} {defaults : WifiDefaults} {cfg : SsidCfg} {ssid password : CString}
  {prevSsid prevPassword : CString}

/-- After the setters, each setting is the new one or the longer old one. -/
theorem run_wifiApSave (channel : UInt8) (holds : CfgHolds cfg ssid password)
    (ssidShort : ssid.length < ssidSz) (passwordShort : password.length ≤ ssidSz)
    (ssidSetting : StringSetting store apSsidKey ssidSz defaults.apSsid prevSsid)
    (pwSetting : StringSetting store apSsidPwKey ssidPassSz defaults.apSsidPw prevPassword) :
    ∃ next, (wifiApSave defaults cfg channel).run Store.handle store = .ok ((), next) ∧
      StringEntry next apSsidKey ssidSz defaults.apSsid (savedAs ssid prevSsid) ∧
      StringEntry next apSsidPwKey ssidPassSz defaults.apSsidPw
        (savedAs password prevPassword) := by
  rcases run_wifiNvsSetMode store .ap with ⟨moded, ranMode, _, _, keptMode⟩
  rcases run_wifiNvsSetApChannel moded defaults channel with
    ⟨tuned, ranChannel, has, _, keptChannel⟩
  have ssidEntry : StringEntry tuned apSsidKey ssidSz defaults.apSsid prevSsid :=
    ⟨has, ssidSetting.of_get_eq
      ((keptChannel apSsidKey (by decide)).trans (keptMode apSsidKey (by decide)))⟩
  have pwEntry : StringEntry tuned apSsidPwKey ssidPassSz defaults.apSsidPw prevPassword :=
    ⟨has, pwSetting.of_get_eq
      ((keptChannel apSsidPwKey (by decide)).trans (keptMode apSsidPwKey (by decide)))⟩
  rcases run_setCredential ssidEntry holds.ssid_eq holds.ssid_length ssidShort
    (Nat.le_of_lt ssidShort) with ⟨named, ranSsid, named_eq, keptSsid⟩
  have pwEntry : StringEntry named apSsidPwKey ssidPassSz defaults.apSsidPw prevPassword :=
    ⟨named_eq.1, pwEntry.2.of_get_eq (keptSsid apSsidPwKey (by decide))⟩
  rcases run_setCredential pwEntry holds.password_eq holds.password_length
    (Nat.lt_of_le_of_lt passwordShort (by decide)) passwordShort with
    ⟨locked, ranPw, locked_eq, keptPw⟩
  refine ⟨locked, ?_, ?_, locked_eq⟩
  · rw [wifiApSave, Program.run_bind_of_ok _ ranMode, Program.run_bind_of_ok _ ranChannel,
      wifiNvsSetApSsid, wifiNvsSetSsid, holds.ssidSz_eq, Program.run_bind_of_ok _ ranSsid,
      wifiNvsSetApSsidPw, wifiNvsSetSsidPw, holds.passSz_eq, ranPw]
  · exact ⟨locked_eq.1, named_eq.2.of_get_eq (keptPw apSsidKey (by decide))⟩

/-- The string that is in force under a key. -/
def stringInForce (store : Store) (key : String) (defValue : Literal) : CString :=
  match store.get wifiNs key with
  | some (.str string) => string
  | some (.num _ _) | some (.blob _) | none => defValue.text

theorem StringSetting.inForce_eq {key : String} {room : Nat} {defValue : Literal}
    {string : CString} (setting : StringSetting store key room defValue string) :
    stringInForce store key defValue = string := by
  rcases setting with ⟨stored, _⟩ | ⟨absent, rfl⟩
  · rw [stringInForce, stored]
  · rw [stringInForce, absent]

/-- A string that an array has room for, or none. -/
def TextLoads (room : Nat) : Option NvsValue → Prop
  | none => True
  | some (.str string) => string.length + 1 ≤ room
  | some (.num _ _) | some (.blob _) => False

theorem textLoads_of_setting {key : String} {room : Nat} {defValue : Literal} {string : CString}
    (setting : StringSetting store key room defValue string) :
    TextLoads room (store.get wifiNs key) := by
  rcases setting with ⟨stored, fits⟩ | ⟨absent, _⟩
  · rw [stored]
    exact fits
  · rw [absent]
    trivial

theorem stringEntry_of_loads {key : String} {room : Nat} (defValue : Literal)
    (has : store.Has wifiNs) (loads : TextLoads room (store.get wifiNs key)) :
    StringEntry store key room defValue (stringInForce store key defValue) := by
  refine ⟨has, ?_⟩
  cases stored : store.get wifiNs key with
  | none => exact .inr ⟨stored, by rw [stringInForce, stored]⟩
  | some value =>
      rw [stored] at loads
      cases value with
      | str string =>
          rw [stringInForce, stored]
          exact .inl ⟨stored, loads⟩
      | num type value => exact loads.elim
      | blob data => exact loads.elim

/-- A setting that the new string is written over, unless it begins with it. -/
theorem get_eq_iff_of_setCredential {key : String} {room : Nat} {defValue : Literal}
    {prev new : CString} (setting : StringSetting store key room defValue prev) {next : Store}
    (next_eq : next.get wifiNs key =
      if new.chars <+: prev.chars then store.get wifiNs key else some (.str new)) :
    next.get wifiNs key = store.get wifiNs key ↔ new.chars <+: prev.chars := by
  rw [next_eq]
  split
  · rename_i begins
    exact iff_of_true rfl begins
  · rename_i differs
    refine iff_of_false ?_ differs
    intro same
    rcases setting with ⟨stored, _⟩ | ⟨absent, _⟩
    · rw [stored] at same
      cases same
      exact differs List.prefix_rfl
    · rw [absent] at same
      cases same

/-- What a run of the setters has done to the entries. -/
theorem entries_of_run_wifiApSave {channel : UInt8} {next : Store}
    (holds : CfgHolds cfg ssid password) (ssidFits : ssid.length < ssidSz)
    (ran : (wifiApSave defaults cfg channel).run Store.handle store = .ok ((), next)) :
    password.length ≤ ssidSz ∧ next.Has wifiNs ∧
      StringSetting store apSsidKey ssidSz defaults.apSsid
        (stringInForce store apSsidKey defaults.apSsid) ∧
      StringSetting store apSsidPwKey ssidPassSz defaults.apSsidPw
        (stringInForce store apSsidPwKey defaults.apSsidPw) ∧
      next.get wifiNs apChannelKey =
        (if storedApChannel store defaults = channel then store.get wifiNs apChannelKey
        else some (.num .i32 channel.toNat)) ∧
      next.get wifiNs apSsidKey =
        (if ssid.chars <+: (stringInForce store apSsidKey defaults.apSsid).chars then
          store.get wifiNs apSsidKey
        else some (.str ssid)) ∧
      next.get wifiNs apSsidPwKey =
        if password.chars <+: (stringInForce store apSsidPwKey defaults.apSsidPw).chars then
          store.get wifiNs apSsidPwKey
        else some (.str password) := by
  rcases run_wifiNvsSetMode store .ap with ⟨moded, ranMode, _, _, keptMode⟩
  rcases run_wifiNvsSetApChannel moded defaults channel with
    ⟨tuned, ranChannel, _, tuned_eq, keptChannel⟩
  rw [wifiApSave, Program.run_bind_of_ok _ ranMode, Program.run_bind_of_ok _ ranChannel] at ran
  rcases (Program.run_bind_eq_ok_iff _).mp ran with ⟨⟨⟩, named, ranSsid, ranPw⟩
  rcases entry_of_run_setCredential holds.ssid_length ranSsid with ⟨⟨prevSsid, ssidEntry⟩, _⟩
  rcases run_setCredential_entry ssidEntry holds.ssid_eq holds.ssid_length ssidFits
    (Nat.le_of_lt ssidFits) with ⟨_, ranSsid', _, named_eq, keptSsid⟩
  rw [wifiNvsSetApSsid, wifiNvsSetSsid, holds.ssidSz_eq, ranSsid'] at ranSsid
  cases ranSsid
  rcases entry_of_run_setCredential holds.password_length ranPw with
    ⟨⟨prevPassword, pwEntry⟩, passSz_le⟩
  rw [holds.passSz_eq] at passSz_le
  rcases run_setCredential_entry pwEntry holds.password_eq holds.password_length
    (Nat.lt_of_le_of_lt passSz_le (by decide)) passSz_le with ⟨_, ranPw', has, next_eq, keptPw⟩
  rw [wifiNvsSetApSsidPw, wifiNvsSetSsidPw, holds.passSz_eq, ranPw'] at ranPw
  cases ranPw
  have ssid_get : tuned.get wifiNs apSsidKey = store.get wifiNs apSsidKey :=
    (keptChannel apSsidKey (by decide)).trans (keptMode apSsidKey (by decide))
  have pw_get : named.get wifiNs apSsidPwKey = store.get wifiNs apSsidPwKey :=
    ((keptSsid apSsidPwKey (by decide)).trans (keptChannel apSsidPwKey (by decide))).trans
      (keptMode apSsidPwKey (by decide))
  have ssidSetting := ssidEntry.2.of_get_eq ssid_get.symm
  have pwSetting := pwEntry.2.of_get_eq pw_get.symm
  rw [ssidSetting.inForce_eq, pwSetting.inForce_eq]
  refine ⟨passSz_le, has, ssidSetting, pwSetting, ?_, ?_, ?_⟩
  · rw [keptPw apChannelKey (by decide), keptSsid apChannelKey (by decide), tuned_eq,
      storedApChannel_of_get_eq _ _ (keptMode apChannelKey (by decide)),
      keptMode apChannelKey (by decide)]
  · rw [keptPw apSsidKey (by decide), named_eq, ssid_get]
  · rw [next_eq, pw_get]

/-- The name and the password that were last set are loaded exactly if neither of them
is a proper beginning of the one in force before. -/
theorem apCredentials_saved_iff (channel : UInt8) (holds : CfgHolds cfg ssid password)
    (ssidShort : ssid.length ≤ 31) (passwordShort : password.length ≤ 31)
    (ssidSetting : StringSetting store apSsidKey 32 defaults.apSsid prevSsid)
    (pwSetting : StringSetting store apSsidPwKey 32 defaults.apSsidPw prevPassword) :
    (∃ loaded stored,
        (do wifiApSave defaults cfg channel
            wifiNvsGetSsidApCfg defaults).run Store.handle store = .ok (loaded, stored) ∧
          CfgHolds loaded ssid password) ↔
      ¬ Shortens ssid prevSsid ∧ ¬ Shortens password prevPassword := by
  have ssidFits : ssid.length < ssidSz := Nat.lt_succ_of_le ssidShort
  have passwordFits : password.length < ssidSz := Nat.lt_succ_of_le passwordShort
  have pwSetting : StringSetting store apSsidPwKey ssidPassSz defaults.apSsidPw prevPassword :=
    pwSetting.mono (by decide)
  rcases run_wifiApSave channel holds ssidFits (Nat.le_of_lt passwordFits) ssidSetting pwSetting
    with ⟨next, saved, ssidEntry, pwEntry⟩
  rw [Program.run_bind_of_ok _ saved]
  exact (loads_iff ssidEntry pwEntry ssidFits (passwordFits.trans (by decide))).trans
    (and_congr savedAs_eq_iff savedAs_eq_iff)

/-- A new network whose name begins like the stored one, with the default password
before. -/
theorem apCredentials_saved_snifferlab :
    let store := Store.empty.set wifiNs apSsidKey (.str (.ofString "sniffer"))
    ∃ loaded stored,
      (do wifiApSave .kconfig (ssidCfgOf (.ofString "snifferlab") (.ofString "secret")) 6
          wifiNvsGetSsidApCfg .kconfig).run Store.handle store = .ok (loaded, stored) ∧
        CfgHolds loaded (.ofString "snifferlab") (.ofString "secret") := by
  intro store
  have ssidSetting : StringSetting store apSsidKey 32 WifiDefaults.kconfig.apSsid
      (.ofString "sniffer") := .inl ⟨rfl, by decide⟩
  have pwSetting : StringSetting store apSsidPwKey 32 WifiDefaults.kconfig.apSsidPw
      (.ofString "mypassword") := .inr ⟨rfl, rfl⟩
  exact (apCredentials_saved_iff 6 (cfgHolds_ssidCfgOf (by decide) (by decide)) (by decide)
    (by decide) ssidSetting pwSetting).mpr (by decide)

/-- A stored name that is cut short comes back in full at the next boot. -/
theorem not_saved_sniffer :
    let store := Store.empty.set wifiNs apSsidKey (.str (.ofString "snifferbox"))
    let ssid := CString.ofString "sniffer"
    let password := CString.ofString "mypassword"
    ¬ ∃ loaded stored,
        (do wifiApSave .kconfig (ssidCfgOf ssid password) 6
            wifiNvsGetSsidApCfg .kconfig).run Store.handle store = .ok (loaded, stored) ∧
          CfgHolds loaded ssid password := by
  intro store ssid password
  have ssidSetting : StringSetting store apSsidKey ssidSz WifiDefaults.kconfig.apSsid
      (.ofString "snifferbox") := .inl ⟨rfl, by decide⟩
  have pwSetting : StringSetting store apSsidPwKey ssidPassSz WifiDefaults.kconfig.apSsidPw
      (.ofString "mypassword") := .inr ⟨rfl, rfl⟩
  have holds : CfgHolds (ssidCfgOf ssid password) ssid password :=
    cfgHolds_ssidCfgOf (by decide) (by decide)
  rcases run_wifiApSave 6 holds (by decide) (by decide) ssidSetting pwSetting with
    ⟨next, saved, ssidEntry, pwEntry⟩
  rw [Program.run_bind_of_ok _ saved]
  intro loads
  have kept := ((loads_iff ssidEntry pwEntry (by decide) (by decide)).mp loads).1
  exact absurd kept (by decide)

end Save

end WifiSniffer.Settings
