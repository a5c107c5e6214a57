import WifiSniffer.Settings.Credentials

/-!
# Saving a password

The setter of a password has an array of the size of a name for the old password, and
copies as many characters of it there as the new one has.  It compares that many, too.
-/

namespace WifiSniffer.Settings

open WifiSniffer.Bytes WifiSniffer.Effect WifiSniffer.Nvs

/-- The two setters of a password. -/
inductive PasswordSetter where
  | ap
  | sta
  deriving DecidableEq

namespace PasswordSetter

def set : PasswordSetter → WifiDefaults → List UInt8 → Nat → NvsProgram Unit
  | ap => wifiNvsSetApSsidPw
  | sta => wifiNvsSetStaSsidPw

def key : PasswordSetter → String
  | ap => apSsidPwKey
  | sta => staSsidPwKey

def defValue : PasswordSetter → WifiDefaults → Literal
  | ap => WifiDefaults.apSsidPw
  | sta => WifiDefaults.staSsidPw

theorem set_eq (setter : PasswordSetter) (defaults : WifiDefaults) (value : List UInt8)
    (sz : Nat) :
    setter.set defaults value sz =
      setCredential ssidPassSz setter.key value sz (setter.defValue defaults) := by
  cases setter <;> rfl

end PasswordSetter

/-! ## Accesses and decisions -/

/-- A call writes inside its array only. -/
def WritesInside : NvsCall → Prop
  | .write size count => count ≤ size
  | .strncpy dstSize _ count _ => count ≤ dstSize
  | _ => True

/-- A setter up to its decision: the new string in its array, and whether it counts as
changed. -/
def compareCredential (room : Nat) (key : String) (value : List UInt8) (sz : Nat)
    (defValue : Literal) : NvsProgram (List UInt8 × Bool) := do
  let v ← strncpy (List.replicate room 0) value room
  let prev ← getCredential room key (List.replicate ssidSz 0) defValue sz
  let changed ← strncmp v prev sz
  return (v, changed)

/-- A setter goes by its decision. -/
theorem setCredential_eq (room : Nat) (key : String) (value : List UInt8) (sz : Nat)
    (defValue : Literal) :
    setCredential room key value sz defValue =
      (compareCredential room key value sz defValue >>= fun (v, changed) =>
        if changed then do
          let err ← nvsSetString wifiNs key v
          espErrorCheck err
        else return ()) := by
  rw [compareCredential, Program.bind_assoc]
  simp only [Program.bind_assoc]
  rfl

/-- The password that is in force: the one that is stored, or else the default. -/
def PasswordInForce (store : Store) (key : String) (defValue : Literal) (old : CString) : Prop :=
  store.Has wifiNs ∧
    (store.get wifiNs key = some (.str old) ∨
      store.get wifiNs key = none ∧ old = defValue.text)

/-- Every copy stays inside its array, and a password is saved exactly if any of its
characters differs from the one in force. -/
structure SavedInFull (setter : PasswordSetter) (defaults : WifiDefaults) (store : Store)
    (value : List UInt8) (new old : CString) : Prop where
  inside : Program.EachRequest Store.handle WritesInside
    (setter.set defaults value new.length) store
  decides : ∃ v changed,
    (compareCredential ssidPassSz setter.key value new.length
        (setter.defValue defaults)).run Store.handle store = .ok ((v, changed), store) ∧
      (changed = true ↔ new ≠ old)

section Setter

variable {store : Store} {key : String} {room sz : Nat} {defValue : Literal} {new old : CString}

/-- Only copies into arrays with room are answered. -/
theorem writesInside_of_handle (call : NvsCall) (result : call.Response × Store)
    (handled : Store.handle call store = .ok result) : WritesInside call := by
  cases call with
  | write size count => exact (Store.of_access handled : count ≤ size)
  | strncpy dstSize srcSize count reads =>
      exact (Store.of_access handled : count ≤ dstSize ∧ reads ≤ srcSize).1
  | _ => trivial

theorem eachRequest_writesInside_of_run {α : Type} {program : NvsProgram α}
    {result : α × Store} (ran : program.run Store.handle store = .ok result) :
    Program.EachRequest Store.handle WritesInside program store :=
  Program.eachRequest_of_run_eq_ok
    (fun call _ result handled => writesInside_of_handle call result handled) ran

/-- A password that fits the array of the getter can be loaded. -/
theorem PasswordInForce.entry (inForce : PasswordInForce store key defValue old)
    (fits : store.get wifiNs key = some (.str old) → old.length + 1 ≤ room) :
    StringEntry store key room defValue old :=
  ⟨inForce.1, inForce.2.imp_left fun stored => ⟨stored, fits stored⟩⟩

/-- The getter writes inside its arrays if the old password fits one of them and what is
copied fits the other. -/
theorem writesInside_getCredential_iff (inForce : PasswordInForce store key defValue old)
    {value : List UInt8} :
    Program.EachRequest Store.handle WritesInside
        (getCredential room key value defValue sz) store ↔
      (store.get wifiNs key = some (.str old) → old.length + 1 ≤ room) ∧ sz ≤ value.length := by
  by_cases fits : store.get wifiNs key = some (.str old) → old.length + 1 ≤ room
  · rcases run_nvsGetString_of_entry (inForce.entry fits) with ⟨v, loaded, _⟩
    rw [getCredential, Program.eachRequest_bind_iff_of_ok loaded, and_iff_right fits,
      and_iff_right (eachRequest_writesInside_of_run loaded)]
    dsimp only
    rw [Program.eachRequest_bind_iff_of_ok run_espErrorCheck_ok,
      and_iff_right (eachRequest_writesInside_of_run run_espErrorCheck_ok), strncpy,
      Program.eachRequest_bind_iff_left fun _ middle => Program.eachRequest_pure _ middle,
      Program.eachRequest_ask_iff]
    rfl
  · rw [Classical.not_imp] at fits
    rcases fits with ⟨stored, long⟩
    refine iff_of_false ?_ fun inside => long (inside.1 stored)
    rw [getCredential, Program.eachRequest_bind_iff]
    rintro ⟨inside, _⟩
    rw [CString.length] at long
    simp [nvsGetString, Program.eachRequest_bind_iff,
      Store.handle_open_readonly_of_has inForce.1, Store.str_of_get stored, Except.map,
      Store.sized, WritesInside, CString.length] at inside
    omega

/-- What is decided: whether the old password begins with the new one. -/
theorem run_compareCredential (entry : StringEntry store key room defValue old)
    (rest : List UInt8) (fits : new.length < room) (short : new.length ≤ ssidSz) :
    (compareCredential room key (new.chars ++ 0 :: rest) new.length defValue).run
        Store.handle store =
      .ok ((strncpyBytes new room, !decide (new.chars <+: old.chars)), store) := by
  have prevSized : (List.replicate ssidSz (0 : UInt8)).length = ssidSz := List.length_replicate
  rw [compareCredential, Program.run_bind_of_ok _ (run_strncpy_terminated new rest room),
    Program.run_bind_of_ok _ (run_getCredential entry (Nat.le_of_lt fits)
      (short.trans_eq prevSized.symm)),
    Program.run_bind_of_ok _ (run_strncmp_prev fits short), Program.run_pure]

/-- The decision misses what the old password has behind the new one. -/
theorem differs_iff : ¬ new.chars <+: old.chars ↔ new ≠ old ∧ ¬ Shortens new old := by
  constructor
  · intro differs
    refine ⟨?_, fun shortens => differs shortens.1⟩
    rintro rfl
    exact differs List.prefix_rfl
  · rintro ⟨ne, notShortens⟩ begins
    exact notShortens ⟨begins, ne⟩

/-- Where the setter stays inside its arrays. -/
theorem writesInside_setCredential_iff (inForce : PasswordInForce store key defValue old)
    (rest : List UInt8) (fits : new.length < room) :
    Program.EachRequest Store.handle WritesInside
        (setCredential room key (new.chars ++ 0 :: rest) new.length defValue) store ↔
      (store.get wifiNs key = some (.str old) → old.length + 1 ≤ room) ∧ new.length ≤ ssidSz := by
  have copied : (strncpy (List.replicate room 0) (new.chars ++ 0 :: rest) room).run
      Store.handle store = .ok (strncpyBytes new room, store) :=
    run_strncpy_terminated new rest room
  constructor
  · intro inside
    rw [setCredential, Program.eachRequest_bind_iff_of_ok copied,
      Program.eachRequest_bind_iff, writesInside_getCredential_iff inForce,
      List.length_replicate] at inside
    exact inside.2.1
  · rintro ⟨oldFits, short⟩
    rcases run_setCredential_of_copied (inForce.entry oldFits) copied fits short with
      ⟨next, ran, _⟩
    exact eachRequest_writesInside_of_run ran

end Setter

/-- A password of up to 63 characters is saved with all accesses inside the arrays, by a
decision about all of its characters, exactly if it fits the array of a name, the old one
fits its own, and the old one is not the new one with something behind it. -/
theorem savedInFull_iff (setter : PasswordSetter) (defaults : WifiDefaults) (store : Store)
    (new old : CString) (rest : List UInt8) (short : new.length ≤ 63)
    (inForce : PasswordInForce store setter.key (setter.defValue defaults) old) :
    SavedInFull setter defaults store (new.chars ++ 0 :: rest) new old ↔
      new.length ≤ 32 ∧
        (store.get wifiNs setter.key = some (.str old) → old.length ≤ 63) ∧
        ¬ Shortens new old := by
  have fits : new.length < ssidPassSz := Nat.lt_succ_of_le short
  constructor
  · rintro ⟨inside, v, changed, ran, changed_iff⟩
    rw [setter.set_eq, writesInside_setCredential_iff inForce rest fits] at inside
    rcases inside with ⟨oldFits, newFits⟩
    rw [run_compareCredential (inForce.entry oldFits) rest fits newFits] at ran
    cases ran
    refine ⟨newFits, fun stored => Nat.le_of_succ_le_succ (oldFits stored), ?_⟩
    intro shortens
    have changed := changed_iff.mpr shortens.2
    simp [shortens.1] at changed
  · rintro ⟨newFits, oldFits, notShortens⟩
    have oldFits (stored : store.get wifiNs setter.key = some (.str old)) :
        old.length + 1 ≤ ssidPassSz := Nat.succ_le_succ (oldFits stored)
    constructor
    · rw [setter.set_eq, writesInside_setCredential_iff inForce rest fits]
      exact ⟨oldFits, newFits⟩
    · refine ⟨_, _, run_compareCredential (inForce.entry oldFits) rest fits newFits, ?_⟩
      rw [Bool.not_eq_true', decide_eq_false_iff_not, differs_iff, and_iff_left notShortens]

/-- A password of 33 characters, over a stored one. -/
def longPassword : CString :=
  .ofString "correct horse battery staple 4567"

/-- The flash with a password of eight characters. -/
def lockedStore : Store :=
  Store.empty.set wifiNs apSsidPwKey (.str (.ofString "password"))

theorem inForce_lockedStore :
    PasswordInForce lockedStore (PasswordSetter.key .ap)
      (PasswordSetter.defValue .ap .kconfig) (.ofString "password") :=
  ⟨Store.has_set _ _ _ _, .inl (Store.get_set_self _ _ _ _)⟩

/-- A password of 33 characters is copied beyond the array for the old one. -/
theorem not_savedInFull_longPassword :
    ¬ SavedInFull .ap .kconfig lockedStore (longPassword.chars ++ [0]) longPassword
      (.ofString "password") := by
  rintro ⟨inside, _⟩
  rw [PasswordSetter.set_eq, writesInside_setCredential_iff inForce_lockedStore []
    (by decide +kernel)] at inside
  exact absurd inside.2 (by decide +kernel)

/-- The condition at another password. -/
theorem savedInFull_passphrase_iff :
    SavedInFull .ap .kconfig lockedStore ((CString.ofString "passphrase").chars ++ [0])
        (.ofString "passphrase") (.ofString "password") ↔
      (CString.ofString "passphrase").length ≤ 32 ∧
        (lockedStore.get wifiNs (PasswordSetter.key .ap) = some (.str (.ofString "password")) →
          (CString.ofString "password").length ≤ 63) ∧
        ¬ Shortens (.ofString "passphrase") (.ofString "password") :=
  savedInFull_iff .ap .kconfig lockedStore _ _ [] (by decide +kernel) inForce_lockedStore

end WifiSniffer.Settings
