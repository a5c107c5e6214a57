import WifiSniffer.Wifi.Lib

/-!
# Names and passwords of full length

A name may have as many characters as its array has bytes, and so may a password.
`strncpy` then leaves no terminator in the array, and `strlen` goes on behind it.
-/

namespace WifiSniffer.Wifi

open WifiSniffer.Bytes WifiSniffer.Effect WifiSniffer.Nvs WifiSniffer.Settings

/-- What both commands make of a name and a password that have been typed. -/
def typedSsidCfg (ssid password : CString) : NvsProgram SsidCfg := do
  let nvsSsid ← strncpy (List.replicate ssidSz 0) (ssid.chars ++ [0]) ssidSz
  let nvsSsidPw ← strncpy (List.replicate ssidPassSz 0) (password.chars ++ [0]) ssidPassSz
  convertToSsidCfg nvsSsid ssidSz nvsSsidPw ssidPassSz

section Commands

variable (ipaddrAddr : CString → UInt32) (defaults : WifiDefaults) (ssid password : CString)

theorem nvs_typedSsidCfg {α : Type} (next : SsidCfg → WifiProgram α) :
    (nvs (typedSsidCfg ssid password) >>= next) =
      (nvs (strncpy (List.replicate ssidSz 0) (ssid.chars ++ [0]) ssidSz) >>= fun nvsSsid =>
        nvs (strncpy (List.replicate ssidPassSz 0) (password.chars ++ [0]) ssidPassSz) >>=
          fun nvsSsidPw =>
            nvs (convertToSsidCfg nvsSsid ssidSz nvsSsidPw ssidPassSz) >>= next) := by
  simp only [typedSsidCfg, nvs, Program.translate_bind, Program.bind_assoc]

/-- `set-sta` hands the typed configuration on. -/
theorem consoleWifiExecSetSta_typed :
    consoleWifiExecSetSta defaults (some ssid) (some password) =
      (nvs (typedSsidCfg ssid password) >>= wifiSta defaults) :=
  (nvs_typedSsidCfg ssid password _).symm

/-- So does `set-ap`. -/
theorem consoleWifiExecSetAp_typed (channel : Option Int) :
    consoleWifiExecSetAp ipaddrAddr defaults (some ssid) (some password) channel =
      (nvs (typedSsidCfg ssid password) >>= fun ssidCfg => do
        let ch ← nvs (channelOr defaults channel)
        let espNetifIpInfo ← nvs (wifiNvsGetStaticIpInfo ipaddrAddr defaults)
        let dnsServersInfo ← nvs (wifiNvsGetDnsServers ipaddrAddr defaults)
        wifiAp ipaddrAddr defaults ssidCfg ch espNetifIpInfo dnsServersInfo) :=
  (nvs_typedSsidCfg ssid password _).symm

end Commands

/-- A call stays inside the arrays that it is about. -/
def Inside : NvsCall → Prop
  | .write size count => count ≤ size
  | .read size count => count ≤ size
  | .strncpy dstSize srcSize count reads => count ≤ dstSize ∧ reads ≤ srcSize
  | .compare firstSize secondSize reads => reads ≤ firstSize ∧ reads ≤ secondSize
  | _ => True

/-- A typed name and password come out with their lengths, and no array is left. -/
structure Handled (store : Store) (ssid password : CString) : Prop where
  inside : Program.EachRequest Store.handle Inside (typedSsidCfg ssid password) store
  yields : ∃ cfg, (typedSsidCfg ssid password).run Store.handle store = .ok (cfg, store) ∧
    cfg.ssidSz = ssid.length ∧ cfg.ssid.take cfg.ssidSz = ssid.chars ∧
    cfg.passSz = password.length ∧ cfg.password.take cfg.passSz = password.chars

section Typed

variable {store : Store} {ssid password : CString}

/-- Only accesses inside arrays are answered. -/
theorem inside_of_handle (call : NvsCall) (result : call.Response × Store)
    (handled : Store.handle call store = .ok result) : Inside call := by
  cases call with
  | write size count => exact (Store.of_access handled : count ≤ size)
  | read size count => exact (Store.of_access handled : count ≤ size)
  | strncpy dstSize srcSize count reads =>
      exact (Store.of_access handled : count ≤ dstSize ∧ reads ≤ srcSize)
  | compare firstSize secondSize reads =>
      exact (Store.of_access handled : reads ≤ firstSize ∧ reads ≤ secondSize)
  | _ => trivial

theorem run_typedSsidCfg :
    (typedSsidCfg ssid password).run Store.handle store =
      (convertToSsidCfg (strncpyBytes ssid ssidSz) ssidSz (strncpyBytes password ssidPassSz)
        ssidPassSz).run Store.handle store := by
  rw [typedSsidCfg, Program.run_bind_of_ok _ (run_strncpy_terminated ssid [] ssidSz),
    Program.run_bind_of_ok _ (run_strncpy_terminated password [] ssidPassSz)]

theorem strncpyBytes_take_length {string : CString} {size : Nat} (fits : string.length < size) :
    (strncpyBytes string size).take string.length = string.chars := by
  rw [strncpyBytes, List.take_of_length_le (Nat.le_of_lt fits)]
  exact List.take_left

/-- What is handled leaves room for the terminators. -/
theorem Handled.fits (handled : Handled store ssid password) :
    ssid.length < ssidSz ∧ password.length < ssidPassSz := by
  rcases handled with ⟨_, cfg, ran, _⟩
  rw [run_typedSsidCfg] at ran
  exact fits_of_run_convertToSsidCfg ran

end Typed

/-- Exactly the names and passwords that leave room for a terminator are handled. -/
theorem handled_iff (store : Store) (ssid password : CString) :
    Handled store ssid password ↔ ssid.length ≤ 31 ∧ password.length ≤ 63 := by
  constructor
  · intro handled
    exact handled.fits.imp Nat.le_of_lt_succ Nat.le_of_lt_succ
  · rintro ⟨ssidFits, passwordFits⟩
    have ran : (typedSsidCfg ssid password).run Store.handle store =
        .ok (ssidCfgOf ssid password, store) := by
      rw [run_typedSsidCfg, run_convertToSsidCfg (Nat.lt_succ_of_le ssidFits)
        (Nat.lt_succ_of_le passwordFits)]
    refine ⟨Program.eachRequest_of_run_eq_ok ?_ ran, _, ran, rfl, ?_, rfl, ?_⟩
    · exact fun call _ result handled => inside_of_handle call result handled
    · exact strncpyBytes_take_length (Nat.lt_succ_of_le ssidFits)
    · exact strncpyBytes_take_length (Nat.lt_succ_of_le passwordFits)

/-- A name of 32 characters. -/
theorem not_handled_full_ssid :
    ¬ Handled .empty (.ofString "abcdefghijklmnopqrstuvwxyz012345") (.ofString "mypassword") := by
  intro handled
  exact absurd handled.fits (by decide +kernel)

end WifiSniffer.Wifi
