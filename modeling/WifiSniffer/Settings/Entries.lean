import WifiSniffer.Nvs.Local
import WifiSniffer.Settings.Filter
import WifiSniffer.Settings.Wifi

/-!
# The entries that settings go by

The setters of `wifi_lib_nvs.c` for the mode, the channel and the credentials, with the
getters that they call, go by the entries of their own keys, and those of
`wifi_sniffer_nvs.c` do the same in another namespace.  They keep to that also when they
come to a halt on the way.
-/

namespace WifiSniffer.Settings

open WifiSniffer.Bytes WifiSniffer.Effect WifiSniffer.Handler WifiSniffer.Nvs
open Program (Asks)

variable {ns key : String} {keys : List String} {α : Type}

/-- A program goes by the entries of some keys in one namespace. -/
abbrev GoesBy (ns : String) (keys : List String) (program : NvsProgram α) : Prop :=
  Asks NvsCall.Answers (NvsCall.Among ns keys) (fun _ => True) program

/-! ## The library -/

section Lib

/-- What goes by one entry goes by several. -/
theorem goesBy_of_local {program : NvsProgram α}
    (asks : Asks NvsCall.Answers (NvsCall.Local ns key) (fun _ => True) program)
    (member : key ∈ keys) : GoesBy ns keys program :=
  asks.imp fun _ isLocal => isLocal.among member

theorem goesBy_espErrorCheck (err : EspErr) : GoesBy ns keys (espErrorCheck err) := by
  rw [espErrorCheck]
  split
  · exact Program.asks_pure trivial
  · exact Asks.ask_bind trivial fun never _ => never.elim

/-- A call that is no matter of the flash. -/
theorem goesBy_strncpy (dst src : List UInt8) (count : Nat) :
    GoesBy ns keys (strncpy dst src count) :=
  Asks.ask_bind trivial fun _ _ => Program.asks_pure trivial

theorem goesBy_strncmp (first second : List UInt8) (count : Nat) :
    GoesBy ns keys (strncmp first second count) :=
  Asks.ask_bind trivial fun _ _ => Program.asks_pure trivial

theorem goesBy_nvsGetNum32i (member : key ∈ keys) (defValue : Int) :
    GoesBy ns keys (nvsGetNum32i ns key defValue) :=
  goesBy_of_local ((asks_nvsGetNum32i defValue).imp fun _ => And.left) member

theorem goesBy_setNum32i (member : key ∈ keys) (value : Int) :
    GoesBy ns keys (do
      let err ← nvsSetNum32i ns key value
      espErrorCheck err) := by
  have sets : Asks NvsCall.Answers (NvsCall.Local ns key) (fun _ => True)
      (nvsSetNum32i ns key value) :=
    ((asks_nvsSetNum32i value).imp fun _ => And.left).mono fun _ _ => trivial
  exact (goesBy_of_local sets member).bind fun err _ => goesBy_espErrorCheck err

theorem goesBy_setString (member : key ∈ keys) (value : List UInt8) :
    GoesBy ns keys (do
      let err ← nvsSetString ns key value
      espErrorCheck err) :=
  (goesBy_of_local (asks_nvsSetString value) member).bind fun err _ => goesBy_espErrorCheck err

end Lib

/-! ## Wi-Fi -/

section Wifi

theorem goesBy_wifiNvsGetMode (member : modeKey ∈ keys) : GoesBy wifiNs keys wifiNvsGetMode :=
  (goesBy_nvsGetNum32i member _).bind fun _ _ => Program.asks_pure trivial

theorem goesBy_wifiNvsSetMode (member : modeKey ∈ keys) (mode : WifiLibMode) :
    GoesBy wifiNs keys (wifiNvsSetMode mode) := by
  apply (goesBy_wifiNvsGetMode member).bind
  intro prev _
  split
  · exact goesBy_setNum32i member _
  · exact Program.asks_pure trivial

variable (defaults : WifiDefaults)

theorem goesBy_wifiNvsGetApChannel (member : apChannelKey ∈ keys) :
    GoesBy wifiNs keys (wifiNvsGetApChannel defaults) :=
  (goesBy_nvsGetNum32i member _).bind fun _ _ => Program.asks_pure trivial

theorem goesBy_wifiNvsSetApChannel (member : apChannelKey ∈ keys) (channel : UInt8) :
    GoesBy wifiNs keys (wifiNvsSetApChannel defaults channel) := by
  apply (goesBy_wifiNvsGetApChannel defaults member).bind
  intro prev _
  split
  · exact goesBy_setNum32i member _
  · exact Program.asks_pure trivial

theorem goesBy_getCredential (member : key ∈ keys) (room : Nat) (value : List UInt8)
    (defValue : Literal) (sz : Nat) :
    GoesBy wifiNs keys (getCredential room key value defValue sz) := by
  apply (goesBy_of_local (asks_nvsGetString _ _ _) member).bind
  rintro ⟨err, v⟩ _
  exact (goesBy_espErrorCheck err).bind fun _ _ => goesBy_strncpy value v sz

theorem goesBy_setCredential (member : key ∈ keys) (room : Nat) (value : List UInt8) (sz : Nat)
    (defValue : Literal) : GoesBy wifiNs keys (setCredential room key value sz defValue) := by
  apply (goesBy_strncpy _ value room).bind
  intro v _
  apply (goesBy_getCredential member room _ defValue sz).bind
  intro prev _
  apply (goesBy_strncmp v prev sz).bind
  intro changed _
  split
  · exact goesBy_setString member v
  · exact Program.asks_pure trivial

end Wifi

/-! ## Filters -/

section Filters

theorem asks_wifiSnifferNvsGetFilterMac (key : String) :
    Asks NvsCall.Answers (NvsCall.Local snifferNs key) (fun _ => True)
      (wifiSnifferNvsGetFilterMac key) := by
  apply (asks_nvsGetArray _ _ _ _).bind
  rintro ⟨err, addr, size⟩ _
  exact (asks_espErrorCheck err).bind fun _ _ => Program.asks_pure trivial

theorem asks_wifiSnifferNvsSetFilterMac (key : String) (addrFilter : AddrFilter) :
    Asks NvsCall.Answers (NvsCall.Local snifferNs key) (fun _ => True)
      (wifiSnifferNvsSetFilterMac key addrFilter) := by
  apply (asks_wifiSnifferNvsGetFilterMac key).bind
  intro prevAddrFilter _
  have compares : Asks NvsCall.Answers (NvsCall.Local snifferNs key) (fun _ => True)
      (filterChanged addrFilter prevAddrFilter) := by
    rw [filterChanged]
    split
    · exact Program.asks_pure trivial
    · exact Asks.ask_bind trivial fun _ _ => Program.asks_pure trivial
  apply compares.bind
  intro changed _
  split
  · apply (asks_nvsSetArray _ _).bind
    exact fun err _ => asks_espErrorCheck err
  · exact Program.asks_pure trivial

theorem asks_wifiSnifferNvsGetFilterRssi :
    Asks NvsCall.Answers (fun call => call.Local snifferNs rssiKey ∧ call.Unfailing)
      (fun _ => True) wifiSnifferNvsGetFilterRssi :=
  (asks_nvsGetNum32i _).bind fun _ _ => Program.asks_pure trivial

/-- Storing a threshold never fails, whatever the others do with its entry. -/
theorem asks_wifiSnifferNvsSetFilterRssi (rssi : Int8) :
    Asks NvsCall.Answers (fun call => call.Local snifferNs rssiKey ∧ call.Unfailing)
      (fun _ => True) (wifiSnifferNvsSetFilterRssi rssi) := by
  apply asks_wifiSnifferNvsGetFilterRssi.bind
  intro prevRssi _
  split
  · apply (asks_nvsSetNum32i _).bind
    rintro _ rfl
    exact Program.asks_pure trivial
  · exact Program.asks_pure trivial

end Filters

end WifiSniffer.Settings
