import WifiSniffer.Effect.Answers
import WifiSniffer.Nvs.Lib

/-!
# One entry of the flash

Calls that go by one entry only.  They see nothing else of the flash, and they leave
everything else in it alone.
-/

namespace WifiSniffer.Nvs

open WifiSniffer.Bytes WifiSniffer.Effect
open Program (Asks)

/-! ## Calls with one entry -/

/-- A call is one with the given entry, or with none. -/
def NvsCall.Local (ns key : String) : NvsCall → Prop
  | .open opened _ => opened = ns
  | .getNum nvs name _ | .setNum nvs name _ _ | .strSize nvs name | .getStr nvs name _
  | .setStr nvs name _ | .blobSize nvs name | .getBlob nvs name _ | .setBlob nvs name _ =>
      name = key ∧ ∀ handle, nvs = some handle → handle.ns = ns
  | .write _ _ | .load _ _ | .strncpy _ _ _ _ | .compare _ _ _ | .read _ _ | .abort _
  | .close _ | .commit _ => True

/-- What a call is answered: a namespace is opened in the mode asked for, for writing in any
case, and then written to. -/
def NvsCall.Answers : (call : NvsCall) → call.Response → Prop
  | .open ns .readwrite, (err, nvs) => err = .ok ∧ nvs = some ⟨ns, .readwrite⟩
  | .open ns .readonly, (_, nvs) => ∀ handle, nvs = some handle → handle.ns = ns
  | .setNum (some ⟨_, .readwrite⟩) _ _ _, err => err = .ok
  | .commit (some _), err => err = .ok
  | _, _ => True

namespace Store

/-- The flash, as far as one entry goes. -/
def only (store : Store) (ns key : String) : Store where
  namespaces other :=
    if other = ns then
      (store.namespaces ns).map fun entries name => if name = key then entries key else none
    else none

section Only

variable {store : Store} {ns key : String}

@[simp]
theorem get_only (store : Store) (ns key : String) :
    (store.only ns key).get ns key = store.get ns key := by
  cases entries : store.namespaces ns <;> simp [get, only, entries]

@[simp]
theorem has_only_iff : (store.only ns key).Has ns ↔ store.Has ns := by
  simp [Has, only]

theorem only_create (store : Store) (ns key : String) :
    (store.create ns).only ns key = (store.only ns key).create ns := by
  rw [only, only, create, create, Store.mk.injEq]
  funext other
  by_cases same : other = ns
  · subst same
    cases store.namespaces other <;> simp
  · simp [same]

theorem only_set (store : Store) (ns key : String) (value : NvsValue) :
    (store.set ns key value).only ns key = (store.only ns key).set ns key value := by
  rw [only, only, set, set, Store.mk.injEq]
  funext other
  by_cases same : other = ns
  · subst same
    simp only [Function.update_self, if_true, Option.map_some]
    refine congrArg some (funext fun name => ?_)
    by_cases named : name = key
    · simp [named]
    · cases store.namespaces other <;> simp [named]
  · simp [same]

theorem only_eq_of_get_eq {other : Store} (has : store.Has ns) (has' : other.Has ns)
    (get_eq : other.get ns key = store.get ns key) : other.only ns key = store.only ns key := by
  rcases Option.isSome_iff_exists.mp has with ⟨entries, entries_eq⟩
  rcases Option.isSome_iff_exists.mp has' with ⟨entries', entries'_eq⟩
  simp only [get, entries_eq, entries'_eq, Option.bind_some] at get_eq
  simp [only, entries_eq, entries'_eq, get_eq]

theorem entry_only {nvs : Option Handle} (opened : ∀ handle, nvs = some handle → handle.ns = ns) :
    (store.only ns key).entry nvs key = store.entry nvs key := by
  cases nvs with
  | none => rfl
  | some handle =>
      obtain rfl := opened handle rfl
      rw [entry, entry, get_only]

/-- What is done to one entry is done in the whole flash. -/
theorem put_only {nvs : Option Handle} (opened : ∀ handle, nvs = some handle → handle.ns = ns)
    (value : NvsValue) :
    (store.only ns key).put nvs key value =
      ((store.put nvs key value).1, (store.put nvs key value).2.only ns key) := by
  match nvs with
  | none => rfl
  | some ⟨opened', .readonly⟩ => rfl
  | some ⟨opened', .readwrite⟩ =>
      obtain rfl := opened _ rfl
      rw [put, put, only_set]

theorem access_only {inBounds : Bool} {answer : Unit} {seen : Store}
    (accessed : (store.only ns key).access inBounds = .ok (answer, seen)) :
    store.access inBounds = .ok (answer, store) ∧ store.only ns key = seen := by
  cases inBounds with
  | true =>
      cases accessed
      exact ⟨rfl, rfl⟩
  | false => cases accessed

end Only

/-! ## What such calls do -/

section Local

variable {store next seen : Store} {ns key : String} {call : NvsCall} {answer : call.Response}

/-- A call with one entry sees no more of the flash than that. -/
theorem handle_only (isLocal : call.Local ns key)
    (handled : handle call (store.only ns key) = .ok (answer, seen)) :
    ∃ next, handle call store = .ok (answer, next) ∧ next.only ns key = seen := by
  cases call with
  | write size count => exact ⟨store, access_only handled⟩
  | read size count => exact ⟨store, access_only handled⟩
  | strncpy dstSize srcSize count reads => exact ⟨store, access_only handled⟩
  | compare firstSize secondSize reads => exact ⟨store, access_only handled⟩
  | load literal count =>
      cases handled
      exact ⟨store, rfl, rfl⟩
  | abort err => cases handled
  | «open» opened mode =>
      obtain rfl : opened = ns := isLocal
      cases mode with
      | readwrite =>
          cases handled
          exact ⟨store.create opened, rfl, only_create store opened key⟩
      | readonly =>
          by_cases has : store.Has opened
          · rw [handle_open_readonly_of_has (has_only_iff.mpr has)] at handled
            cases handled
            exact ⟨store, handle_open_readonly_of_has has, rfl⟩
          · rw [handle_open_readonly_of_not_has (mt has_only_iff.mp has)] at handled
            cases handled
            exact ⟨store, handle_open_readonly_of_not_has has, rfl⟩
  | close nvs =>
      cases handled
      exact ⟨store, rfl, rfl⟩
  | commit nvs =>
      cases nvs <;> cases handled <;> exact ⟨store, rfl, rfl⟩
  | getNum nvs name type =>
      rcases isLocal with ⟨rfl, opened⟩
      cases handled
      refine ⟨store, ?_, rfl⟩
      rw [handle_getNum, num, num, entry_only opened]
  | strSize nvs name =>
      rcases isLocal with ⟨rfl, opened⟩
      cases handled
      refine ⟨store, ?_, rfl⟩
      rw [handle_strSize, str, str, entry_only opened]
  | getStr nvs name len =>
      rcases isLocal with ⟨rfl, opened⟩
      cases handled
      refine ⟨store, ?_, rfl⟩
      rw [handle_getStr, str, str, entry_only opened]
  | blobSize nvs name =>
      rcases isLocal with ⟨rfl, opened⟩
      cases handled
      refine ⟨store, ?_, rfl⟩
      rw [handle_blobSize, blob, blob, entry_only opened]
  | getBlob nvs name len =>
      rcases isLocal with ⟨rfl, opened⟩
      cases handled
      refine ⟨store, ?_, rfl⟩
      rw [handle_getBlob, blob, blob, entry_only opened]
  | setNum nvs name type value =>
      rcases isLocal with ⟨rfl, opened⟩
      rw [handle, put_only opened] at handled
      cases handled
      exact ⟨_, rfl, rfl⟩
  | setStr nvs name value =>
      rcases isLocal with ⟨rfl, opened⟩
      rw [handle, put_only opened] at handled
      cases handled
      exact ⟨_, rfl, rfl⟩
  | setBlob nvs name value =>
      rcases isLocal with ⟨rfl, opened⟩
      rw [handle, put_only opened] at handled
      cases handled
      exact ⟨_, rfl, rfl⟩

/-- Writing to a namespace leaves the entries of others alone. -/
theorem get_set_of_ns_ne (store : Store) {written ns : String} (name key : String)
    (value : NvsValue) (ne : ns ≠ written) :
    (store.set written name value).get ns key = store.get ns key := by
  simp [get, set, ne]

theorem get_put {nvs : Option Handle} {name : String} {value : NvsValue} {err : EspErr}
    (opened : ∀ handle, nvs = some handle → handle.ns = ns)
    (written : store.put nvs name value = (err, next)) {otherNs other : String}
    (elsewhere : otherNs ≠ ns ∨ other ≠ name) :
    next.get otherNs other = store.get otherNs other := by
  match nvs with
  | none | some ⟨_, .readonly⟩ =>
      cases written
      rfl
  | some ⟨opened', .readwrite⟩ =>
      obtain rfl := opened _ rfl
      cases written
      by_cases same : otherNs = opened'
      · subst same
        exact get_set_of_ne store value otherNs (elsewhere.resolve_left (not_not_intro rfl))
      · exact get_set_of_ns_ne store name other value same

/-- A call with one entry leaves all others as they are. -/
theorem get_of_handle_local (isLocal : call.Local ns key)
    (handled : handle call store = .ok (answer, next)) {otherNs other : String}
    (elsewhere : otherNs ≠ ns ∨ other ≠ key) :
    next.get otherNs other = store.get otherNs other := by
  by_cases reads : call.Reads
  · rw [eq_of_handle_reads reads handled]
  · cases call with
    | «open» opened mode =>
        cases mode with
        | readwrite =>
            cases handled
            exact get_create store opened otherNs other
        | readonly => exact absurd trivial reads
    | setNum nvs name type value =>
        rcases isLocal with ⟨rfl, opened⟩
        exact get_put opened (Except.ok.inj handled) elsewhere
    | setStr nvs name value =>
        rcases isLocal with ⟨rfl, opened⟩
        exact get_put opened (Except.ok.inj handled) elsewhere
    | setBlob nvs name value =>
        rcases isLocal with ⟨rfl, opened⟩
        exact get_put opened (Except.ok.inj handled) elsewhere
    | _ => exact absurd trivial reads

/-- A call that halts its program leaves the flash as it is. -/
theorem store_of_handle_error {call : NvsCall} {store : Store} {halt : Halt}
    (handled : handle call store = .error halt) : halt.store = store := by
  have accessed {inBounds : Bool} (stopped : store.access inBounds = .error halt) :
      halt.store = store := by
    cases inBounds with
    | true => cases stopped
    | false =>
        cases stopped
        rfl
  cases call with
  | write size count => exact accessed handled
  | read size count => exact accessed handled
  | strncpy dstSize srcSize count reads => exact accessed handled
  | compare firstSize secondSize reads => exact accessed handled
  | abort err =>
      cases handled
      rfl
  | commit nvs => cases nvs <;> cases handled
  | _ => cases handled

/-- Calls are answered as documented. -/
theorem answers_of_handle (handled : handle call store = .ok (answer, next)) :
    call.Answers answer := by
  cases call with
  | «open» opened mode =>
      cases mode with
      | readwrite =>
          cases handled
          exact ⟨rfl, rfl⟩
      | readonly =>
          by_cases has : store.Has opened
          · rw [handle_open_readonly_of_has has] at handled
            cases handled
            rintro _ ⟨⟩
            rfl
          · rw [handle_open_readonly_of_not_has has] at handled
            cases handled
            exact nofun
  | setNum nvs name type value =>
      match nvs with
      | none | some ⟨_, .readonly⟩ => trivial
      | some ⟨_, .readwrite⟩ =>
          cases handled
          rfl
  | commit nvs =>
      cases nvs with
      | none => trivial
      | some nvs =>
          cases handled
          rfl
  | _ => trivial

end Local

end Store

/-! ## The library -/

/-- A call that never halts its program. -/
def NvsCall.Unfailing : NvsCall → Prop
  | .write _ _ | .strncpy _ _ _ _ | .compare _ _ _ | .read _ _ | .abort _ => False
  | _ => True

theorem NvsCall.Unfailing.handle {call : NvsCall} (unfailing : call.Unfailing) (store : Store) :
    ∃ answer next, Store.handle call store = .ok (answer, next) := by
  cases call with
  | commit nvs => cases nvs <;> exact ⟨_, _, rfl⟩
  | write size count => exact unfailing.elim
  | strncpy dstSize srcSize count reads => exact unfailing.elim
  | compare firstSize secondSize reads => exact unfailing.elim
  | read size count => exact unfailing.elim
  | abort err => exact unfailing.elim
  | _ => exact ⟨_, _, rfl⟩

section Lib

variable {ns key : String}

theorem local_open (ns key : String) (mode : OpenMode) : (NvsCall.open ns mode).Local ns key :=
  rfl

/-- A handle that has just been opened. -/
theorem opened_of_eq (mode : OpenMode) :
    ∀ handle, (some ⟨ns, mode⟩ : Option Handle) = some handle → handle.ns = ns := by
  rintro _ ⟨⟩
  rfl

/-- Setting a number goes well and concerns its entry only. -/
theorem asks_nvsSetNum32i (value : Int) :
    Asks NvsCall.Answers (fun call => call.Local ns key ∧ call.Unfailing) (fun err => err = .ok)
      (nvsSetNum32i ns key value) := by
  apply Asks.ask_bind ⟨rfl, trivial⟩
  rintro ⟨err, nvs⟩ ⟨rfl, rfl⟩
  apply Asks.ask_bind ⟨⟨rfl, opened_of_eq .readwrite⟩, trivial⟩
  rintro _ rfl
  apply Asks.ask_bind ⟨trivial, trivial⟩
  rintro _ rfl
  apply Asks.ask_bind ⟨trivial, trivial⟩
  intro _ _
  exact Program.asks_pure rfl

/-- So does reading one. -/
theorem asks_nvsGetNum32i (defValue : Int) :
    Asks NvsCall.Answers (fun call => call.Local ns key ∧ call.Unfailing) (fun _ => True)
      (nvsGetNum32i ns key defValue) := by
  apply Asks.ask_bind ⟨rfl, trivial⟩
  rintro ⟨err, nvs⟩ ⟨rfl, rfl⟩
  apply Asks.ask_bind ⟨⟨rfl, opened_of_eq .readwrite⟩, trivial⟩
  intro found _
  apply Asks.ask_bind ⟨trivial, trivial⟩
  intro _ _
  rcases found with err | value
  · cases err <;> exact Program.asks_pure trivial
  · exact Program.asks_pure trivial

/-- Setting an array concerns its entry only. -/
theorem asks_nvsSetArray (value : List UInt8) (sz : Nat) :
    Asks NvsCall.Answers (NvsCall.Local ns key) (fun _ => True)
      (nvsSetArray ns key value sz) := by
  apply Asks.ask_bind (local_open ns key .readwrite)
  rintro ⟨err, nvs⟩ ⟨rfl, rfl⟩
  apply Asks.ask_bind trivial
  intro _ _
  apply Asks.ask_bind ⟨rfl, opened_of_eq .readwrite⟩
  intro err _
  dsimp only
  split
  · apply Asks.ask_bind trivial
    intro _ _
    exact Asks.ask_bind trivial fun _ _ => Program.asks_pure trivial
  · exact Asks.ask_bind trivial fun _ _ => Program.asks_pure trivial

theorem asks_espErrorCheck (err : EspErr) :
    Asks NvsCall.Answers (NvsCall.Local ns key) (fun _ => True) (espErrorCheck err) := by
  rw [espErrorCheck]
  split
  · exact Program.asks_pure trivial
  · exact Asks.ask_bind trivial fun never _ => never.elim

theorem asks_memcpy (dst src : List UInt8) (count : Nat) :
    Asks NvsCall.Answers (NvsCall.Local ns key) (fun _ => True) (memcpy dst src count) := by
  apply Asks.ask_bind trivial
  intro _ _
  exact Asks.ask_bind trivial fun _ _ => Program.asks_pure trivial

/-- So does reading one. -/
theorem asks_nvsGetArray (value : List UInt8) (sz : Nat) (defValue : List UInt8) (defSz : Nat) :
    Asks NvsCall.Answers (NvsCall.Local ns key) (fun _ => True)
      (nvsGetArray ns key value sz defValue defSz) := by
  apply Asks.ask_bind (local_open ns key .readonly)
  rintro ⟨err, nvs⟩ opened
  have closes (result : EspErr × List UInt8 × Nat) :
      Asks NvsCall.Answers (NvsCall.Local ns key) (fun _ => True)
        (ask (.close nvs) >>= fun _ => pure result) :=
    Asks.ask_bind trivial fun _ _ => Program.asks_pure trivial
  dsimp only
  split
  · split
    · exact (asks_memcpy value defValue defSz).bind fun _ _ => Program.asks_pure trivial
    · exact Program.asks_pure trivial
  · apply Asks.ask_bind ⟨rfl, opened⟩
    intro found _
    rcases found with err | len
    · cases err
      case nvsNotFound =>
        exact (asks_memcpy value defValue defSz).bind fun copied _ => closes (.ok, copied, defSz)
      all_goals exact closes _
    · apply Asks.ask_bind ⟨rfl, opened⟩
      intro got _
      rcases got with err | data
      · exact closes _
      · exact Asks.ask_bind trivial fun _ _ => closes _

theorem asks_memcpyLiteral (dst : List UInt8) (src : Literal) (count : Nat) :
    Asks NvsCall.Answers (NvsCall.Local ns key) (fun _ => True)
      (memcpyLiteral dst src count) := by
  apply Asks.ask_bind trivial
  intro _ _
  exact Asks.ask_bind trivial fun _ _ => Program.asks_pure trivial

theorem asks_nvsSetString (strValue : List UInt8) :
    Asks NvsCall.Answers (NvsCall.Local ns key) (fun _ => True)
      (nvsSetString ns key strValue) := by
  apply Asks.ask_bind (local_open ns key .readwrite)
  rintro ⟨err, nvs⟩ ⟨rfl, rfl⟩
  apply Asks.ask_bind trivial
  intro _ _
  apply Asks.ask_bind ⟨rfl, opened_of_eq .readwrite⟩
  intro err _
  dsimp only
  split
  · apply Asks.ask_bind trivial
    intro _ _
    exact Asks.ask_bind trivial fun _ _ => Program.asks_pure trivial
  · exact Asks.ask_bind trivial fun _ _ => Program.asks_pure trivial

/-- A default that is copied first. -/
theorem asks_filled {R : Type} {err : EspErr} {outValue : List UInt8} {defValue : Literal}
    {defValueSz : Nat} {rest : List UInt8 → NvsProgram R}
    (asks : ∀ copied, Asks NvsCall.Answers (NvsCall.Local ns key) (fun _ => True) (rest copied)) :
    Asks NvsCall.Answers (NvsCall.Local ns key) (fun _ => True)
      (if err ≠ .ok then memcpyLiteral outValue defValue defValueSz >>= rest
        else rest outValue) := by
  split
  · exact (asks_memcpyLiteral outValue defValue defValueSz).bind fun copied _ => asks copied
  · exact asks outValue

/-- A string is read by its entry, also when the namespace is missing. -/
theorem asks_nvsGetString (outValue : List UInt8) (defValue : Literal) (defValueSz : Nat) :
    Asks NvsCall.Answers (NvsCall.Local ns key) (fun _ => True)
      (nvsGetString ns key outValue defValue defValueSz) := by
  apply Asks.ask_bind (local_open ns key .readonly)
  rintro ⟨err, nvs⟩ opened
  have closes (result : EspErr × List UInt8) :
      Asks NvsCall.Answers (NvsCall.Local ns key) (fun _ => True)
        (ask (.close nvs) >>= fun _ => pure result) :=
    Asks.ask_bind trivial fun _ _ => Program.asks_pure trivial
  apply asks_filled
  intro filled
  apply Asks.ask_bind ⟨rfl, opened⟩
  intro found _
  rcases found with err | len
  · cases err
    case nvsNotFound =>
      exact (asks_memcpyLiteral filled defValue defValueSz).bind
        fun copied _ => closes (.ok, copied)
    all_goals exact closes _
  · apply Asks.ask_bind ⟨rfl, opened⟩
    intro got _
    rcases got with err | data
    · exact closes _
    · exact Asks.ask_bind trivial fun _ _ => closes _

end Lib

/-! ## Calls with some entries -/

/-- A call is one with one of the given entries, or with none. -/
def NvsCall.Among (ns : String) (keys : List String) : NvsCall → Prop
  | .open opened _ => opened = ns
  | .getNum nvs name _ | .setNum nvs name _ _ | .strSize nvs name | .getStr nvs name _
  | .setStr nvs name _ | .blobSize nvs name | .getBlob nvs name _ | .setBlob nvs name _ =>
      name ∈ keys ∧ ∀ handle, nvs = some handle → handle.ns = ns
  | .write _ _ | .load _ _ | .strncpy _ _ _ _ | .compare _ _ _ | .read _ _ | .abort _
  | .close _ | .commit _ => True

section Among

variable {ns key : String} {keys : List String} {call : NvsCall}

theorem NvsCall.Local.among (isLocal : call.Local ns key) (member : key ∈ keys) :
    call.Among ns keys := by
  cases call <;> first | exact trivial | exact isLocal | exact ⟨isLocal.1 ▸ member, isLocal.2⟩

/-- Among other entries, and in other namespaces, nothing changes. -/
theorem Store.get_of_handle_among {store next : Store} {answer : call.Response}
    (among : call.Among ns keys) (handled : Store.handle call store = .ok (answer, next))
    {otherNs other : String} (elsewhere : otherNs ≠ ns ∨ other ∉ keys) :
    next.get otherNs other = store.get otherNs other := by
  have apart {name : String} (member : name ∈ keys) : otherNs ≠ ns ∨ other ≠ name := by
    rcases elsewhere with ne | absent
    · exact .inl ne
    · refine .inr ?_
      rintro rfl
      exact absent member
  by_cases reads : call.Reads
  · rw [Store.eq_of_handle_reads reads handled]
  cases call with
  | «open» opened mode =>
      cases mode with
      | readwrite =>
          cases handled
          exact Store.get_create store opened otherNs other
      | readonly => exact absurd trivial reads
  | setNum nvs name type value =>
      exact Store.get_put among.2 (Except.ok.inj handled) (apart among.1)
  | setStr nvs name value =>
      exact Store.get_put among.2 (Except.ok.inj handled) (apart among.1)
  | setBlob nvs name value =>
      exact Store.get_put among.2 (Except.ok.inj handled) (apart among.1)
  | _ => exact absurd trivial reads

end Among

end WifiSniffer.Nvs
