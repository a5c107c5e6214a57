import WifiSniffer.Handler.PacketHandler
import WifiSniffer.Transition.Labelled

/-!
# Filters that change during a call

The packet handler runs in the task of the driver, and `sniffer_set_addr2_filter` in
that of the console.  Both take `_filter_sem`, but the handler gives it back before
its first comparison.  A management frame is compared with `addr2_filter` twice, and
the filter may change in between; the decision is then that of no filter at all
exactly if both comparisons fail and every filter of the call alone accepts the
frame.
-/

namespace WifiSniffer.Handler

open WifiSniffer.Transition

/-! ## The machine -/

/-- A call of `sniffer_set_filter` that has taken the semaphore. -/
structure Setter where
  addrFilter : AddrFilter
  /-- whether `*filter = addrFilter` is behind it -/
  assigned : Bool

inductive SemHolder where
  | handler
  | setter (setter : Setter)

/-- How far a call of the handler has come. -/
inductive HandlerPhase where
  /-- before `xSemaphoreTake` -/
  | entered
  /-- between `xSemaphoreTake` and `xSemaphoreGive` -/
  | locked
  /-- at the chain of comparisons with `addr_own_mac`, with the fields to come -/
  | comparingOwn (fields : List Nat)
  /-- at the chain of comparisons with `addr2_filter` -/
  | comparingSource (isOwnAddress : Bool) (fields : List Nat)
  /-- behind the switches -/
  | done (flags : AddressFlags)

/-- Whether the call is still going on. -/
def HandlerPhase.Running : HandlerPhase → Prop
  | .entered | .locked | .comparingOwn _ | .comparingSource _ _ => True
  | .done _ => False

instance : (phase : HandlerPhase) → Decidable phase.Running
  | .entered | .locked | .comparingOwn _ | .comparingSource _ _ => .isTrue trivial
  | .done _ => .isFalse id

/-- The flags of a call that is over. -/
def HandlerPhase.result : HandlerPhase → Option AddressFlags
  | .entered | .locked | .comparingOwn _ | .comparingSource _ _ => none
  | .done flags => some flags

theorem HandlerPhase.result_eq_some_iff {phase : HandlerPhase} {flags : AddressFlags} :
    phase.result = some flags ↔ phase = .done flags := by
  cases phase <;> simp [HandlerPhase.result]

/-- One call of the handler among calls of `sniffer_set_addr2_filter`. -/
structure ConcurrentState where
  addr2Filter : AddrFilter
  /-- who holds `_filter_sem` -/
  holder : Option SemHolder
  phase : HandlerPhase
  /-- the comparisons with `addr2_filter` so far: the field and the filter in force -/
  compared : List (Nat × AddrFilter)
  /-- the filters that have been in force during the call -/
  installed : List AddrFilter

inductive ConcurrentEvent where
  /-- The handler takes its next step. -/
  | handler
  | setterTake (addrFilter : AddrFilter)
  | setterAssign
  | setterGive

/-- The call begins, while a setter may be under way. -/
def ConcurrentState.start (call : Reception) (busy : Option Setter) : ConcurrentState where
  addr2Filter := call.filters.addr2Filter
  holder := busy.map .setter
  phase := .entered
  compared := []
  installed := [call.filters.addr2Filter]

/-- The fields that a call compares. -/
def Reception.fields (call : Reception) : ComparedFields :=
  comparedFields call.type (Dot11.frameControl call.pkt.payload)

/-- A call with another source filter. -/
def Reception.withFilter (call : Reception) (filter : AddrFilter) : Reception :=
  { call with filters := { call.filters with addr2Filter := filter } }

/-- The flags of a call that runs alone. -/
def Reception.flags (call : Reception) : AddressFlags :=
  (addressFlags call.filters call.semaphore call.type
    (Dot11.frameControl call.pkt.payload)).value call.pkt.payload

/-- One step of the handler.  It waits for the semaphore, and each `isAddrEquel` is
one step. -/
def handlerStep (call : Reception) (state : ConcurrentState) : Option ConcurrentState :=
  let frame := call.pkt.payload
  match state.phase with
  | .entered =>
      if call.semaphore.take then
        match state.holder with
        | none => some { state with holder := some .handler, phase := .locked }
        | some _ => none
      else some { state with phase := .done { isOwnAddress := false, macFilter := true } }
  | .locked =>
      if !call.semaphore.give then
        some { state with phase := .done { isOwnAddress := false, macFilter := true } }
      else some { state with holder := none, phase := .comparingOwn call.fields.own }
  | .comparingOwn [] => some { state with phase := .comparingSource false call.fields.source }
  | .comparingOwn (field :: rest) =>
      if call.filters.addrOwnMac.Matches frame field then
        some { state with phase := .comparingSource true call.fields.source }
      else some { state with phase := .comparingOwn rest }
  | .comparingSource isOwnAddress [] =>
      some { state with phase := .done { isOwnAddress, macFilter := false } }
  | .comparingSource isOwnAddress (field :: rest) =>
      let compared := state.compared ++ [(field, state.addr2Filter)]
      if state.addr2Filter.Matches frame field then
        some
          { state with
            phase := .done { isOwnAddress, macFilter := true }
            compared := compared }
      else
        some { state with phase := .comparingSource isOwnAddress rest, compared := compared }
  | .done _ => none

/-- One step of the two tasks. -/
def concurrentStep (call : Reception) : Step ConcurrentState ConcurrentEvent
  | state, .handler => handlerStep call state
  | state, .setterTake addrFilter =>
      match state.holder with
      | none => some { state with holder := some (.setter ⟨addrFilter, false⟩) }
      | some _ => none
  | state, .setterAssign =>
      match state.holder with
      | some (.setter ⟨addrFilter, false⟩) =>
          some
            { state with
              addr2Filter := addrFilter
              holder := some (.setter ⟨addrFilter, true⟩)
              installed :=
                if state.phase.Running then state.installed ++ [addrFilter]
                else state.installed }
      | some (.setter ⟨_, true⟩) | some .handler | none => none
  | state, .setterGive =>
      match state.holder with
      | some (.setter ⟨_, true⟩) => some { state with holder := none }
      | some (.setter ⟨_, false⟩) | some .handler | none => none

/-! ## A call alone -/

section Alone

variable (call : Reception) (filter : AddrFilter)

/-- Some compared field passes the filter. -/
def Reception.PassesSource : Prop :=
  ∃ field ∈ call.fields.source, filter.Matches call.pkt.payload field

/-- Some compared field equals the own address. -/
def Reception.IsOwn : Prop :=
  ∃ field ∈ call.fields.own, call.filters.addrOwnMac.Matches call.pkt.payload field

theorem Reception.withFilter_macFilter_iff :
    (call.withFilter filter).flags.macFilter = true ↔
      (call.semaphore.Succeeds → call.PassesSource filter) := by
  change ((addressFlags (call.withFilter filter).filters call.semaphore call.type
    (Dot11.frameControl call.pkt.payload)).value call.pkt.payload).macFilter = true ↔ _
  rw [addressFlags_value]
  by_cases succeeds : call.semaphore.Succeeds
  · rw [if_pos succeeds, decide_eq_true_iff]
    exact ⟨fun passes _ => passes, fun passes => passes succeeds⟩
  · rw [if_neg succeeds]
    exact ⟨fun _ succeeds' => absurd succeeds' succeeds, fun _ => rfl⟩

theorem Reception.flags_isOwnAddress_iff :
    call.flags.isOwnAddress = true ↔ call.semaphore.Succeeds ∧ call.IsOwn := by
  rw [Reception.flags, addressFlags_value]
  by_cases succeeds : call.semaphore.Succeeds
  · rw [if_pos succeeds]
    dsimp only
    rw [decide_eq_true_iff, and_iff_right succeeds]
    rfl
  · rw [if_neg succeeds]
    simp [succeeds]

/-- Only management frames are compared with the source filter more than once. -/
theorem Reception.fields_source_length_le_one (unmanaged : call.type ≠ .mgmt) :
    call.fields.source.length ≤ 1 := by
  rw [Reception.fields, comparedFields.eq_def]
  cases type : call.type with
  | mgmt => exact absurd type unmanaged
  | data =>
      dsimp only
      repeat' split
      all_goals exact Nat.le_refl 1
  | ctrl =>
      dsimp only
      repeat' split
      all_goals simp
  | misc => exact Nat.zero_le 1

end Alone

/-! ## What a call has seen -/

/-- All comparisons so far have failed. -/
def Rejected (call : Reception) (compared : List (Nat × AddrFilter)) : Prop :=
  ∀ comparison ∈ compared, ¬ comparison.2.Matches call.pkt.payload comparison.1

/-- How the flags of a call have come about. -/
inductive Outcome (call : Reception) (compared : List (Nat × AddrFilter)) :
    AddressFlags → Prop where
  | failed (fails : ¬ call.semaphore.Succeeds) : Outcome call compared ⟨false, true⟩
  | accepted (succeeds : call.semaphore.Succeeds) (isOwnAddress : Bool)
      (own_iff : isOwnAddress = true ↔ call.IsOwn) (comparison : Nat × AddrFilter)
      (member : comparison ∈ compared)
      (ordered : compared.map Prod.fst <+: call.fields.source)
      (equal : comparison.2.Matches call.pkt.payload comparison.1) :
      Outcome call compared ⟨isOwnAddress, true⟩
  | rejected (succeeds : call.semaphore.Succeeds) (isOwnAddress : Bool)
      (own_iff : isOwnAddress = true ↔ call.IsOwn)
      (complete : compared.map Prod.fst = call.fields.source)
      (rejected : Rejected call compared) : Outcome call compared ⟨isOwnAddress, false⟩

/-- What is settled in each phase of a call. -/
def Progress (call : Reception) (compared : List (Nat × AddrFilter)) : HandlerPhase → Prop
  | .entered => compared = []
  | .locked => compared = [] ∧ call.semaphore.take = true
  | .comparingOwn fields =>
      compared = [] ∧ call.semaphore.Succeeds ∧
        (call.IsOwn ↔
          ∃ field ∈ fields, call.filters.addrOwnMac.Matches call.pkt.payload field)
  | .comparingSource isOwnAddress fields =>
      call.semaphore.Succeeds ∧ (isOwnAddress = true ↔ call.IsOwn) ∧
        compared.map Prod.fst ++ fields = call.fields.source ∧ Rejected call compared
  | .done flags => Outcome call compared flags

/-- Every comparison is with a filter that has been in force during the call. -/
structure Traced (call : Reception) (state : ConcurrentState) : Prop where
  first : call.filters.addr2Filter ∈ state.installed
  inForce : state.phase.Running → state.addr2Filter ∈ state.installed
  among : ∀ comparison ∈ state.compared, comparison.2 ∈ state.installed
  progress : Progress call state.compared state.phase

theorem traced_start (call : Reception) (busy : Option Setter) :
    Traced call (ConcurrentState.start call busy) := by
  constructor <;> simp [ConcurrentState.start, Progress]

/-- One more comparison has failed. -/
theorem Rejected.append {call : Reception} {compared : List (Nat × AddrFilter)}
    {comparison : Nat × AddrFilter} (rejected : Rejected call compared)
    (different : ¬ comparison.2.Matches call.pkt.payload comparison.1) :
    Rejected call (compared ++ [comparison]) := by
  intro other member
  rcases List.mem_append.mp member with older | newest
  · exact rejected other older
  · rw [List.mem_singleton.mp newest]
    exact different

/-- A comparison takes its field from those that are to come. -/
theorem map_fst_append_singleton (compared : List (Nat × AddrFilter)) (field : Nat)
    (filter : AddrFilter) (rest : List Nat) :
    (compared ++ [(field, filter)]).map Prod.fst ++ rest =
      compared.map Prod.fst ++ field :: rest := by
  rw [List.map_append, List.append_assoc]
  rfl

section HandlerStep

variable {call : Reception} {source target : ConcurrentState} {fields : List Nat}

/-- At the comparisons with the own address, nothing has been compared with the filter. -/
theorem Traced.comparingOwn (traced : Traced call source)
    (phase : source.phase = .comparingOwn fields)
    (taken : handlerStep call source = some target) : Traced call target := by
  rcases traced with ⟨first, inForce, among, progress⟩
  rw [handlerStep, phase] at taken
  rw [phase] at inForce progress
  rcases progress with ⟨compared_eq, succeeds, own_iff⟩
  have unseen : Rejected call source.compared := by simp [Rejected, compared_eq]
  have complete : source.compared.map Prod.fst ++ call.fields.source = call.fields.source := by
    simp [compared_eq]
  cases fields with
  | nil =>
      cases taken
      refine ⟨first, fun _ => inForce trivial, among, succeeds, ?_, complete, unseen⟩
      simp [own_iff]
  | cons field rest =>
      dsimp only at taken
      split at taken
      case isTrue equal =>
        cases taken
        refine ⟨first, fun _ => inForce trivial, among, succeeds, ?_, complete, unseen⟩
        rw [own_iff]
        exact iff_of_true rfl ⟨field, List.mem_cons_self, equal⟩
      case isFalse different =>
        cases taken
        refine ⟨first, fun _ => inForce trivial, among, compared_eq, succeeds, ?_⟩
        rw [own_iff, List.exists_mem_cons_iff]
        exact or_iff_right different

/-- A comparison with the filter is one with the filter that is in force. -/
theorem Traced.comparingSource {isOwnAddress : Bool} (traced : Traced call source)
    (phase : source.phase = .comparingSource isOwnAddress fields)
    (taken : handlerStep call source = some target) : Traced call target := by
  rcases traced with ⟨first, inForce, among, progress⟩
  rw [handlerStep, phase] at taken
  rw [phase] at inForce progress
  rcases progress with ⟨succeeds, own_iff, complete, rejected⟩
  cases fields with
  | nil =>
      cases taken
      rw [List.append_nil] at complete
      exact ⟨first, fun running => running.elim, among,
        .rejected succeeds isOwnAddress own_iff complete rejected⟩
  | cons field rest =>
      have among' : ∀ comparison ∈ source.compared ++ [(field, source.addr2Filter)],
          comparison.2 ∈ source.installed := by
        intro comparison member
        rcases List.mem_append.mp member with older | newest
        · exact among comparison older
        · rw [List.mem_singleton.mp newest]
          exact inForce trivial
      rw [← map_fst_append_singleton source.compared field source.addr2Filter] at complete
      dsimp only at taken
      split at taken
      case isTrue equal =>
        cases taken
        exact ⟨first, fun running => running.elim, among',
          .accepted succeeds isOwnAddress own_iff (field, source.addr2Filter)
            (List.mem_append_right _ List.mem_cons_self) ⟨rest, complete⟩ equal⟩
      case isFalse different =>
        cases taken
        exact ⟨first, fun _ => inForce trivial, among', succeeds, own_iff, complete,
          rejected.append different⟩

theorem Traced.handler (traced : Traced call source)
    (taken : handlerStep call source = some target) : Traced call target := by
  cases phase : source.phase with
  | comparingOwn fields => exact traced.comparingOwn phase taken
  | comparingSource isOwnAddress fields => exact traced.comparingSource phase taken
  | entered =>
      rcases traced with ⟨first, inForce, among, progress⟩
      rw [handlerStep, phase] at taken
      rw [phase] at inForce progress
      dsimp only at taken
      split at taken
      case isTrue takes =>
        split at taken
        case h_1 =>
          cases taken
          exact ⟨first, fun _ => inForce trivial, among, progress, takes⟩
        case h_2 => cases taken
      case isFalse fails =>
        cases taken
        exact ⟨first, fun running => running.elim, among, .failed fun succeeds =>
          fails succeeds.1⟩
  | locked =>
      rcases traced with ⟨first, inForce, among, progress⟩
      rw [handlerStep, phase] at taken
      rw [phase] at inForce progress
      dsimp only at taken
      split at taken
      case isTrue fails =>
        cases taken
        exact ⟨first, fun running => running.elim, among, .failed fun succeeds => by
          simp [succeeds.2] at fails⟩
      case isFalse gives =>
        cases taken
        have succeeds : call.semaphore.Succeeds := ⟨progress.2, by simpa using gives⟩
        exact ⟨first, fun _ => inForce trivial, among, progress.1, succeeds, Iff.rfl⟩
  | done flags =>
      rw [handlerStep, phase] at taken
      cases taken

end HandlerStep

theorem Traced.step {call : Reception} {source target : ConcurrentState}
    {event : ConcurrentEvent} (traced : Traced call source)
    (taken : concurrentStep call source event = some target) : Traced call target := by
  cases event with
  | handler => exact traced.handler taken
  | setterTake addrFilter =>
      rw [concurrentStep] at taken
      split at taken
      case h_1 =>
        cases taken
        exact ⟨traced.first, traced.inForce, traced.among, traced.progress⟩
      case h_2 => cases taken
  | setterGive =>
      rw [concurrentStep] at taken
      split at taken
      case h_1 =>
        cases taken
        exact ⟨traced.first, traced.inForce, traced.among, traced.progress⟩
      all_goals cases taken
  | setterAssign =>
      rw [concurrentStep] at taken
      split at taken
      case h_1 addrFilter _ =>
        cases taken
        have kept : ∀ filter ∈ source.installed,
            filter ∈ if source.phase.Running then source.installed ++ [addrFilter]
              else source.installed := by
          intro filter member
          split
          · exact List.mem_append_left _ member
          · exact member
        constructor
        · exact kept _ traced.first
        · intro running
          dsimp only at running ⊢
          rw [if_pos running]
          exact List.mem_append_right _ List.mem_cons_self
        · exact fun comparison member => kept _ (traced.among comparison member)
        · exact traced.progress
      all_goals cases taken

theorem traced_of_run {call : Reception} {busy : Option Setter}
    {events : List ConcurrentEvent} {last : ConcurrentState}
    (run : exec (concurrentStep call) (ConcurrentState.start call busy) events =
      some last) : Traced call last := by
  apply exec_invariant (traced_start call busy) ?_ (eachStep_true _ _) run
  intro source event target traced _ taken
  exact traced.step taken

/-! ## One filter for the whole decision -/

/-- The decision is that of a call alone under one of the filters that have been in
force during the call. -/
def SeesOneFilter (call : Reception) (state : ConcurrentState) (flags : AddressFlags) :
    Prop :=
  ∃ filter ∈ state.installed, flags.macFilter = (call.withFilter filter).flags.macFilter

/-- If both addresses of a management frame have been compared, then one of them with
a filter that accepts it, or some filter of the call accepts neither. -/
def Undivided (call : Reception) (state : ConcurrentState) : Prop :=
  call.type = .mgmt → call.semaphore.Succeeds → ∀ first second,
    state.compared.map Prod.snd = [first, second] →
      first.Matches call.pkt.payload WifiManagmentHdr.sa ∨
        second.Matches call.pkt.payload WifiManagmentHdr.da ∨
        ∃ filter ∈ state.installed,
          ¬ filter.Matches call.pkt.payload WifiManagmentHdr.sa ∧
            ¬ filter.Matches call.pkt.payload WifiManagmentHdr.da

theorem Reception.fields_source_of_mgmt {call : Reception} (managed : call.type = .mgmt) :
    call.fields.source = [WifiManagmentHdr.sa, WifiManagmentHdr.da] := by
  rw [Reception.fields, managed]
  rfl

/-- The two comparisons of a management frame, in their order. -/
theorem comparisons_of_mgmt {call : Reception} {compared : List (Nat × AddrFilter)}
    (managed : call.type = .mgmt) (complete : compared.map Prod.fst = call.fields.source) :
    ∃ first second, compared = [(WifiManagmentHdr.sa, first), (WifiManagmentHdr.da, second)] := by
  rw [Reception.fields_source_of_mgmt managed] at complete
  rcases List.map_eq_cons_iff.mp complete with ⟨⟨_, first⟩, rest, rfl, rfl, rest_eq⟩
  rcases List.map_eq_singleton_iff.mp rest_eq with ⟨⟨_, second⟩, rfl, rfl⟩
  exact ⟨first, second, rfl⟩

/-- A filter that accepts no compared field would have rejected the frame. -/
theorem Reception.withFilter_macFilter_of_rejects {call : Reception} {filter : AddrFilter}
    (succeeds : call.semaphore.Succeeds)
    (rejects : ∀ field ∈ call.fields.source, ¬ filter.Matches call.pkt.payload field) :
    (call.withFilter filter).flags.macFilter = false := by
  rw [← Bool.not_eq_true, call.withFilter_macFilter_iff]
  intro passes
  rcases passes succeeds with ⟨field, listed, equal⟩
  exact rejects field listed equal

/-- A failed semaphore operation and a successful comparison decide as one filter. -/
theorem Traced.seesOneFilter_of_accepts {call : Reception} {state : ConcurrentState}
    (traced : Traced call state) {flags : AddressFlags}
    (outcome : Outcome call state.compared flags) (accepts : flags.macFilter = true) :
    SeesOneFilter call state flags := by
  cases outcome with
  | failed fails =>
      refine ⟨call.filters.addr2Filter, traced.first, ?_⟩
      rw [eq_comm, call.withFilter_macFilter_iff]
      exact fun succeeds => absurd succeeds fails
  | accepted succeeds isOwnAddress own_iff comparison member ordered equal =>
      refine ⟨comparison.2, traced.among comparison member, ?_⟩
      rw [eq_comm, call.withFilter_macFilter_iff]
      exact fun _ => ⟨comparison.1, ordered.subset (List.mem_map_of_mem member), equal⟩
  | rejected => cases accepts

/-- A frame with at most one compared field is rejected by the filter it has met. -/
theorem Traced.exists_rejects {call : Reception} {state : ConcurrentState}
    (traced : Traced call state) (unmanaged : call.type ≠ .mgmt)
    (complete : state.compared.map Prod.fst = call.fields.source)
    (rejected : Rejected call state.compared) :
    ∃ filter ∈ state.installed, ∀ field ∈ call.fields.source,
      ¬ filter.Matches call.pkt.payload field := by
  have short := call.fields_source_length_le_one unmanaged
  rw [← complete] at short ⊢
  rcases compared_eq : state.compared with _ | ⟨comparison, rest⟩
  · exact ⟨call.filters.addr2Filter, traced.first, by simp⟩
  · have rest_nil : rest = [] := by
      rw [compared_eq] at short
      exact List.eq_nil_of_length_eq_zero (by simpa using short)
    have member : comparison ∈ state.compared := by simp [compared_eq]
    refine ⟨comparison.2, traced.among comparison member, ?_⟩
    simpa [rest_nil] using rejected comparison member

/-- A decision that is that of one filter has not come from two. -/
theorem Outcome.undivided {call : Reception} {last : ConcurrentState} {flags : AddressFlags}
    (outcome : Outcome call last.compared flags) (sees : SeesOneFilter call last flags) :
    Undivided call last := by
  rcases sees with ⟨filter, member, decision_eq⟩
  intro managed succeeds first second inForce
  cases outcome with
  | failed fails => exact absurd succeeds fails
  | accepted _ isOwnAddress own_iff comparison member ordered equal =>
      have complete : last.compared.map Prod.fst = call.fields.source := by
        apply ordered.eq_of_length
        rw [Reception.fields_source_of_mgmt managed, List.length_map,
          ← List.length_map Prod.snd, inForce]
        rfl
      rcases comparisons_of_mgmt managed complete with ⟨first', second', compared_eq⟩
      rw [compared_eq] at member inForce
      cases inForce
      rcases List.mem_pair.mp member with rfl | rfl
      · exact .inl equal
      · exact .inr (.inl equal)
  | rejected _ isOwnAddress own_iff complete rejected =>
      refine .inr (.inr ⟨filter, member, ?_⟩)
      have rejects : ¬ call.PassesSource filter := by
        intro passes
        have accepted := (call.withFilter_macFilter_iff filter).mpr fun _ => passes
        rw [← decision_eq] at accepted
        cases accepted
      rw [Reception.PassesSource, Reception.fields_source_of_mgmt managed] at rejects
      simpa using rejects

/-- A management frame that has been rejected without a division is rejected by some
filter of the call. -/
theorem exists_rejects_of_undivided {call : Reception} {last : ConcurrentState}
    (undivided : Undivided call last) (managed : call.type = .mgmt)
    (succeeds : call.semaphore.Succeeds)
    (complete : last.compared.map Prod.fst = call.fields.source)
    (rejected : Rejected call last.compared) :
    ∃ filter ∈ last.installed, ∀ field ∈ call.fields.source,
      ¬ filter.Matches call.pkt.payload field := by
  rcases comparisons_of_mgmt managed complete with ⟨first, second, compared_eq⟩
  rw [compared_eq] at rejected
  rcases undivided managed succeeds first second (by rw [compared_eq]; rfl) with
    equal | equal | ⟨filter, member, rejects⟩
  · exact absurd equal (rejected (WifiManagmentHdr.sa, first) (by simp))
  · exact absurd equal (rejected (WifiManagmentHdr.da, second) (by simp))
  · refine ⟨filter, member, ?_⟩
    simpa [Reception.fields_source_of_mgmt managed] using rejects

theorem Traced.seesOneFilter_iff {call : Reception} {last : ConcurrentState}
    (traced : Traced call last) {flags : AddressFlags}
    (outcome : Outcome call last.compared flags) :
    SeesOneFilter call last flags ↔ Undivided call last := by
  constructor
  · exact outcome.undivided
  · intro undivided
    by_cases accepts : flags.macFilter = true
    · exact traced.seesOneFilter_of_accepts outcome accepts
    · cases outcome with
      | failed => exact absurd rfl accepts
      | accepted => exact absurd rfl accepts
      | rejected succeeds isOwnAddress own_iff complete rejected =>
          have rejecting : ∃ filter ∈ last.installed, ∀ field ∈ call.fields.source,
              ¬ filter.Matches call.pkt.payload field := by
            by_cases managed : call.type = .mgmt
            · exact exists_rejects_of_undivided undivided managed succeeds complete rejected
            · exact traced.exists_rejects managed complete rejected
          rcases rejecting with ⟨filter, member, rejects⟩
          exact ⟨filter, member,
            (Reception.withFilter_macFilter_of_rejects succeeds rejects).symm⟩

/-! ## Calls without a change -/

theorem Outcome.isOwnAddress_iff {call : Reception} {compared : List (Nat × AddrFilter)}
    {flags : AddressFlags} (outcome : Outcome call compared flags) :
    flags.isOwnAddress = true ↔ call.semaphore.Succeeds ∧ call.IsOwn := by
  cases outcome with
  | failed fails => simp [fails]
  | accepted succeeds isOwnAddress own_iff => simp [succeeds, own_iff]
  | rejected succeeds isOwnAddress own_iff => simp [succeeds, own_iff]

/-- `addr_own_mac` does not change, so neither does what it decides. -/
theorem isOwnAddress_of_run {call : Reception} {busy : Option Setter}
    {events : List ConcurrentEvent} {last : ConcurrentState} {flags : AddressFlags}
    (run : exec (concurrentStep call) (ConcurrentState.start call busy) events = some last)
    (returned : last.phase = .done flags) : flags.isOwnAddress = call.flags.isOwnAddress := by
  have outcome := (traced_of_run run).progress
  rw [returned] at outcome
  rw [Bool.eq_iff_iff, outcome.isOwnAddress_iff, call.flags_isOwnAddress_iff]

/-- The event leaves `addr2_filter` alone. -/
def ConcurrentEvent.Keeps : ConcurrentEvent → Prop
  | .setterAssign => False
  | .handler | .setterTake _ | .setterGive => True

theorem installed_of_keeps {call : Reception} {source target : ConcurrentState}
    {event : ConcurrentEvent} (keeps : event.Keeps)
    (taken : concurrentStep call source event = some target) :
    target.installed = source.installed := by
  cases event with
  | setterAssign => exact keeps.elim
  | setterTake addrFilter =>
      rw [concurrentStep] at taken
      split at taken <;> cases taken
      rfl
  | setterGive =>
      rw [concurrentStep] at taken
      split at taken <;> cases taken
      rfl
  | handler =>
      rw [concurrentStep, handlerStep] at taken
      dsimp only at taken
      repeat' split at taken
      all_goals cases taken
      all_goals rfl

/-- The filter of the beginning is the only one so far. -/
def Unchanged (call : Reception) (state : ConcurrentState) : Prop :=
  state.installed = [call.filters.addr2Filter]

/-- A call during which nothing is assigned computes what `addressFlags` does. -/
theorem flags_of_keeps {call : Reception} {busy : Option Setter}
    {events : List ConcurrentEvent} {last : ConcurrentState} {flags : AddressFlags}
    (run : exec (concurrentStep call) (ConcurrentState.start call busy) events = some last)
    (keeps : ∀ event ∈ events, event.Keeps) (returned : last.phase = .done flags) :
    flags = call.flags := by
  have traced := traced_of_run run
  have installed_eq : Unchanged call last := by
    have unchanged : Unchanged call (ConcurrentState.start call busy) := rfl
    apply exec_invariant unchanged ?_ (eachStep_of_forall_mem keeps) run
    intro source event target unchanged keeps taken
    rw [Unchanged, installed_of_keeps keeps taken, unchanged]
  have outcome := traced.progress
  rw [Unchanged] at installed_eq
  rw [returned] at outcome
  have undivided : Undivided call last := by
    intro _ _ first second inForce
    have same : ∀ filter ∈ last.compared.map Prod.snd, filter = call.filters.addr2Filter := by
      intro filter member
      rcases List.mem_map.mp member with ⟨comparison, compared, rfl⟩
      simpa [installed_eq] using traced.among comparison compared
    rw [inForce] at same
    rw [same first (by simp), same second (by simp), installed_eq]
    grind
  rcases (traced.seesOneFilter_iff outcome).mpr undivided with ⟨filter, member, macFilter_eq⟩
  have filter_eq : filter = call.filters.addr2Filter := by simpa [installed_eq] using member
  rw [filter_eq] at macFilter_eq
  rcases flags with ⟨isOwnAddress, macFilter⟩
  exact congrArg₂ AddressFlags.mk (isOwnAddress_of_run run returned) macFilter_eq

/-- Whatever happens to the filter during a call, its decision is that of one of the
filters in force if and only if it is undivided. -/
theorem sees_one_filter_iff {call : Reception} {busy : Option Setter}
    {events : List ConcurrentEvent} {last : ConcurrentState} {flags : AddressFlags}
    (run : exec (concurrentStep call) (ConcurrentState.start call busy) events = some last)
    (returned : last.phase = .done flags) :
    SeesOneFilter call last flags ↔ Undivided call last := by
  have traced := traced_of_run run
  have outcome := traced.progress
  rw [returned] at outcome
  exact traced.seesOneFilter_iff outcome

/-- A probe request from `02:…:02` to `01:…:01`, while the filter is set to `01:…:01`. -/
def probe : Reception where
  filters :=
    { addrOwnMac := AddrFilter.ofBytes [3, 3, 3, 3, 3, 3]
      addr2Filter := AddrFilter.ofBytes [1, 1, 1, 1, 1, 1]
      rssiFilter := 0 }
  semaphore := ⟨true, true⟩
  type := .mgmt
  pkt :=
    { rxCtrl :=
        { rssi := -30
          noiseFloor := -90
          channel := 1
          ant := 0
          timestamp := 1000000
          sigLen := 28
          rxState := 0 }
      payload := fun index =>
        if index = 0 then 0x40 else if index < WifiManagmentHdr.sa then 1 else 2 }

/-- The way of `probe` up to its first comparison with the filter, which fails. -/
def probeBefore : List ConcurrentEvent :=
  [.handler, .handler, .handler, .handler, .handler, .handler, .handler]

/-- A filter that is assigned between the comparisons and accepts neither address. -/
theorem sees_one_filter_iff_probe :
    ∃ last flags,
      exec (concurrentStep probe) (ConcurrentState.start probe none)
          (probeBefore ++ [.setterTake (AddrFilter.ofBytes [4, 4, 4, 4, 4, 4]), .setterAssign,
            .handler, .handler]) = some last ∧
        last.phase = .done flags ∧ (SeesOneFilter probe last flags ↔ Undivided probe last) := by
  have runs : (exec (concurrentStep probe) (ConcurrentState.start probe none)
      (probeBefore ++ [.setterTake (AddrFilter.ofBytes [4, 4, 4, 4, 4, 4]), .setterAssign,
        .handler, .handler])).map (fun last => last.phase.result) =
      some (some ⟨false, false⟩) := by
    decide +kernel
  rcases Option.map_eq_some_iff.mp runs with ⟨last, run, result_eq⟩
  have returned := HandlerPhase.result_eq_some_iff.mp result_eq
  exact ⟨last, ⟨false, false⟩, run, returned, sees_one_filter_iff run returned⟩

/-- A filter that is assigned between the comparisons and accepts the address that has
been compared already. -/
theorem sees_no_filter_probe :
    ∃ last flags,
      exec (concurrentStep probe) (ConcurrentState.start probe none)
          (probeBefore ++ [.setterTake (AddrFilter.ofBytes [2, 2, 2, 2, 2, 2]), .setterAssign,
            .handler, .handler]) = some last ∧
        last.phase = .done flags ∧ ¬ SeesOneFilter probe last flags := by
  have runs : (exec (concurrentStep probe) (ConcurrentState.start probe none)
      (probeBefore ++ [.setterTake (AddrFilter.ofBytes [2, 2, 2, 2, 2, 2]), .setterAssign,
        .handler, .handler])).map
        (fun last => (last.phase.result,
          last.installed.all fun filter => (probe.withFilter filter).flags.macFilter)) =
      some (some ⟨false, false⟩, true) := by
    decide +kernel
  rcases Option.map_eq_some_iff.mp runs with ⟨last, run, result_eq⟩
  rcases Prod.mk.inj result_eq with ⟨result_eq, alone_accept⟩
  refine ⟨last, ⟨false, false⟩, run, HandlerPhase.result_eq_some_iff.mp result_eq, ?_⟩
  rintro ⟨filter, member, decision_eq⟩
  have accepts := List.all_eq_true.mp alone_accept filter member
  rw [← decision_eq] at accepts
  cases accepts

end WifiSniffer.Handler
