import Mathlib.Data.Multiset.AddSub
import WifiSniffer.Effect.Rules

/-!
# Traces of programs

A trace is one way through a program, with every call and its response, whatever handler
there may be.  What a program does with resources that it acquires can be read off its
traces: which it holds in the end, and whether it has released each of them.
-/

namespace WifiSniffer.Effect

namespace Program

variable {call : Type} {response : call → Type} {α β : Type}

/-! ## Traces -/

/-- A call with its response -/
abbrev Event (response : call → Type) :=
  (question : call) × response question

/-- One way through a program, and the value that it ends with. -/
inductive Trace : Program call response α → List (Event response) → α → Prop
  | pure (value : α) : Trace (.pure value) [] value
  | request {question : call} {next : response question → Program call response α}
      {answer : response question} {events : List (Event response)} {value : α}
      (rest : Trace (next answer) events value) :
      Trace (.request question next) (⟨question, answer⟩ :: events) value

section Trace

variable {program : Program call response α} {next : α → Program call response β}
  {events : List (Event response)} {property : call → Prop}

theorem trace_pure_iff {value other : α} :
    Trace (Pure.pure value : Program call response α) events other ↔
      events = [] ∧ value = other := by
  constructor
  · intro trace
    cases trace
    exact ⟨rfl, rfl⟩
  · rintro ⟨rfl, rfl⟩
    exact .pure value

theorem trace_request_iff {question : call} {rest : response question → Program call response α}
    {value : α} :
    Trace (.request question rest) events value ↔
      ∃ answer later, events = ⟨question, answer⟩ :: later ∧ Trace (rest answer) later value := by
  constructor
  · intro trace
    cases trace with
    | request later => exact ⟨_, _, rfl, later⟩
  · rintro ⟨answer, later, rfl, trace⟩
    exact .request trace

/-- A trace of a sequence is one of its first part and one of its second. -/
theorem trace_bind_iff {value : β} :
    Trace (program >>= next) events value ↔
      ∃ first second middle, events = first ++ second ∧ Trace program first middle ∧
        Trace (next middle) second value := by
  change Trace (program.bind next) events value ↔ _
  induction program generalizing events with
  | pure middle =>
      constructor
      · intro trace
        exact ⟨[], events, middle, rfl, .pure middle, trace⟩
      · rintro ⟨first, second, middle, rfl, ended, trace⟩
        cases ended
        exact trace
  | request question rest ih =>
      rw [bind, trace_request_iff]
      constructor
      · rintro ⟨answer, later, rfl, trace⟩
        rcases (ih answer).mp trace with ⟨first, second, middle, rfl, begun, ended⟩
        exact ⟨_ :: first, second, middle, rfl, .request begun, ended⟩
      · rintro ⟨first, second, middle, rfl, begun, ended⟩
        rcases trace_request_iff.mp begun with ⟨answer, later, rfl, rest⟩
        exact ⟨answer, later ++ second, rfl,
          (ih answer).mpr ⟨later, second, middle, rfl, rest, ended⟩⟩

theorem trace_ask_bind_iff {question : call} {rest : response question → Program call response α}
    {value : α} :
    Trace (ask question >>= rest) events value ↔
      ∃ answer later, events = ⟨question, answer⟩ :: later ∧ Trace (rest answer) later value :=
  trace_request_iff

/-- What a program may call is all that it calls. -/
theorem Calls.of_trace {value : α} (calls : Calls property program)
    (trace : Trace program events value) : ∀ event ∈ events, property event.1 := by
  induction trace with
  | pure value => exact List.forall_mem_nil _
  | request rest ih => exact List.forall_mem_cons.mpr ⟨calls.1, ih (calls.2 _)⟩

/-- The calls of a program have a property, up to a last one that has another. -/
def Finishes (property final : call → Prop) (program : Program call response α) : Prop :=
  ∀ events value, Trace program events value →
    ∃ before last, events = before ++ [last] ∧ final last.1 ∧ ∀ event ∈ before, property event.1

variable {final : call → Prop}

theorem finishes_ask {last : call} (holds : final last) (rest : response last → α) :
    Finishes property final
      (ask last >>= fun answer => Pure.pure (rest answer) : Program call response α) := by
  intro events value trace
  rcases trace_ask_bind_iff.mp trace with ⟨answer, later, rfl, ended⟩
  rcases trace_pure_iff.mp ended with ⟨rfl, _⟩
  exact ⟨[], ⟨last, answer⟩, rfl, holds, List.forall_mem_nil _⟩

theorem Calls.finishes_bind (calls : Calls property program)
    (finishes : ∀ value, Finishes property final (next value)) :
    Finishes property final (program >>= next) := by
  intro events value trace
  rcases trace_bind_iff.mp trace with ⟨first, second, middle, rfl, begun, ended⟩
  rcases finishes middle second value ended with ⟨before, last, rfl, ends, holds⟩
  refine ⟨first ++ before, last, by rw [List.append_assoc], ends, ?_⟩
  exact List.forall_mem_append.mpr ⟨calls.of_trace begun, holds⟩

theorem finishes_ask_bind {question : call} {rest : response question → Program call response α}
    (holds : property question) (finishes : ∀ answer, Finishes property final (rest answer)) :
    Finishes property final (ask question >>= rest) :=
  (calls_ask holds).finishes_bind finishes

/-- Two ways to a value, and one way on. -/
theorem Calls.ite_finishes_bind {condition : Prop} [Decidable condition]
    {first second : Program call response α} (ifTrue : Calls property first)
    (ifFalse : Calls property second)
    (finishes : ∀ value, Finishes property final (next value)) :
    Finishes property final (if condition then first >>= next else second >>= next) := by
  split
  · exact ifTrue.finishes_bind finishes
  · exact ifFalse.finishes_bind finishes

end Trace

/-- Calls that are passed on leave a trace of their own. -/
theorem trace_translate_iff {call' : Type} {response' : call' → Type}
    {each : (question : call) → Program call' response' (response question)}
    {pass : Event response → Event response'}
    (passes : ∀ question events answer,
      Trace (each question) events answer ↔ events = [pass ⟨question, answer⟩])
    {program : Program call response α} {events : List (Event response')} {value : α} :
    Trace (program.translate each) events value ↔
      ∃ inner, Trace program inner value ∧ events = inner.map pass := by
  induction program generalizing events with
  | pure result =>
      rw [translate]
      constructor
      · rintro ⟨⟩
        exact ⟨[], .pure value, rfl⟩
      · rintro ⟨inner, ended, rfl⟩
        cases ended
        exact .pure value
  | request question rest ih =>
      rw [translate, trace_bind_iff]
      constructor
      · rintro ⟨first, second, answer, rfl, begun, ended⟩
        rcases (ih answer).mp ended with ⟨inner, trace, rfl⟩
        rw [(passes question first answer).mp begun]
        exact ⟨_ :: inner, .request trace, rfl⟩
      · rintro ⟨inner, trace, rfl⟩
        rcases trace_request_iff.mp trace with ⟨answer, later, rfl, rest⟩
        exact ⟨_, _, answer, rfl, (passes question _ answer).mpr rfl,
          (ih answer).mpr ⟨later, rest, rfl⟩⟩

end Program

/-! ## Resources -/

/-- What an event does with a resource, which is `none` where none has been acquired. -/
inductive Access (ρ : Type) where
  | acquire (resource : ρ)
  | release (resource : Option ρ)
  | use (resource : Option ρ)
  | idle
  deriving DecidableEq

namespace Access

variable {ρ : Type} [DecidableEq ρ]

/-- What is acquired is released once, and nothing is done without a resource. -/
structure Balanced (accesses : List (Access ρ)) : Prop where
  releasedOnce : ∀ resource, .acquire resource ∈ accesses →
    accesses.count (.release (some resource)) = 1
  notReleasedUnset : .release none ∉ accesses
  notUsedUnset : .use none ∉ accesses

/-- The resources that are held after an access. -/
def hold (held : Multiset ρ) : Access ρ → Multiset ρ
  | .acquire resource => resource ::ₘ held
  | .release (some resource) => held.erase resource
  | .release none | .use _ | .idle => held

/-- The resources that are held after a list of accesses. -/
def holdAll (held : Multiset ρ) (accesses : List (Access ρ)) : Multiset ρ :=
  accesses.foldl hold held

theorem holdAll_append (held : Multiset ρ) (first second : List (Access ρ)) :
    holdAll held (first ++ second) = holdAll (holdAll held first) second :=
  List.foldl_append

/-- An access that neither acquires nor releases, and to no other resource. -/
def UsesOnly (resource : Option ρ) (access : Access ρ) : Prop :=
  access = .idle ∨ access = .use resource

/-- The list leaves nothing behind. -/
structure Settled (accesses : List (Access ρ)) : Prop where
  balanced : Balanced accesses
  keeps : ∀ held, holdAll held accesses = held

section Bracket

variable {resource : ρ} {held : Multiset ρ} {middle : List (Access ρ)}

theorem holdAll_of_usesOnly {unset : Option ρ} (uses : ∀ access ∈ middle, UsesOnly unset access) :
    holdAll held middle = held := by
  induction middle with
  | nil => rfl
  | cons access middle ih =>
      rcases List.forall_mem_cons.mp uses with ⟨rfl | rfl, rest⟩
      · exact ih rest
      · exact ih rest

/-- Between acquiring and releasing, the resource is used only. -/
theorem settled_bracket (uses : ∀ access ∈ middle, UsesOnly (some resource) access) :
    Settled (.acquire resource :: middle ++ [.release (some resource)]) := by
  have noAcquire (other : ρ) : .acquire other ∉ middle := fun member =>
    (uses _ member).elim nofun nofun
  have noRelease (other : Option ρ) : .release other ∉ middle := fun member =>
    (uses _ member).elim nofun nofun
  have noUnset : .use none ∉ middle := fun member => (uses _ member).elim nofun nofun
  refine ⟨⟨?_, ?_, ?_⟩, ?_⟩
  · intro acquired member
    have same : acquired = resource := by simpa [noAcquire] using member
    subst same
    simp [List.count_eq_zero.mpr (noRelease (some acquired))]
  · simp [noRelease]
  · simp [noUnset]
  · intro held
    rw [holdAll_append]
    change (holdAll (resource ::ₘ held) middle).erase resource = held
    rw [holdAll_of_usesOnly uses, Multiset.erase_cons_head]

/-- Nothing is acquired and nothing used. -/
theorem settled_of_idle (idle : ∀ access ∈ middle, access = .idle) : Settled middle := by
  have absent {access : Access ρ} (other : access ≠ .idle) : access ∉ middle :=
    fun member => other (idle access member)
  have uses : ∀ access ∈ middle, UsesOnly none access :=
    fun access member => .inl (idle access member)
  exact ⟨⟨fun acquired member => absurd member (absent nofun), absent nofun, absent nofun⟩,
    fun held => holdAll_of_usesOnly uses⟩

/-- Lists that leave nothing behind, one after the other. -/
theorem holdAll_flatMap {ε : Type} {runs : List ε} {accesses : ε → List (Access ρ)}
    (settled : ∀ run ∈ runs, Settled (accesses run)) (held : Multiset ρ) :
    holdAll held (runs.flatMap accesses) = held := by
  induction runs with
  | nil => rfl
  | cons run runs ih =>
      rcases List.forall_mem_cons.mp settled with ⟨first, rest⟩
      rw [List.flatMap_cons, holdAll_append, first.keeps, ih rest]

end Bracket

end Access

/-! ## Programs that release what they acquire -/

namespace Program

section Release

open Access

variable {call : Type} {response : call → Type} {α ρ : Type}
  {program : Program call response α} {events : List (Event response)} {value : α}
  {access : Event response → Access ρ}

/-- Whatever the response, the call is no access but a use of the resource. -/
def Uses (access : Event response → Access ρ) (resource : Option ρ) (question : call) : Prop :=
  ∀ answer, UsesOnly resource (access ⟨question, answer⟩)

/-- The program uses a resource and releases it in the end. -/
def Releases (access : Event response → Access ρ) (resource : Option ρ) :
    Program call response α → Prop :=
  Finishes (Uses access resource) fun last => ∀ answer, access ⟨last, answer⟩ = .release resource

theorem Releases.of_trace {resource : Option ρ} (releases : Releases access resource program)
    (trace : Trace program events value) :
    ∃ middle, events.map access = middle ++ [.release resource] ∧
      ∀ access ∈ middle, UsesOnly resource access := by
  rcases releases events value trace with ⟨before, last, rfl, released, uses⟩
  refine ⟨before.map access, ?_, ?_⟩
  · rw [List.map_append, List.map_singleton, released last.2]
  · rw [List.forall_mem_map]
    exact fun event member => uses event member event.2

variable [DecidableEq ρ]

/-- A resource that is acquired first is released last. -/
theorem Releases.settled {resource : ρ} {first : Event response}
    (acquires : access first = .acquire resource)
    (releases : Releases access (some resource) program) (trace : Trace program events value) :
    Settled ((first :: events).map access) := by
  rcases releases.of_trace trace with ⟨middle, accesses_eq, uses⟩
  rw [List.map_cons, acquires, accesses_eq]
  exact settled_bracket uses

/-- No resource is released that has not been acquired. -/
theorem Releases.not_balanced {first : Event response} (releases : Releases access none program)
    (trace : Trace program events value) : ¬ Balanced ((first :: events).map access) := by
  intro balanced
  rcases releases.of_trace trace with ⟨middle, accesses_eq, _⟩
  apply balanced.notReleasedUnset
  rw [List.map_cons, accesses_eq]
  exact List.mem_cons_of_mem _ (List.mem_append_right _ (List.mem_singleton_self _))

/-- Calls that are no accesses. -/
theorem Calls.settled {first : Event response} (idle : access first = .idle)
    (calls : Calls (fun question => ∀ answer, access ⟨question, answer⟩ = .idle) program)
    (trace : Trace program events value) : Settled ((first :: events).map access) := by
  apply settled_of_idle
  rw [List.map_cons, List.forall_mem_cons, List.forall_mem_map]
  exact ⟨idle, fun event member => calls.of_trace trace event member event.2⟩

end Release

end Program

end WifiSniffer.Effect
