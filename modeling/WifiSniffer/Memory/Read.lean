import Mathlib.Data.List.Basic

/-!
# Reading computations with an exact footprint

`Read ι β α` is a computation that may look at a memory `ι → β` and reports, in
order, every index it looked at.  The structure carries the proof that the
report is complete: two memories that agree on the reported indices cannot be
told apart.  Bounds on the report are therefore at once bounds on the accesses
and statements of noninterference.
-/

namespace WifiSniffer.Memory

universe u v w

/-- A reading computation.  `stable` says that nothing outside the reported
indices influences the outcome or the report itself. -/
structure Read (ι : Type u) (β : Type v) (α : Type w) where
  run : (ι → β) → α × List ι
  stable : ∀ memory other : ι → β,
    (∀ index ∈ (run memory).2, memory index = other index) → run other = run memory

namespace Read

variable {ι : Type u} {β : Type v} {α γ : Type w}

/-- The result of a computation on a given memory. -/
def value (computation : Read ι β α) (memory : ι → β) : α :=
  (computation.run memory).1

/-- The indices a computation looks at on a given memory, in order. -/
def reads (computation : Read ι β α) (memory : ι → β) : List ι :=
  (computation.run memory).2

/-- Return a value without looking at the memory. -/
def done (result : α) : Read ι β α where
  run _ := (result, [])
  stable _ _ _ := rfl

/-- Run one computation and continue with another that may use its result. -/
def andThen (first : Read ι β α) (next : α → Read ι β γ) : Read ι β γ where
  run memory :=
    (((next (first.run memory).1).run memory).1,
      (first.run memory).2 ++ ((next (first.run memory).1).run memory).2)
  stable memory other agree := by
    have first_eq : first.run other = first.run memory :=
      first.stable memory other fun index member =>
        agree index (List.mem_append_left _ member)
    have next_eq : (next (first.run memory).1).run other =
        (next (first.run memory).1).run memory :=
      (next (first.run memory).1).stable memory other fun index member =>
        agree index (List.mem_append_right _ member)
    rw [first_eq, next_eq]

instance : Monad (Read ι β) where
  pure := done
  bind := andThen

/-- Look at the listed indices, in order. -/
def block (indices : List ι) : Read ι β (List β) where
  run memory := (indices.map memory, indices)
  stable memory other agree := by
    have contents_eq : indices.map other = indices.map memory :=
      List.map_congr_left fun index member => (agree index member).symm
    rw [contents_eq]

@[simp]
theorem value_pure (result : α) (memory : ι → β) :
    (pure result : Read ι β α).value memory = result :=
  rfl

@[simp]
theorem reads_pure (result : α) (memory : ι → β) :
    (pure result : Read ι β α).reads memory = [] :=
  rfl

@[simp]
theorem value_bind (first : Read ι β α) (next : α → Read ι β γ) (memory : ι → β) :
    (first >>= next).value memory = (next (first.value memory)).value memory :=
  rfl

@[simp]
theorem reads_bind (first : Read ι β α) (next : α → Read ι β γ) (memory : ι → β) :
    (first >>= next).reads memory =
      first.reads memory ++ (next (first.value memory)).reads memory :=
  rfl

@[simp]
theorem value_block (indices : List ι) (memory : ι → β) :
    (block indices : Read ι β (List β)).value memory = indices.map memory :=
  rfl

@[simp]
theorem reads_block (indices : List ι) (memory : ι → β) :
    (block indices : Read ι β (List β)).reads memory = indices :=
  rfl

@[simp]
theorem value_ite (condition : Prop) [Decidable condition]
    (first second : Read ι β α) (memory : ι → β) :
    (if condition then first else second).value memory =
      if condition then first.value memory else second.value memory := by
  split <;> rfl

@[simp]
theorem reads_ite (condition : Prop) [Decidable condition]
    (first second : Read ι β α) (memory : ι → β) :
    (if condition then first else second).reads memory =
      if condition then first.reads memory else second.reads memory := by
  split <;> rfl

/-- Memories that agree on everything a computation reads give the same result. -/
theorem value_eq_of_agree (computation : Read ι β α) {memory other : ι → β}
    (agree : ∀ index ∈ computation.reads memory, memory index = other index) :
    computation.value other = computation.value memory :=
  congrArg Prod.fst (computation.stable memory other agree)

/-! ## Staying within a region -/

/-- Every index the computation reads lies in the region. -/
def Within (region : ι → Prop) (computation : Read ι β α) (memory : ι → β) : Prop :=
  ∀ index ∈ computation.reads memory, region index

theorem within_pure (region : ι → Prop) (result : α) (memory : ι → β) :
    Within region (pure result : Read ι β α) memory := by
  simp [Within]

theorem within_bind_iff {region : ι → Prop} {first : Read ι β α}
    {next : α → Read ι β γ} {memory : ι → β} :
    Within region (first >>= next) memory ↔
      Within region first memory ∧
        Within region (next (first.value memory)) memory := by
  simp only [Within, reads_bind, List.mem_append]
  constructor
  · intro inside
    exact ⟨fun index member => inside index (Or.inl member),
      fun index member => inside index (Or.inr member)⟩
  · rintro ⟨firstInside, nextInside⟩ index (member | member)
    · exact firstInside index member
    · exact nextInside index member

theorem within_block_iff {region : ι → Prop} {indices : List ι} {memory : ι → β} :
    Within region (block indices : Read ι β (List β)) memory ↔
      ∀ index ∈ indices, region index := by
  simp [Within]

/-- A computation that stays within a region cannot distinguish memories that
agree on the region. -/
theorem Within.value_eq {region : ι → Prop} {computation : Read ι β α}
    {memory other : ι → β} (inside : Within region computation memory)
    (agree : ∀ index, region index → memory index = other index) :
    computation.value other = computation.value memory :=
  computation.value_eq_of_agree fun index member => agree index (inside index member)

/-! ## Short-circuit disjunction -/

/-- The first computation decides alone when it yields `true`; otherwise the
second is run. -/
def orElse (first second : Read ι β Bool) : Read ι β Bool := do
  if ← first then pure true else second

/-- A chain of short-circuit disjunctions. -/
def firstTrue : List (Read ι β Bool) → Read ι β Bool
  | [] => pure false
  | first :: rest => orElse first (firstTrue rest)

@[simp]
theorem value_orElse (first second : Read ι β Bool) (memory : ι → β) :
    (orElse first second).value memory =
      (first.value memory || second.value memory) := by
  cases decided : first.value memory <;> simp [orElse, decided]

theorem reads_orElse (first second : Read ι β Bool) (memory : ι → β) :
    (orElse first second).reads memory =
      first.reads memory ++
        if first.value memory then [] else second.reads memory := by
  cases decided : first.value memory <;> simp [orElse, decided]

@[simp]
theorem value_firstTrue (computations : List (Read ι β Bool)) (memory : ι → β) :
    (firstTrue computations).value memory =
      computations.any fun computation => computation.value memory := by
  induction computations with
  | nil => rfl
  | cons first rest ih => simp [firstTrue, ih]

/-- A chain stays within a region exactly when each member it reaches does. -/
theorem within_firstTrue_cons_iff {region : ι → Prop} {first : Read ι β Bool}
    {rest : List (Read ι β Bool)} {memory : ι → β} :
    Within region (firstTrue (first :: rest)) memory ↔
      Within region first memory ∧
        (first.value memory = false → Within region (firstTrue rest) memory) := by
  cases decided : first.value memory <;>
    simp [Within, firstTrue, reads_orElse, decided, or_imp, forall_and]

end Read

end WifiSniffer.Memory
