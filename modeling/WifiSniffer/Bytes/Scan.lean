import WifiSniffer.Bytes.Framing

/-!
# Reading a stream that is still growing

A reader that does not wait for the end of a stream splits off one frame after the other
until what is left holds no frame.  A decoder that is not misled by what follows a frame
finds in the beginning of a stream exactly the frames that are there whole.
-/

namespace WifiSniffer.Bytes

universe u v w

section Scan

variable {ι : Type u} {α γ : Type v} {β : Type w}

/-! ## Decoders -/

/-- What is split off an input is split off it whatever follows. -/
def Stable (decode : List β → Option (α × List β)) : Prop :=
  ∀ ⦃input rest : List β⦄ ⦃item : α⦄, decode input = some (item, rest) →
    ∀ more, decode (input ++ more) = some (item, rest ++ more)

/-- Every item uses up at least so much of the input. -/
def Uses (count : Nat) (decode : List β → Option (α × List β)) : Prop :=
  ∀ ⦃input rest : List β⦄ ⦃item : α⦄, decode input = some (item, rest) →
    rest.length + count ≤ input.length

/-- The decoder that reads nothing. -/
theorem stable_pure (item : α) : Stable fun input : List β => some (item, input) := by
  rintro input rest found ⟨⟩ more
  rfl

theorem stable_takeExact (count : Nat) : Stable (@takeExact β count) := by
  intro input rest front taken more
  rw [takeExact] at taken
  split at taken
  case isFalse => cases taken
  case isTrue fits =>
      cases taken
      rw [takeExact, if_pos (by rw [List.length_append]; omega),
        List.take_append_of_le_length fits, List.drop_append_of_le_length fits]

theorem Stable.map {decode : List β → Option (α × List β)} (stable : Stable decode)
    (view : α → γ) : Stable fun input => (decode input).map fun step => (view step.1, step.2) := by
  intro input rest item decoded more
  rcases Option.map_eq_some_iff.mp decoded with ⟨⟨found, left⟩, split, same⟩
  cases same
  exact Option.map_eq_some_iff.mpr ⟨_, stable split more, rfl⟩

/-- A decoder followed by one that may depend on what the first has found. -/
theorem Stable.bind {decode : List β → Option (α × List β)}
    {next : α → List β → Option (γ × List β)} (stable : Stable decode)
    (stableNext : ∀ item, Stable (next item)) :
    Stable fun input => (decode input).bind fun step => next step.1 step.2 := by
  intro input rest item decoded more
  rcases Option.bind_eq_some_iff.mp decoded with ⟨⟨found, left⟩, split, later⟩
  exact Option.bind_eq_some_iff.mpr ⟨_, stable split more, stableNext found later more⟩

/-- A condition on what has been found before. -/
theorem Stable.guard {decode : List β → Option (α × List β)} (stable : Stable decode)
    (condition : Prop) [Decidable condition] :
    Stable fun input => (guard condition : Option Unit).bind fun _ => decode input := by
  intro input rest item decoded more
  rcases Option.bind_eq_some_iff.mp decoded with ⟨found, passed, later⟩
  exact Option.bind_eq_some_iff.mpr ⟨found, passed, stable later more⟩

theorem stable_decodeLe (width : Nat) : Stable (decodeLe width) :=
  (stable_takeExact width).map ofLe

theorem uses_takeExact (count : Nat) : Uses count (@takeExact β count) := by
  intro input rest front taken
  rw [takeExact] at taken
  split at taken
  case isFalse => cases taken
  case isTrue fits =>
      cases taken
      rw [List.length_drop]
      omega

theorem uses_decodeLe (width : Nat) : Uses width (decodeLe width) := by
  intro input rest value decoded
  rcases Option.map_eq_some_iff.mp decoded with ⟨parts, taken, same⟩
  cases same
  exact uses_takeExact width taken

theorem uses_pure (item : α) : Uses 0 fun input : List β => some (item, input) := by
  rintro input rest found ⟨⟩
  exact Nat.le_refl _

theorem Uses.mono {count fewer : Nat} {decode : List β → Option (α × List β)}
    (uses : Uses count decode) (le : fewer ≤ count) : Uses fewer decode :=
  fun _ _ _ decoded => Nat.le_trans (Nat.add_le_add_left le _) (uses decoded)

theorem Uses.guard {count : Nat} {decode : List β → Option (α × List β)}
    (uses : Uses count decode) (condition : Prop) [Decidable condition] :
    Uses count fun input => (guard condition : Option Unit).bind fun _ => decode input := by
  intro input rest item decoded
  rcases Option.bind_eq_some_iff.mp decoded with ⟨found, passed, later⟩
  exact uses later

/-- What the first decoder uses up is used up, if the second gives nothing back. -/
theorem Uses.bind {count : Nat} {decode : List β → Option (α × List β)}
    {next : α → List β → Option (γ × List β)} (uses : Uses count decode)
    (usesNext : ∀ item, Uses 0 (next item)) :
    Uses count fun input => (decode input).bind fun step => next step.1 step.2 := by
  intro input rest item decoded
  rcases Option.bind_eq_some_iff.mp decoded with ⟨step, split, later⟩
  exact Nat.le_trans (Nat.add_le_add_right (usesNext step.1 later) count) (uses split)

/-- A decoder that splits a frame off whatever follows finds nothing in a part of it. -/
theorem Stable.eq_none_of_prefix {decode : List β → Option (α × List β)} (stable : Stable decode)
    {frame input : List β} {item : α} (whole : decode frame = some (item, []))
    (front : input <+: frame) (shorter : input ≠ frame) : decode input = none := by
  cases decoded : decode input with
  | none => rfl
  | some step =>
      rcases front with ⟨more, rfl⟩
      have again := stable decoded more
      rw [whole] at again
      have empty : step.2 ++ more = [] := (Prod.mk.inj (Option.some.inj again)).2.symm
      rw [(List.append_eq_nil_iff.mp empty).2, List.append_nil] at shorter
      exact absurd rfl shorter

/-! ## Scans -/

/-- Item after item is split off, until nothing more is found in what is left. -/
inductive Scans (decode : List β → Option (α × List β)) : List β → List α → List β → Prop
  | stop {input : List β} (nothing : decode input = none) : Scans decode input [] input
  | item {input rest left : List β} {item : α} {items : List α}
      (found : decode input = some (item, rest)) (later : Scans decode rest items left) :
      Scans decode input (item :: items) left

/-- Split off item after item.  The bound counts them. -/
def scan (decode : List β → Option (α × List β)) : Nat → List β → List α × List β
  | 0, input => ([], input)
  | bound + 1, input =>
      match decode input with
      | none => ([], input)
      | some (item, rest) =>
          let later := scan decode bound rest
          (item :: later.1, later.2)

variable {decode : List β → Option (α × List β)}

/-- The length of the input is always a sufficient bound. -/
theorem scan_eq_iff (uses : Uses 1 decode) {bound : Nat} {input left : List β}
    {items : List α} (enough : input.length ≤ bound) :
    scan decode bound input = (items, left) ↔ Scans decode input items left := by
  induction bound generalizing input items with
  | zero =>
      have nothing : decode input = none := by
        cases decoded : decode input with
        | none => rfl
        | some step => exact absurd (uses decoded) (by omega)
      constructor
      · rintro ⟨⟩
        exact .stop nothing
      · rintro (_ | ⟨found, _⟩)
        · rfl
        · rw [nothing] at found
          cases found
  | succ bound ih =>
      rw [scan]
      cases decoded : decode input with
      | none =>
          constructor
          · rintro ⟨⟩
            exact .stop decoded
          · rintro (_ | ⟨found, _⟩)
            · rfl
            · rw [decoded] at found
              cases found
      | some step =>
          rcases step with ⟨item, rest⟩
          have shorter : rest.length ≤ bound := by
            have used := uses decoded
            omega
          constructor
          · rintro ⟨⟩
            exact .item decoded ((ih shorter).mp rfl)
          · rintro (nothing | ⟨found, later⟩)
            · rw [decoded] at nothing
              cases nothing
            · rw [decoded] at found
              cases found
              dsimp only
              rw [(ih shorter).mpr later]

/-- A beginning of the next frame, which breaks off inside it, or nothing behind the last. -/
def BreaksOff (encode : ι → List β) : List ι → List β → Prop
  | [], tail => tail = []
  | next :: _, tail => tail <+: encode next ∧ tail ≠ encode next

/-- In the beginning of a stream of frames, exactly those are found that are there
whole. -/
theorem scans_of_prefix {encode : ι → List β} {view : ι → α} (stable : Stable decode)
    (uses : Uses 1 decode)
    (splits : ∀ item rest, decode (encode item ++ rest) = some (view item, rest))
    {items : List ι} {input : List β} (front : input <+: items.flatMap encode) :
    ∃ whole back tail, items = whole ++ back ∧ input = whole.flatMap encode ++ tail ∧
      BreaksOff encode back tail ∧ Scans decode input (whole.map view) tail := by
  induction items generalizing input with
  | nil =>
      obtain rfl : input = [] := List.prefix_nil.mp front
      have nothing : decode [] = none := by
        cases decoded : decode [] with
        | none => rfl
        | some step => exact absurd (uses decoded) (Nat.not_lt_zero _)
      exact ⟨[], [], [], rfl, rfl, rfl, .stop nothing⟩
  | cons item items ih =>
      rw [List.flatMap_cons] at front
      by_cases complete : encode item <+: input
      · rcases complete with ⟨rest, rfl⟩
        rcases ih ((List.prefix_append_right_inj _).mp front) with
          ⟨whole, back, tail, rfl, rfl, breaks, later⟩
        refine ⟨item :: whole, back, tail, rfl, ?_, breaks, .item (splits item _) later⟩
        rw [List.flatMap_cons, List.append_assoc]
      · -- the input ends inside the first frame
        have inside : input <+: encode item :=
          (List.prefix_or_prefix_of_prefix front (List.prefix_append _ _)).resolve_right complete
        have shorter : input ≠ encode item := by
          rintro rfl
          exact complete (List.prefix_refl _)
        have alone : decode (encode item) = some (view item, []) := by
          have followed := splits item []
          rwa [List.append_nil] at followed
        exact ⟨[], item :: items, input, rfl, rfl, ⟨inside, shorter⟩,
          .stop (stable.eq_none_of_prefix alone inside shorter)⟩

end Scan

end WifiSniffer.Bytes
