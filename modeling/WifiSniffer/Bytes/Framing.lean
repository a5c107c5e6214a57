import WifiSniffer.Bytes.LittleEndian
import Mathlib.Data.List.Basic

/-!
# Streams of self-delimiting frames

A stream is a concatenation of frames, each of which carries enough of its own
length to be split off the front.  `decodeStream` repeats a one-frame decoder
until the input is used up, so it succeeds only on inputs it consumes exactly.

The sending side keeps a log of its writes, each with the buffer that was offered
and how many of its elements were taken.
-/

namespace WifiSniffer.Bytes

universe u v w

/-! ## Repeated decoding -/

section Decode

variable {ι : Type u} {α γ : Type v} {β : Type w}

/-- Decode frame after frame until nothing is left.  The bound counts frames;
running out of it, or a frame that fails, rejects the whole input. -/
def decodeStream (decode : List β → Option (α × List β)) :
    Nat → List β → Option (List α)
  | _, [] => some []
  | 0, _ :: _ => none
  | bound + 1, head :: tail =>
      (decode (head :: tail)).bind fun step =>
        (decodeStream decode bound step.2).map (step.1 :: ·)

@[simp]
theorem decodeStream_nil (decode : List β → Option (α × List β)) (bound : Nat) :
    decodeStream decode bound [] = some [] := by
  cases bound <;> rfl

/-- On a nonempty input one unit of the bound pays for one frame. -/
theorem decodeStream_succ_of_ne_nil (decode : List β → Option (α × List β))
    (bound : Nat) {input : List β} (nonempty : input ≠ []) :
    decodeStream decode (bound + 1) input =
      (decode input).bind fun step =>
        (decodeStream decode bound step.2).map (step.1 :: ·) := by
  cases input with
  | nil => contradiction
  | cons head tail => rfl

/-- A concatenation of nonempty frames, each of which the decoder splits off
whatever follows, decodes to the frames' contents in order. -/
theorem decodeStream_flatMap {decode : List β → Option (α × List β)}
    {encode : ι → List β} {view : ι → α} {items : List ι}
    (nonempty : ∀ item ∈ items, encode item ≠ [])
    (splits : ∀ item ∈ items, ∀ rest,
      decode (encode item ++ rest) = some (view item, rest))
    {bound : Nat} (enough : items.length ≤ bound) :
    decodeStream decode bound (items.flatMap encode) = some (items.map view) := by
  induction items generalizing bound with
  | nil => simp
  | cons item items ih =>
      obtain ⟨bound, rfl⟩ : ∃ smaller, bound = smaller + 1 :=
        Nat.exists_eq_succ_of_ne_zero (by
          rintro rfl
          simp at enough)
      have frame_ne_nil : encode item ++ items.flatMap encode ≠ [] := by
        simp [nonempty item List.mem_cons_self]
      have rest_eq := ih
        (fun other member => nonempty other (List.mem_cons_of_mem item member))
        (fun other member => splits other (List.mem_cons_of_mem item member))
        (Nat.le_of_succ_le_succ enough)
      rw [List.flatMap_cons, decodeStream_succ_of_ne_nil _ _ frame_ne_nil,
        splits item List.mem_cons_self]
      simp [rest_eq]

/-- There are never more nonempty frames than elements in their concatenation,
so the input's own length is always a sufficient bound. -/
theorem length_le_length_flatMap {encode : ι → List β} {items : List ι}
    (nonempty : ∀ item ∈ items, encode item ≠ []) :
    items.length ≤ (items.flatMap encode).length := by
  induction items with
  | nil => simp
  | cons item items ih =>
      have head_pos : 0 < (encode item).length :=
        List.length_pos_of_ne_nil (nonempty item List.mem_cons_self)
      have tail_le := ih fun other member =>
        nonempty other (List.mem_cons_of_mem item member)
      rw [List.flatMap_cons, List.length_append, List.length_cons]
      omega

theorem length_flatMap_le {encode other : ι → List β} {items : List ι}
    (shorter : ∀ item ∈ items, (encode item).length ≤ (other item).length) :
    (items.flatMap encode).length ≤ (items.flatMap other).length := by
  induction items with
  | nil => exact Nat.le_refl _
  | cons item items ih =>
      have head_le := shorter item List.mem_cons_self
      have tail_le := ih fun later member => shorter later (List.mem_cons_of_mem item member)
      rw [List.flatMap_cons, List.flatMap_cons, List.length_append, List.length_append]
      omega

/-- A concatenation of pieces that are no longer is the same only if every piece is. -/
theorem flatMap_eq_flatMap_iff {encode other : ι → List β} {items : List ι}
    (shorter : ∀ item ∈ items, (encode item).length ≤ (other item).length) :
    items.flatMap encode = items.flatMap other ↔ ∀ item ∈ items, encode item = other item := by
  induction items with
  | nil => simp
  | cons item items ih =>
      have head_le := shorter item List.mem_cons_self
      have tail_shorter := fun later member => shorter later (List.mem_cons_of_mem item member)
      have tail_le := length_flatMap_le tail_shorter
      rw [List.flatMap_cons, List.flatMap_cons, List.forall_mem_cons, ← ih tail_shorter]
      constructor
      · intro equal
        have lengths := congrArg List.length equal
        rw [List.length_append, List.length_append] at lengths
        exact List.append_inj equal (by omega)
      · rintro ⟨head_eq, tail_eq⟩
        rw [head_eq, tail_eq]

/-- A partial map that succeeds on every image succeeds on their list. -/
theorem mapM_map_eq_some {interpret : α → Option γ} {view : ι → α} {meaning : ι → γ}
    (interprets : ∀ item, interpret (view item) = some (meaning item)) (items : List ι) :
    (items.map view).mapM interpret = some (items.map meaning) := by
  induction items with
  | nil => rfl
  | cons item items ih => simp [interprets item, ih]

end Decode

/-! ## Write logs -/

section WriteLog

variable {β : Type w}

/-- What the writes of a log have sent: each takes a leading part of its buffer. -/
def delivered (log : List (List β × Nat)) : List β :=
  log.flatMap fun entry => entry.1.take entry.2

/-- One more write adds to the end of what was sent. -/
theorem delivered_concat (log : List (List β × Nat)) (buffer : List β) (count : Nat) :
    delivered (log ++ [(buffer, count)]) = delivered log ++ buffer.take count := by
  rw [delivered, delivered, List.flatMap_append, List.flatMap_singleton]

end WriteLog

end WifiSniffer.Bytes
