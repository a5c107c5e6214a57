import Mathlib.Data.List.GetD

/-!
# Writes to a flat memory

What a memory holds after some values have been written from an address on.
-/

namespace WifiSniffer.Memory

universe u

variable {β : Type u}

/-- The memory after values have been written from an address on. -/
def write (memory : Nat → β) (address : Nat) (values : List β) : Nat → β := fun place =>
  if address ≤ place then values.getD (place - address) (memory place) else memory place

/-- The values from an address on. -/
def contents (memory : Nat → β) (address count : Nat) : List β :=
  (List.range' address count).map memory

variable {memory : Nat → β} {address : Nat} {values : List β}

@[simp]
theorem write_nil : write memory address [] = memory := by
  funext place
  simp [write]

theorem write_apply_of_lt {place : Nat} (before : place < address) :
    write memory address values place = memory place :=
  if_neg (Nat.not_le.mpr before)

theorem write_apply_of_le {place : Nat} (behind : address + values.length ≤ place) :
    write memory address values place = memory place := by
  rw [write, if_pos (by omega)]
  exact List.getD_eq_default _ _ (by omega)

theorem write_apply_add {index : Nat} (inside : index < values.length) :
    write memory address values (address + index) = values.get ⟨index, inside⟩ := by
  rw [write, if_pos (Nat.le_add_right _ _), Nat.add_sub_cancel_left]
  exact List.getD_eq_getElem _ _ inside

/-- What has been written is there. -/
theorem contents_write {count : Nat} (length_eq : values.length = count) :
    contents (write memory address values) address count = values := by
  subst length_eq
  apply List.ext_getElem
  · simp [contents]
  · intro index _ inside
    simp only [contents, List.getElem_map, List.getElem_range', Nat.one_mul]
    exact write_apply_add inside

/-- A write that begins inside of another one, and does not end before it, replaces its
end. -/
theorem write_write_append {front old new : List β} (covered : old.length ≤ new.length) :
    write (write memory address (front ++ old)) (address + front.length) new =
      write memory address (front ++ new) := by
  funext place
  by_cases inNew : address + front.length ≤ place
  · have behind_front : front.length ≤ place - address := by omega
    have index_eq : place - address - front.length = place - (address + front.length) := by omega
    rw [write, if_pos inNew, write, write, if_pos (by omega), if_pos (by omega),
      List.getD_append_right _ _ _ _ behind_front, List.getD_append_right _ _ _ _ behind_front,
      index_eq]
    by_cases inside : place - (address + front.length) < new.length
    · rw [List.getD_eq_getElem _ _ inside, List.getD_eq_getElem _ _ inside]
    · rw [List.getD_eq_default _ _ (by omega), List.getD_eq_default _ _ (by omega),
        List.getD_eq_default _ _ (by omega)]
  · rw [write_apply_of_lt (Nat.not_le.mp inNew), write, write]
    by_cases inFront : address ≤ place
    · have in_front : place - address < front.length := by omega
      rw [if_pos inFront, if_pos inFront, List.getD_append _ _ _ _ in_front,
        List.getD_append _ _ _ _ in_front]
    · rw [if_neg inFront, if_neg inFront]

end WifiSniffer.Memory
