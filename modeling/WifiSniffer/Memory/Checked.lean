import Mathlib.Data.List.Basic

/-!
# Checked accesses to an array

Reads, writes and copies that fail where they would leave the array.
-/

namespace WifiSniffer.Memory

universe u v

variable {α : Type u} {ε : Type v}

/-- Read an element. -/
def load (fault : ε) (array : List α) (index : Nat) : Except ε α :=
  match array[index]? with
  | some value => .ok value
  | none => .error fault

/-- Replace an element. -/
def store (fault : ε) (array : List α) (index : Nat) (value : α) : Except ε (List α) :=
  if index < array.length then .ok (array.set index value) else .error fault

/-- Copy the first elements of one array to the front of another. -/
def copy (fault : ε) (target source : List α) (count : Nat) : Except ε (List α) :=
  if count ≤ target.length ∧ count ≤ source.length then
    .ok (source.take count ++ target.drop count)
  else .error fault

variable {fault : ε} {array front back target source : List α} {index count : Nat} {value : α}

theorem load_of_getElem? (found : array[index]? = some value) :
    load fault array index = .ok value := by
  rw [load, found]

/-- Replace the element behind some others. -/
theorem store_append_cons {old : α} (length_eq : front.length = index) :
    store fault (front ++ old :: back) index value = .ok (front ++ value :: back) := by
  subst length_eq
  rw [store, if_pos (by simp), List.set_append_right _ _ (Nat.le_refl _), Nat.sub_self,
    List.set_cons_zero]

theorem store_of_length_le (outside : array.length ≤ index) :
    store fault array index value = .error fault :=
  if_neg (Nat.not_lt.mpr outside)

/-- Copy what an array begins with. -/
theorem copy_append (length_eq : front.length = count) (fits : count ≤ target.length) :
    copy fault target (front ++ back) count = .ok (front ++ target.drop count) := by
  subst length_eq
  rw [copy, if_pos ⟨fits, by simp⟩, List.take_left]

/-- Copy the whole of an array. -/
theorem copy_of_le (fits : source.length ≤ target.length) :
    copy fault target source source.length = .ok (source ++ target.drop source.length) := by
  rw [copy, if_pos ⟨fits, Nat.le_refl _⟩, List.take_length]

end WifiSniffer.Memory
