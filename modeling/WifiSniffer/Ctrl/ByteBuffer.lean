import WifiSniffer.Bytes.BigEndian

/-!
# `java.nio.ByteBuffer`

A buffer over the whole of its array, with the position from which the next relative
get reads.  The order of a new buffer is big-endian, and the control program leaves it
so.  A get that finds fewer bytes than it needs throws.
-/

namespace WifiSniffer.Ctrl

open WifiSniffer.Bytes

/-- The exceptions that end the control program. -/
inductive JavaException where
  | bufferUnderflow
  | negativeArraySize
  | illegalArgument
  | socketTimeout
  deriving DecidableEq

structure ByteBuffer where
  array : List UInt8
  position : Nat
  inside : position ≤ array.length
  deriving DecidableEq

namespace ByteBuffer

/-- `ByteBuffer.wrap` -/
def wrap (array : List UInt8) : ByteBuffer where
  array := array
  position := 0
  inside := Nat.zero_le _

/-- `ByteBuffer.allocate` -/
def allocate (capacity : Nat) : ByteBuffer :=
  wrap (List.replicate capacity 0)

def remaining (buffer : ByteBuffer) : Nat :=
  buffer.array.length - buffer.position

/-- The buffer of which `taken` has been read and `left` has not. -/
def split (taken left : List UInt8) : ByteBuffer where
  array := taken ++ left
  position := taken.length
  inside := by simp

@[simp]
theorem array_wrap (array : List UInt8) : (wrap array).array = array :=
  rfl

@[simp]
theorem remaining_wrap (array : List UInt8) : (wrap array).remaining = array.length :=
  rfl

theorem wrap_eq_split (array : List UInt8) : wrap array = split [] array :=
  rfl

@[simp]
theorem array_split (taken left : List UInt8) : (split taken left).array = taken ++ left :=
  rfl

end ByteBuffer

/-! ## Relative gets -/

/-- A sequence of relative gets. -/
abbrev Getter :=
  StateT ByteBuffer (Except JavaException)

namespace Getter

/-- `get(byte[])` with an array of the given length -/
def bytes (count : Nat) : Getter (List UInt8) := fun buffer =>
  if inside : buffer.position + count ≤ buffer.array.length then
    .ok ((buffer.array.drop buffer.position).take count,
      { buffer with position := buffer.position + count, inside := inside })
  else .error .bufferUnderflow

/-- The number that `getInt` reads. -/
def intOf (read : List UInt8) : Int32 :=
  (UInt32.ofNat (ofBe read)).toInt32

/-- The number that `getShort` reads. -/
def shortOf (read : List UInt8) : Int16 :=
  (UInt16.ofNat (ofBe read)).toInt16

/-- `getInt` -/
def int : Getter Int32 := do
  let read ← bytes 4
  return intOf read

/-- `getShort` -/
def short : Getter Int16 := do
  let read ← bytes 2
  return shortOf read

/-- `remaining` -/
def remaining : Getter Nat := do
  return (← get).remaining

/-- The getter takes exactly these bytes off the front, whatever follows, and gives the
value. -/
def Reads {α : Type} (getter : Getter α) (front : List UInt8) (value : α) : Prop :=
  ∀ taken left, getter.run (.split taken (front ++ left)) =
    .ok (value, .split (taken ++ front) left)

theorem reads_bytes {front : List UInt8} {count : Nat} (length_eq : front.length = count) :
    Reads (bytes count) front front := by
  subst length_eq
  intro taken left
  have inside : (ByteBuffer.split taken (front ++ left)).position + front.length ≤
      (ByteBuffer.split taken (front ++ left)).array.length := by
    simp only [ByteBuffer.split, List.length_append]
    omega
  have ahead : ((taken ++ (front ++ left)).drop taken.length).take front.length = front := by
    simp
  have advanced : ByteBuffer.mk (ByteBuffer.split taken (front ++ left)).array
      ((ByteBuffer.split taken (front ++ left)).position + front.length) inside =
        .split (taken ++ front) left := by
    simp [ByteBuffer.split]
  rw [StateT.run, bytes, dif_pos inside, advanced]
  exact congrArg (fun read => Except.ok (read, ByteBuffer.split (taken ++ front) left)) ahead

theorem Reads.map {α β : Type} {getter : Getter α} {front : List UInt8} {value : α}
    (reads : Reads getter front value) (f : α → β) :
    Reads (getter >>= fun read => return f read) front (f value) := by
  intro taken left
  rw [StateT.run_bind, reads taken left]
  rfl

theorem reads_int {front : List UInt8} (length_eq : front.length = 4) :
    Reads int front (intOf front) :=
  (reads_bytes length_eq).map intOf

theorem reads_short {front : List UInt8} (length_eq : front.length = 2) :
    Reads short front (shortOf front) :=
  (reads_bytes length_eq).map shortOf

/-- A sequence of gets goes on behind the bytes of its first one. -/
theorem Reads.run_bind {α β : Type} {getter : Getter α} {front : List UInt8} {value : α}
    (reads : Reads getter front value) (next : α → Getter β) (taken left : List UInt8) :
    (getter >>= next).run (.split taken (front ++ left)) =
      (next value).run (.split (taken ++ front) left) := by
  rw [StateT.run_bind, reads taken left]
  rfl

/-- A get of all that is left. -/
theorem run_bytes_length_bind {β : Type} (next : List UInt8 → Getter β)
    (taken left : List UInt8) :
    (bytes left.length >>= next).run (.split taken left) =
      (next left).run (.split (taken ++ left) []) := by
  have reads := (reads_bytes (rfl : left.length = left.length)).run_bind next taken []
  rw [List.append_nil] at reads
  exact reads

theorem run_remaining_bind {β : Type} (next : Nat → Getter β) (taken left : List UInt8) :
    (remaining >>= next).run (.split taken left) =
      (next left.length).run (.split taken left) := by
  have left_eq : (ByteBuffer.split taken left).remaining = left.length := by
    simp [ByteBuffer.remaining, ByteBuffer.split]
  rw [StateT.run_bind, remaining, StateT.run_bind, StateT.run_get, pure_bind, left_eq]
  rfl

end Getter

end WifiSniffer.Ctrl
