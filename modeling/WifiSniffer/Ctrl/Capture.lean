import WifiSniffer.Ctrl.ByteBuffer

/-!
# The packets of the control program

`CaptureHeader`, `PayloadHeader` and `PayloadPacket` read their fields from a buffer in
the order of the bytes and keep the buffer.  The buffer is at least as long as the
class demands, or there is no packet.
-/

namespace WifiSniffer.Ctrl

open WifiSniffer.Bytes

/-- `AbstractPacket.get`: a packet, if the buffer has the bytes for it. -/
def AbstractPacket.get {T : Type} (byteBuffer : ByteBuffer) (size : Nat) (supplier : Getter T) :
    Except JavaException (Option T) :=
  if byteBuffer.remaining ≥ size then (supplier.run' byteBuffer).map some else .ok none

/-! ## `CaptureHeader` -/

structure CaptureHeader where
  byteBuffer : ByteBuffer
  magicNum : Int32
  majorV : Int16
  minorV : Int16
  timezone : Int32
  sigfigs : Int32
  snapLen : Int32
  networkType : Int32
  deriving DecidableEq

namespace CaptureHeader

/-- `CaptureHeader.SIZE` -/
def size : Nat :=
  24

/-- `CaptureHeader.MAGIC` -/
def magic : Int32 :=
  (0xa1b2c3d4 : UInt32).toInt32

/-- The constructor. -/
def new : Getter CaptureHeader := do
  let magicNum ← Getter.int
  let majorV ← Getter.short
  let minorV ← Getter.short
  let timezone ← Getter.int
  let sigfigs ← Getter.int
  let snapLen ← Getter.int
  let networkType ← Getter.int
  let byteBuffer ← get
  return { byteBuffer, magicNum, majorV, minorV, timezone, sigfigs, snapLen, networkType }

def get (byteBuffer : ByteBuffer) : Except JavaException (Option CaptureHeader) :=
  AbstractPacket.get byteBuffer size new

end CaptureHeader

/-! ## `PayloadHeader` -/

structure PayloadHeader where
  byteBuffer : ByteBuffer
  timeStamp : Int32
  microSeconds : Int32
  inclLen : Int32
  origLen : Int32
  deriving DecidableEq

namespace PayloadHeader

/-- `PayloadHeader.SIZE` -/
def size : Nat :=
  16

/-- The constructor. -/
def new : Getter PayloadHeader := do
  let timeStamp ← Getter.int
  let microSeconds ← Getter.int
  let inclLen ← Getter.int
  let origLen ← Getter.int
  let byteBuffer ← get
  return { byteBuffer, timeStamp, microSeconds, inclLen, origLen }

def get (byteBuffer : ByteBuffer) : Except JavaException (Option PayloadHeader) :=
  AbstractPacket.get byteBuffer size new

end PayloadHeader

/-! ## `PayloadPacket` -/

structure PayloadPacket where
  byteBuffer : ByteBuffer
  frameControl : Int16
  duration : Int16
  da : List UInt8
  sa : List UInt8
  bssid : List UInt8
  seqControl : Int32
  data : List UInt8
  deriving DecidableEq

namespace PayloadPacket

/-- `PayloadPacket.SIZE` -/
def size : Nat :=
  28

/-- The constructor.  The sequence control is masked to its low byte. -/
def new : Getter PayloadPacket := do
  let frameControl ← Getter.short
  let duration ← Getter.short
  let da ← Getter.bytes 6
  let sa ← Getter.bytes 6
  let bssid ← Getter.bytes 6
  let seqControl ← Getter.short
  let remaining ← Getter.remaining
  let data ← Getter.bytes remaining
  let byteBuffer ← get
  return { byteBuffer, frameControl, duration, da, sa, bssid,
           seqControl := seqControl.toInt32 &&& 0xFF, data }

def get (byteBuffer : ByteBuffer) : Except JavaException (Option PayloadPacket) :=
  AbstractPacket.get byteBuffer size new

end PayloadPacket

/-! ## What is decoded -/

/-- A buffer that is too short has no packet in it. -/
theorem AbstractPacket.get_wrap_of_short {T : Type} {array : List UInt8} {size : Nat}
    {supplier : Getter T} (short : array.length < size) :
    AbstractPacket.get (.wrap array) size supplier = .ok none := by
  rw [AbstractPacket.get, if_neg]
  simpa using short

theorem AbstractPacket.get_wrap_of_run {T : Type} {array : List UInt8} {size : Nat}
    {supplier : Getter T} {packet : T} {after : ByteBuffer} (long : size ≤ array.length)
    (ran : supplier.run (.wrap array) = .ok (packet, after)) :
    AbstractPacket.get (.wrap array) size supplier = .ok (some packet) := by
  rw [AbstractPacket.get, if_pos (by simpa using long), StateT.run'_eq, ran]
  rfl

section Fields

open Getter

variable {array : List UInt8}

theorem CaptureHeader.get_wrap (left : List UInt8) {magicNum majorV minorV timezone sigfigs snapLen
      networkType : List UInt8}
    (array_eq : array = magicNum ++ (majorV ++ (minorV ++ (timezone ++ (sigfigs ++
      (snapLen ++ (networkType ++ left)))))))
    (magicNum_length : magicNum.length = 4) (majorV_length : majorV.length = 2)
    (minorV_length : minorV.length = 2) (timezone_length : timezone.length = 4)
    (sigfigs_length : sigfigs.length = 4) (snapLen_length : snapLen.length = 4)
    (networkType_length : networkType.length = 4) :
    ∃ byteBuffer, byteBuffer.array = array ∧ CaptureHeader.get (.wrap array) =
      .ok (some ⟨byteBuffer, intOf magicNum, shortOf majorV, shortOf minorV, intOf timezone,
        intOf sigfigs, intOf snapLen, intOf networkType⟩) := by
  subst array_eq
  refine ⟨.split (magicNum ++ majorV ++ minorV ++ timezone ++ sigfigs ++ snapLen ++
    networkType) left, by simp, ?_⟩
  apply AbstractPacket.get_wrap_of_run
  · simp only [List.length_append, magicNum_length, majorV_length, minorV_length,
      timezone_length, sigfigs_length, snapLen_length, networkType_length, size]
    omega
  · rw [ByteBuffer.wrap_eq_split, new, (reads_int magicNum_length).run_bind,
      (reads_short majorV_length).run_bind, (reads_short minorV_length).run_bind,
      (reads_int timezone_length).run_bind, (reads_int sigfigs_length).run_bind,
      (reads_int snapLen_length).run_bind, (reads_int networkType_length).run_bind]
    rfl

theorem PayloadHeader.get_wrap (left : List UInt8)
    {timeStamp microSeconds inclLen origLen : List UInt8}
    (array_eq : array = timeStamp ++ (microSeconds ++ (inclLen ++ (origLen ++ left))))
    (timeStamp_length : timeStamp.length = 4) (microSeconds_length : microSeconds.length = 4)
    (inclLen_length : inclLen.length = 4) (origLen_length : origLen.length = 4) :
    ∃ byteBuffer, byteBuffer.array = array ∧ PayloadHeader.get (.wrap array) =
      .ok (some ⟨byteBuffer, intOf timeStamp, intOf microSeconds, intOf inclLen,
        intOf origLen⟩) := by
  subst array_eq
  refine ⟨.split (timeStamp ++ microSeconds ++ inclLen ++ origLen) left, by simp, ?_⟩
  apply AbstractPacket.get_wrap_of_run
  · simp only [List.length_append, timeStamp_length, microSeconds_length, inclLen_length,
      origLen_length, size]
    omega
  · rw [ByteBuffer.wrap_eq_split, new, (reads_int timeStamp_length).run_bind,
      (reads_int microSeconds_length).run_bind, (reads_int inclLen_length).run_bind,
      (reads_int origLen_length).run_bind]
    rfl

theorem PayloadPacket.get_wrap {frameControl duration da sa bssid seqControl data : List UInt8}
    (array_eq : array = frameControl ++ (duration ++ (da ++ (sa ++ (bssid ++
      (seqControl ++ data))))))
    (frameControl_length : frameControl.length = 2) (duration_length : duration.length = 2)
    (da_length : da.length = 6) (sa_length : sa.length = 6) (bssid_length : bssid.length = 6)
    (seqControl_length : seqControl.length = 2) (data_length : 4 ≤ data.length) :
    ∃ byteBuffer, byteBuffer.array = array ∧ PayloadPacket.get (.wrap array) =
      .ok (some ⟨byteBuffer, shortOf frameControl, shortOf duration, da, sa, bssid,
        (shortOf seqControl).toInt32 &&& 0xFF, data⟩) := by
  subst array_eq
  refine ⟨.split (frameControl ++ duration ++ da ++ sa ++ bssid ++ seqControl ++ data) [],
    by simp, ?_⟩
  apply AbstractPacket.get_wrap_of_run
  · simp only [List.length_append, frameControl_length, duration_length, da_length, sa_length,
      bssid_length, seqControl_length, size]
    omega
  · rw [ByteBuffer.wrap_eq_split, new, (reads_short frameControl_length).run_bind,
      (reads_short duration_length).run_bind, (reads_bytes da_length).run_bind,
      (reads_bytes sa_length).run_bind, (reads_bytes bssid_length).run_bind,
      (reads_short seqControl_length).run_bind, run_remaining_bind, run_bytes_length_bind]
    rfl

/-- Arrays fall into consecutive pieces. -/
theorem drop_eq_take_append (array : List UInt8) (offset count : Nat) :
    array.drop offset = (array.drop offset).take count ++ array.drop (offset + count) := by
  rw [← List.drop_drop]
  exact (List.take_append_drop _ _).symm

theorem CaptureHeader.get_wrap_of_long (long : CaptureHeader.size ≤ array.length) :
    ∃ captureHeader, CaptureHeader.get (.wrap array) = .ok (some captureHeader) ∧
      captureHeader.byteBuffer.array = array := by
  have cut := drop_eq_take_append array
  have array_eq : array = (array.drop 0).take 4 ++ ((array.drop 4).take 2 ++
      ((array.drop 6).take 2 ++ ((array.drop 8).take 4 ++ ((array.drop 12).take 4 ++
        ((array.drop 16).take 4 ++ ((array.drop 20).take 4 ++ array.drop 24)))))) := by
    rw [← cut 20 4, ← cut 16 4, ← cut 12 4, ← cut 8 4, ← cut 6 2, ← cut 4 2, ← cut 0 4,
      List.drop_zero]
  rw [size] at long
  rcases CaptureHeader.get_wrap _ array_eq (by simp; omega) (by simp; omega) (by simp; omega)
    (by simp; omega) (by simp; omega) (by simp; omega) (by simp; omega) with
    ⟨byteBuffer, array_eq', found⟩
  exact ⟨_, found, array_eq'⟩

theorem PayloadHeader.get_wrap_of_long (long : PayloadHeader.size ≤ array.length) :
    ∃ payloadHeader, PayloadHeader.get (.wrap array) = .ok (some payloadHeader) ∧
      payloadHeader.byteBuffer.array = array := by
  have cut := drop_eq_take_append array
  have array_eq : array = (array.drop 0).take 4 ++ ((array.drop 4).take 4 ++
      ((array.drop 8).take 4 ++ ((array.drop 12).take 4 ++ array.drop 16))) := by
    rw [← cut 12 4, ← cut 8 4, ← cut 4 4, ← cut 0 4, List.drop_zero]
  rw [size] at long
  rcases PayloadHeader.get_wrap _ array_eq (by simp; omega) (by simp; omega) (by simp; omega)
    (by simp; omega) with ⟨byteBuffer, array_eq', found⟩
  exact ⟨_, found, array_eq'⟩

theorem PayloadPacket.get_wrap_of_long (long : PayloadPacket.size ≤ array.length) :
    ∃ payloadPacket, PayloadPacket.get (.wrap array) = .ok (some payloadPacket) ∧
      payloadPacket.byteBuffer.array = array := by
  have cut := drop_eq_take_append array
  have array_eq : array = (array.drop 0).take 2 ++ ((array.drop 2).take 2 ++
      ((array.drop 4).take 6 ++ ((array.drop 10).take 6 ++ ((array.drop 16).take 6 ++
        ((array.drop 22).take 2 ++ array.drop 24))))) := by
    rw [← cut 22 2, ← cut 16 6, ← cut 10 6, ← cut 4 6, ← cut 2 2, ← cut 0 2, List.drop_zero]
  rw [size] at long
  rcases PayloadPacket.get_wrap array_eq (by simp; omega) (by simp; omega) (by simp; omega)
    (by simp; omega) (by simp; omega) (by simp; omega) (by simp; omega) with
    ⟨byteBuffer, array_eq', found⟩
  exact ⟨_, found, array_eq'⟩

/-- A packet keeps the array that it has been read from. -/
theorem AbstractPacket.array_of_get {T : Type} {size : Nat} {supplier : Getter T}
    {arrayOf : T → List UInt8}
    (keeps : size ≤ array.length → ∃ packet,
      AbstractPacket.get (.wrap array) size supplier = .ok (some packet) ∧
        arrayOf packet = array)
    {packet : T} (found : AbstractPacket.get (.wrap array) size supplier = .ok (some packet)) :
    arrayOf packet = array := by
  by_cases long : size ≤ array.length
  · rcases keeps long with ⟨packet', found', array_eq⟩
    rw [found'] at found
    cases found
    exact array_eq
  · rw [get_wrap_of_short (Nat.lt_of_not_le long)] at found
    cases found

end Fields

end WifiSniffer.Ctrl
