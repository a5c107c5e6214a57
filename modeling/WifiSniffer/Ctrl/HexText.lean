import Mathlib.Algebra.Group.Int.Defs
import Mathlib.Algebra.Group.Nat.Defs
import WifiSniffer.Capture.HexArray
import WifiSniffer.Memory.Checked

/-!
# Hexadecimal text of the control program

`AbstractPacket` has an encoder and a decoder of its own.  The encoder takes the length
of its array twice as an `int`, and from 2^30 bytes on the double is negative.  What it
makes of a shorter array can be read back by its own decoder and by the one of the
firmware.
-/

namespace WifiSniffer.Ctrl

open WifiSniffer.Bytes WifiSniffer.Memory WifiSniffer.Capture

/-! ## Arrays and strings -/

/-- The exceptions that the two methods throw. -/
inductive TextException where
  | negativeArraySize
  | arrayIndexOutOfBounds
  | stringIndexOutOfBounds
  deriving DecidableEq

/-- `byte[]`.  The length of an array is an `int`. -/
structure JavaBytes where
  bytes : List Int8
  bound : bytes.length < 2 ^ 31

/-- A string, as its UTF-16 units -/
abbrev JavaString :=
  List UInt16

/-- What the library does beyond ASCII: it decodes UTF-8, and there are digits in other
scripts. -/
structure TextLibrary where
  decode : List Int8 → JavaString
  digit : UInt16 → Int32

/-- `new byte[size]` -/
def newBytes (size : Int32) : Except TextException (List Int8) :=
  if size < 0 then .error .negativeArraySize else .ok (List.replicate size.toInt.toNat 0)

/-- `new String(bytes, StandardCharsets.UTF_8)` -/
def newString (library : TextLibrary) (bytes : List Int8) : JavaString :=
  if bytes.all fun byte => decide (0 ≤ byte) then bytes.map fun byte => byte.toUInt8.toUInt16
  else library.decode bytes

/-- `Character.digit(char, 16)` -/
def characterDigit (library : TextLibrary) (char : UInt16) : Int32 :=
  let unit (char : Char) : UInt16 := char.toNat.toUInt16
  if char ≥ 0x80 then library.digit char
  else if unit '0' ≤ char ∧ char ≤ unit '9' then (char - unit '0').toUInt32.toInt32
  else if unit 'A' ≤ char ∧ char ≤ unit 'F' then (char - unit 'A').toUInt32.toInt32 + 10
  else if unit 'a' ≤ char ∧ char ≤ unit 'f' then (char - unit 'a').toUInt32.toInt32 + 10
  else -1

/-! ## The code -/

/-- `HEX_ARRAY` -/
def hexArray : List Int8 :=
  (ascii "0123456789ABCDEF").map UInt8.toInt8

/-- The loop of `bytesToHex` from index `j` on, with the number of indices that are left. -/
def bytesToHexLoop (bytes : List Int8) :
    Nat → Nat → List Int8 → Except TextException (List Int8)
  | 0, _, hexChars => .ok hexChars
  | left + 1, j, hexChars => do
      let v := (← load .arrayIndexOutOfBounds bytes j).toInt32.toUInt32 &&& 0xFF
      let high ← load .arrayIndexOutOfBounds hexArray (v >>> 4).toNat
      let hexChars ← store .arrayIndexOutOfBounds hexChars (j * 2) high
      let low ← load .arrayIndexOutOfBounds hexArray (v &&& 0x0F).toNat
      let hexChars ← store .arrayIndexOutOfBounds hexChars (j * 2 + 1) low
      bytesToHexLoop bytes left (j + 1) hexChars

/-- `bytesToHex` -/
def bytesToHex (library : TextLibrary) (array : JavaBytes) : Except TextException JavaString := do
  let hexChars ← newBytes (Int32.ofNat array.bytes.length * 2)
  let hexChars ← bytesToHexLoop array.bytes array.bytes.length 0 hexChars
  return newString library hexChars

/-- The loop of `hexStringToByteArray` from index `i` on, with a bound on the number of
turns. -/
def hexStringLoop (library : TextLibrary) (s : JavaString) :
    Nat → Nat → List Int8 → Except TextException (List Int8)
  | 0, _, data => .ok data
  | turns + 1, i, data =>
      if i < s.length then do
        let high := characterDigit library (← load .stringIndexOutOfBounds s i)
        let low := characterDigit library (← load .stringIndexOutOfBounds s (i + 1))
        let data ← store .arrayIndexOutOfBounds data (i / 2) ((high <<< 4) + low).toInt8
        hexStringLoop library s turns (i + 2) data
      else .ok data

/-- `hexStringToByteArray`, whose index takes every second value below the length. -/
def hexStringToByteArray (library : TextLibrary) (s : JavaString) :
    Except TextException (List Int8) := do
  let data ← newBytes (Int32.ofNat s.length / 2)
  hexStringLoop library s s.length 0 data

/-! ## The encoder -/

/-- The two table entries of a byte, whatever its sign, are its digits. -/
theorem hexArray_getElem? (byte : Int8) :
    hexArray[((byte.toInt32.toUInt32 &&& 0xFF) >>> 4).toNat]? =
        some (upperDigit (byte.toUInt8.toNat / 16)).toInt8 ∧
      hexArray[((byte.toInt32.toUInt32 &&& 0xFF) &&& 0x0F).toNat]? =
        some (upperDigit (byte.toUInt8.toNat % 16)).toInt8 := by
  have all : ∀ value : Fin 256,
      hexArray[(((UInt8.ofFin value).toInt8.toInt32.toUInt32 &&& 0xFF) >>> 4).toNat]? =
          some (upperDigit ((UInt8.ofFin value).toNat / 16)).toInt8 ∧
        hexArray[(((UInt8.ofFin value).toInt8.toInt32.toUInt32 &&& 0xFF) &&& 0x0F).toNat]? =
          some (upperDigit ((UInt8.ofFin value).toNat % 16)).toInt8 := by
    decide +kernel
  exact all byte.toUInt8.toFin

/-- One turn of the loop, at the byte that it looks at. -/
theorem bytesToHexLoop_succ {bytes hexChars back : List Int8} {byte first second : Int8}
    {left j : Nat} (found : bytes[j]? = some byte) (length_eq : hexChars.length = j * 2) :
    bytesToHexLoop bytes (left + 1) j (hexChars ++ first :: second :: back) =
      bytesToHexLoop bytes left (j + 1)
        (hexChars ++ (hexPair byte.toUInt8).map UInt8.toInt8 ++ back) := by
  rcases hexArray_getElem? byte with ⟨high, low⟩
  have behind (digit : Int8) : (hexChars ++ [digit]).length = j * 2 + 1 := by
    rw [List.length_append, length_eq, List.length_singleton]
  have written (digit : Int8) :
      store TextException.arrayIndexOutOfBounds (hexChars ++ first :: second :: back) (j * 2)
        digit = .ok ((hexChars ++ [digit]) ++ second :: back) := by
    rw [store_append_cons length_eq, List.append_assoc, List.singleton_append]
  simp only [bytesToHexLoop, bind, Except.bind, load_of_getElem? found, load_of_getElem? high,
    load_of_getElem? low, written, store_append_cons (behind _)]
  simp [hexPair]

/-- The loop over the bytes that are left fills the rest of the array with their text. -/
theorem bytesToHexLoop_eq {done rest hexChars : List Int8}
    (length_eq : hexChars.length = done.length * 2) :
    bytesToHexLoop (done ++ rest) rest.length done.length
        (hexChars ++ List.replicate (rest.length * 2) 0) =
      .ok (hexChars ++ (hexEncode (rest.map Int8.toUInt8)).map UInt8.toInt8) := by
  induction rest generalizing done hexChars with
  | nil => rfl
  | cons byte rest ih =>
      have found : (done ++ byte :: rest)[done.length]? = some byte := by simp
      have shifted : done ++ byte :: rest = (done ++ [byte]) ++ rest := by simp
      have longer : (hexChars ++ (hexPair byte.toUInt8).map UInt8.toInt8).length =
          (done ++ [byte]).length * 2 := by
        simp [length_eq]
        omega
      have later := ih longer
      rw [List.length_append, List.length_singleton] at later
      rw [List.length_cons, Nat.succ_mul, List.replicate_succ, List.replicate_succ,
        bytesToHexLoop_succ found length_eq, shifted, later, List.map_cons, hexEncode_cons,
        List.append_assoc]
      rfl

theorem newBytes_of_toInt {size : Int32} {count : Nat} (size_eq : size.toInt = count) :
    newBytes size = .ok (List.replicate count 0) := by
  have nonneg : ¬ size < 0 := by
    rw [Int32.lt_iff_toInt_lt, size_eq, Int32.toInt_zero]
    omega
  rw [newBytes, if_neg nonneg, size_eq, Int.toNat_natCast]

/-- The double of a length, as an `int` -/
theorem toInt_double {count : Nat} (lt : count < 2 ^ 31) :
    (Int32.ofNat count * 2).toInt =
      if count < 2 ^ 30 then (count : Int) * 2 else (count : Int) * 2 - 2 ^ 32 := by
  have two : (2 : Int32).toInt = 2 := rfl
  rw [Int32.toInt_mul, Int32.toInt_ofNat_of_lt lt, two, Int.bmod_def]
  split <;> split <;> omega

/-- The characters of a text are ASCII. -/
theorem nonneg_of_mem_hexEncode {bytes : List UInt8} {char : UInt8}
    (member : char ∈ hexEncode bytes) : 0 ≤ char.toInt8 := by
  rcases exists_of_mem_hexEncode member with ⟨value, lt, rfl⟩
  have all : ∀ value : Fin 16, 0 ≤ (upperDigit value).toInt8 := by
    decide
  exact all ⟨value, lt⟩

theorem newString_hexEncode (library : TextLibrary) (bytes : List UInt8) :
    newString library ((hexEncode bytes).map UInt8.toInt8) =
      (hexEncode bytes).map UInt8.toUInt16 := by
  have nonneg : ((hexEncode bytes).map UInt8.toInt8).all (fun byte => decide (0 ≤ byte)) =
      true := by
    apply List.all_eq_true.mpr
    intro byte member
    rcases List.mem_map.mp member with ⟨char, inText, rfl⟩
    exact decide_eq_true (nonneg_of_mem_hexEncode inText)
  rw [newString, if_pos nonneg, List.map_map]
  rfl

section Encoder

variable {library : TextLibrary} {array : JavaBytes}

theorem bytesToHex_of_lt (fits : array.bytes.length < 2 ^ 30) :
    bytesToHex library array =
      .ok ((hexEncode (array.bytes.map Int8.toUInt8)).map UInt8.toUInt16) := by
  have size_eq : (Int32.ofNat array.bytes.length * 2).toInt = (array.bytes.length * 2 : Nat) := by
    rw [toInt_double array.bound, if_pos fits, Int.natCast_mul]
    rfl
  have loop : bytesToHexLoop array.bytes array.bytes.length 0
      (List.replicate (array.bytes.length * 2) 0) =
        .ok ((hexEncode (array.bytes.map Int8.toUInt8)).map UInt8.toInt8) := by
    have none : ([] : List Int8).length = ([] : List Int8).length * 2 := rfl
    exact bytesToHexLoop_eq none
  simp only [bytesToHex, newBytes_of_toInt size_eq, bind, Except.bind, loop, newString_hexEncode]
  rfl

/-- From 2^30 bytes on there is no array for the text. -/
theorem bytesToHex_of_le (long : 2 ^ 30 ≤ array.bytes.length) :
    bytesToHex library array = .error .negativeArraySize := by
  have negative : Int32.ofNat array.bytes.length * 2 < 0 := by
    have bound := array.bound
    rw [Int32.lt_iff_toInt_lt, toInt_double bound, if_neg (by omega), Int32.toInt_zero]
    omega
  rw [bytesToHex, newBytes, if_pos negative]
  rfl

end Encoder

/-! ## The decoder -/

section Decoder

variable {library : TextLibrary}

/-- Within ASCII the digits do not depend on the library. -/
theorem characterDigit_congr {char : UInt16} (inAscii : ¬ char ≥ 0x80) (other : TextLibrary) :
    characterDigit library char = characterDigit other char := by
  rw [characterDigit, characterDigit, if_neg inAscii, if_neg inAscii]

theorem characterDigit_of_hexValue? {char : UInt8} {value : Nat}
    (found : hexValue? char = some value) :
    characterDigit library char.toUInt16 = Int32.ofNat value := by
  have all : ∀ char : Fin 256, (hexValue? (UInt8.ofFin char)).all (fun value =>
      ¬ (UInt8.ofFin char).toUInt16 ≥ 0x80 ∧
        characterDigit ⟨fun _ => [], fun _ => 0⟩ (UInt8.ofFin char).toUInt16 =
          Int32.ofNat value) = true := by
    decide +kernel
  have here : (hexValue? char).all _ = true := all char.toFin
  rw [found, Option.all_some, decide_eq_true_iff] at here
  exact (characterDigit_congr here.1 _).trans here.2

/-- The sum of the two digits is the byte. -/
theorem characterDigit_add {high low byte : UInt8} (decoded : hexByte? high low = some byte) :
    ((characterDigit library high.toUInt16 <<< 4) +
      characterDigit library low.toUInt16).toInt8 = byte.toInt8 := by
  have all : ∀ high low : Fin 16,
      ((Int32.ofNat high <<< 4) + Int32.ofNat low).toInt8 =
        (UInt8.ofNat (16 * high + low)).toInt8 := by
    decide +kernel
  simp only [hexByte?, Option.bind_eq_bind, Option.bind_eq_some_iff] at decoded
  rcases decoded with ⟨highValue, highFound, lowValue, lowFound, byte_eq⟩
  rw [characterDigit_of_hexValue? highFound, characterDigit_of_hexValue? lowFound,
    ← Option.some.inj byte_eq]
  exact all ⟨highValue, hexValue?_lt highFound⟩ ⟨lowValue, hexValue?_lt lowFound⟩

/-- One turn of the loop, at the two characters that it looks at. -/
theorem hexStringLoop_succ {s : JavaString} {high low byte : UInt8} {turns i : Nat}
    {data back : List Int8} {old : Int8} (foundHigh : s[i]? = some high.toUInt16)
    (foundLow : s[i + 1]? = some low.toUInt16) (decoded : hexByte? high low = some byte)
    (length_eq : data.length * 2 = i) :
    hexStringLoop library s (turns + 1) i (data ++ old :: back) =
      hexStringLoop library s turns (i + 2) (data ++ [byte.toInt8] ++ back) := by
  have inside : i < s.length := (List.getElem?_eq_some_iff.mp foundHigh).1
  have half : data.length = i / 2 := by omega
  simp only [hexStringLoop, if_pos inside, bind, Except.bind, load_of_getElem? foundHigh,
    load_of_getElem? foundLow, store_append_cons half, characterDigit_add decoded,
    List.append_assoc, List.singleton_append]

/-- The loop over digits in pairs decodes them. -/
theorem hexStringLoop_of_decode {front text bytes : List UInt8} {data : List Int8} {turns : Nat}
    (decoded : hexDecode? text = some bytes) (length_eq : data.length * 2 = front.length)
    (enough : bytes.length ≤ turns) :
    hexStringLoop library ((front ++ text).map UInt8.toUInt16) turns front.length
        (data ++ List.replicate bytes.length 0) = .ok (data ++ bytes.map UInt8.toInt8) := by
  induction text using hexDecode?.induct generalizing front bytes data turns with
  | case1 =>
      cases decoded
      cases turns with
      | zero => rfl
      | succ turns =>
          rw [hexStringLoop, if_neg (by simp)]
          rfl
  | case2 digit => cases decoded
  | case3 high low rest ih =>
      rcases hexDecode?_cons_cons_eq_some_iff.mp decoded with ⟨byte, tail, first, ended, rfl⟩
      obtain ⟨turns, rfl⟩ : ∃ fewer, turns = fewer + 1 :=
        Nat.exists_eq_add_one.mpr (Nat.lt_of_lt_of_le (Nat.succ_pos _) enough)
      have foundHigh : ((front ++ high :: low :: rest).map UInt8.toUInt16)[front.length]? =
          some high.toUInt16 := by
        simp
      have foundLow : ((front ++ high :: low :: rest).map UInt8.toUInt16)[front.length + 1]? =
          some low.toUInt16 := by
        simp
      have shifted : front ++ high :: low :: rest = (front ++ [high, low]) ++ rest := by simp
      have front_length : (front ++ [high, low]).length = front.length + 2 := List.length_append
      have longer : (data ++ [byte.toInt8]).length * 2 = (front ++ [high, low]).length := by
        rw [front_length, List.length_append, List.length_singleton]
        omega
      have later := ih ended longer (Nat.le_of_succ_le_succ enough)
      rw [← shifted, front_length] at later
      rw [List.length_cons, List.replicate_succ,
        hexStringLoop_succ foundHigh foundLow first length_eq, later, List.append_assoc]
      rfl

theorem hexStringToByteArray_of_decode {text bytes : List UInt8}
    (decoded : hexDecode? text = some bytes) (bound : text.length < 2 ^ 31) :
    hexStringToByteArray library (text.map UInt8.toUInt16) = .ok (bytes.map UInt8.toInt8) := by
  have length_eq := length_of_hexDecode? decoded
  have size_eq : (Int32.ofNat text.length / 2).toInt = bytes.length := by
    have half : text.length / 2 = bytes.length := by omega
    have two : (2 : Int32) = Int32.ofNat 2 := rfl
    rw [two, ← Int32.ofNat_div bound (by omega), half, Int32.toInt_ofNat_of_lt (by omega)]
  have loop : hexStringLoop library (text.map UInt8.toUInt16) text.length 0
      (List.replicate bytes.length 0) = .ok (bytes.map UInt8.toInt8) := by
    have none : ([] : List Int8).length * 2 = ([] : List UInt8).length := rfl
    exact hexStringLoop_of_decode decoded none (by omega)
  simp only [hexStringToByteArray, List.length_map, newBytes_of_toInt size_eq, bind, Except.bind,
    loop]

end Decoder

/-! ## Round trips -/

/-- Both decoders read back what `bytesToHex` makes of an array. -/
def HexRoundTrip (library : TextLibrary) (array : JavaBytes) : Prop :=
  ∃ text : List UInt8, bytesToHex library array = .ok (text.map UInt8.toUInt16) ∧
    (hexToByteArray text text.length).1.toNat = array.bytes.length ∧
    (hexToByteArray text text.length).2 = array.bytes.map Int8.toUInt8 ∧
    hexStringToByteArray library (text.map UInt8.toUInt16) = .ok array.bytes

section RoundTrip

variable {library : TextLibrary} {array : JavaBytes}

theorem hexRoundTrip_of_lt (fits : array.bytes.length < 2 ^ 30) : HexRoundTrip library array := by
  have decoded := hexDecode?_hexEncode (array.bytes.map Int8.toUInt8)
  have short : (hexEncode (array.bytes.map Int8.toUInt8)).length < 2 ^ 31 := by
    rw [hexEncode_length, List.length_map]
    omega
  have same : (array.bytes.map Int8.toUInt8).map UInt8.toInt8 = array.bytes := by
    simp [List.map_map, Function.comp_def]
  have firmware := hexToByteArray_of_decode decoded
  have control : hexStringToByteArray library
      ((hexEncode (array.bytes.map Int8.toUInt8)).map UInt8.toUInt16) = .ok _ :=
    hexStringToByteArray_of_decode decoded short
  rw [List.length_map] at firmware
  rw [same] at control
  have count : (UInt32.ofNat array.bytes.length).toNat = array.bytes.length :=
    UInt32.toNat_ofNat_of_lt' (Nat.lt_trans array.bound (by decide))
  exact ⟨_, bytesToHex_of_lt fits, by rw [firmware, count], by rw [firmware], control⟩

theorem not_hexRoundTrip_of_le (long : 2 ^ 30 ≤ array.bytes.length) :
    ¬ HexRoundTrip library array := by
  rintro ⟨text, encoded, _⟩
  rw [bytesToHex_of_le long] at encoded
  cases encoded

end RoundTrip

/-- What `bytesToHex` makes of an array can be read back exactly if the array is shorter
than 2^30 bytes, and the firmware decodes texts of even length if they are digits. -/
theorem hexRoundTrip_iff_and_decode (library : TextLibrary) :
    (∀ array, HexRoundTrip library array ↔ array.bytes.length < 2 ^ 30) ∧
      ∀ text : List UInt8, text.length < 2 ^ 32 → text.length % 2 = 0 →
        ((∀ char ∈ text, IsHexDigit char) →
          ∃ bytes, hexDecode? text = some bytes ∧
            (hexToByteArray text text.length).1.toNat = text.length / 2 ∧
            (hexToByteArray text text.length).2 = bytes) ∧
        ((∃ char ∈ text, ¬ IsHexDigit char) → (hexToByteArray text text.length).1 = -1) := by
  constructor
  · intro array
    constructor
    · exact fun trip => Nat.lt_of_not_le fun long => not_hexRoundTrip_of_le long trip
    · exact hexRoundTrip_of_lt
  · intro text bound even
    constructor
    · intro digits
      obtain ⟨bytes, decoded⟩ := Option.isSome_iff_exists.mp
        (hexDecode?_isSome_iff.mpr ⟨even, digits⟩)
      have length_eq := length_of_hexDecode? decoded
      have half : text.length / 2 = bytes.length := by omega
      have fits : bytes.length < UInt32.size := Nat.lt_of_le_of_lt (by omega) bound
      rw [hexToByteArray_of_decode decoded, half]
      exact ⟨bytes, decoded, UInt32.toNat_ofNat_of_lt' fits, rfl⟩
    · rintro ⟨char, member, notDigit⟩
      apply hexToByteArray_of_decode_none even
      apply Option.not_isSome_iff_eq_none.mp
      intro decoded
      exact notDigit ((hexDecode?_isSome_iff.mp decoded).2 char member)

/-- A library without anything beyond ASCII. -/
def asciiLibrary : TextLibrary where
  decode _ := []
  digit _ := -1

/-- Bytes of both signs come back, and so do digits of both cases. -/
theorem hexRoundTrip_iff_and_decode_ascii :
    HexRoundTrip asciiLibrary ⟨[-128, -1, 0, 10, 127], by decide⟩ ∧
      (hexToByteArray (ascii "0aFf") 4).1.toNat = 2 ∧
      (hexToByteArray (ascii "0aFx") 4).1 = -1 := by
  rcases hexRoundTrip_iff_and_decode asciiLibrary with ⟨trip, decode⟩
  obtain ⟨_, _, count, _⟩ :=
    (decode (ascii "0aFf") (by decide) (by decide)).1 (by decide +kernel)
  have refused := (decode (ascii "0aFx") (by decide) (by decide)).2 (by decide +kernel)
  exact ⟨(trip _).mpr (by decide), count, refused⟩

/-- An array of 2^30 bytes, whose text would need an array of 2^31 -/
theorem not_hexRoundTrip_gibibyte :
    let array : JavaBytes := ⟨List.replicate (2 ^ 30) 0, by rw [List.length_replicate]; decide⟩
    bytesToHex asciiLibrary array = .error .negativeArraySize ∧
      ¬ HexRoundTrip asciiLibrary array := by
  intro array
  have long : 2 ^ 30 ≤ array.bytes.length := Nat.le_of_eq List.length_replicate.symm
  exact ⟨bytesToHex_of_le long, not_hexRoundTrip_of_le long⟩

end WifiSniffer.Ctrl
