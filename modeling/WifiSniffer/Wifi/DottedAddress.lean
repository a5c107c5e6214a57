import WifiSniffer.Wifi.StaticIp

/-!
# Dotted addresses

`ipaddr_addr` of lwIP on four decimal numbers between dots, which is what `IPSTR` prints.
It also takes fewer numbers, octal and hexadecimal ones; none of these is printed.
-/

namespace WifiSniffer.Wifi

open WifiSniffer.Bytes WifiSniffer.Settings

/-- One of the four numbers of an address. -/
def byteOf? (digits : List UInt8) : Option UInt8 :=
  let value := digits.foldl (fun value digit => 10 * value + (digit.toNat - '0'.toNat)) 0
  let isDigit (digit : UInt8) : Bool := '0'.toNat ≤ digit.toNat && digit.toNat ≤ '9'.toNat
  if digits.isEmpty || !digits.all isDigit || 256 ≤ value then none else some value.toUInt8

/-- An address of four numbers, the first of them in its lowest byte. -/
def dottedAddr (text : CString) : UInt32 :=
  match (text.chars.splitOn '.'.toNat.toUInt8).map byteOf? with
  | [some first, some second, some third, some fourth] =>
      first.toUInt32 + second.toUInt32 <<< 8 + third.toUInt32 <<< 16 + fourth.toUInt32 <<< 24
  | _ => ipaddrNone

theorem byteOf?_decimal (byte : UInt8) :
    byteOf? (decimal byte) = some byte ∧ '.'.toNat.toUInt8 ∉ decimal byte := by
  have all : ∀ value : Fin 256, byteOf? (decimal (UInt8.ofFin value)) = some (UInt8.ofFin value) ∧
      '.'.toNat.toUInt8 ∉ decimal (UInt8.ofFin value) := by
    decide +kernel
  exact all byte.toFin

/-- An address is put together from its bytes. -/
theorem bytes_of_addr (addr : UInt32) :
    (addr >>> 0).toUInt8.toUInt32 + (addr >>> 8).toUInt8.toUInt32 <<< 8 +
        (addr >>> 16).toUInt8.toUInt32 <<< 16 + (addr >>> 24).toUInt8.toUInt32 <<< 24 =
      addr := by
  have bound : addr.toNat < 4294967296 := addr.toNat_lt
  rw [← UInt32.toNat_inj]
  simp only [UInt32.toNat_add, UInt32.toNat_shiftLeft, UInt32.toNat_shiftRight,
    UInt8.toNat_toUInt32, UInt32.toNat_toUInt8, Nat.shiftLeft_eq, Nat.shiftRight_eq_div_pow,
    UInt32.reduceToNat, Nat.reduceMod, Nat.reducePow]
  omega

/-- What `IPSTR` prints is understood again. -/
theorem parsesPrinted_dottedAddr (addr : UInt32) : ParsesPrinted dottedAddr addr := by
  intro _
  let part (shift : UInt32) := decimal (addr >>> shift).toUInt8
  let dot : UInt8 := '.'.toNat.toUInt8
  have nulFree (shift : UInt32) : 0 ∉ part shift := (decimal_bounds _).2
  have dotFree (shift : UInt32) : dot ∉ part shift := (byteOf?_decimal _).2
  let text : CString := ⟨part 0 ++ dot :: part 8 ++ dot :: part 16 ++ dot :: part 24, by
    simp [dot, nulFree]⟩
  have printed : ipString addr = text.chars ++ List.replicate (addressSz - text.length) 0 :=
    overwrite_replicate _ _ _
  have joined : text.chars = [dot].intercalate [part 0, part 8, part 16, part 24] := by
    simp [text, List.intercalate]
  have split : text.chars.splitOn dot = [part 0, part 8, part 16, part 24] := by
    rw [joined]
    apply List.splitOn_intercalate
    · simp [dotFree]
    · simp
  rw [printed, CString.ofArray_append_replicate, dottedAddr, split]
  simp only [List.map_cons, List.map_nil, part, (byteOf?_decimal _).1]
  exact bytes_of_addr addr

end WifiSniffer.Wifi
