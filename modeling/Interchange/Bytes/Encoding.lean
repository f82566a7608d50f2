import Interchange.Json.Reader
import Interchange.Json.Printer

/-! # Bytes as text

Two hexadecimal digits for each byte, or base 64: text of 64 characters, with padding. Reading
base 64 is strict: the padding has to be there and the bits that it leaves over have to be zero, so
each list of bytes has one written form.
-/

namespace Interchange

/-! ## Hexadecimal digits -/

namespace Bytes

open Json

def hexPair (b : UInt8) : List Char := [hexDigit (b.toNat / 16), hexDigit (b.toNat % 16)]

/-- Two lower-case digits for each byte. -/
def toHex (bs : List UInt8) : List Char := bs.flatMap hexPair

/-- The bytes that pairs of digits of either case write. -/
def ofHex? : List Char → Option (List UInt8)
  | [] => some []
  | [_] => none
  | a :: b :: cs => do
    let x ← hexValue? a
    let y ← hexValue? b
    let rest ← ofHex? cs
    pure (UInt8.ofNat (16 * x + y) :: rest)

def pack (bs : List UInt8) : ByteArray := ⟨bs.toArray⟩

/-- The bytes of a block, one after another. -/
def unpack (b : ByteArray) : List UInt8 := b.data.toList

def ofText (s : String) : List UInt8 := unpack s.toUTF8

def toText? (bs : List UInt8) : Option String := String.fromUTF8? (pack bs)

end Bytes

/-! ## Base 64 -/

namespace Base64

/-- The two characters that differ between alphabets. -/
structure Alphabet where
  plus : Char
  slash : Char

def standard : Alphabet := ⟨'+', '/'⟩

def urlSafe : Alphabet := ⟨'-', '_'⟩

def digit (a : Alphabet) (n : Nat) : Char :=
  if n < 26 then Char.ofNat (65 + n)
  else if n < 52 then Char.ofNat (71 + n)
  else if n < 62 then Char.ofNat (n - 4)
  else if n = 62 then a.plus else a.slash

def value? (a : Alphabet) (c : Char) : Option Nat :=
  if 'A' ≤ c ∧ c ≤ 'Z' then some (c.toNat - 65)
  else if 'a' ≤ c ∧ c ≤ 'z' then some (c.toNat - 71)
  else if '0' ≤ c ∧ c ≤ '9' then some (c.toNat + 4)
  else if c = a.plus then some 62
  else if c = a.slash then some 63
  else none

/-- The text of bytes; `pad` fills it up to groups of four characters. -/
def encodeWith (a : Alphabet) (pad : List Char) : List UInt8 → List Char
  | [] => []
  | [x] =>
    let n := x.toNat * 16
    digit a (n / 64) :: digit a (n % 64) :: (pad ++ pad)
  | [x, y] =>
    let n := (x.toNat * 256 + y.toNat) * 4
    digit a (n / 4096) :: digit a (n / 64 % 64) :: digit a (n % 64) :: pad
  | x :: y :: z :: rest =>
    let n := (x.toNat * 256 + y.toNat) * 256 + z.toNat
    digit a (n / 262144) :: digit a (n / 4096 % 64) :: digit a (n / 64 % 64) :: digit a (n % 64)
      :: encodeWith a pad rest

/-- The text of bytes in the usual alphabet, with padding. -/
def encode (bs : List UInt8) : List Char := encodeWith standard ['='] bs

/-- The text of bytes in the alphabet for addresses, without padding. -/
def encodeUrlSafe (bs : List UInt8) : List Char := encodeWith urlSafe [] bs

/-- The bytes of a last group of four characters. -/
def decodeLast? (a b c d : Char) : Option (List UInt8) := do
  let w ← value? standard a
  let x ← value? standard b
  if c = '=' then
    if d = '=' ∧ x % 16 = 0 then some [UInt8.ofNat (w * 4 + x / 16)] else none
  else
    let y ← value? standard c
    if d = '=' then
      if y % 4 = 0 then
        some [UInt8.ofNat (w * 4 + x / 16), UInt8.ofNat (x % 16 * 16 + y / 4)]
      else none
    else
      let z ← value? standard d
      some [UInt8.ofNat (w * 4 + x / 16), UInt8.ofNat (x % 16 * 16 + y / 4),
        UInt8.ofNat (y % 4 * 64 + z)]

/-- The bytes that a text in the usual alphabet writes. -/
def decode? : List Char → Option (List UInt8)
  | [] => some []
  | a :: b :: c :: d :: rest => do
    let bs ← decodeLast? a b c d
    if rest = [] then some bs
    else if bs.length = 3 then
      let more ← decode? rest
      some (bs ++ more)
    else none
  | _ => none

end Base64
end Interchange
