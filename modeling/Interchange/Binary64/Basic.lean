/-! # Finite binary64 numbers

A number is its 64 bits, with the infinities and the NaNs left out. `parts` reads the bits as a
sign, a whole mantissa and a power of two; `nearest` is the number closest to a ratio, a tie going
to the even mantissa. Everything is exact arithmetic on natural numbers.
-/

namespace Interchange

/-- A binary64 number other than an infinity or a NaN. -/
structure Binary64 where
  bits : UInt64
  finite : (bits >>> 52) &&& 0x7ff ≠ 0x7ff

namespace Binary64

theorem ext_bits {x y : Binary64} (h : x.bits = y.bits) : x = y := by
  cases x; cases y; cases h; rfl

instance : DecidableEq Binary64 := fun x y =>
  if h : x.bits = y.bits then isTrue (ext_bits h) else isFalse fun e => h (e ▸ rfl)

/-- The number with these bits, unless they are those of an infinity or a NaN. -/
def ofBits? (b : UInt64) : Option Binary64 :=
  if h : (b >>> 52) &&& 0x7ff ≠ 0x7ff then some ⟨b, h⟩ else none

def zero : Binary64 := ⟨0, by decide⟩

instance : Inhabited Binary64 := ⟨zero⟩

def negative (x : Binary64) : Bool := x.bits >>> 63 == 1

def exponentField (x : Binary64) : Nat := ((x.bits >>> 52) &&& 0x7ff).toNat

def fractionField (x : Binary64) : Nat := (x.bits &&& 0xfffffffffffff).toNat

/-- The whole mantissa `m` of the magnitude `m * 2 ^ exponent`. -/
def mantissa (x : Binary64) : Nat :=
  if x.exponentField = 0 then x.fractionField else Nat.pow 2 52 + x.fractionField

/-- The power of two that goes with `mantissa`. -/
def exponent (x : Binary64) : Int := (max x.exponentField 1 : Nat) - 1075

/-- The numerator of the magnitude as a ratio of natural numbers. -/
def num (x : Binary64) : Nat := x.mantissa * Nat.pow 2 x.exponent.toNat

/-- The denominator of the magnitude as a ratio of natural numbers, a power of two. -/
def den (x : Binary64) : Nat := Nat.pow 2 (-x.exponent).toNat

def isZero (x : Binary64) : Bool := x.mantissa == 0

/-- A quotient rounded to the nearest whole number, a tie going to the even one. -/
def roundDiv (num den : Nat) : Nat :=
  let q := num / den
  let r := num % den
  if 2 * r < den then q else if den < 2 * r then q + 1 else if q % 2 = 0 then q else q + 1

/-- The power of two whose multiples are the binary64 numbers around a positive ratio. -/
def unitExponent (num den : Nat) : Int :=
  let k : Int := (num.log2 : Int) - den.log2
  let below : Bool :=
    if 0 ≤ k then num < den * Nat.pow 2 k.toNat else num * Nat.pow 2 (-k).toNat < den
  max (if below then k - 53 else k - 52) (-1074)

/-- The number nearest to a ratio, or `none` when that overflows. -/
def nearest (negative : Bool) (num den : Nat) : Option Binary64 :=
  let sign : UInt64 := if negative then 0x8000000000000000 else 0
  if num = 0 then ofBits? sign
  else
    let q := unitExponent num den
    let m := if 0 ≤ q then roundDiv num (den * Nat.pow 2 q.toNat)
      else roundDiv (num * Nat.pow 2 (-q).toNat) den
    let magnitude := (q + 1074).toNat * Nat.pow 2 52 + m
    if magnitude < 0x7ff0000000000000 then ofBits? (sign ||| magnitude.toUInt64) else none

/-- The number nearest to `± digits * 10 ^ power`, or `none` when that overflows. -/
def ofDecimal (negative : Bool) (digits : Nat) (power : Int) : Option Binary64 :=
  if digits = 0 then nearest negative 0 1
  else if 310 < power then none
  else if power + (digits.log2 + 1 : Nat) < -1100 then nearest negative 0 1
  else if 0 ≤ power then nearest negative (digits * Nat.pow 10 power.toNat) 1
  else nearest negative digits (Nat.pow 10 (-power).toNat)

def mulMagnitude (x y : Binary64) : Option Binary64 := nearest false (x.num * y.num) (x.den * y.den)

/-- The rounded quotient of two magnitudes. -/
def divMagnitude (x y : Binary64) : Option Binary64 := nearest false (x.num * y.den) (x.den * y.num)

/-- The number with its sign bit set or cleared. -/
def withSign (negative : Bool) (x : Binary64) : Binary64 :=
  (nearest negative x.num x.den).getD x

end Binary64
end Interchange
