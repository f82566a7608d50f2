import Interchange.Json.Basic
import Interchange.Text.Ascii

/-! # Reading numbers

Two readers share a grammar of signs, digits, a point and an exponent. A JSON literal keeps the
digits that fit 64 bits and scales them by one power of ten, so its float is the rounded product of
two rounded factors. Free text, as the `number` transformation meets it, is rounded once from the
exact decimal.
-/

namespace Interchange
namespace Json

open Text

/-- The parts of a decimal literal; a missing part is the empty list. -/
structure Literal where
  negative : Bool
  whole : List Char
  fraction : Option (List Char)
  exponent : Option (Bool × List Char)
deriving DecidableEq, Repr

def spanDigits (cs : List Char) : List Char × List Char :=
  (cs.takeWhile isDigit, cs.dropWhile isDigit)

/-- Reads an exponent mark, an optional sign and a run of digits that ends the text. -/
def readExponent : List Char → Option (Option (Bool × List Char))
  | [] => some none
  | e :: cs =>
    if e = 'e' ∨ e = 'E' then
      let (neg, ds) := match cs with
        | '-' :: ds => (true, ds)
        | '+' :: ds => (false, ds)
        | ds => (false, ds)
      if ds ≠ [] ∧ ds.all isDigit then some (some (neg, ds)) else none
    else none

/-- Reads digits, an optional point with digits and an optional exponent, up to the end. -/
def readUnsigned (negative : Bool) (cs : List Char) : Option Literal :=
  let (whole, rest) := spanDigits cs
  match rest with
  | '.' :: rest =>
    let (fraction, rest) := spanDigits rest
    (readExponent rest).map fun e => ⟨negative, whole, some fraction, e⟩
  | rest => (readExponent rest).map fun e => ⟨negative, whole, none, e⟩

def Literal.exponentValue (l : Literal) : Int :=
  match l.exponent with
  | none => 0
  | some (true, ds) => -(digitsValue ds : Int)
  | some (false, ds) => digitsValue ds

/-- Takes decimal digits into a significand as long as it fits 64 bits; returns it with the digits
that did not fit. -/
def takeDigits (significand : Nat) : List Char → Nat × List Char
  | [] => (significand, [])
  | c :: cs =>
    let next := 10 * significand + (c.toNat - '0'.toNat)
    if next < Nat.pow 2 64 then takeDigits next cs else (significand, c :: cs)

def powerOfTen (n : Nat) : Option Binary64 :=
  if n ≤ 308 then Binary64.nearest false (Nat.pow 10 n) 1 else none

/-- Multiplies or divides a float by a power of ten, in steps of at most `10 ^ 308`; `none` on
overflow. -/
def scale (x : Binary64) (power : Int) : Option Binary64 :=
  if x.isZero then some x
  else match powerOfTen power.natAbs with
    | some p => if 0 ≤ power then x.mulMagnitude p else x.divMagnitude p
    | none =>
      if h : power < -308 then
        (powerOfTen 308).bind fun p => (x.divMagnitude p).bind fun y => scale y (power + 308)
      else none
termination_by power.natAbs
decreasing_by omega

/-- The number of a JSON literal; `none` when it overflows. -/
def Literal.number? (l : Literal) : Option Number :=
  let (head, left) := takeDigits 0 l.whole
  if l.fraction = none ∧ l.exponent = none ∧ left = []
      ∧ ¬ (l.negative ∧ (head = 0 ∨ Nat.pow 2 63 < head)) then
    some (.int (if l.negative then -(head : Int) else head))
  else
    let (significand, rest) := takeDigits head (l.fraction.getD [])
    let taken := (l.fraction.getD []).length - rest.length
    let power : Int := left.length - taken + l.exponentValue
    (Binary64.nearest false significand 1).bind fun x =>
      (scale x power).map fun y => .float (y.withSign l.negative)

/-- The number that a JSON number literal writes: no superfluous zero, at least one digit in each
part that is there. -/
def readNumber? (cs : List Char) : Option Number :=
  let (negative, cs) := match cs with
    | '-' :: cs => (true, cs)
    | cs => (false, cs)
  (readUnsigned negative cs).bind fun l =>
    let plainWhole := match l.whole with
      | [] => false
      | '0' :: _ :: _ => false
      | _ => true
    if plainWhole ∧ l.fraction ≠ some [] then l.number? else none

/-- The whole number that an optional sign and digits write, if 64 bits with a sign hold it. -/
def readInt64? (cs : List Char) : Option Int :=
  let (negative, ds) := match cs with
    | '-' :: ds => (true, ds)
    | '+' :: ds => (false, ds)
    | ds => (false, ds)
  if ds ≠ [] ∧ ds.all isDigit then
    let n : Int := if negative then -(digitsValue ds : Int) else digitsValue ds
    if -Nat.pow 2 63 ≤ n ∧ n < Nat.pow 2 63 then some n else none
  else none

/-- The finite float that free text writes: a sign, digits with or without a point, an exponent.
The point may stand first or last, but not alone. -/
def readFloat? (cs : List Char) : Option Binary64 :=
  let (negative, ds) := match cs with
    | '-' :: ds => (true, ds)
    | '+' :: ds => (false, ds)
    | ds => (false, ds)
  (readUnsigned negative ds).bind fun l =>
    let fraction := l.fraction.getD []
    if l.whole = [] ∧ fraction = [] then none
    else Binary64.ofDecimal negative (digitsValue (l.whole ++ fraction))
      (l.exponentValue - fraction.length)

end Json
end Interchange
