import Interchange.Binary64.Basic

/-! # The shortest decimal that reads back

Of the decimals with the fewest digits that round to a given number, `shortest` takes the one
nearest to it. On the grid of decimals with a fixed last place only the two neighbours of the
number can round to it, so these are all that is tried; seventeen digits always suffice.
-/

namespace Interchange
namespace Binary64

/-- A decimal `digits * 10 ^ power` with no trailing zero in `digits`. -/
structure Decimal where
  digits : Nat
  power : Int
deriving DecidableEq, Repr

/-- The greatest power of ten not above a positive ratio, as its exponent. -/
def decimalExponent (num den : Nat) : Int :=
  let rough : Int := (((num.log2 : Int) - den.log2) * 30103) / 100000 - 1
  let atLeast (k : Int) : Bool :=
    if 0 ≤ k then den * Nat.pow 10 k.toNat ≤ num else den ≤ num * Nat.pow 10 (-k).toNat
  if atLeast (rough + 2) then rough + 2 else if atLeast (rough + 1) then rough + 1
  else if atLeast rough then rough else rough - 1

/-- The decimals next to a ratio, below and above, among the multiples of `10 ^ power`; the nearer
one first, of two equally near ones the even one. -/
def neighbours (num den : Nat) (power : Int) : Nat × Nat :=
  let (n, d) := if 0 ≤ power then (num, den * Nat.pow 10 power.toNat)
    else (num * Nat.pow 10 (-power).toNat, den)
  let low := n / d
  let near := roundDiv n d
  if near = low then (low, low + 1) else (low + 1, low)

def Decimal.trim (fuel : Nat) (d : Decimal) : Decimal :=
  match fuel with
  | 0 => d
  | fuel + 1 =>
    if d.digits ≠ 0 ∧ d.digits % 10 = 0 then Decimal.trim fuel ⟨d.digits / 10, d.power + 1⟩ else d

/-- The first grid, from `places` digits on, on which some decimal rounds to the magnitude of
`x`. -/
def shortestFrom (x : Binary64) (lead : Int) : (tries places : Nat) → Decimal
  | 0, places => ⟨(neighbours x.num x.den (lead - places + 1)).1, lead - places + 1⟩
  | tries + 1, places =>
    let power := lead - places + 1
    let (a, b) := neighbours x.num x.den power
    let back (n : Nat) : Bool := match ofDecimal x.negative n power with
      | some y => y.bits == x.bits
      | none => false
    if back a then ⟨a, power⟩
    else if back b then ⟨b, power⟩
    else shortestFrom x lead tries (places + 1)

def shortest (x : Binary64) : Decimal :=
  if x.isZero then ⟨0, 0⟩
  else (shortestFrom x (decimalExponent x.num x.den) 17 1).trim 20

end Binary64
end Interchange
