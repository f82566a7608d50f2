import Interchange.Json.Printer

/-! # Comparing values

The size of a value, numbers compared by what they stand for, and equality of values up to that.
-/

namespace Interchange
namespace Json

mutual

/-- The number of values inside a value, itself included. -/
def Value.size : Value → Nat
  | .array items => 1 + sizeItems items
  | .object members => 1 + sizeMembers members
  | _ => 1

def sizeItems : List Value → Nat
  | [] => 0
  | v :: vs => v.size + sizeItems vs

def sizeMembers : List (String × Value) → Nat
  | [] => 0
  | (_, v) :: ms => v.size + sizeMembers ms

end

namespace Number

def ratio : Number → Int × Nat
  | .int n => (n, 1)
  | .float x => (if x.negative then -(x.num : Int) else x.num, x.den)

def order (a b : Number) : Ordering :=
  let (n, d) := a.ratio
  let (m, e) := b.ratio
  compare (n * e) (m * d)

def isWhole (a : Number) : Bool :=
  let (n, d) := a.ratio
  n % d == 0

def toBinary64 : Number → Binary64
  | .int n => (Binary64.nearest (n < 0) n.natAbs 1).getD .zero
  | .float x => x

/-- The text of the nearest binary64 number in positional notation, a whole one without a point. -/
def plainText (a : Number) : String :=
  let x := a.toBinary64
  let d := x.shortest
  let ds := Text.digitsOf d.digits
  let body :=
    if 0 ≤ d.power then ds ++ List.replicate d.power.toNat '0'
    else
      let places := (-d.power).toNat
      let ds := List.replicate (places + 1 - ds.length) '0' ++ ds
      ds.take (ds.length - places) ++ '.' :: ds.drop (ds.length - places)
  String.ofList (if x.negative then '-' :: body else body)

/-- Whether `a` is a multiple of `b`, as far as binary64 division shows it: for a whole `b` the
division must go up, otherwise the quotient may be off a whole number by less than `2 ^ -52`, and a
negative quotient is always taken for one. -/
def isMultipleOf (a b : Number) : Bool :=
  let x := a.toBinary64
  let y := b.toBinary64
  if (Number.float y).isWhole then
    (Number.float x).isWhole && x.num * y.den % (x.den * y.num) == 0
  else match x.divMagnitude y with
    | none => x.num * y.den % (x.den * y.num) == 0
    | some q =>
      let rest := q.num % q.den
      let negative := x.negative != y.negative
      negative || rest * Nat.pow 2 52 < q.den
        || q.den * (Nat.pow 2 52 - 1) < rest * Nat.pow 2 52

end Number

namespace Value

mutual

/-- Whether two values are equal when numbers are compared by what they stand for. -/
def equivalent : Value → Value → Bool
  | .number a, .number b => match a, b with
    | .int n, .int m => n == m
    | a, b => (Number.float a.toBinary64).order (.float b.toBinary64) == .eq
  | .array a, .array b => equivalentItems a b
  | .object a, .object b => equivalentMembers a b
  | a, b => decide (a = b)

def equivalentItems : List Value → List Value → Bool
  | [], [] => true
  | a :: as, b :: bs => equivalent a b && equivalentItems as bs
  | _, _ => false

def equivalentMembers : List (String × Value) → List (String × Value) → Bool
  | [], [] => true
  | (k, a) :: as, (l, b) :: bs => k == l && equivalent a b && equivalentMembers as bs
  | _, _ => false

end

def allDistinct : List Value → Bool
  | [] => true
  | v :: vs => !vs.any (equivalent v) && allDistinct vs

end Value
end Json
end Interchange
