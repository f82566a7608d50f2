/-! # ASCII letters and digits

Classes and case folding that look at ASCII letters only, whatever else a text holds.
-/

namespace Interchange
namespace Text

def isDigit (c : Char) : Bool := '0' ≤ c && c ≤ '9'

def isLetter (c : Char) : Bool := ('a' ≤ c && c ≤ 'z') || ('A' ≤ c && c ≤ 'Z')

def isAlphanumeric (c : Char) : Bool := isDigit c || isLetter c

/-- `A` to `Z` as `a` to `z`; every other character as it is. -/
def foldCase (c : Char) : Char :=
  if 'A' ≤ c ∧ c ≤ 'Z' then Char.ofNat (c.toNat + 32) else c

/-- Whether two texts differ at most in the case of ASCII letters. -/
def sameIgnoringCase (s t : String) : Bool := s.toList.map foldCase == t.toList.map foldCase

/-- The number that a run of decimal digits writes. -/
def digitsValue (cs : List Char) : Nat := cs.foldl (fun n c => 10 * n + (c.toNat - '0'.toNat)) 0

/-- The digits of a number in base ten, most significant first. -/
def digitsOf (n : Nat) : List Char := Nat.toDigits 10 n

/-- A number in base ten with at least `width` digits. -/
def padded (width n : Nat) : String :=
  let ds := digitsOf n
  String.ofList (List.replicate (width - ds.length) '0' ++ ds)

end Text
end Interchange
