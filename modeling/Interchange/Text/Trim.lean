/-! # Trimming and cutting texts

White space is what has the property `White_Space`.
-/

namespace Interchange
namespace Text

/-- Whether a character has the property `White_Space`. -/
def isBlank (c : Char) : Bool :=
  let n := c.toNat
  (9 ≤ n && n ≤ 13) || n == 0x20 || n == 0x85 || n == 0xa0 || n == 0x1680 ||
    (0x2000 ≤ n && n ≤ 0x200a) || n == 0x2028 || n == 0x2029 || n == 0x202f || n == 0x205f ||
    n == 0x3000

def trimStart (cs : List Char) : List Char := cs.dropWhile isBlank

def trimEnd (cs : List Char) : List Char := (cs.reverse.dropWhile isBlank).reverse

/-- The characters between the first and the last that are not blank. -/
def trimmed (cs : List Char) : List Char := trimEnd (trimStart cs)

/-- A text without the white space around it. -/
def trim (s : String) : String := String.ofList (trimmed s.toList)

/-- Whether a text holds nothing but white space. -/
def allBlank (s : String) : Bool := s.toList.all isBlank

/-! ## Cutting -/

def startsWith (s start : String) : Bool := start.toList.isPrefixOf s.toList

/-- A text without as many characters in front as another one has. -/
def dropStart (s start : String) : String := String.ofList (s.toList.drop start.length)

/-- What stands before the first `c` and what stands behind it. -/
def cutAt (c : Char) (cs : List Char) : Option (List Char × List Char) :=
  match cs.dropWhile (· ≠ c) with
  | [] => none
  | _ :: rest => some (cs.takeWhile (· ≠ c), rest)

end Text
end Interchange
