import Interchange.Json.Basic
import Interchange.Binary64.Shortest
import Interchange.Text.Ascii

/-! # JSON text of a value

Compact text, and text indented by two spaces. A float has the fewest digits that read back; it is
written positionally, with a fraction, from `0.00001` up to 16 digits before the point, and in
scientific notation beyond, with a sign on positive exponents.
-/

namespace Interchange
namespace Json

open Text

/-- The largest decimal exponent that is written positionally. -/
def positionalMax : Int := 15

/-- The smallest decimal exponent that is written positionally. -/
def positionalMin : Int := -5

def layoutDecimal (digits : List Char) (power : Int) : List Char :=
  let lead : Int := power + digits.length - 1
  if positionalMin ≤ lead ∧ lead ≤ positionalMax then
    if 0 ≤ power then digits ++ List.replicate power.toNat '0' ++ ['.', '0']
    else if 0 ≤ lead then digits.take (lead.toNat + 1) ++ '.' :: digits.drop (lead.toNat + 1)
    else '0' :: '.' :: (List.replicate ((-lead).toNat - 1) '0' ++ digits)
  else
    let fraction := match digits with
      | d :: d' :: ds => d :: '.' :: d' :: ds
      | ds => ds
    let sign := if lead < 0 then ['-'] else ['+']
    fraction ++ 'e' :: sign ++ digitsOf lead.natAbs

def floatText (x : Binary64) : String :=
  let d := x.shortest
  let body := if d.digits = 0 then ['0', '.', '0'] else layoutDecimal (digitsOf d.digits) d.power
  String.ofList (if x.negative then '-' :: body else body)

def Number.text : Number → String
  | .int n =>
    if n < 0 then "-" ++ String.ofList (digitsOf n.natAbs) else String.ofList (digitsOf n.natAbs)
  | .float x => floatText x

def hexDigit (n : Nat) : Char := if n < 10 then Char.ofNat (48 + n) else Char.ofNat (87 + n)

/-- A character as it stands inside a quoted text. -/
def escape (c : Char) : List Char :=
  if c = '"' then ['\\', '"']
  else if c = '\\' then ['\\', '\\']
  else if c = '\n' then ['\\', 'n']
  else if c = '\r' then ['\\', 'r']
  else if c = '\t' then ['\\', 't']
  else if c = '\x08' then ['\\', 'b']
  else if c = '\x0c' then ['\\', 'f']
  else if c.toNat < 0x20 then
    ['\\', 'u', '0', '0', hexDigit (c.toNat / 16), hexDigit (c.toNat % 16)]
  else [c]

def quoted (s : String) : String := String.ofList ('"' :: (s.toList.flatMap escape ++ ['"']))

namespace Value

mutual

def compactOnto (acc : String) : Value → String
  | .null => acc ++ "null"
  | .bool b => acc ++ (if b then "true" else "false")
  | .number n => acc ++ n.text
  | .string s => acc ++ quoted s
  | .array items => compactItems (acc.push '[') true items
  | .object members => compactMembers (acc.push '{') true members

/-- The compact text of the items, after `acc`; a comma stands before all but the first. -/
def compactItems (acc : String) (first : Bool) : List Value → String
  | [] => acc.push ']'
  | v :: vs => compactItems (compactOnto (if first then acc else acc.push ',') v) false vs

/-- The compact text of the members, after `acc`; a comma stands before all but the first. -/
def compactMembers (acc : String) (first : Bool) : List (String × Value) → String
  | [] => acc.push '}'
  | (k, v) :: ms =>
    let acc := (if first then acc else acc.push ',') ++ quoted k
    compactMembers (compactOnto (acc.push ':') v) false ms

end

def compact (v : Value) : String := compactOnto "" v

def lineBreak (depth : Nat) : String := String.ofList ('\n' :: List.replicate (2 * depth) ' ')

mutual

/-- The indented text of a value at a nesting depth, written after `acc`. -/
def indentedOnto (acc : String) (depth : Nat) : Value → String
  | .array [] => acc ++ "[]"
  | .array (v :: vs) =>
    indentedItems (indentedOnto (acc.push '[' ++ lineBreak (depth + 1)) (depth + 1) v) depth vs
  | .object [] => acc ++ "\x7b\x7d"
  | .object ((k, v) :: ms) =>
    let acc := acc.push '{' ++ lineBreak (depth + 1) ++ quoted k ++ ": "
    indentedMembers (indentedOnto acc (depth + 1) v) depth ms
  | .null => acc ++ "null"
  | .bool b => acc ++ (if b then "true" else "false")
  | .number n => acc ++ n.text
  | .string s => acc ++ quoted s

/-- The remaining items of an array whose first ones are written. -/
def indentedItems (acc : String) (depth : Nat) : List Value → String
  | [] => (acc ++ lineBreak depth).push ']'
  | v :: vs =>
    indentedItems (indentedOnto (acc.push ',' ++ lineBreak (depth + 1)) (depth + 1) v) depth vs

/-- The remaining members of an object whose first ones are written. -/
def indentedMembers (acc : String) (depth : Nat) : List (String × Value) → String
  | [] => (acc ++ lineBreak depth).push '}'
  | (k, v) :: ms =>
    let acc := acc.push ',' ++ lineBreak (depth + 1) ++ quoted k ++ ": "
    indentedMembers (indentedOnto acc (depth + 1) v) depth ms

end

def indented (v : Value) : String := indentedOnto "" 0 v

end Value
end Json
end Interchange
