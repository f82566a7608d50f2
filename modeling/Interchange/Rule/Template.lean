import Interchange.Text.Ascii

/-! # Templates and delimiters

A template is cut, from left to right, into plain characters and placeholders: a name of letters,
digits, `_`, `.` and `-` between braces. A brace that belongs to no placeholder is a plain
character. `cut` separates a text at the occurrences of a delimiter, found from left to right.
-/

namespace Interchange

open Text

/-- A part of a template. -/
inductive Piece where
  | plain (c : Char)
  | placeholder (name : List Char)
deriving DecidableEq, Repr

namespace Template

/-- Whether a character may stand in the name of a placeholder. -/
def isNameChar (c : Char) : Bool := isAlphanumeric c || c == '_' || c == '.' || c == '-'

/-- The name of the placeholder whose opening brace stands before `cs`, if there is one. -/
def nameAt (cs : List Char) : Option (List Char) :=
  let name := cs.takeWhile isNameChar
  if name ≠ [] ∧ (cs.dropWhile isNameChar).head? = some '}' then some name else none

/-- The pieces of a template after the next `skip` characters, which belong to a placeholder. -/
def piecesFrom (skip : Nat) : List Char → List Piece
  | [] => []
  | c :: cs =>
    match skip with
    | skip + 1 => piecesFrom skip cs
    | 0 =>
      if c = '{' then
        match nameAt cs with
        | some name => .placeholder name :: piecesFrom (name.length + 1) cs
        | none => .plain c :: piecesFrom 0 cs
      else .plain c :: piecesFrom 0 cs

def pieces (cs : List Char) : List Piece := piecesFrom 0 cs

def unknown (lookup : String → Option String) (ps : List Piece) : List String :=
  ps.filterMap fun
    | .plain _ => none
    | .placeholder name =>
      let name := String.ofList name
      if (lookup name).isSome then none else some name

/-- The text of a piece; nothing for a placeholder that `lookup` does not know. -/
def fill (lookup : String → Option String) : Piece → List Char
  | .plain c => [c]
  | .placeholder name => ((lookup (String.ofList name)).getD "").toList

/-- The template with its placeholders replaced, or the name of the first unknown one. -/
def render (lookup : String → Option String) (template : String) : Except String String :=
  let ps := pieces template.toList
  match unknown lookup ps with
  | name :: _ => .error name
  | [] => .ok (String.ofList (ps.flatMap (fill lookup)))

end Template

namespace Text

/-- The parts of a text between the occurrences of a delimiter, after the next `skip` characters,
which belong to an occurrence; `acc` holds the current part, last character first. -/
def cutFrom (delimiter : List Char) (skip : Nat) (acc : List Char) : List Char → List (List Char)
  | [] => [acc.reverse]
  | c :: cs =>
    match skip with
    | skip + 1 => cutFrom delimiter skip acc cs
    | 0 =>
      if delimiter.isPrefixOf (c :: cs) then
        acc.reverse :: cutFrom delimiter (delimiter.length - 1) [] cs
      else cutFrom delimiter 0 (c :: acc) cs

/-- The parts of a text between the occurrences of a delimiter that is not empty. -/
def cut (delimiter text : List Char) : List (List Char) := cutFrom delimiter 0 [] text

end Text
end Interchange
