import Interchange.Toml.Scalar
import Interchange.Toml.Table

/-! # Reading TOML

A document is a sequence of headers and of keys with values, each on a line of its own. `read?`
gives the object that a document stands for. Keys have fewer than 80 parts, and arrays and tables in
values stand fewer than 80 deep in one another.
-/

namespace Interchange
namespace Toml

open Text Json

/-- The most parts of a key, and the most arrays and tables around a value. -/
def depthMax : Nat := 79

/-- Whether a character may stand in a key without quotes. -/
def isBare (c : Char) : Bool := isAlphanumeric c || c == '_' || c == '-'

def keyPart? (cs : List Char) : Option (String × List Char) :=
  match cs.takeWhile isBare with
  | [] => quoted? cs
  | name => some (String.ofList name, cs.dropWhile isBare)

/-- The parts of a key between dots, at most `most`, with the blanks around them. -/
def keys? : Nat → Reads (List String)
  | 0, _ => none
  | most + 1, cs => do
    let (k, cs) ← keyPart? (spaces cs)
    match spaces cs with
    | '.' :: cs =>
      let (ks, cs) ← keys? most cs
      pure (k :: ks, cs)
    | cs => pure ([k], cs)

mutual

/-- A value inside at most `depth` more arrays and tables. -/
def value? : Nat → Nat → Reads Value
  | 0, _, _ => none
  | fuel + 1, depth, cs => match cs with
    | '[' :: cs => match depth with
      | 0 => none
      | depth + 1 => (items? fuel depth [] cs).map fun r => (.array r.1, r.2)
    | '{' :: cs => match depth with
      | 0 => none
      | depth + 1 => match spaces cs with
        | '}' :: cs => some (.object [], cs)
        | cs => (pairs? fuel depth [] cs).map fun r => (r.1.value, r.2)
    | cs => match text? cs with
      | some (s, cs) => some (.string s, cs)
      | none => scalar? cs

/-- The rest of an array; `acc` holds its items so far, last one first. A comma may stand behind the
last item. -/
def items? : Nat → Nat → List Value → Reads (List Value)
  | 0, _, _, _ => none
  | fuel + 1, depth, acc, cs => do
    match ← skipLines false cs with
    | ']' :: cs => pure (acc.reverse, cs)
    | cs =>
      let (v, cs) ← value? fuel depth cs
      match ← skipLines false cs with
      | ',' :: cs => items? fuel depth (v :: acc) cs
      | ']' :: cs => pure ((v :: acc).reverse, cs)
      | _ => none

/-- The rest of a table in braces, which stands on one line; `t` holds its entries so far. -/
def pairs? : Nat → Nat → Table → Reads Table
  | 0, _, _, _ => none
  | fuel + 1, depth, t, cs => do
    let (path, cs) ← keys? depthMax cs
    let (v, cs) ← value? fuel depth (spaces (← behind? '=' cs))
    let t ← t.define path v
    match spaces cs with
    | ',' :: cs => pairs? fuel depth t cs
    | '}' :: cs => pure (t, cs)
    | _ => none

end

/-- A document that has been read in part: its tables, and the header that is in force. -/
structure Document where
  table : Table := []
  header : List String := []

/-- Takes in what stands on the next line, which is neither empty nor a comment. -/
def Document.nextLine? (d : Document) : Reads Document
  | '[' :: '[' :: cs => do
    let (path, cs) ← keys? depthMax cs
    let rest ← lineEnd? (← behind? ']' (← behind? ']' cs))
    pure (⟨← d.table.addItem path, path⟩, rest)
  | '[' :: cs => do
    let (path, cs) ← keys? depthMax cs
    let rest ← lineEnd? (← behind? ']' cs)
    pure (⟨← d.table.addHeader path, path⟩, rest)
  | cs => do
    let (path, cs) ← keys? depthMax cs
    let cs := spaces (← behind? '=' cs)
    let (v, cs) ← value? (2 * cs.length + 1) depthMax cs
    let rest ← lineEnd? cs
    pure ({ d with table := ← d.table.defineBelow d.header path v }, rest)

/-- Takes in all lines; each but the last takes at least one character. -/
def Document.readLines : Nat → Document → List Char → Option Document
  | 0, _, _ => none
  | fuel + 1, d, cs => match spaces cs with
    | [] => some d
    | c :: cs =>
      if c = '\n' ∨ c = '\r' ∨ c = '#' then
        (lineEnd? (c :: cs)).bind (readLines fuel d)
      else (d.nextLine? (c :: cs)).bind fun r => readLines fuel r.1 r.2

/-- The object that a document stands for; a byte order mark in front is skipped. -/
def read? (s : String) : Option Value :=
  let cs := match s.toList with
    | '\ufeff' :: cs => cs
    | cs => cs
  (Document.readLines (cs.length + 1) {} cs).map fun d => d.table.value

end Toml
end Interchange
