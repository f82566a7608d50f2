import Interchange.Json.Reader

/-! # Texts and white space in TOML

Readers take the characters of a document and return what they read with the characters behind it,
or `none` when the document does not go on as it must. A text stands between quotes, or between
three quotes when it may run over lines; in double quotes a backslash starts an escape.
-/

namespace Interchange
namespace Toml

open Text

/-- A reader of what stands at the start of a text. -/
abbrev Reads (α : Type) := List Char → Option (α × List Char)

/-- Whether a character is a blank within a line. -/
def isSpace (c : Char) : Bool := c == ' ' || c == '\t'

/-- Whether a character may stand in a comment; control characters other than the tab may not. -/
def isPlain (c : Char) : Bool := c == '\t' || (0x20 ≤ c.toNat && c.toNat != 0x7f)

def spaces (cs : List Char) : List Char := cs.dropWhile isSpace

/-- What stands behind a comment, if one starts here. -/
def afterComment : List Char → List Char
  | '#' :: cs => cs.dropWhile isPlain
  | cs => cs

def newline? : List Char → Option (List Char)
  | '\n' :: cs => some cs
  | '\r' :: '\n' :: cs => some cs
  | _ => none

/-- What stands behind blanks, a comment and the end of the line or of the text. -/
def lineEnd? (cs : List Char) : Option (List Char) :=
  match afterComment (spaces cs) with
  | [] => some []
  | cs => newline? cs

/-- What stands behind blanks, line ends and comments. -/
def skipLines (inComment : Bool) : List Char → Option (List Char)
  | [] => some []
  | c :: cs =>
    if c = '\n' then skipLines false cs
    else if c = '\r' then if cs.head? = some '\n' then skipLines false cs else none
    else if inComment then if isPlain c then skipLines true cs else none
    else if isSpace c then skipLines false cs
    else if c = '#' then skipLines true cs
    else some (c :: cs)

/-- The character with the code that `n` hexadecimal digits give. -/
def hexChar? (n : Nat) (cs : List Char) : Option Char := do
  let ds ← (cs.take n).mapM Json.hexValue?
  let code := ds.foldl (fun a d => 16 * a + d) 0
  if ds.length = n ∧ code.isValidChar then some (Char.ofNat code) else none

/-- The character that an escape stands for, and the number of characters behind the backslash. -/
def escape? : List Char → Option (Char × Nat)
  | 'b' :: _ => some ('\x08', 1)
  | 't' :: _ => some ('\t', 1)
  | 'n' :: _ => some ('\n', 1)
  | 'f' :: _ => some ('\x0c', 1)
  | 'r' :: _ => some ('\r', 1)
  | '"' :: _ => some ('"', 1)
  | '\\' :: _ => some ('\\', 1)
  | 'u' :: cs => (hexChar? 4 cs).map fun c => (c, 5)
  | 'U' :: cs => (hexChar? 8 cs).map fun c => (c, 9)
  | _ => none

/-- Puts a character in front of what was read. -/
def push (c : Char) (r : Option (List Char × List Char)) : Option (List Char × List Char) :=
  r.map fun p => (c :: p.1, p.2)

/-- The rest of a text on one line, after the next `skip` characters, which belong to an escape. -/
def quotedFrom (quote : Char) (skip : Nat) : Reads (List Char)
  | [] => none
  | c :: cs =>
    match skip with
    | skip + 1 => quotedFrom quote skip cs
    | 0 =>
      if c = quote then some ([], cs)
      else if c = '\\' ∧ quote = '"' then
        match escape? cs with
        | some (e, n) => push e (quotedFrom quote n cs)
        | none => none
      else if isPlain c then push c (quotedFrom quote 0 cs)
      else none

/-- What stands behind blanks and line ends. -/
def pastBlanks : List Char → List Char
  | '\n' :: cs => pastBlanks cs
  | '\r' :: '\n' :: cs => pastBlanks cs
  | c :: cs => if isSpace c then pastBlanks cs else c :: cs
  | [] => []

/-- The number of characters behind a backslash that joins lines: blanks, a line end, and all
blanks and line ends that follow; `none` when the backslash does not stand at the end of its
line. -/
def joint? (cs : List Char) : Option Nat :=
  (newline? (spaces cs)).map fun rest => cs.length - (pastBlanks rest).length

/-- The rest of a text over several lines, after the next `skip` characters. The text ends with
three quotes; up to two more in front of them belong to it. -/
def quotedLinesFrom (quote : Char) (skip : Nat) : Reads (List Char)
  | [] => none
  | c :: cs =>
    match skip with
    | skip + 1 => quotedLinesFrom quote skip cs
    | 0 =>
      if c = quote then
        let more := (cs.takeWhile (· = quote)).length
        if more < 2 then push c (quotedLinesFrom quote 0 cs)
        else some (List.replicate (min (more - 2) 2) quote, cs.drop (min more 4))
      else if c = '\\' ∧ quote = '"' then
        match joint? cs with
        | some n => quotedLinesFrom quote n cs
        | none => match escape? cs with
          | some (e, n) => push e (quotedLinesFrom quote n cs)
          | none => none
      else if c = '\n' then push c (quotedLinesFrom quote 0 cs)
      else if c = '\r' ∧ cs.head? = some '\n' then quotedLinesFrom quote 0 cs
      else if isPlain c then push c (quotedLinesFrom quote 0 cs)
      else none

/-- A text on one line, as keys and values have it. -/
def quoted? : Reads String
  | c :: cs =>
    if c = '"' ∨ c = '\'' then
      (quotedFrom c 0 cs).map fun r => (String.ofList r.1, r.2)
    else none
  | [] => none

/-- A text, on one line or over several; a line end right behind the opening quotes is left out. -/
def text? : Reads String
  | c :: d :: e :: cs =>
    if c = d ∧ d = e ∧ (c = '"' ∨ c = '\'') then
      (quotedLinesFrom c 0 ((newline? cs).getD cs)).map fun r => (String.ofList r.1, r.2)
    else quoted? (c :: d :: e :: cs)
  | cs => quoted? cs

end Toml
end Interchange
