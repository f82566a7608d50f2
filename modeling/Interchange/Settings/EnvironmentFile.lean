import Interchange.Settings.Environment
import Interchange.Files.Basic
import Interchange.Text.Letters

/-! # Files of environment variables

A file may add variables to the environment, one on a line: a name, `=` and a value. A variable that
is set already keeps its value. A value may stand in quotes, then also over several lines, and it
may refer to variables; single quotes keep everything in them as it is. Reading ends at the first
line that is not of this form.
-/

namespace Interchange
namespace EnvironmentFile

open Text

/-- Where in a value a character stands, as far as the end of a line is concerned. -/
inductive Quoting where
  | plain
  | blank
  | escape
  | weak
  | weakEscape
  | strong
  | strongEscape
deriving DecidableEq, Repr

def Quoting.outside (c : Char) : Quoting :=
  if c = '\\' then .escape else if c = '"' then .weak else if c = '\'' then .strong else .plain

def Quoting.step (c : Char) : Quoting → Quoting
  | .plain => if isBlank c ∧ c ≠ '\n' ∧ c ≠ '\r' then .blank else outside c
  | .blank => outside c
  | .escape => .plain
  | .weak => if c = '\\' then .weakEscape else if c = '"' then .plain else .weak
  | .weakEscape => .weak
  | .strong => if c = '\\' then .strongEscape else if c = '\'' then .plain else .strong
  | .strongEscape => .strong

/-- How a line ends that starts in the state `q`, and what of it comes before a comment. -/
def scan (q : Quoting) : List Char → Quoting × List Char
  | [] => (q, [])
  | c :: cs =>
    if q = .blank ∧ c = '#' then (.plain, [])
    else ((scan (q.step c) cs).map id (c :: ·))

/-- The lines of a text, each with its line feed; `acc` holds the current one, last character
first. -/
def linesFrom (acc : List Char) : List Char → List (List Char)
  | [] => if acc.isEmpty then [] else [acc.reverse]
  | c :: cs => if c = '\n' then (c :: acc).reverse :: linesFrom [] cs else linesFrom (c :: acc) cs

def withoutEnd (line : List Char) : List Char :=
  if line.getLast? = some '\n' then Environment.withoutReturn line.dropLast else line

/-- Lines with those put together that quotes hold together; `acc` holds the start of the current
one. The last one is `none` when the text ends within quotes. -/
def joined (q : Quoting) (acc : List Char) : List (List Char) → List (Option (List Char))
  | [] => if q = .plain then [] else [none]
  | line :: rest =>
    if (trimStart (acc ++ line)).head? = some '#' then joined .plain [] rest
    else
      let (q, kept) := scan q line
      if q = .plain then some (withoutEnd (acc ++ kept)) :: joined .plain [] rest
      else joined q (acc ++ kept) rest

/-- How the next character of a value is to be read. -/
inductive Mode where
  | plain
  | strong
  | weak
  /-- Behind a backslash. -/
  | escaped (weak : Bool)
  /-- In the name of a variable, which is kept last character first. -/
  | name (weak braced : Bool) (name : List Char)
  /-- Behind the value, where only a comment may follow. -/
  | finished
deriving DecidableEq, Repr

def Mode.within (weak : Bool) : Mode := if weak then .weak else .plain

/-- The value of the variable with a name that is kept last character first. -/
def valueOf (env : Environment) (name : List Char) : List Char :=
  ((Dict.get? env (String.ofList name.reverse)).getD "").toList

/-- The rest of a value; `none` when it is not of the form of values. -/
def value? (env : Environment) : Mode → List Char → Option (List Char)
  | .name _ true _, [] => none
  | .name false false name, [] => some (valueOf env name)
  | .name true false _, [] => none
  | .strong, [] => none
  | .weak, [] => none
  | .escaped true, [] => none
  | _, [] => some []
  | .finished, c :: cs =>
    if c = ' ' ∨ c = '\t' then value? env .finished cs else if c = '#' then some [] else none
  | .escaped weak, c :: cs =>
    if c = 'n' then (value? env (.within weak) cs).map ('\n' :: ·)
    else if c = '\\' ∨ c = '\'' ∨ c = '"' ∨ c = '$' ∨ c = ' ' then
      (value? env (.within weak) cs).map (c :: ·)
    else none
  | .strong, c :: cs =>
    if c = '\'' then value? env .plain cs else (value? env .strong cs).map (c :: ·)
  | .name weak braced name, c :: cs =>
    if isUnicodeLetter c || isUnicodeNumber c then value? env (.name weak braced (c :: name)) cs
    else if braced then
      if c = '}' then (value? env (.within weak) cs).map (valueOf env name ++ ·)
      else value? env (.name weak true (c :: name)) cs
    else if c = '{' ∧ name = [] then value? env (.name weak true []) cs
    else if c = '$' then (value? env (.name weak false []) cs).map (valueOf env name ++ ·)
    else (value? env (.within weak) cs).map (valueOf env name ++ c :: ·)
  | .weak, c :: cs =>
    if c = '$' then value? env (.name true false []) cs
    else if c = '"' then value? env .plain cs
    else if c = '\\' then value? env (.escaped true) cs
    else (value? env .weak cs).map (c :: ·)
  | .plain, c :: cs =>
    if c = '$' then value? env (.name false false []) cs
    else if c = '\'' then value? env .strong cs
    else if c = '"' then value? env .weak cs
    else if c = '\\' then value? env (.escaped false) cs
    else if c = ' ' ∨ c = '\t' then value? env .finished cs
    else (value? env .plain cs).map (c :: ·)

/-- The name at the start of a line, and what stands behind it and behind blanks. -/
def name? (cs : List Char) : Option (String × List Char) :=
  let ok c := isAlphanumeric c || c == '_' || c == '.'
  match cs with
  | [] => none
  | c :: _ =>
    if isLetter c || c == '_' then
      some (String.ofList (cs.takeWhile ok), trimStart (cs.dropWhile ok))
    else none

/-- The variable that a line sets; `some none` for a line that sets none, `none` for one that is
not of the form of lines. The word `export` may stand in front. -/
def assignment? (env : Environment) (line : List Char) : Option (Option (String × String)) :=
  match trimmed line with
  | [] => some none
  | '#' :: _ => some none
  | cs => do
    let (name, cs) ← name? cs
    let (name, cs) ←
      if name = "export" ∧ cs.head? ≠ some '=' then name? cs else some (name, cs)
    match cs with
    | '=' :: cs => match trimStart cs with
      | [] => some (some (name, ""))
      | '#' :: _ => some (some (name, ""))
      | cs => (value? env .plain cs).map fun v => some (name, String.ofList v)
    | _ => none

def addLines (env : Environment) : List (Option (List Char)) → Environment
  | [] => env
  | none :: _ => env
  | some line :: rest => match assignment? env line with
    | none => env
    | some none => addLines env rest
    | some (some (name, value)) =>
      addLines (if Dict.contains env name then env else Dict.insert env name value) rest

/-- The environment with the variables of a text; a byte order mark in front is skipped. -/
def add (env : Environment) (text : String) : Environment :=
  let cs := match text.toList with
    | '\ufeff' :: cs => cs
    | cs => cs
  addLines env (joined .plain [] (linesFrom [] cs))

def name : String := ".env"

def load (env : Environment) (fs : Files) : Environment :=
  match fs.readText name with
  | .ok text => add env text
  | .error _ => env

end EnvironmentFile
end Interchange
