import Interchange.Log.Record
import Interchange.Settings.Environment
import Interchange.Text.Trim

/-! # Log filters

Which records are kept. A filter is a list of directives, each a level for the parts of the program
whose name starts with a text; the longest such text decides, and of equal ones the last.
-/

namespace Interchange

open Text

/-- The least level of records from parts of the program; `none` keeps no record. -/
structure LogDirective where
  source : String := ""
  level : Option LogLevel
deriving DecidableEq, Repr

structure LogFilter where
  directives : List LogDirective
deriving DecidableEq, Repr

namespace LogFilter

def configured? (env : Environment) : Option String := Dict.get? env "RUST_LOG"

/-- The level that a text names, by name or by number; `none` names no level. -/
def level? (s : String) : Option (Option LogLevel) :=
  if sameIgnoringCase s "off" ∨ s = "0" then some none
  else
    let numbered :=
      [("1", LogLevel.error), ("2", .warn), ("3", .info), ("4", .debug), ("5", .trace)]
    ((numbered.lookup s).or (LogLevel.ofName? s)).map some

/-- Whether a character may stand in the name of a part of the program. -/
def isSourceChar (c : Char) : Bool := isAlphanumeric c || c == '_' || c == ':' || c == '-'

/-- Reads a directive: a level, a name with a level behind `=`, or a name alone, which keeps all
records. -/
def directive? (cs : List Char) : Option LogDirective :=
  match level? (String.ofList cs) with
  | some level => some { level }
  | none =>
    let name := cs.takeWhile isSourceChar
    if name = [] then none
    else
      let source := String.ofList name
      match cs.dropWhile isSourceChar with
      | [] => some { source, level := some .trace }
      | ['='] => some { source, level := some .trace }
      | '=' :: level => (level? (String.ofList level)).map fun level => { source, level }
      | _ => none

/-- Reads directives between commas; an empty text keeps errors. -/
def parse? (s : String) : Option LogFilter :=
  if s = "" then some ⟨[{ level := some .error }]⟩
  else ((s.splitOn ",").mapM fun part => directive? part.toList).map .mk

def ofLevel (level : LogLevel) : LogFilter := ⟨[⟨"switchyard", some level⟩]⟩

def ofEnvironment (env : Environment) (level : LogLevel) : LogFilter :=
  ((configured? env).bind parse?).getD (ofLevel level)

def directiveFor? (f : LogFilter) (source : String) : Option LogDirective :=
  (f.directives.filter fun d => startsWith source d.source).foldl (fun best d =>
    match best with
    | some b => if b.source.length ≤ d.source.length then some d else some b
    | none => some d) none

def accepts (f : LogFilter) (r : LogRecord) : Bool :=
  match (f.directiveFor? r.source).bind LogDirective.level with
  | none => false
  | some level => level.rank ≤ r.level.rank

end LogFilter
end Interchange
