import Interchange.Json.Basic
import Interchange.Text.Ascii

/-! # Log records

A record has a level, a message and named fields.
-/

namespace Interchange

open Json

/-- How important a log record is, the least important first. -/
inductive LogLevel where
  | trace
  | debug
  | info
  | warn
  | error
deriving DecidableEq, Repr

namespace LogLevel

def name : LogLevel → String
  | .trace => "TRACE"
  | .debug => "DEBUG"
  | .info => "INFO"
  | .warn => "WARN"
  | .error => "ERROR"

def rank : LogLevel → Nat
  | .trace => 0
  | .debug => 1
  | .info => 2
  | .warn => 3
  | .error => 4

def ofName? (s : String) : Option LogLevel :=
  [trace, debug, info, warn, error].find? fun l => Text.sameIgnoringCase s l.name

def unknownMessage (name : String) : String :=
  "Invalid log level: " ++ name ++ ". Must be one of: trace, debug, info, warn, error"

end LogLevel

structure LogRecord where
  level : LogLevel
  message : String
  fields : List (String × Value) := []
  /-- The part of the program that the record comes from, which filters go by. -/
  source : String := "switchyard"

/-- The JSON form of a record: its level, and its fields with the message among them. -/
def LogRecord.toJson (r : LogRecord) : Value :=
  .array [.string r.level.name, .object (r.fields ++ [("message", .string r.message)])]

end Interchange
