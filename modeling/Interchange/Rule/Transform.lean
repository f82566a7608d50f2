import Interchange.Rule.Basic
import Interchange.Rule.Template
import Interchange.Json.Printer
import Interchange.Json.Number
import Interchange.Text.Trim

/-! # Transformations of one value

What each transformation makes of a value. A transformation that does not apply answers with the
reason, and the rule that uses it keeps the value.
-/

namespace Interchange

open Json

/-- Why a value could not be transformed. -/
inductive TransformError where
  | notText (found : Value)
  | notArray (found : Value)
  | emptyDelimiter
  | noPart (index : Nat)
  | unknownPlaceholder (name : String)
deriving DecidableEq

def TransformError.message : TransformError → String
  | .notText found => "split expects a string, got " ++ found.kind
  | .notArray found => "join expects an array, got " ++ found.kind
  | .emptyDelimiter => "split delimiter is empty"
  | .noPart index => "split index " ++ toString index ++ " out of range"
  | .unknownPlaceholder name => "unknown placeholder '\x7b" ++ name ++ "\x7d' in template"

/-- The text of a value in look-ups, templates and joined texts: a string stands for itself, null
for the empty text, and any other value for its JSON text. -/
def Json.Value.display : Value → String
  | .string s => s
  | .null => ""
  | v => v.compact

namespace ValueTransform

def castNumber : Value → Number
  | .number n => n
  | .bool b => .int (if b then 1 else 0)
  | .string s =>
    let cs := Text.trimmed s.toList
    match readInt64? cs with
    | some n => .int n
    | none => match readFloat? cs with
      | some x => .float x
      | none => .int 0
  | _ => .int 0

def castText : Value → String
  | .string s => s
  | .null => ""
  | v => v.compact

def castBool (trueValues : List String) : Value → Bool
  | .bool b => b
  | .null => false
  | v =>
    let word := Text.trim v.display
    trueValues.any fun t => Text.sameIgnoringCase t word

def placeholderText (value : Value) (record : Object) (name : String) : Option String :=
  if name = "value" then some value.display else (record.get? name).map Value.display

def apply (t : ValueTransform) (value : Value) (record : Object) : Except TransformError Value :=
  match t with
  | .map mapping fallback => .ok (((mapping.get? value.display).or fallback).getD value)
  | .format template =>
    match Template.render (placeholderText value record) template with
    | .ok s => .ok (.string s)
    | .error name => .error (.unknownPlaceholder name)
  | .split delimiter index =>
    match value with
    | .string s =>
      if delimiter = "" then .error .emptyDelimiter
      else match (Text.cut delimiter.toList s.toList)[index]? with
        | some part => .ok (.string (String.ofList part))
        | none => .error (.noPart index)
    | v => .error (.notText v)
  | .join delimiter =>
    match value with
    | .array items => .ok (.string (delimiter.intercalate (items.map Value.display)))
    | v => .error (.notArray v)
  | .boolean trueValues => .ok (.bool (castBool trueValues value))
  | .number => .ok (.number (castNumber value))
  | .string => .ok (.string (castText value))

end ValueTransform
end Interchange
