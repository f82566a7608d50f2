import Interchange.Json.Measure

/-! # The form of schemas

Which JSON values are schemas: truth values, and objects whose keywords have arguments of the right
shape. Unknown keywords may have any argument.
-/

namespace Interchange
namespace Schema

open Json

/-- The shape of the argument of a keyword. -/
inductive Shape where
  | schema
  | schemas
  | schemaMap
  | text
  | flag
  | number
  | positive
  | count
  | list
  | names
  | namesMap
  | typeName
  | dependencies
  | anchor
  | identifier
  | flagMap

def shapes : List (String × Shape) :=
  [("$id", .identifier), ("$schema", .text), ("$ref", .text), ("$anchor", .anchor),
    ("$dynamicRef", .text), ("$dynamicAnchor", .anchor), ("$vocabulary", .flagMap),
    ("$comment", .text), ("$defs", .schemaMap), ("definitions", .schemaMap),
    ("dependencies", .dependencies), ("$recursiveAnchor", .anchor), ("$recursiveRef", .text),
    ("prefixItems", .schemas), ("items", .schema), ("contains", .schema),
    ("additionalProperties", .schema), ("properties", .schemaMap),
    ("patternProperties", .schemaMap), ("dependentSchemas", .schemaMap),
    ("propertyNames", .schema), ("if", .schema), ("then", .schema), ("else", .schema),
    ("allOf", .schemas), ("anyOf", .schemas), ("oneOf", .schemas), ("not", .schema),
    ("unevaluatedItems", .schema), ("unevaluatedProperties", .schema), ("type", .typeName),
    ("enum", .list), ("multipleOf", .positive), ("maximum", .number),
    ("exclusiveMaximum", .number), ("minimum", .number), ("exclusiveMinimum", .number),
    ("maxLength", .count), ("minLength", .count), ("pattern", .text), ("maxItems", .count),
    ("minItems", .count), ("uniqueItems", .flag), ("maxContains", .count), ("minContains", .count),
    ("maxProperties", .count), ("minProperties", .count), ("required", .names),
    ("dependentRequired", .namesMap), ("title", .text), ("description", .text),
    ("deprecated", .flag), ("readOnly", .flag), ("writeOnly", .flag), ("examples", .list),
    ("format", .text), ("contentEncoding", .text), ("contentMediaType", .text),
    ("contentSchema", .schema)]

def typeNames : List String :=
  ["array", "boolean", "integer", "null", "number", "object", "string"]

def isNames : Value → Bool
  | .array items => items.all (fun v => v.text?.isSome) && Value.allDistinct items
  | _ => false

def isCount : Value → Bool
  | .number n => n.isWhole && n.order (.int 0) != .lt
  | _ => false

/-- A type, or a list of types that is not empty and names each once. -/
def isType : Value → Bool
  | .string s => typeNames.contains s
  | .array items =>
    !items.isEmpty && Value.allDistinct items && items.all fun v => match v with
      | .string s => typeNames.contains s
      | _ => false
  | _ => false

/-- A letter or underscore, then letters, digits, `-`, `.` and `_`. -/
def isAnchor : Value → Bool
  | .string s => match s.toList with
    | [] => false
    | c :: cs => (Text.isLetter c || c == '_')
      && cs.all fun c => Text.isAlphanumeric c || c == '-' || c == '.' || c == '_'
  | _ => false

/-- A text with a number sign at its end only. -/
def isIdentifier : Value → Bool
  | .string s => !(s.toList.dropLast.contains '#')
  | _ => false

def Shape.admits (schema : Value → Bool) : Shape → Value → Bool
  | .schema, v => schema v
  | .schemas, .array items => !items.isEmpty && items.all schema
  | .schemaMap, .object members => members.all fun m => schema m.2
  | .text, v => v.text?.isSome
  | .flag, .bool _ => true
  | .number, .number _ => true
  | .positive, .number n => n.order (.int 0) == .gt
  | .count, v => isCount v
  | .list, .array _ => true
  | .names, v => isNames v
  | .namesMap, .object members => members.all fun m => isNames m.2
  | .typeName, v => isType v
  | .dependencies, .object members => members.all fun m => schema m.2 || isNames m.2
  | .anchor, v => isAnchor v
  | .identifier, v => isIdentifier v
  | .flagMap, .object members => members.all fun m => match m.2 with
    | .bool _ => true
    | _ => false
  | _, _ => false

def isSchemaUpTo : Nat → Value → Bool
  | _, .bool _ => true
  | 0, _ => false
  | depth + 1, .object members => members.all fun m => match shapes.lookup m.1 with
    | some shape => shape.admits (isSchemaUpTo depth) m.2
    | none => true
  | _, _ => false

def isSchema (v : Value) : Bool := isSchemaUpTo v.size v

end Schema
end Interchange
