import Interchange.Rule.Basic
import Interchange.Json.Decode

/-! # Rules as JSON

Reading and writing of rules. A value transformation is told by the member `type`; written as an
array, its type comes first and its fields follow. Members are written in the order in which the
fields are declared.
-/

namespace Interchange

open Json

def Direction.name : Direction → String
  | .inbound => "inbound"
  | .outbound => "outbound"

def Direction.ofJson? : Value → Option Direction :=
  Decode.choice [("inbound", .inbound), ("outbound", .outbound)]

def Mode.name : Mode → String
  | .selective => "selective"
  | .full => "full"

def Mode.ofJson? : Value → Option Mode :=
  Decode.choice [("selective", .selective), ("full", .full)]

namespace ValueTransform

def toJson : ValueTransform → Value
  | .map mapping fallback =>
    .object [("type", .string "map"), ("mapping", .object mapping),
      ("default", fallback.getD .null)]
  | .format template => .object [("type", .string "format"), ("template", .string template)]
  | .split delimiter index =>
    .object [("type", .string "split"), ("delimiter", .string delimiter), ("index", .ofNat index)]
  | .join delimiter => .object [("type", .string "join"), ("delimiter", .string delimiter)]
  | .boolean trueValues =>
    .object [("type", .string "boolean"), ("true_values", .array (trueValues.map .string))]
  | .number => .object [("type", .string "number")]
  | .string => .object [("type", .string "string")]

def ofFields? (type : String) (body : Value) : Option ValueTransform :=
  if type = "map" then do
    let fs ← Decode.record ["mapping", "default"] body
    let mapping ← Decode.field fs "mapping" (Decode.dict Decode.any)
    let fallback ← Decode.fieldOr fs "default" (Decode.optional Decode.any) none
    pure (.map mapping fallback)
  else if type = "format" then do
    let fs ← Decode.record ["template"] body
    pure (.format (← Decode.field fs "template" Decode.text))
  else if type = "split" then do
    let fs ← Decode.record ["delimiter", "index"] body
    let delimiter ← Decode.field fs "delimiter" Decode.text
    let index ← Decode.fieldOr fs "index" (Decode.natBelow (Nat.pow 2 64)) 0
    pure (.split delimiter index)
  else if type = "join" then do
    let fs ← Decode.record ["delimiter"] body
    pure (.join (← Decode.field fs "delimiter" Decode.text))
  else if type = "boolean" then do
    let fs ← Decode.record ["true_values"] body
    pure (.boolean (← Decode.fieldOr fs "true_values" (Decode.list Decode.text) defaultTrueValues))
  else if type = "number" then (Decode.record [] body).map fun _ => .number
  else if type = "string" then (Decode.record [] body).map fun _ => .string
  else none

def ofJson? : Value → Option ValueTransform
  | .object members =>
    match members.filter fun m => m.1 = "type" with
    | [(_, .string type)] => ofFields? type (.object (members.filter fun m => m.1 ≠ "type"))
    | _ => none
  | .array (.string type :: fields) => ofFields? type (.array fields)
  | _ => none

end ValueTransform

namespace Rule

def toJson (r : Rule) : Value :=
  .object [("entity_type", .string r.entityType), ("direction", .string r.direction.name),
    ("mode", .string r.mode.name),
    ("field_mappings", .object (r.fieldMappings.mapValues .string)),
    ("value_transformations", .object (r.valueTransformations.mapValues ValueTransform.toJson)),
    ("default_values", .object r.defaultValues),
    ("fields_to_remove", .array (r.fieldsToRemove.map .string))]

def ofJson? (v : Value) : Option Rule := do
  let fs ← Decode.record ["entity_type", "direction", "mode", "field_mappings",
    "value_transformations", "default_values", "fields_to_remove"] v
  let entityType ← Decode.field fs "entity_type" Decode.text
  let direction ← Decode.field fs "direction" Direction.ofJson?
  let mode ← Decode.fieldOr fs "mode" Mode.ofJson? .full
  let fieldMappings ← Decode.fieldOr fs "field_mappings" (Decode.dict Decode.text) []
  let valueTransformations ←
    Decode.fieldOr fs "value_transformations" (Decode.dict ValueTransform.ofJson?) []
  let defaultValues ← Decode.fieldOr fs "default_values" (Decode.dict Decode.any) []
  let fieldsToRemove ← Decode.fieldOr fs "fields_to_remove" (Decode.list Decode.text) []
  pure { entityType, direction, mode, fieldMappings, valueTransformations, defaultValues,
         fieldsToRemove }

end Rule
end Interchange
