import Interchange.Transform.Registry
import Interchange.Log.Record
import Interchange.Rule.Apply
import Interchange.System.Config

/-! # Transformers

A transformer reshapes payloads between the canonical shape and the shape of one system. On the way
out the payload must match the canonical schema and the result the schema of the system; on the way
in the result is stamped with its origin and must match the canonical schema.
-/

namespace Interchange

open Json

def entityTypeField : String := "_entity_type"

def metadataField : String := "_metadata"

def defaultEntityType : String := "default"

def entityTypeOf (data : Value) : String :=
  match data.get? entityTypeField with
  | some (.string s) => if s = "" then defaultEntityType else s
  | _ => defaultEntityType

/-- What reshapes the payloads of one system. -/
structure Transformer where
  systemId : String
  systemType : String
  rules : List Rule
  /-- The system's own schemas, by entity type. -/
  schemas : Dict Schema
  /-- How the maps of its rules are met, by their places among those for one type and direction. -/
  orders : Rule.Orders := fun _ => .ascending

namespace Transformer

/-- Makes the schemas of a system ready for use. -/
def compileAll : Object → Result (Dict Schema)
  | [] => .ok []
  | (entityType, source) :: rest => do
    let schema ← Schema.compile source
    let schemas ← compileAll rest
    pure ((entityType, schema) :: schemas)

def ofConfig (c : SystemConfig) : Result Transformer := do
  let schemas ← compileAll c.transformParams.externalSchemas
  pure { systemId := c.systemId, systemType := c.systemType, rules := c.transformParams.rules,
         schemas }

/-- The schema of the system's payloads of an entity type: its own, else that of its type. -/
def externalSchema? (t : Transformer) (registry : SchemaRegistry) (entityType : String) :
    Option Schema :=
  (Dict.get? t.schemas entityType).or (registry.external? t.systemType entityType)

/-- Applies the rules for an entity type and a direction; only objects are reshaped. -/
def reshape (t : Transformer) (entityType : String) (direction : Direction) : Value → Value
  | .object input =>
    .object (Rule.applyAll (Rule.select t.rules entityType direction) input t.orders)
  | v => v

/-- The record of a payload's origin: the metadata it has, if that is an object, with the system. -/
def provenance (t : Transformer) (o : Object) : Object :=
  let old : Object := match o.get? metadataField with
    | some (.object m) => m
    | _ => []
  (old.insert "source_system" (.string t.systemId)).insert "source_system_type"
    (.string t.systemType)

def stamp (t : Transformer) (entityType : String) (o : Object) : Object :=
  (o.insert metadataField (.object (t.provenance o))).insert entityTypeField (.string entityType)

/-- From the canonical shape to the shape of the system. -/
def toExternal (t : Transformer) (registry : SchemaRegistry) (data : Value) : Result Value := do
  let entityType := entityTypeOf data
  registry.validate data entityType
  let result := t.reshape entityType .outbound data
  SchemaRegistry.check (t.externalSchema? registry entityType) entityType result
  pure result

/-- The records of a payload that came in, one if it does not match the schema of the system. -/
def mismatches (t : Transformer) (registry : SchemaRegistry) (entityType : String) (data : Value) :
    List LogRecord :=
  match t.externalSchema? registry entityType with
  | none => []
  | some s =>
    if s.accepts data then []
    else [{ level := .warn, message := "Inbound payload does not match external schema"
            fields := [("system_id", .string t.systemId), ("entity_type", .string entityType),
              ("errors", .string ("; ".intercalate (s.messages data)))]
            source := "switchyard::core::transform::transformer" }]

/-- From the shape of the system to the canonical shape, with what is logged. -/
def receive (t : Transformer) (registry : SchemaRegistry) (data : Value) :
    List LogRecord × Result Value :=
  let entityType := entityTypeOf data
  (t.mismatches registry entityType data, do
    let result := match t.reshape entityType .inbound data with
      | .object o => .object (t.stamp entityType o)
      | v => v
    registry.validate result entityType
    pure result)

/-- From the shape of the system to the canonical shape. -/
def toInternal (t : Transformer) (registry : SchemaRegistry) (data : Value) : Result Value :=
  (t.receive registry data).2

mutual

/-- The canonical shape of what a system answers: arrays item by item, objects as a whole, anything
else as it is. -/
def fromResult (t : Transformer) (registry : SchemaRegistry) : Value → Result Value
  | .array items => do
    let items ← fromResults t registry items
    pure (.array items)
  | .object o => t.toInternal registry (.object o)
  | v => .ok v

/-- `fromResult` on each item, up to the first error. -/
def fromResults (t : Transformer) (registry : SchemaRegistry) : List Value → Result (List Value)
  | [] => .ok []
  | v :: vs => do
    let v ← fromResult t registry v
    let vs ← fromResults t registry vs
    pure (v :: vs)

end

end Transformer

/-- The transformers that have been made, by system. -/
abbrev Transformers := Dict Transformer

/-- The transformer of a system, made when it is first asked for and kept from then on. -/
def Transformers.obtain (ts : Transformers) (c : SystemConfig) :
    Result (Transformer × Transformers) :=
  match Dict.get? ts c.systemId with
  | some t => .ok (t, ts)
  | none => do
    let t ← Transformer.ofConfig c
    pure (t, Dict.insert ts c.systemId t)

end Interchange
