import Interchange.Schema.Validate
import Interchange.Dict
import Interchange.Json.Members
import Interchange.Text.Lowercase

/-! # Registered schemas

Internal schemas describe the canonical payloads of an entity type, for every system. External ones
describe what the systems of one type expect; the name of that type is taken in lower case.
-/

namespace Interchange

open Json

structure SchemaRegistry where
  /-- By entity type. -/
  internal : Dict Schema := []
  /-- By system type in lower case, then by entity type. -/
  external : Dict (Dict Schema) := []

namespace SchemaRegistry

/-- Registers a canonical schema, in place of an older one. -/
def registerInternal (r : SchemaRegistry) (entityType : String) (source : Value) :
    Result SchemaRegistry := do
  let schema ← Schema.compile source
  pure { r with internal := r.internal.insert entityType schema }

def registerExternal (r : SchemaRegistry) (systemType entityType : String) (source : Value) :
    Result SchemaRegistry := do
  let schema ← Schema.compile source
  let key := Text.lowercase systemType
  let schemas := ((Dict.get? r.external key).getD []).insert entityType schema
  pure { r with external := r.external.insert key schemas }

/-- Registers the canonical schemas of an object, by entity type, and a list of records of what
types of systems expect. -/
def ofJson (internal : Object) (external : List Value) : Result SchemaRegistry := do
  let r ← internal.foldlM (fun (r : SchemaRegistry) p => r.registerInternal p.1 p.2) {}
  external.foldlM (fun r s =>
    r.registerExternal (s.str "system_type") (s.str "entity_type") (s.at "schema")) r

def internal? (r : SchemaRegistry) (entityType : String) : Option Schema :=
  Dict.get? r.internal entityType

def external? (r : SchemaRegistry) (systemType entityType : String) : Option Schema :=
  (Dict.get? r.external (Text.lowercase systemType)).bind fun schemas =>
    Dict.get? schemas entityType

def entityTypes (r : SchemaRegistry) : List String := Dict.keys r.internal

def check (schema : Option Schema) (entityType : String) (v : Value) : Result Unit :=
  match schema with
  | none => .ok ()
  | some s => if s.accepts v then .ok () else .error (.schemaViolation entityType (s.messages v))

def validate (r : SchemaRegistry) (v : Value) (entityType : String) : Result Unit :=
  check (r.internal? entityType) entityType v

end SchemaRegistry
end Interchange
