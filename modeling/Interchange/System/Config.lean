import Interchange.Rule.Codec
import Interchange.Text.Trim

/-! # Systems

How one downstream system is configured: how it is reached and authenticated, how its payloads are
reshaped, and what it is capable of.
-/

namespace Interchange

open Json

/-- Capabilities and webhook settings of a system. -/
structure SystemMetadata where
  /-- The adapter takes whole batches in one call. -/
  supportsBatch : Bool := false
  /-- The system delivers webhooks. -/
  supportsWebhooks : Bool := false
  /-- The header that carries the signature of a webhook, if not a usual one. -/
  signatureHeader : Option String := none
  /-- The digest of webhook signatures, SHA-256 when none is given. -/
  signatureAlgorithm : Option String := none
  /-- Everything else. -/
  extra : Object := []
deriving DecidableEq

/-- How payloads of a system are reshaped. -/
structure TransformParams where
  rules : List Rule := []
  /-- JSON schemas of the system's own payloads, by entity type. -/
  externalSchemas : Object := []
deriving DecidableEq

/-- The configuration of one downstream system. -/
structure SystemConfig where
  systemId : String
  systemType : String
  name : String
  connectionParams : Object := []
  authParams : Object := []
  transformParams : TransformParams := {}
  enabled : Bool := true
  metadata : SystemMetadata := {}
deriving DecidableEq

/-- Why a system's configuration is refused. -/
inductive SystemConfig.Problem where
  | blankId
  | colonInId (systemId : String)
  | blankType (systemId : String)
deriving DecidableEq, Repr

namespace SystemConfig

def Problem.message : Problem → String
  | .blankId => "system_id cannot be empty"
  | .colonInId systemId => "system_id '" ++ systemId ++ "' may not contain ':'"
  | .blankType systemId => "system '" ++ systemId ++ "' has an empty system_type"

/-- Checks a configuration: an id, without a colon, and a type. -/
def validate (c : SystemConfig) : Except Problem Unit :=
  if Text.allBlank c.systemId then .error .blankId
  else if c.systemId.toList.contains ':' then .error (.colonInId c.systemId)
  else if Text.allBlank c.systemType then .error (.blankType c.systemId)
  else .ok ()

def authType? (c : SystemConfig) : Option String := (c.authParams.get? "type").bind Value.text?

def withAuthParam (c : SystemConfig) (k : String) (v : Value) : SystemConfig :=
  { c with authParams := c.authParams.insert k v }

def withConnectionParam (c : SystemConfig) (k : String) (v : Value) : SystemConfig :=
  { c with connectionParams := c.connectionParams.insert k v }

def withRule (c : SystemConfig) (r : Rule) : SystemConfig :=
  { c with transformParams.rules := c.transformParams.rules ++ [r] }

/-- Sets the schema of the system's own payloads of an entity type. -/
def withExternalSchema (c : SystemConfig) (entityType : String) (schema : Value) : SystemConfig :=
  { c with
    transformParams.externalSchemas := c.transformParams.externalSchemas.insert entityType schema }

def withMetadata (c : SystemConfig) (m : SystemMetadata) : SystemConfig := { c with metadata := m }

end SystemConfig

/-! ## JSON form -/

def optionalMember (k : String) : Option String → List (String × Value)
  | none => []
  | some s => [(k, .string s)]

namespace SystemMetadata

/-- The members of a metadata object that have fields of their own. -/
def fieldNames : List String :=
  ["supports_batch", "supports_webhooks", "webhook_signature_header", "webhook_signature_algorithm"]

/-- The JSON form: the fields, and after them the free-form members. -/
def toJson (m : SystemMetadata) : Value :=
  .object ([("supports_batch", .bool m.supportsBatch),
      ("supports_webhooks", .bool m.supportsWebhooks)]
    ++ optionalMember "webhook_signature_header" m.signatureHeader
    ++ optionalMember "webhook_signature_algorithm" m.signatureAlgorithm ++ m.extra)

/-- Reads metadata from an object; members without a field of their own are free-form. -/
def ofJson? : Value → Option SystemMetadata
  | .object members => do
    let fs ← Decode.known fieldNames members
    let supportsBatch ← Decode.fieldOr fs "supports_batch" Decode.bool false
    let supportsWebhooks ← Decode.fieldOr fs "supports_webhooks" Decode.bool false
    let signatureHeader ←
      Decode.fieldOr fs "webhook_signature_header" (Decode.optional Decode.text) none
    let signatureAlgorithm ←
      Decode.fieldOr fs "webhook_signature_algorithm" (Decode.optional Decode.text) none
    let extra ← Decode.dict Decode.any
      (.object (members.filter fun m => !fieldNames.contains m.1))
    pure { supportsBatch, supportsWebhooks, signatureHeader, signatureAlgorithm, extra }
  | _ => none

end SystemMetadata

namespace TransformParams

def toJson (p : TransformParams) : Value :=
  .object [("rules", .array (p.rules.map Rule.toJson)),
    ("external_schemas", .object p.externalSchemas)]

def ofJson? (v : Value) : Option TransformParams := do
  let fs ← Decode.record ["rules", "external_schemas"] v
  let rules ← Decode.fieldOr fs "rules" (Decode.list Rule.ofJson?) []
  let externalSchemas ← Decode.fieldOr fs "external_schemas" (Decode.dict Decode.any) []
  pure { rules, externalSchemas }

end TransformParams

namespace SystemConfig

/-- The JSON form, its members in the order in which the registry file shows them. -/
def toJson (c : SystemConfig) : Value :=
  .object [("system_id", .string c.systemId), ("system_type", .string c.systemType),
    ("name", .string c.name), ("connection_params", .object c.connectionParams),
    ("auth_params", .object c.authParams), ("transform_params", c.transformParams.toJson),
    ("enabled", .bool c.enabled), ("metadata", c.metadata.toJson)]

def ofJson? (v : Value) : Option SystemConfig := do
  let fs ← Decode.record ["system_id", "system_type", "name", "connection_params", "auth_params",
    "transform_params", "enabled", "metadata"] v
  let systemId ← Decode.field fs "system_id" Decode.text
  let systemType ← Decode.field fs "system_type" Decode.text
  let name ← Decode.field fs "name" Decode.text
  let connectionParams ← Decode.fieldOr fs "connection_params" (Decode.dict Decode.any) []
  let authParams ← Decode.fieldOr fs "auth_params" (Decode.dict Decode.any) []
  let transformParams ← Decode.fieldOr fs "transform_params" TransformParams.ofJson? {}
  let enabled ← Decode.fieldOr fs "enabled" Decode.bool true
  let metadata ← Decode.fieldOr fs "metadata" SystemMetadata.ofJson? {}
  pure { systemId, systemType, name, connectionParams, authParams, transformParams, enabled,
         metadata }

end SystemConfig
end Interchange
