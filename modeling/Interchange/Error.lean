/-! # Errors

What can go wrong in the gateway, by cause; its name for monitoring and its text.
-/

namespace Interchange

/-- A cause of failure. -/
inductive Error where
  | notFound (what : String)
  | unsupportedOperation (systemId operation : String)
  | unsupportedSystemType (systemType : String)
  | schemaViolation (entityType : String) (violations : List String)
  | transformation (detail : String)
  | circuitOpen (systemId : String)
  | decryption (detail : String)
  | authentication (detail : String)
  | adapter (systemId detail : String)
  | configuration (detail : String)
  | storage (detail : String)
  | validation (detail : String)
  | serialization (detail : String)
  | files (detail : String)
deriving DecidableEq, Repr

namespace Error

def kind : Error → String
  | .notFound _ => "NOT_FOUND"
  | .unsupportedOperation _ _ => "UNSUPPORTED_OPERATION"
  | .unsupportedSystemType _ => "UNSUPPORTED_SYSTEM_TYPE"
  | .schemaViolation _ _ => "SCHEMA_VALIDATION"
  | .transformation _ => "TRANSFORMATION"
  | .circuitOpen _ => "CIRCUIT_OPEN"
  | .decryption _ => "DECRYPTION"
  | .authentication _ => "AUTH"
  | .adapter _ _ => "ADAPTER"
  | .configuration _ => "CONFIGURATION"
  | .storage _ => "STORAGE"
  | .validation _ => "VALIDATION"
  | .serialization _ => "SERIALIZATION"
  | .files _ => "IO"

/-- The error of a kind with a detail, for a system; the violations are those of a schema. An
unknown kind is an error of the system's adapter. -/
def ofKind (kind systemId detail : String) (violations : List String) : Error :=
  match kind with
  | "NOT_FOUND" => .notFound detail
  | "UNSUPPORTED_OPERATION" => .unsupportedOperation systemId detail
  | "UNSUPPORTED_SYSTEM_TYPE" => .unsupportedSystemType detail
  | "SCHEMA_VALIDATION" => .schemaViolation detail violations
  | "TRANSFORMATION" => .transformation detail
  | "CIRCUIT_OPEN" => .circuitOpen detail
  | "DECRYPTION" => .decryption detail
  | "AUTH" => .authentication detail
  | "CONFIGURATION" => .configuration detail
  | "STORAGE" => .storage detail
  | "VALIDATION" => .validation detail
  | "SERIALIZATION" => .serialization detail
  | "IO" => .files detail
  | _ => .adapter systemId detail

def message : Error → String
  | .notFound what => "Not found: " ++ what
  | .unsupportedOperation systemId operation =>
    "Operation '" ++ operation ++ "' is not supported by system '" ++ systemId ++ "'"
  | .unsupportedSystemType systemType => "Unsupported system type: " ++ systemType
  | .schemaViolation entityType violations =>
    "Schema validation failed for entity '" ++ entityType ++ "': " ++ "; ".intercalate violations
  | .transformation detail => "Transformation error: " ++ detail
  | .circuitOpen systemId => "Circuit breaker is open for system '" ++ systemId ++ "'"
  | .decryption detail => "Decryption error: " ++ detail
  | .authentication detail => "Authentication error: " ++ detail
  | .adapter systemId detail => "Adapter error (" ++ systemId ++ "): " ++ detail
  | .configuration detail => "Configuration error: " ++ detail
  | .storage detail => "Storage error: " ++ detail
  | .validation detail => "Validation error: " ++ detail
  | .serialization detail => "Serialization error: " ++ detail
  | .files detail => "I/O error: " ++ detail

end Error

/-- A result that may be an error of the gateway. -/
abbrev Result (α : Type) := Except Error α

end Interchange
