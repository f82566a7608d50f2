import Interchange.System.Config
import Interchange.Time
import Interchange.Error

/-! # What monitoring is told

One record for every operation that ends, every webhook that is checked and every system whose
health is asked for. Who asks, and under which id, is passed on unchanged.
-/

namespace Interchange

open Json

structure RequestContext where
  requestId : String
  userId : Option String := none
  metadata : Object := []
deriving DecidableEq

namespace RequestContext

def user (c : RequestContext) (userId : String) : RequestContext := { c with userId := some userId }

def withMetadata (c : RequestContext) (k : String) (v : Value) : RequestContext :=
  { c with metadata := c.metadata.insert k v }

/-- The JSON form; an unknown user and empty metadata are left out. -/
def toJson (c : RequestContext) : Value :=
  .object ([("request_id", .string c.requestId)] ++ optionalMember "user_id" c.userId
    ++ if c.metadata.isEmpty then [] else [("metadata", .object c.metadata)])

/-- Reads a context; one without an id gets `fresh`. -/
def ofJson? (fresh : String) (v : Value) : Option RequestContext := do
  let fs ← Decode.record ["request_id", "user_id", "metadata"] v
  let requestId ← Decode.fieldOr fs "request_id" Decode.text fresh
  let userId ← Decode.fieldOr fs "user_id" (Decode.optional Decode.text) none
  let metadata ← Decode.fieldOr fs "metadata" (Decode.dict Decode.any) []
  pure { requestId, userId, metadata }

end RequestContext
inductive OperationOutcome where
  | success
  | failure (e : Error)
  /-- The caller gave the operation up. -/
  | cancelled
deriving DecidableEq, Repr

namespace OperationOutcome

def name : OperationOutcome → String
  | .success => "success"
  | .failure _ => "error"
  | .cancelled => "cancelled"

def error? : OperationOutcome → Option Error
  | .failure e => some e
  | _ => none

def ofResult {α : Type} : Result α → OperationOutcome
  | .ok _ => .success
  | .error e => .failure e

end OperationOutcome

structure OperationEvent where
  systemId : String
  operation : String
  outcome : OperationOutcome
  duration : Duration
  context : RequestContext
deriving DecidableEq

/-- A webhook whose signature has been checked. -/
structure WebhookEvent where
  systemId : String
  eventType : Option String
  verified : Bool
  payloadBytes : Nat
  requestId : String
deriving DecidableEq, Repr

structure HealthReport where
  systemId : String
  connected : Bool
  breakerState : String
  failureCount : Nat
  error : Option String
deriving DecidableEq, Repr

inductive MonitorEvent where
  | operation (e : OperationEvent)
  | webhook (e : WebhookEvent)
  | health (r : HealthReport)
deriving DecidableEq

/-- The JSON form of an operation; the duration in whole milliseconds. -/
def OperationEvent.toJson (e : OperationEvent) : Value :=
  .object [("system_id", .string e.systemId), ("operation", .string e.operation),
    ("status", .string e.outcome.name), ("duration", .ofNat e.duration.millis),
    ("request_id", .string e.context.requestId),
    ("error", .ofText? (e.outcome.error?.map Error.message)),
    ("error_kind", .ofText? (e.outcome.error?.map Error.kind)), ("context", e.context.toJson)]

def WebhookEvent.toJson (e : WebhookEvent) : Value :=
  .object [("system_id", .string e.systemId), ("event_type", .ofText? e.eventType),
    ("verified", .bool e.verified), ("payload_bytes", .ofNat e.payloadBytes),
    ("request_id", .string e.requestId)]

namespace HealthReport

/-- A system is healthy when it is connected, without an error, and its circuit is not open. -/
def healthy (r : HealthReport) : Bool :=
  r.connected && r.error.isNone && r.breakerState != "open"

def toJson (r : HealthReport) : Value :=
  .object [("system_id", .string r.systemId), ("connected", .bool r.connected),
    ("breaker_state", .string r.breakerState), ("failure_count", .ofNat r.failureCount),
    ("error", .ofText? r.error)]

end HealthReport

/-- The JSON form of a record: what it is about, and the record. -/
def MonitorEvent.toJson : MonitorEvent → Value
  | .operation e => .array [.string "operation", e.toJson]
  | .webhook e => .array [.string "webhook", e.toJson]
  | .health r => .array [.string "health", r.toJson]

end Interchange
