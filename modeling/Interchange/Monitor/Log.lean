import Interchange.Monitor.Event
import Interchange.Log.Record

/-! # Monitoring as log records

How the records of monitoring are written to the log: a level, a message, and named fields.
-/

namespace Interchange

open Json

def OperationEvent.logRecord (e : OperationEvent) : LogRecord :=
  let fields := [("system_id", Value.string e.systemId), ("operation", .string e.operation),
    ("request_id", .string e.context.requestId), ("duration_ms", .ofNat e.duration.millis),
    ("status", .string e.outcome.name)]
  match e.outcome with
  | .success => { level := .info, message := "Gateway operation completed", fields }
  | .failure error =>
    { level := .error, message := "Gateway operation failed"
      fields := fields ++ [("kind", .string error.kind), ("error", .string error.message)] }
  | .cancelled => { level := .warn, message := "Gateway operation cancelled", fields }

def WebhookEvent.logRecord (e : WebhookEvent) : LogRecord :=
  let size := ("payload_bytes", Value.ofNat e.payloadBytes)
  let request := ("request_id", Value.string e.requestId)
  if e.verified then
    { level := .info, message := "Webhook received"
      fields := [("system_id", .string e.systemId),
        ("event_type", .string (e.eventType.getD "unknown")), size, request] }
  else
    { level := .warn, message := "Webhook rejected: invalid signature"
      fields := [("system_id", .string e.systemId), size, request] }

def HealthReport.logRecord (r : HealthReport) : LogRecord :=
  { level := .info, message := "Health check"
    fields := [("system_id", .string r.systemId), ("connected", .bool r.connected),
      ("breaker_state", .string r.breakerState), ("failure_count", .ofNat r.failureCount),
      ("healthy", .bool r.healthy), ("error", .string (r.error.getD ""))] }

def MonitorEvent.logRecord : MonitorEvent → LogRecord
  | .operation e => e.logRecord
  | .webhook e => e.logRecord
  | .health r => r.logRecord

end Interchange
