import Interchange.Breaker.Run
import Interchange.Log.Record

/-! # What breakers log

The records of a breaker's making, of failed and refused calls, of calls given up, and of changes of
state.
-/

namespace Interchange
namespace Breaker

open Json

def record (b : Breaker) (level : LogLevel) (message : String)
    (fields : List (String × Value) := []) : LogRecord :=
  { level, message, fields := ("breaker", .string b.name) :: fields
    source := "switchyard::core::breaker::circuit" }

def made (b : Breaker) : LogRecord :=
  b.record .debug "Creating circuit breaker"
    [("failure_threshold", .ofNat b.config.failureThreshold),
      ("reset_timeout_ms", .ofNat b.config.resetTimeout.millis)]

def changed (b : Breaker) (t : Transition) : List LogRecord :=
  [b.record .warn "Circuit breaker state transition" [("from", .string t.source.name),
      ("to", .string t.target.name), ("failure_count", .ofNat t.failureCount)],
    b.record .debug "Transition reason" [("reason", .string t.reason.text)]]

def refused (b : Breaker) : LogRecord :=
  b.record .debug (if b.state = .opened then "Circuit open, rejecting call"
    else "Half-open trial in flight, rejecting call")

namespace Run

def records (r : Run) (e : Event) : List LogRecord :=
  let changes := (r.step e).2.flatMap r.breaker.changed
  match e with
  | .start call => changes ++ (let s := r.start call; if s.1 then [] else [s.2.1.breaker.refused])
  | .fail call =>
    if r.flights.contains call then
      r.breaker.record .warn "Call through circuit breaker failed" [] :: changes
    else []
  | .cancel call => match r.flights.get? call with
    | some f =>
      if f.permit.trial ∧ r.breaker.state = .halfOpen then
        [r.breaker.record .info "Half-open trial cancelled, slot released"]
      else []
    | none => []
  | _ => changes

def recordsOf (r : Run) : List Event → List LogRecord
  | [] => []
  | e :: es => r.records e ++ recordsOf (r.step e).1 es

end Run
end Breaker
end Interchange
