import Interchange.Time
import Interchange.Error

/-! # Circuit breakers

A breaker lets calls to one system through while the circuit is closed and counts consecutive
failures. At the threshold the circuit opens and calls are refused. Once the timeout has passed
since the last failure the circuit is half open: one trial call is let through, and its outcome
closes the circuit or opens it again.

A call that is let through holds a `Permit`, which is given back by `succeed`, `fail` or `release`.
Every function answers with the transitions that it made, in their order.
-/

namespace Interchange

open Json

/-- When a circuit opens and how long it stays open. -/
structure BreakerConfig where
  /-- Consecutive failures that open the circuit. -/
  failureThreshold : Nat := 5
  /-- How long an open circuit waits after its last failure. -/
  resetTimeout : Duration := .ofSeconds 60
deriving DecidableEq, Repr

namespace BreakerConfig

/-- Refuses a threshold of zero and a timeout of zero. -/
def validate (c : BreakerConfig) : Result Unit :=
  if c.failureThreshold = 0 then
    .error (.configuration "failure_threshold must be greater than 0")
  else if c.resetTimeout.nanos = 0 then
    .error (.configuration "reset_timeout must be greater than 0")
  else .ok ()

def toJson (c : BreakerConfig) : Value :=
  .object [("failure_threshold", .ofNat c.failureThreshold),
    ("reset_timeout", c.resetTimeout.toJson)]

def ofJson? (v : Value) : Option BreakerConfig := do
  let fs ← Decode.record ["failure_threshold", "reset_timeout"] v
  let failureThreshold ← Decode.field fs "failure_threshold" (Decode.natBelow (Nat.pow 2 32))
  let resetTimeout ← Decode.field fs "reset_timeout" Duration.ofJson?
  pure { failureThreshold, resetTimeout }

end BreakerConfig
inductive CircuitState where
  | closed
  | opened
  | halfOpen
deriving DecidableEq, Repr

def CircuitState.name : CircuitState → String
  | .closed => "closed"
  | .opened => "open"
  | .halfOpen => "half_open"

def CircuitState.ofJson? : Value → Option CircuitState :=
  Decode.choice [("closed", .closed), ("open", .opened), ("half_open", .halfOpen)]

/-- Why a circuit changed its state. -/
inductive TransitionReason where
  | thresholdReached
  | timeoutElapsed
  | trialSucceeded
  | trialFailed
  | manualReset
deriving DecidableEq, Repr

def TransitionReason.text : TransitionReason → String
  | .thresholdReached => "failure threshold reached"
  | .timeoutElapsed => "reset timeout elapsed"
  | .trialSucceeded => "trial call succeeded"
  | .trialFailed => "trial call failed"
  | .manualReset => "manual reset"

/-- A change of state; the failure count is the one before the change. -/
structure Transition where
  source : CircuitState
  target : CircuitState
  failureCount : Nat
  reason : TransitionReason
deriving DecidableEq, Repr

def Transition.toJson (breaker : String) (t : Transition) : Value :=
  .object [("breaker", .string breaker), ("from", .string t.source.name),
    ("to", .string t.target.name), ("failure_count", .ofNat t.failureCount),
    ("reason", .string t.reason.text)]

/-- The admission of one call. -/
structure Permit where
  /-- The call decides whether a half-open circuit closes. -/
  trial : Bool
deriving DecidableEq, Repr

structure Breaker where
  name : String
  config : BreakerConfig
  state : CircuitState := .closed
  failureCount : Nat := 0
  lastFailure : Option Instant := none
  trialInFlight : Bool := false
  transitionCount : Nat := 0
deriving DecidableEq, Repr

namespace Breaker

def maxFailures : Nat := Nat.pow 2 32 - 1

/-- Changes the state. The trial slot becomes free, and a closed circuit starts to count anew. -/
def transition (b : Breaker) (target : CircuitState) (reason : TransitionReason) :
    Breaker × List Transition :=
  ({ b with
      state := target
      failureCount := if target = .closed then 0 else b.failureCount
      trialInFlight := false
      transitionCount := b.transitionCount + 1 },
    [⟨b.state, target, b.failureCount, reason⟩])

/-- Whether an open circuit has waited longer than its timeout. -/
def timeoutElapsed (b : Breaker) (now : Instant) : Bool :=
  b.state == .opened && match b.lastFailure with
    | none => true
    | some at' => b.config.resetTimeout.nanos < now - at'

/-- Looks at the breaker; an open circuit that has waited long enough becomes half open. -/
def observe (b : Breaker) (now : Instant) : Breaker × List Transition :=
  if b.timeoutElapsed now then b.transition .halfOpen .timeoutElapsed else (b, [])

def acquire (b : Breaker) (now : Instant) : Option Permit × Breaker × List Transition :=
  let (b, ts) := b.observe now
  match b.state with
  | .closed => (some ⟨false⟩, b, ts)
  | .opened => (none, b, ts)
  | .halfOpen =>
    if b.trialInFlight then (none, b, ts)
    else (some ⟨true⟩, { b with trialInFlight := true }, ts)

/-- Asks to let a call through; the error of a refusal names the breaker. -/
def grant (b : Breaker) (now : Instant) : Result Permit × Breaker × List Transition :=
  let (permit, after, ts) := b.acquire now
  (match permit with
    | some p => .ok p
    | none => .error (.circuitOpen b.name), after, ts)

def succeed (b : Breaker) (p : Permit) : Breaker × List Transition :=
  let b := { b with failureCount := 0 }
  if p.trial ∧ b.state = .halfOpen then b.transition .closed .trialSucceeded else (b, [])

def fail (b : Breaker) (now : Instant) (p : Permit) : Breaker × List Transition :=
  let b := { b with
    failureCount := min (b.failureCount + 1) maxFailures
    lastFailure := some now }
  match b.state with
  | .halfOpen => if p.trial then b.transition .opened .trialFailed else (b, [])
  | .closed =>
    if b.config.failureThreshold ≤ b.failureCount then b.transition .opened .thresholdReached
    else (b, [])
  | .opened => (b, [])

def release (b : Breaker) (p : Permit) : Breaker :=
  if p.trial ∧ b.state = .halfOpen then { b with trialInFlight := false } else b

def reset (b : Breaker) : Breaker × List Transition :=
  let (b, ts) := if b.state = .closed then (b, []) else b.transition .closed .manualReset
  ({ b with failureCount := 0 }, ts)

def stats (b : Breaker) : Value :=
  .object [("name", .string b.name), ("state", .string b.state.name),
    ("failure_count", .ofNat b.failureCount),
    ("last_failure_time", .ofText? (b.lastFailure.map Instant.rfc3339)),
    ("transition_count", .ofNat b.transitionCount)]

end Breaker
end Interchange
