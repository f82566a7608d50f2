import Interchange.Breaker.Basic
import Interchange.Dict

/-! # Calls that overlap

A breaker together with the calls that it has let through and that have not ended, and the clock.
Calls end in any order, each by success, by failure or by being given up.
-/

namespace Interchange
namespace Breaker

/-- A call in flight: its permit, and the number of transitions made when it was let through, which
names the period it belongs to. -/
structure Flight where
  permit : Permit
  period : Nat
deriving DecidableEq, Repr

/-- A breaker, its clock and its calls in flight, by name. -/
structure Run where
  breaker : Breaker
  now : Instant
  flights : Dict Flight := []
deriving DecidableEq, Repr

/-- What can happen to a breaker. -/
inductive Event where
  | start (call : String)
  | succeed (call : String)
  | fail (call : String)
  | cancel (call : String)
  | advance (time : Duration)
  | observe
  | reset
deriving DecidableEq, Repr

namespace Run

/-- The end of a call in flight, as `settle` sees it; a call that is not in flight changes
nothing. -/
def finish (r : Run) (call : String) (settle : Permit → Breaker × List Transition) :
    Run × List Transition :=
  match r.flights.get? call with
  | none => (r, [])
  | some f =>
    let (b, ts) := settle f.permit
    ({ r with breaker := b, flights := r.flights.erase call }, ts)

/-- Asks to let a call through; it is in flight if it was let through. -/
def start (r : Run) (call : String) : Bool × Run × List Transition :=
  match r.breaker.acquire r.now with
  | (none, b, ts) => (false, { r with breaker := b }, ts)
  | (some p, b, ts) =>
    (true, { r with breaker := b, flights := r.flights.insert call ⟨p, b.transitionCount⟩ }, ts)

/-- Takes one event. A call that starts under the name of one in flight takes its place, and the
older one is given up. -/
def step (r : Run) : Event → Run × List Transition
  | .start call =>
    let old := r.flights.get? call
    let (admitted, r, ts) := r.start call
    match old, admitted with
    | some f, true => ({ r with breaker := r.breaker.release f.permit }, ts)
    | _, _ => (r, ts)
  | .succeed call => r.finish call fun p => r.breaker.succeed p
  | .fail call => r.finish call fun p => r.breaker.fail r.now p
  | .cancel call => r.finish call fun p => (r.breaker.release p, [])
  | .advance time => ({ r with now := r.now + time.nanos }, [])
  | .observe =>
    let (b, ts) := r.breaker.observe r.now
    ({ r with breaker := b }, ts)
  | .reset =>
    let (b, ts) := r.breaker.reset
    ({ r with breaker := b }, ts)

def steps (r : Run) (es : List Event) : Run := es.foldl (fun r e => (r.step e).1) r

def init (name : String) (config : BreakerConfig) (now : Instant) : Run :=
  { breaker := { name, config }, now }

end Run
end Breaker
end Interchange
