import Interchange.Call
import Interchange.Dict

/-! # Calls in flight

A state together with the calls that work on it and have not ended. Calls are started, polled and
given up by name, in any order.
-/

namespace Interchange

/-- A state and the calls in flight on it, by name. -/
structure Flights (σ α : Type) where
  state : σ
  calls : Dict (Call σ α) := []

namespace Flights

variable {σ α : Type}

/-- Gives up a call; says whether it was in flight. -/
def cancel (f : Flights σ α) (name : String) : Bool × Flights σ α :=
  match Dict.get? f.calls name with
  | none => (false, f)
  | some c => (true, { state := c.giveUp f.state, calls := Dict.erase f.calls name })

/-- Runs a new call as far as it gets; its result, or else it is in flight. One that was in flight
under the name is then given up. -/
def start (f : Flights σ α) (name : String) (c : Call σ α) : Option α × Flights σ α :=
  match c.poll f.state with
  | (.done a, state) => (some a, { f with state })
  | (c, state) =>
    let (_, f) := { f with state }.cancel name
    (none, { f with calls := Dict.insert f.calls name c })

/-- Polls a call; its result if it has ended. Nothing happens if it is not in flight. -/
def poll (f : Flights σ α) (name : String) : Option α × Flights σ α :=
  match Dict.get? f.calls name with
  | none => (none, f)
  | some c => match c.poll f.state with
    | (.done a, state) => (some a, { state, calls := Dict.erase f.calls name })
    | (c, state) => (none, { state, calls := Dict.insert f.calls name c })

def has (f : Flights σ α) (name : String) : Bool := Dict.contains f.calls name

def change (f : Flights σ α) (g : σ → σ) : Flights σ α := { f with state := g f.state }

end Flights
end Interchange
