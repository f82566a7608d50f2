import Interchange.Call

/-! # Waiting in line

Callers who need the same thing for themselves take turns in it, in the order in which they came.
-/

namespace Interchange

/-- Those who have their turn at something or wait for it, by what it is and their tickets. -/
structure Line (κ : Type) where
  places : List (κ × Nat) := []
  /-- How many tickets have been given out. -/
  tickets : Nat := 0

namespace Line

variable {κ : Type} [DecidableEq κ]

def enter (l : Line κ) (key : κ) : Nat × Line κ :=
  (l.tickets, { places := l.places ++ [(key, l.tickets)], tickets := l.tickets + 1 })

def hasTurn (l : Line κ) (key : κ) (ticket : Nat) : Bool :=
  (l.places.find? fun p => p.1 = key) == some (key, ticket)

def leave (l : Line κ) (key : κ) (ticket : Nat) : Line κ :=
  { l with places := l.places.filter fun p => p ≠ (key, ticket) }

end Line
end Interchange
