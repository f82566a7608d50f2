import Interchange.Breaker.Basic
import Interchange.Dict

/-! # One breaker for each system

Breakers are made when they are first needed and stay from then on.
-/

namespace Interchange

open Json

/-- The breakers of all systems, and the settings of new ones. -/
structure Breakers where
  config : BreakerConfig := {}
  all : Dict Breaker := []
deriving DecidableEq, Repr

/-- How many circuits are in which state. -/
structure BreakerHealth where
  closed : Nat
  opened : Nat
  halfOpen : Nat
deriving DecidableEq, Repr

namespace BreakerHealth

def healthy (h : BreakerHealth) : Bool := h.opened == 0

def toJson (h : BreakerHealth) : Value :=
  .object [("total", .ofNat (h.closed + h.opened + h.halfOpen)), ("closed", .ofNat h.closed),
    ("open", .ofNat h.opened), ("half_open", .ofNat h.halfOpen), ("healthy", .bool h.healthy)]

end BreakerHealth

namespace Breakers

def get? (bs : Breakers) (systemId : String) : Option Breaker := Dict.get? bs.all systemId

def get (bs : Breakers) (systemId : String) : Breaker :=
  (bs.get? systemId).getD { name := systemId, config := bs.config }

/-- Puts a breaker back under its system. -/
def put (bs : Breakers) (systemId : String) (b : Breaker) : Breakers :=
  { bs with all := Dict.insert bs.all systemId b }

def ensure (bs : Breakers) (systemId : String) : Breakers := bs.put systemId (bs.get systemId)

def observeAll (bs : Breakers) (now : Instant) : Breakers :=
  { bs with all := Dict.mapValues (fun b => (b.observe now).1) bs.all }

/-- The figures of every breaker, in the order of the system ids. -/
def stats (bs : Breakers) : List Value := (Dict.values bs.all).map Breaker.stats

def health (bs : Breakers) : BreakerHealth :=
  let count (s : CircuitState) := ((Dict.values bs.all).filter fun b => b.state = s).length
  ⟨count .closed, count .opened, count .halfOpen⟩

end Breakers
end Interchange
