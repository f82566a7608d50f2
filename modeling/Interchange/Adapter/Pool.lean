import Interchange.Adapter.Peer
import Interchange.System.Config
import Interchange.Text.Lowercase
import Interchange.Text.Shown

/-! # Adapters in use

Adapters are made by the type of their system when they are first needed and kept from then on. Who
holds an adapter connects it before use.
-/

namespace Interchange

/-- An adapter in use, as its callers hold it. -/
structure Adapter where
  systemId : String
  /-- Tells adapters apart that were made for the same system one after the other. -/
  number : Nat
deriving DecidableEq, Repr

namespace Adapter

def shown (a : Adapter) : String :=
  "AdapterHandle \x7b system_id: " ++ Text.shown a.systemId ++ ", .. \x7d"

end Adapter

/-- The types of adapters, the adapters in use and the systems behind them. -/
structure AdapterPool where
  /-- What making an adapter checks, by the type of system in lower case. -/
  types : Dict (SystemConfig → Result Unit) := []
  /-- The adapters in use, by system. -/
  adapters : Dict Adapter := []
  /-- How many adapters have been made. -/
  made : Nat := 0
  /-- How many tickets have been given out to callers that wait for an answer. -/
  tickets : Nat := 0
  links : Dict Link := []
  peers : String → Peer

namespace AdapterPool

/-- Adds a type of adapters, in place of one of the same name. -/
def register (p : AdapterPool) (systemType : String) (check : SystemConfig → Result Unit) :
    AdapterPool :=
  { p with types := p.types.insert (Text.lowercase systemType) check }

def supports (p : AdapterPool) (systemType : String) : Bool :=
  p.types.contains (Text.lowercase systemType)

def link (p : AdapterPool) (systemId : String) : Link := (p.links.get? systemId).getD {}

def setLink (p : AdapterPool) (systemId : String) (f : Link → Link) : AdapterPool :=
  { p with links := p.links.insert systemId (f (p.link systemId)) }

/-- Something happens to the adapter of a system. -/
def undergo (p : AdapterPool) (systemId : String) (e : AdapterEvent) : AdapterPool :=
  p.setLink systemId (·.undergo (p.peers systemId) e)

def isConnected (p : AdapterPool) (systemId : String) : Bool × AdapterPool :=
  let p := p.undergo systemId .asked
  ((p.link systemId).connected, p)

/-- The adapter of a system, made now if none is in use. -/
def obtain (p : AdapterPool) (c : SystemConfig) : Result (Adapter × AdapterPool) :=
  match p.adapters.get? c.systemId with
  | some a => .ok (a, p)
  | none => match p.types.get? (Text.lowercase c.systemType) with
    | none => .error (.unsupportedSystemType c.systemType)
    | some check => match check c with
      | .error e => .error e
      | .ok _ =>
        let a : Adapter := ⟨c.systemId, p.made⟩
        let p := p.undergo c.systemId (.done (.build c.systemType))
        .ok (a, { p with adapters := p.adapters.insert c.systemId a, made := p.made + 1 })

def has (p : AdapterPool) (systemId : String) : Bool := p.adapters.contains systemId

/-- Lets go of the adapter of a system and closes its connection; says whether there was one. -/
def evict (p : AdapterPool) (systemId : String) : Bool × AdapterPool :=
  if p.has systemId then
    let (connected, p) := { p with adapters := p.adapters.erase systemId }.isConnected systemId
    (true, if connected then p.undergo systemId (.done .disconnect) else p)
  else (false, p)

def newTicket (p : AdapterPool) : Nat × AdapterPool :=
  (p.tickets, { p with tickets := p.tickets + 1 })

/-- What systems were asked since `before`, by system. -/
def callsSince (p before : AdapterPool) : Dict (List AdapterCall) :=
  p.links.filterMap fun l =>
    let new := l.2.calls.drop (before.link l.1).calls.length
    if new.isEmpty then none else some (l.1, new)

def shown (p : AdapterPool) : String :=
  "AdapterFactory \x7b supported_types: " ++ Text.shownList (Dict.keys p.types) ++ ", cached: "
    ++ toString p.adapters.length ++ " \x7d"

end AdapterPool
end Interchange
