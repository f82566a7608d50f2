import Interchange.Adapter.Pool
import Interchange.Breaker.Registry
import Interchange.Call.Line
import Interchange.Monitor.Event
import Interchange.Security.Manager
import Interchange.System.Registry
import Interchange.Transform.Transformer

/-! # The gateway

All that calls through the gateway share, and the stages of a call that need no system: the
configuration of the system, its adapter and its transformer. A call goes on without a break up to a
point where it may have to wait: for the registry and the secrets while they are written to, for its
turn, and for whatever answers from outside.
-/

namespace Interchange

open Json

/-- A provider of credentials in use, as its callers hold it. -/
structure Issuer where
  systemId : String
  /-- Tells providers apart that were in use for the same system one after the other. -/
  number : Nat
deriving DecidableEq, Repr

/-- What callers take turns in. -/
inductive Seat where
  | connecting (a : Adapter)
  | issuing (i : Issuer)
deriving DecidableEq, Repr

/-- What calls are held up at by others who use it. -/
inductive Point where
  | registry
  | secrets
  /-- An adapter that takes its time to say whether it is connected. -/
  | status (systemId : String)
deriving DecidableEq, Repr

/-- What calls through the gateway share. -/
structure Gateway where
  registry : Registry := {}
  files : Files := {}
  security : Security
  /-- The providers that were let go of, by system and in that order, which callers may still
  hold. -/
  retired : Dict (List Provider) := []
  schemas : SchemaRegistry := {}
  transformers : Transformers := []
  adapters : AdapterPool
  breakers : Breakers := {}
  endpoints : TokenEndpoints := {}
  line : Line Seat := {}
  /-- Where no call gets through at the moment. -/
  held : List Point := []
  now : Instant
  /-- What monitoring was told, oldest first. -/
  events : List MonitorEvent := []

/-- A call through the gateway, which may fail. -/
abbrev GatewayCall (α : Type) := ExceptT Error (Call Gateway) α

namespace Gateway

variable {α : Type}

def step (f : Gateway → Result α × Gateway) : GatewayCall α := ExceptT.mk (Call.step f)

def change (f : Gateway → Gateway) : GatewayCall Unit := ExceptT.lift (Call.change f)

def look (f : Gateway → α) : GatewayCall α := ExceptT.lift (Call.look f)

/-- Waits; `f` is run when the call is given up here. -/
def await (ready : Gateway → Bool) (f : Gateway → Gateway := id) : GatewayCall Unit :=
  ExceptT.lift (Call.await ready f)

def given (r : Result α) : GatewayCall α := ExceptT.mk (pure r)

/-- Runs a call and goes on with its result, error or not; `f` is run when it is given up. -/
def attempt (body : GatewayCall α) (f : Gateway → Gateway) : GatewayCall (Result α) :=
  ExceptT.lift (Call.onAbandon f body.run)

/-- Waits until the others let the call through. -/
def pass (p : Point) : GatewayCall Unit := await fun g => !g.held.contains p

def enterLine (s : Seat) (g : Gateway) : Nat × Gateway :=
  let (ticket, line) := g.line.enter s
  (ticket, { g with line })

def leaveLine (s : Seat) (ticket : Nat) (g : Gateway) : Gateway :=
  { g with line := g.line.leave s ticket }

def inTurn (s : Seat) (body : GatewayCall α) : GatewayCall α := do
  let ticket ← ExceptT.lift (Call.step (enterLine s))
  await (fun g => g.line.hasTurn s ticket) (leaveLine s ticket)
  let r ← attempt body (leaveLine s ticket)
  change (leaveLine s ticket)
  given r

def emit (e : MonitorEvent) (g : Gateway) : Gateway := { g with events := g.events ++ [e] }

def setLink (systemId : String) (f : Link → Link) (g : Gateway) : Gateway :=
  { g with adapters := g.adapters.setLink systemId f }

def find (g : Gateway) (systemId : String) : Result SystemConfig :=
  match g.registry.get? systemId with
  | none => .error (Registry.unknown systemId)
  | some c =>
    if c.enabled then .ok c
    else .error (.unsupportedOperation systemId "any (system is disabled)")

def lookup (systemId : String) : GatewayCall SystemConfig := do
  pass .registry
  step fun g => (g.find systemId, g)

def adapter (c : SystemConfig) (g : Gateway) : Result Adapter × Gateway :=
  match g.adapters.obtain c with
  | .error e => (.error e, g)
  | .ok (a, adapters) => (.ok a, { g with adapters })

def adapterOf (c : SystemConfig) : GatewayCall Adapter := step (adapter c)

def transformer (c : SystemConfig) (g : Gateway) : Result Transformer × Gateway :=
  match g.transformers.obtain c with
  | .error e => (.error e, g)
  | .ok (t, transformers) => (.ok t, { g with transformers })

def transformerOf (c : SystemConfig) : GatewayCall Transformer := step (transformer c)

end Gateway
end Interchange
