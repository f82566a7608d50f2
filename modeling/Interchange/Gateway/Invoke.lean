import Interchange.Gateway.Credentials

/-! # Asking a system

An adapter is connected before it is used; while one caller connects it, the others wait for the
outcome. Both happen under the breaker of the system, which learns how the attempt ended.
-/

namespace Interchange

open Json

namespace Gateway

variable {α : Type}

/-- Something happens to the adapter of a system. -/
def undergo (systemId : String) (e : AdapterEvent) (g : Gateway) : Gateway :=
  { g with adapters := g.adapters.undergo systemId e }

/-- Puts a question to a system; the reply, and the ticket of a caller that has to wait for it. -/
def question (systemId : String) (q : AdapterCall) (g : Gateway) :
    (Option (Result Value) × Nat) × Gateway :=
  let g := undergo systemId (.done q) g
  match (g.adapters.peers systemId).reply (g.adapters.link systemId).calls with
  | .now r => ((some r, 0), undergo systemId (.answered q r) g)
  | .later =>
    let (ticket, adapters) := g.adapters.newTicket
    ((none, ticket), setLink systemId (·.enqueue ticket) { g with adapters })

def takeAnswer (systemId : String) (q : AdapterCall) (ticket : Nat) (g : Gateway) :
    Result Value × Gateway :=
  let r := ((g.adapters.link systemId).take? ticket).1.getD (.ok .null)
  (r, undergo systemId (.answered q r) (setLink systemId (fun l => (l.take? ticket).2) g))

def ask (systemId : String) (q : AdapterCall) : GatewayCall Value := do
  match ← ExceptT.lift (Call.step (question systemId q)) with
  | (some r, _) => given r
  | (none, ticket) =>
    await (fun g => (g.adapters.link systemId).answered ticket)
      (setLink systemId (·.abandon ticket))
    step (takeAnswer systemId q ticket)

/-- What the adapter of a system says of its connection when it is asked. -/
def isConnected (systemId : String) (g : Gateway) : Bool × Gateway :=
  let (connected, adapters) := g.adapters.isConnected systemId
  (connected, { g with adapters })

def status (systemId : String) : GatewayCall Bool := do
  pass (.status systemId)
  ExceptT.lift (Call.step (isConnected systemId))

def connect (a : Adapter) : GatewayCall Unit := do
  unless ← status a.systemId do
    unless (← ask a.systemId .connect) = .bool true do
      throw (.adapter a.systemId "adapter reported connect failure")

/-- Sees to it that an adapter is connected, in turn with other callers. -/
def ensureConnected (a : Adapter) : GatewayCall Unit := do
  unless ← status a.systemId do
    inTurn (.connecting a) (connect a)

def setBreaker (systemId : String) (f : Breaker → Breaker) (g : Gateway) : Gateway :=
  { g with breakers := g.breakers.put systemId (f (g.breakers.get systemId)) }

/-- Asks the breaker of a system to let a call through. -/
def enter (systemId : String) : GatewayCall Permit :=
  step fun g =>
    let (r, b, _) := (g.breakers.get systemId).grant g.now
    (r, { g with breakers := g.breakers.put systemId b })

/-- Tells the breaker of a system how a call ended. -/
def settle (systemId : String) (p : Permit) (r : Result α) (g : Gateway) : Gateway :=
  setBreaker systemId (fun b => match r with
    | .ok _ => (b.succeed p).1
    | .error _ => (b.fail g.now p).1) g

def guarded (systemId : String) (body : GatewayCall α) : GatewayCall α := do
  let p ← enter systemId
  let r ← attempt body (setBreaker systemId (·.release p))
  change (settle systemId p r)
  given r

def invoke (c : SystemConfig) (a : Adapter) (operation : String) (params : Value)
    (credentials : Credentials) : GatewayCall Value :=
  guarded c.systemId do
    ensureConnected a
    ask a.systemId (.execute operation params credentials)

end Gateway
end Interchange
