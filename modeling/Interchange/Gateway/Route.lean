import Interchange.Gateway.Invoke

/-! # Routing

A request goes to its system in the system's own shape and its answer comes back in the canonical
one. A batch goes in one call where the system takes batches, and item by item where it does not.
Monitoring is told once how each call ended.
-/

namespace Interchange

open Json

namespace Gateway

variable {α : Type}

/-- Runs a call and tells monitoring how it ended. -/
def observed (systemId operation : String) (context : RequestContext) (body : GatewayCall α) :
    GatewayCall α := do
  let started ← look (·.now)
  let report (outcome : OperationOutcome) (g : Gateway) : Gateway :=
    g.emit (.operation { systemId, operation, outcome, duration := ⟨g.now - started⟩, context })
  let r ← attempt body (report .cancelled)
  change (report (.ofResult r))
  given r

/-- What a call takes to its system. -/
structure Prepared (α : Type) where
  adapter : Adapter
  credentials : Credentials
  transformer : Transformer
  payload : α

/-- Gets ready what a call takes to a system, with the payload in the system's own shape. -/
def prepare (c : SystemConfig) (reshape : Transformer → SchemaRegistry → Result α) :
    GatewayCall (Prepared α) := do
  let adapter ← adapterOf c
  let credentials ← credentialsOf c
  let transformer ← transformerOf c
  let schemas ← look (·.schemas)
  let payload ← given (reshape transformer schemas)
  pure { adapter, credentials, transformer, payload }

/-- The payload of a request; parameters that are missing are an empty object. -/
def outbound (params : Option Value) (t : Transformer) (schemas : SchemaRegistry) : Result Value :=
  t.toExternal schemas (params.getD (.object []))

/-- What a request goes through on its way and back. -/
def pipeline (systemId operation : String) (params : Option Value) : GatewayCall Value := do
  let c ← lookup systemId
  let p ← prepare c (outbound params)
  let answer ← invoke c p.adapter operation p.payload p.credentials
  let schemas ← look (·.schemas)
  given (p.transformer.fromResult schemas answer)

def route (systemId operation : String) (params : Option Value) (context : RequestContext) :
    GatewayCall Value :=
  observed systemId operation context (pipeline systemId operation params)

def batchOperation (operation : String) : String := "batch_" ++ operation

def batchResults : Value → List Value
  | .array items => items
  | .object members =>
    match Dict.get? members "results" with
    | some (.array items) => items
    | _ =>
      let members := Dict.erase members "results"
      match Dict.get? members "items" with
      | some (.array items) => items
      | _ => [.object (Dict.erase members "items")]
  | v => [v]

/-- Routes items one after another, up to the first error. -/
def routeAll (systemId operation : String) (context : RequestContext) :
    List Value → GatewayCall (List Value)
  | [] => pure []
  | item :: rest => do
    let v ← route systemId operation (some item) context
    let vs ← routeAll systemId operation context rest
    pure (v :: vs)

def batchCall (c : SystemConfig) (operation : String) (items : List Value) :
    GatewayCall (List Value) := do
  let p ← prepare c fun t schemas => items.mapM (t.toExternal schemas)
  let answer ← invoke c p.adapter (batchOperation operation) (.object [("items", .array p.payload)])
    p.credentials
  let schemas ← look (·.schemas)
  given (p.transformer.fromResults schemas (batchResults answer))

def batch (systemId operation : String) (items : List Value) (context : RequestContext) :
    GatewayCall (List Value) :=
  observed systemId (batchOperation operation) context do
    let c ← lookup systemId
    if c.metadata.supportsBatch then batchCall c operation items
    else routeAll systemId operation context items

end Gateway
end Interchange
