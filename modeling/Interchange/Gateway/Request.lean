import Interchange.Gateway.Webhook
import Interchange.Gateway.Health
import Interchange.Json.Members

/-! # Requests

Everything that callers ask of systems through the gateway, as data, and the calls that answer it.
-/

namespace Interchange

open Json

/-- A request to the gateway about a system. -/
inductive GatewayRequest where
  /-- Have the system execute an operation. -/
  | route (operation : String) (params : Option Value) (context : RequestContext)
  /-- Have the system execute an operation for every item. -/
  | batch (operation : String) (items : List Value) (context : RequestContext)
  /-- Ask the system to deliver webhooks. -/
  | registerWebhook (eventType callbackUrl : String) (context : RequestContext)
  /-- Let in a webhook that the system delivers. -/
  | handleWebhook (payload : List UInt8) (headers : Dict String) (context : RequestContext)
  /-- Ask how the system is. -/
  | health

inductive GatewayAnswer where
  | value (v : Value)
  | health (r : HealthReport)

namespace GatewayAnswer

def toJson : GatewayAnswer → Value
  | .value v => v
  | .health r => r.toJson

end GatewayAnswer

namespace GatewayRequest

def call (systemId : String) : GatewayRequest → GatewayCall GatewayAnswer
  | .route operation params context => .value <$> Gateway.route systemId operation params context
  | .batch operation items context => do
    return .value (.array (← Gateway.batch systemId operation items context))
  | .registerWebhook eventType callbackUrl context =>
    .value <$> Gateway.registerWebhook systemId eventType callbackUrl context
  | .handleWebhook payload headers context =>
    .value <$> Gateway.handleWebhook systemId payload headers context
  | .health => .health <$> Gateway.health systemId

/-- Reads a request from a record, by its name; a context without an id, or no context at all, gets
`fresh`. The payload and the headers are those of a webhook. -/
def ofJson? (fresh name : String) (payload : List UInt8) (headers : Dict String) (v : Value) :
    Option GatewayRequest := do
  let context ← match v.at "context" with
    | .null => some { requestId := fresh }
    | c => RequestContext.ofJson? fresh c
  match name with
  | "route" => pure (.route (v.str "operation") (v.get? "params") context)
  | "batch" => pure (.batch (v.str "operation") (v.list "items") context)
  | "register_webhook" =>
    pure (.registerWebhook (v.str "event_type") (v.str "callback_url") context)
  | "handle_webhook" => pure (.handleWebhook payload headers context)
  | "health" => pure .health
  | _ => none

end GatewayRequest
end Interchange
