import Interchange.Gateway.Route

/-! # Webhooks

A system is asked to deliver webhooks, and a webhook that it delivers is let in when its signature
is right.
-/

namespace Interchange

open Json

namespace Gateway

def webhookOperation : String := "register_webhook"

def registerWebhook (systemId eventType callbackUrl : String) (context : RequestContext) :
    GatewayCall Value :=
  observed systemId webhookOperation context do
    let c ← lookup systemId
    unless c.metadata.supportsWebhooks do
      throw (.unsupportedOperation systemId webhookOperation)
    let adapter ← adapterOf c
    let credentials ← credentialsOf c
    invoke c adapter webhookOperation
      (.object [("callback_url", .string callbackUrl), ("event_type", .string eventType)])
      credentials

def eventType? (payload : Value) : Option String :=
  ["event_type", "type", "event"].findSome? fun k => (payload.get? k).bind Value.text?

def payload? (bytes : List UInt8) : Option Value := (Bytes.toText? bytes).bind parse?

def verified (systemId : String) (m : SystemMetadata) (payload : List UInt8)
    (headers : Dict String) : GatewayCall Bool := do
  let _ ← given (SecretStore.keyOf systemId SecretKey.webhookCategory Security.webhookSecretName)
  pass .secrets
  step fun g => (g.security.verifyWebhook systemId m payload headers, g)

/-- Lets a webhook in: its payload in the canonical shape, if its signature is right. -/
def handleWebhook (systemId : String) (payload : List UInt8) (headers : Dict String)
    (context : RequestContext) : GatewayCall Value := do
  let c ← lookup systemId
  let verified ← verified systemId c.metadata payload headers
  let value := payload? payload
  change (emit (.webhook { systemId, eventType := value.bind eventType?, verified,
                           payloadBytes := payload.length, requestId := context.requestId }))
  unless verified do
    throw (.authentication ("Invalid webhook signature for system '" ++ systemId ++ "'"))
  match value with
  | none => throw (.serialization "the payload is not JSON")
  | some v =>
    let transformer ← transformerOf c
    let schemas ← look (·.schemas)
    given (transformer.fromResult schemas v)

end Gateway
end Interchange
