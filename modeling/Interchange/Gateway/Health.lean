import Interchange.Gateway.Invoke

/-! # Health -/

namespace Interchange
namespace Gateway

def health (systemId : String) : GatewayCall HealthReport := do
  let c ← lookup systemId
  let adapter ← adapterOf c
  let r ← attempt (ensureConnected adapter) id
  let breaker ← ExceptT.lift (Call.step fun g =>
    let (b, _) := (g.breakers.get systemId).observe g.now
    (b, { g with breakers := g.breakers.put systemId b }))
  let report : HealthReport :=
    { systemId, connected := ← status systemId, breakerState := breaker.state.name,
      failureCount := breaker.failureCount,
      error := match r with
        | .ok _ => none
        | .error e => some e.message }
  change (emit (.health report))
  pure report

def shown (g : Gateway) : String :=
  "Gateway \x7b adapters: " ++ g.adapters.shown ++ ", security: " ++ g.security.shown
    ++ ", breakers: " ++ toString g.breakers.all.length ++ ", .. \x7d"

end Gateway
end Interchange
