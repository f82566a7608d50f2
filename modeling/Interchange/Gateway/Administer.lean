import Interchange.Gateway.Credentials

/-! # Administering a gateway

What is done to a gateway beside the calls that go through it: systems are registered, secrets and
credentials are stored, and what is kept of a system is let go of. A change that is kept in a file
and fails leaves everything but the files as it was.
-/

namespace Interchange
namespace Gateway

/-! ## The registry and the files -/

/-- Takes over a changed registry, with the files that hold it. -/
def takeRegistry (g : Gateway) : Result Registry × Files → Result Unit × Gateway
  | (.error e, files) => (.error e, { g with files })
  | (.ok registry, files) => (.ok (), { g with registry, files })

def register (c : SystemConfig) (g : Gateway) (faults : ReplaceFaults := {}) :
    Result Unit × Gateway :=
  g.takeRegistry (g.registry.register g.files c faults)

def update (c : SystemConfig) (g : Gateway) (faults : ReplaceFaults := {}) :
    Result Unit × Gateway :=
  g.takeRegistry (g.registry.update g.files c faults)

def unregister (systemId : String) (g : Gateway) (faults : ReplaceFaults := {}) :
    Result Bool × Gateway :=
  match g.registry.unregister g.files systemId faults with
  | (.error e, files) => (.error e, { g with files })
  | (.ok (found, registry), files) => (.ok found, { g with registry, files })

/-- Reads the registry from its file again. -/
def reload (path : String) (g : Gateway) : Result Unit × Gateway :=
  g.takeRegistry (Registry.ofFile g.files path, g.files)

/-! ## Security -/

/-- Takes over changed security, with the files that hold it. -/
def takeSecurity (g : Gateway) : Result Security × Files → Result Unit × Gateway
  | (.error e, files) => (.error e, { g with files })
  | (.ok security, files) => (.ok (), { g with security, files })

def setSecret (nonce : List UInt8) (systemId category name secret : String) (g : Gateway)
    (faults : ReplaceFaults := {}) : Result Unit × Gateway :=
  g.takeSecurity (g.security.setSecret g.files nonce systemId category name secret faults)

def deleteSecret (systemId category name : String) (g : Gateway) (faults : ReplaceFaults := {}) :
    Result Bool × Gateway :=
  match g.security.deleteSecret g.files systemId category name faults with
  | (.error e, files) => (.error e, { g with files })
  | (.ok (found, security), files) => (.ok found, { g with security, files })

/-- Stores the parameters of a system's provider; says whether there were any. -/
def storeCredentials (nonces : Nat → List UInt8) (systemId : String)
    (entries : List (String × String)) (g : Gateway)
    (faults : Nat → ReplaceFaults := fun _ => {}) : Result Bool × Gateway :=
  let (r, security, files) := g.security.storeCredentials g.files nonces systemId entries faults
  (r, { g with security, files })

def storeWebhookSecret (nonce : List UInt8) (systemId secret : String) (g : Gateway)
    (faults : ReplaceFaults := {}) : Result Unit × Gateway :=
  g.takeSecurity (g.security.storeWebhookSecret g.files nonce systemId secret faults)

def reopen (path : String) (e : Encryptor) (g : Gateway) : Result Unit × Gateway :=
  g.takeSecurity ((SecretStore.ofFile g.files path e).map fun store => { g.security with store },
    g.files)

/-- The provider of a system, made now if none is in use. -/
def provider (c : SystemConfig) (g : Gateway) : Result Provider × Gateway :=
  match g.security.provider c with
  | .error e => (.error e, g)
  | .ok (p, security) => (.ok p, { g with security })

/-- Lets go of the provider of a system; says whether there was one. What the provider has issued is
revoked only when the callers that hold it have had their turns, so none of them sees that. -/
def rotate (systemId : String) (g : Gateway) : Bool × Gateway :=
  let (found, security) := g.security.rotate systemId
  (found, { g with
    security
    retired := match g.security.providers.get? systemId with
      | some p => g.retired.insert systemId (g.retiredOf systemId ++ [p])
      | none => g.retired })

/-! ## Adapters, transformers and breakers -/

def evictAdapter (systemId : String) (g : Gateway) : Bool × Gateway :=
  let (found, adapters) := g.adapters.evict systemId
  (found, { g with adapters })

def evictTransformer (systemId : String) (g : Gateway) : Bool × Gateway :=
  (Dict.contains g.transformers systemId,
    { g with transformers := Dict.erase g.transformers systemId })

/-- Closes the circuit of a system; says whether it had a breaker. -/
def resetBreaker (systemId : String) (g : Gateway) : Bool × Gateway :=
  match g.breakers.get? systemId with
  | none => (false, g)
  | some b => (true, { g with breakers := g.breakers.put systemId b.reset.1 })

def breakerState (systemId : String) (g : Gateway) : Option CircuitState × Gateway :=
  match g.breakers.get? systemId with
  | none => (none, g)
  | some b =>
    let b := (b.observe g.now).1
    (some b.state, { g with breakers := g.breakers.put systemId b })

def observeBreakers (g : Gateway) : Breakers × Gateway :=
  let breakers := g.breakers.observeAll g.now
  (breakers, { g with breakers })

end Gateway
end Interchange
