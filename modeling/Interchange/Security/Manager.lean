import Interchange.Auth.Factory
import Interchange.Secret.Store
import Interchange.System.Config
import Interchange.Webhook.Signature

/-! # Security

The credentials of systems and the signatures of their webhooks. A system's provider is made when
it is first needed, from the parameters in its configuration and the secrets stored for it, and is
kept until its credentials are rotated.
-/

namespace Interchange

open Json

/-- Stored secrets, the types of providers, and the providers in use. -/
structure Security where
  store : SecretStore
  factory : AuthFactory := .builtIn
  /-- The providers in use, by system. -/
  providers : Dict Provider := []
  /-- The type of provider for systems whose configuration names none. -/
  defaultType : String := AuthKind.oauth2.tag

namespace Security

def webhookSecretName : String := "secret"

/-- The text of a parameter in a configuration; null counts as missing. -/
def plainText? : Value → Option String
  | .null => none
  | .string s => some s
  | v => some v.compact

/-- The parameters of a configuration, without the type. -/
def plainParams (c : SystemConfig) : AuthParams :=
  c.authParams.filterMap fun p =>
    if p.1 = "type" then none else (plainText? p.2).map fun s => (p.1, s)

/-- The parameters of a system's provider: stored secrets go before its configuration. -/
def params (s : Security) (c : SystemConfig) : Result AuthParams := do
  let stored ← s.store.category c.systemId SecretKey.authCategory
  pure (Dict.insertAll (plainParams c) stored)

def typeOf (s : Security) (c : SystemConfig) : String := c.authType?.getD s.defaultType

def build (s : Security) (c : SystemConfig) : Result Provider := do
  let ps ← s.params c
  s.factory.create (s.typeOf c) ps

/-- The provider of a system, made now if none is in use. -/
def provider (s : Security) (c : SystemConfig) : Result (Provider × Security) :=
  match s.providers.get? c.systemId with
  | some p => .ok (p, s)
  | none => do
    let p ← s.build c
    pure (p, { s with providers := s.providers.insert c.systemId p })

def credentials (s : Security) (c : SystemConfig) (now : Instant) (endpoints : TokenEndpoints) :
    Result Credentials × Security × TokenEndpoints :=
  match s.provider c with
  | .error e => (.error e, s, endpoints)
  | .ok (p, s) =>
    let (r, p, a) := p.credentials ⟨c.systemId, now, endpoints⟩
    (r, { s with providers := s.providers.insert c.systemId p }, a.endpoints)

def hasProvider (s : Security) (systemId : String) : Bool := s.providers.contains systemId

/-- Lets go of the provider of a system; says whether there was one. -/
def rotate (s : Security) (systemId : String) : Bool × Security :=
  (s.hasProvider systemId, { s with providers := s.providers.erase systemId })

def setSecret (s : Security) (fs : Files) (nonce : List UInt8)
    (systemId category name secret : String) (faults : ReplaceFaults := {}) :
    Result Security × Files :=
  match s.store.set fs nonce systemId category name secret faults with
  | (.error e, fs) => (.error e, fs)
  | (.ok store, fs) => (.ok { s with store }, fs)

def deleteSecret (s : Security) (fs : Files) (systemId category name : String)
    (faults : ReplaceFaults := {}) : Result (Bool × Security) × Files :=
  match s.store.delete fs systemId category name faults with
  | (.error e, fs) => (.error e, fs)
  | (.ok (found, store), fs) => (.ok (found, { s with store }), fs)

/-- Stores secrets one after another, each under the nonce of its place in the list, up to the
first error. -/
def setSecrets (s : Security) (fs : Files) (systemId category : String)
    (nonces : Nat → List UInt8) (place : Nat) (entries : List (String × String))
    (faults : Nat → ReplaceFaults := fun _ => {}) : Result Unit × Security × Files :=
  match entries with
  | [] => (.ok (), s, fs)
  | (name, secret) :: rest =>
    match s.setSecret fs (nonces place) systemId category name secret (faults place) with
    | (.error e, fs) => (.error e, s, fs)
    | (.ok s, fs) => setSecrets s fs systemId category nonces (place + 1) rest faults

/-- Stores the parameters of a system's provider; says whether there were any. A provider in use is
kept. -/
def storeCredentials (s : Security) (fs : Files) (nonces : Nat → List UInt8) (systemId : String)
    (entries : List (String × String)) (faults : Nat → ReplaceFaults := fun _ => {}) :
    Result Bool × Security × Files :=
  let (r, s, fs) := s.setSecrets fs systemId SecretKey.authCategory nonces 0 entries faults
  (r.map fun _ => !entries.isEmpty, s, fs)

def storeWebhookSecret (s : Security) (fs : Files) (nonce : List UInt8)
    (systemId secret : String) (faults : ReplaceFaults := {}) : Result Security × Files :=
  s.setSecret fs nonce systemId SecretKey.webhookCategory webhookSecretName secret faults

/-- Whether a webhook is signed with the secret of its system, in the header and with the digest
that the system's metadata name. -/
def verifyWebhook (s : Security) (systemId : String) (m : SystemMetadata) (payload : List UInt8)
    (headers : Dict String) : Result Bool := do
  match ← s.store.get? systemId SecretKey.webhookCategory webhookSecretName with
  | none => pure false
  | some secret => match Webhook.signature? headers m.signatureHeader with
    | none => pure false
    | some signature => match SignatureAlgorithm.parse (m.signatureAlgorithm.getD "sha256") with
      | .error _ => pure false
      | .ok algorithm =>
        pure (Webhook.verify algorithm (Bytes.ofText secret) payload signature)

def shown (s : Security) : String :=
  "SecurityManager \x7b default_auth_type: " ++ Text.shown s.defaultType ++ ", cached_providers: "
    ++ toString s.providers.length ++ ", .. \x7d"

end Security
end Interchange
