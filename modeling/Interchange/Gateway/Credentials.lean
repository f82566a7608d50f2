import Interchange.Gateway.Basic

/-! # Credentials for calls

A call takes the provider of its system, or makes it from the secrets that are stored, and asks it
for credentials. Callers of one provider take turns, and whoever has the turn may have to wait for a
token endpoint. A provider that is let go of meanwhile goes on to serve those who hold it.
-/

namespace Interchange
namespace Gateway

variable {α : Type}

def credentials (c : SystemConfig) (g : Gateway) : Result Credentials × Gateway :=
  let (r, security, endpoints) := g.security.credentials c g.now g.endpoints
  (r, { g with security, endpoints })

/-! ## Providers as callers hold them -/

def retiredOf (g : Gateway) (systemId : String) : List Provider :=
  (g.retired.get? systemId).getD []

def provider? (systemId : String) (g : Gateway) : Option (Issuer × Provider) :=
  (g.security.providers.get? systemId).map fun p => (⟨systemId, (g.retiredOf systemId).length⟩, p)

/-- Makes the provider of a system and takes it in use, unless another caller has done so since. -/
def makeProvider (c : SystemConfig) (g : Gateway) : Result (Issuer × Provider) × Gateway :=
  match g.security.build c with
  | .error e => (.error e, g)
  | .ok p => match g.provider? c.systemId with
    | some x => (.ok x, g)
    | none =>
      (.ok (⟨c.systemId, (g.retiredOf c.systemId).length⟩, p),
        { g with security :=
          { g.security with providers := g.security.providers.insert c.systemId p } })

def providerOf (c : SystemConfig) : GatewayCall (Issuer × Provider) := do
  match ← look (provider? c.systemId) with
  | some x => pure x
  | none =>
    pass .secrets
    step (makeProvider c)

/-- What has become of a provider that a caller holds. -/
def held? (i : Issuer) (g : Gateway) : Option Provider :=
  ((g.retiredOf i.systemId)[i.number]?).or (g.security.providers.get? i.systemId)

def remember (i : Issuer) (f : Provider → Provider) (g : Gateway) : Gateway :=
  let retired := g.retiredOf i.systemId
  if i.number < retired.length then
    { g with retired := g.retired.insert i.systemId (retired.modify i.number f) }
  else match g.security.providers.get? i.systemId with
    | none => g
    | some p =>
      { g with security :=
        { g.security with providers := g.security.providers.insert i.systemId (f p) } }

/-! ## Issuing -/

/-- Credentials of a provider that asks nobody for them; `p` is the provider when a caller first
held it. -/
def issue (i : Issuer) (p : Provider) (g : Gateway) : Result Credentials × Gateway :=
  let access : TokenAccess := ⟨i.systemId, g.now, g.endpoints⟩
  ((((g.held? i).getD p).credentials access).1,
    g.remember i fun p => (p.credentials access).2.1)

/-- What a provider that asks for tokens has been granted; `s` when a caller first held it. -/
def tokenState (i : Issuer) (s : TokenState) (g : Gateway) : TokenState :=
  match g.held? i with
  | some (.oauth2 _ t) => t
  | _ => s

/-- Changes what a provider that asks for tokens has been granted. -/
def setTokenState (i : Issuer) (s : TokenState) : Gateway → Gateway :=
  remember i fun p => match p with
    | .oauth2 client _ => .oauth2 client s
    | p => p

/-- Asks for a token, and waits for the answer. -/
def requestToken (i : Issuer) (client : OAuthClient) (action : String)
    (form : List (String × String)) : GatewayCall TokenGrant := do
  let (reply, n) ← ExceptT.lift (Call.step fun g =>
    let (x, endpoints) := g.endpoints.send ⟨i.systemId, client.tokenUrl, form⟩
    (x, { g with endpoints }))
  await fun g => !g.endpoints.pending.contains n
  given (reply.grant action)

def acceptToken (i : Issuer) (s : TokenState) (t : TokenGrant) (g : Gateway) :
    Result Credentials × Gateway :=
  let s := (g.tokenState i s).accept t g.now
  (s.credentials, g.setTokenState i s)

def authenticate (i : Issuer) (client : OAuthClient) (s : TokenState) :
    GatewayCall Credentials := do
  let t ← requestToken i client "token" client.clientForm
  step (acceptToken i s t)

def refresh (i : Issuer) (client : OAuthClient) (s : TokenState) (refreshToken : String) :
    GatewayCall Credentials := do
  match ← attempt (requestToken i client "refresh" (client.refreshForm refreshToken)) id with
  | .ok t => step (acceptToken i s t)
  | .error _ =>
    change fun g => g.setTokenState i { g.tokenState i s with refreshToken := none }
    authenticate i client s

/-- The credentials of a token that is still valid, or else of a new one. -/
def renewed (i : Issuer) (client : OAuthClient) (s : TokenState) : GatewayCall Credentials := do
  let (now, s) ← look fun g => (g.now, g.tokenState i s)
  if s.accessToken.isNone then authenticate i client s
  else if s.expired now then
    match s.refreshToken with
    | none => authenticate i client s
    | some t => refresh i client s t
  else given s.credentials

def credentialsBy (i : Issuer) : Provider → GatewayCall Credentials
  | .oauth2 client s => inTurn (.issuing i) (renewed i client s)
  | .basic username password issued =>
    inTurn (.issuing i) (step (issue i (.basic username password issued)))
  | .apiKey headerName key => step (issue i (.apiKey headerName key))

def credentialsOf (c : SystemConfig) : GatewayCall Credentials := do
  let (i, p) ← providerOf c
  credentialsBy i p

end Gateway
end Interchange
