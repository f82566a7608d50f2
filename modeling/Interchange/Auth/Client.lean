import Interchange.Auth.Credentials
import Interchange.Auth.Params
import Interchange.Auth.Token

/-! # OAuth 2 clients

A client holds the token that it was granted last. When that has expired, or on demand, it asks for
a new one: with the refresh token if it holds one, and with its own name and secret if it holds
none or the refresh token is refused.
-/

namespace Interchange

/-- What a client presents to the token endpoint. -/
structure OAuthClient where
  tokenUrl : String
  clientId : String
  clientSecret : String
  scope : Option String
deriving DecidableEq, Repr

/-- What a client has been granted. -/
structure TokenState where
  accessToken : Option String := none
  refreshToken : Option String := none
  tokenType : String := ""
  lifetime : Duration := ⟨0⟩
  issuedAt : Option Instant := none
deriving DecidableEq, Repr

namespace TokenState

/-- The seconds for which a token is valid when the grant does not say. -/
def defaultSeconds : Nat := 3600

/-- The most seconds for which a token is taken to be valid: ten years. -/
def maxSeconds : Nat := 10 * 365 * 24 * 3600

def expired (s : TokenState) (now : Instant) : Bool :=
  match s.issuedAt with
  | none => true
  | some t => decide (t + s.lifetime.nanos ≤ now)

def credentials? (s : TokenState) : Option Credentials := do
  let token ← s.accessToken
  let issuedAt ← s.issuedAt
  pure (.oauth2 token s.tokenType issuedAt (some (issuedAt + s.lifetime.nanos)))

def credentials (s : TokenState) : Result Credentials :=
  match s.credentials? with
  | some c => .ok c
  | none => .error (.authentication "OAuth2 token state incomplete")

/-- The state after a grant. The refresh token is kept if the grant brings none. -/
def accept (s : TokenState) (g : TokenGrant) (now : Instant) : TokenState :=
  { accessToken := some g.accessToken
    refreshToken := g.refreshToken.or s.refreshToken
    tokenType := g.tokenType.getD "Bearer"
    lifetime := .ofSeconds (min (g.expiresIn.getD defaultSeconds) maxSeconds)
    issuedAt := some now }

end TokenState

/-- The token endpoints as one system reaches them at one moment. -/
structure TokenAccess where
  systemId : String
  now : Instant
  endpoints : TokenEndpoints

namespace OAuthClient

def ofParams (ps : AuthParams) : Result OAuthClient := do
  let tokenUrl ← ps.require "token_url" .oauth2
  let clientId ← ps.require "client_id" .oauth2
  let clientSecret ← ps.require "client_secret" .oauth2
  pure { tokenUrl, clientId, clientSecret, scope := ps.notBlank? "scope" }

/-- The form that asks for a token in the client's own name. -/
def clientForm (c : OAuthClient) : List (String × String) :=
  [("grant_type", "client_credentials"), ("client_id", c.clientId),
    ("client_secret", c.clientSecret)] ++ (c.scope.toList.map fun s => ("scope", s))

def refreshForm (c : OAuthClient) (refreshToken : String) : List (String × String) :=
  [("grant_type", "refresh_token"), ("refresh_token", refreshToken), ("client_id", c.clientId),
    ("client_secret", c.clientSecret)]

def request (c : OAuthClient) (a : TokenAccess) (action : String) (form : List (String × String)) :
    Result TokenGrant × TokenAccess :=
  let (reply, endpoints) := a.endpoints.post ⟨a.systemId, c.tokenUrl, form⟩
  (reply.grant action, { a with endpoints })

def authenticate (c : OAuthClient) (s : TokenState) (a : TokenAccess) :
    Result Credentials × TokenState × TokenAccess :=
  match c.request a "token" c.clientForm with
  | (.error e, a) => (.error e, s, a)
  | (.ok g, a) =>
    let s := s.accept g a.now
    (s.credentials, s, a)

/-- Asks for a new token. A refresh token that is refused is forgotten. -/
def refresh (c : OAuthClient) (s : TokenState) (a : TokenAccess) :
    Result Credentials × TokenState × TokenAccess :=
  match s.refreshToken with
  | none => c.authenticate s a
  | some t =>
    match c.request a "refresh" (c.refreshForm t) with
    | (.error _, a) => c.authenticate { s with refreshToken := none } a
    | (.ok g, a) =>
      let s := s.accept g a.now
      (s.credentials, s, a)

def credentials (c : OAuthClient) (s : TokenState) (a : TokenAccess) :
    Result Credentials × TokenState × TokenAccess :=
  if s.accessToken.isNone then c.authenticate s a
  else if s.expired a.now then c.refresh s a
  else (s.credentials, s, a)

end OAuthClient
end Interchange
