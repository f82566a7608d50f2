import Interchange.Auth.Kind
import Interchange.Time

/-! # Credentials

What a request to a system carries so that the system accepts it.
-/

namespace Interchange

/-- Credentials as a provider issued them. -/
structure Credentials where
  kind : AuthKind
  token : String
  /-- What stands in front of an OAuth 2 token, `Bearer` when unknown. -/
  tokenType : Option String := none
  headerName : String
  issuedAt : Instant
  /-- From this moment on they are no longer valid. -/
  expiresAt : Option Instant := none
deriving DecidableEq, Repr

namespace Credentials

def basic (encoded : String) (now : Instant) : Credentials :=
  { kind := .basic, token := encoded, headerName := "Authorization", issuedAt := now }

def oauth2 (token tokenType : String) (issuedAt : Instant) (expiresAt : Option Instant) :
    Credentials :=
  { kind := .oauth2, token, tokenType := some tokenType, headerName := "Authorization", issuedAt,
    expiresAt }

def apiKey (headerName key : String) (now : Instant) : Credentials :=
  { kind := .apiKey, token := key, headerName, issuedAt := now }

def expired (c : Credentials) (now : Instant) : Bool :=
  match c.expiresAt with
  | none => false
  | some t => decide (t ≤ now)

def headerValue (c : Credentials) : String :=
  match c.kind with
  | .basic => "Basic " ++ c.token
  | .oauth2 => c.tokenType.getD "Bearer" ++ " " ++ c.token
  | .apiKey => c.token

end Credentials
end Interchange
