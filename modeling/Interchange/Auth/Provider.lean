import Interchange.Auth.Client
import Interchange.Bytes.Encoding

/-! # Providers of credentials

A provider issues the credentials of one system and remembers what it has to.
-/

namespace Interchange

inductive Provider where
  | basic (username password : String) (issued : Option Credentials)
  | apiKey (headerName key : String)
  | oauth2 (client : OAuthClient) (state : TokenState)
deriving DecidableEq, Repr

namespace Provider

def defaultHeader : String := "X-API-Key"

def basicOf (ps : AuthParams) : Result Provider := do
  let username ← ps.require "username" .basic
  let password ← ps.require "password" .basic
  pure (.basic username password none)

def apiKeyOf (ps : AuthParams) : Result Provider := do
  let key ← ps.require "api_key" .apiKey
  pure (.apiKey ((ps.notBlank? "header_name").getD defaultHeader) key)

def oauth2Of (ps : AuthParams) : Result Provider := do
  let client ← OAuthClient.ofParams ps
  pure (.oauth2 client {})

def kind : Provider → AuthKind
  | .basic _ _ _ => .basic
  | .apiKey _ _ => .apiKey
  | .oauth2 _ _ => .oauth2

def pairCredentials (username password : String) (now : Instant) : Credentials :=
  .basic (String.ofList (Base64.encode (Bytes.ofText (username ++ ":" ++ password)))) now

def authenticate (p : Provider) (a : TokenAccess) :
    Result Credentials × Provider × TokenAccess :=
  match p with
  | .basic username password _ =>
    let c := pairCredentials username password a.now
    (.ok c, .basic username password (some c), a)
  | .apiKey headerName key => (.ok (.apiKey headerName key a.now), p, a)
  | .oauth2 client state =>
    let (r, state, a) := client.authenticate state a
    (r, .oauth2 client state, a)

/-- Renews the credentials; those of a user name and a password need no renewal once issued. -/
def refresh (p : Provider) (a : TokenAccess) : Result Credentials × Provider × TokenAccess :=
  match p with
  | .basic _ _ (some c) => (.ok c, p, a)
  | .oauth2 client state =>
    let (r, state, a) := client.refresh state a
    (r, .oauth2 client state, a)
  | _ => p.authenticate a

/-- Valid credentials, the ones issued before if they still are. -/
def credentials (p : Provider) (a : TokenAccess) : Result Credentials × Provider × TokenAccess :=
  match p with
  | .oauth2 client state =>
    let (r, state, a) := client.credentials state a
    (r, .oauth2 client state, a)
  | _ => p.refresh a

def revoke : Provider → Provider
  | .basic username password _ => .basic username password none
  | .oauth2 client _ => .oauth2 client {}
  | p => p

def expired (p : Provider) (now : Instant) : Bool :=
  match p with
  | .oauth2 _ state => state.expired now
  | _ => false

end Provider
end Interchange
