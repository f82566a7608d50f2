import Interchange.Error
import Interchange.Json.Decode
import Interchange.Json.Reader

/-! # Token endpoints

An OAuth 2 client asks a token endpoint for tokens by sending it a form. What the endpoints answer
is up to the outside: a function of the requests that were sent before and of the new one.
-/

namespace Interchange

open Json

/-- A form sent to a token endpoint on behalf of a system. -/
structure TokenRequest where
  systemId : String
  url : String
  form : List (String × String)
deriving DecidableEq, Repr

/-- What comes back from a token endpoint. -/
inductive TokenReply where
  | unreachable (detail : String)
  | reply (status : Nat) (body : String)
deriving DecidableEq, Repr

/-- The token endpoints of the outside, and the requests sent to them so far, oldest first. -/
structure TokenEndpoints where
  answer : List TokenRequest → TokenRequest → TokenReply := fun _ _ => .unreachable "no route"
  /-- Whether the answer to a request takes its time. -/
  late : List TokenRequest → TokenRequest → Bool := fun _ _ => false
  sent : List TokenRequest := []
  /-- The requests whose answers are still out, by their places among those that were sent. -/
  pending : List Nat := []

def TokenEndpoints.post (e : TokenEndpoints) (r : TokenRequest) : TokenReply × TokenEndpoints :=
  (e.answer e.sent r, { e with sent := e.sent ++ [r] })

/-- Sends a request whose answer may take its time; with the answer its place among the requests. -/
def TokenEndpoints.send (e : TokenEndpoints) (r : TokenRequest) :
    (TokenReply × Nat) × TokenEndpoints :=
  let (reply, f) := e.post r
  ((reply, e.sent.length),
    if e.late e.sent r then { f with pending := e.sent.length :: f.pending } else f)

structure TokenGrant where
  accessToken : String
  refreshToken : Option String := none
  tokenType : Option String := none
  /-- The seconds for which the token is valid. -/
  expiresIn : Option Nat := none
deriving DecidableEq, Repr

namespace TokenGrant

def ofJson? (v : Value) : Option TokenGrant := do
  let fs ← Decode.record ["access_token", "refresh_token", "token_type", "expires_in"] v
  let accessToken ← Decode.field fs "access_token" Decode.text
  let refreshToken ← Decode.fieldOr fs "refresh_token" (Decode.optional Decode.text) none
  let tokenType ← Decode.fieldOr fs "token_type" (Decode.optional Decode.text) none
  let expiresIn ←
    Decode.fieldOr fs "expires_in" (Decode.optional (Decode.natBelow (Nat.pow 2 64))) none
  pure { accessToken, refreshToken, tokenType, expiresIn }

end TokenGrant

def statusWords : List (Nat × String) :=
  [(100, "Continue"), (101, "Switching Protocols"), (102, "Processing"), (200, "OK"),
    (201, "Created"), (202, "Accepted"), (203, "Non Authoritative Information"),
    (204, "No Content"), (205, "Reset Content"), (206, "Partial Content"), (207, "Multi-Status"),
    (208, "Already Reported"), (226, "IM Used"), (300, "Multiple Choices"),
    (301, "Moved Permanently"), (302, "Found"), (303, "See Other"), (304, "Not Modified"),
    (305, "Use Proxy"), (307, "Temporary Redirect"), (308, "Permanent Redirect"),
    (400, "Bad Request"), (401, "Unauthorized"), (402, "Payment Required"), (403, "Forbidden"),
    (404, "Not Found"), (405, "Method Not Allowed"), (406, "Not Acceptable"),
    (407, "Proxy Authentication Required"), (408, "Request Timeout"), (409, "Conflict"),
    (410, "Gone"), (411, "Length Required"), (412, "Precondition Failed"),
    (413, "Payload Too Large"), (414, "URI Too Long"), (415, "Unsupported Media Type"),
    (416, "Range Not Satisfiable"), (417, "Expectation Failed"), (418, "I'm a teapot"),
    (421, "Misdirected Request"), (422, "Unprocessable Entity"), (423, "Locked"),
    (424, "Failed Dependency"), (426, "Upgrade Required"), (428, "Precondition Required"),
    (429, "Too Many Requests"), (431, "Request Header Fields Too Large"),
    (451, "Unavailable For Legal Reasons"), (500, "Internal Server Error"),
    (501, "Not Implemented"), (502, "Bad Gateway"), (503, "Service Unavailable"),
    (504, "Gateway Timeout"), (505, "HTTP Version Not Supported"),
    (506, "Variant Also Negotiates"), (507, "Insufficient Storage"), (508, "Loop Detected"),
    (510, "Not Extended"), (511, "Network Authentication Required")]

def statusText (status : Nat) : String :=
  toString status ++ " " ++ (statusWords.lookup status).getD "<unknown status code>"

/-- The grant in a reply; `action` names the request in errors. -/
def TokenReply.grant (action : String) : TokenReply → Result TokenGrant
  | .unreachable detail =>
    .error (.authentication ("OAuth2 " ++ action ++ " request failed: " ++ detail))
  | .reply status body =>
    if status < 200 ∨ 300 ≤ status then
      .error (.authentication
        ("OAuth2 " ++ action ++ " failed with status " ++ statusText status ++ ": " ++ body))
    else match (parseVerbatim? body).bind TokenGrant.ofJson? with
      | some g => .ok g
      | none => .error (.authentication
          ("Failed to parse OAuth2 " ++ action ++ " response: not a grant"))

end Interchange
