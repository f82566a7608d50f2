import Interchange.Json.Decode
import Interchange.Text.Lowercase

/-! # Kinds of authentication -/

namespace Interchange

open Json

/-- The built-in kinds of authentication. -/
inductive AuthKind where
  | basic
  | oauth2
  | apiKey
deriving DecidableEq, Repr

namespace AuthKind

def tag : AuthKind → String
  | .basic => "basic"
  | .oauth2 => "oauth2"
  | .apiKey => "api_key"

def ofJson? : Value → Option AuthKind :=
  Decode.choice [("basic", .basic), ("oauth2", .oauth2), ("api_key", .apiKey)]

/-- The kind that a tag in any case names; two kinds have a second tag. The error is the tag in
lower case. -/
def parse (s : String) : Except String AuthKind :=
  let tag := Text.lowercase s
  if tag = "basic" then .ok .basic
  else if tag = "oauth2" ∨ tag = "oauth" then .ok .oauth2
  else if tag = "api_key" ∨ tag = "apikey" then .ok .apiKey
  else .error tag

def unknownMessage (tag : String) : String :=
  "Unknown auth type: " ++ tag ++ ". Expected 'basic', 'oauth2' or 'api_key'"

end AuthKind
end Interchange
