import Interchange.Auth.Kind
import Interchange.Dict
import Interchange.Error
import Interchange.Text.Trim
import Interchange.Text.Shown

/-! # Parameters of authentication -/

namespace Interchange

/-- The parameters that a provider is made from, by name. -/
abbrev AuthParams := Dict String

namespace AuthParams

def require (ps : AuthParams) (key : String) (kind : AuthKind) : Result String :=
  let missing : Error := .authentication (kind.tag ++ " authentication requires '" ++ key ++ "'")
  match Dict.get? ps key with
  | some v => if Text.allBlank v then .error missing else .ok v
  | none => .error missing

def notBlank? (ps : AuthParams) (key : String) : Option String :=
  (Dict.get? ps key).filter fun v => !Text.allBlank v

def shown (ps : AuthParams) : String :=
  "AuthParams \x7b keys: " ++ Text.shownList (Dict.keys ps) ++ " \x7d"

end AuthParams
end Interchange
