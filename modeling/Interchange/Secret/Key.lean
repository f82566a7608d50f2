import Interchange.Text.Trim

/-! # Keys of secrets

A secret is stored under a system, a category and a name, written with colons between them. Only
the name may hold colons itself, so the written form is unambiguous.
-/

namespace Interchange

/-- Why a key is refused. -/
inductive SecretKey.Problem where
  | format (text : String)
  | blankSystem
  | blankCategory
  | blankName
  | colon (systemId category : String)
deriving DecidableEq, Repr

def SecretKey.Problem.message : SecretKey.Problem → String
  | .format text =>
    "Invalid secret key format. Expected \x7bsystem_id\x7d:\x7bcategory\x7d:\x7bname\x7d, got: "
      ++ text
  | .blankSystem => "Secret key system id cannot be empty"
  | .blankCategory => "Secret key category cannot be empty"
  | .blankName => "Secret key name cannot be empty"
  | .colon systemId category =>
    "Secret key system id and category may not contain ':': " ++ systemId ++ ":" ++ category

structure SecretKey where
  systemId : String
  category : String
  name : String
deriving DecidableEq, Repr

namespace SecretKey

def authCategory : String := "auth"

def webhookCategory : String := "webhook"

/-- The key with the given parts, none of them blank and no colon before the name. -/
def make (systemId category name : String) : Except Problem SecretKey :=
  if Text.allBlank systemId then .error .blankSystem
  else if Text.allBlank category then .error .blankCategory
  else if Text.allBlank name then .error .blankName
  else if systemId.toList.contains ':' ∨ category.toList.contains ':' then
    .error (.colon systemId category)
  else .ok ⟨systemId, category, name⟩

def start (systemId category : String) : String := systemId ++ ":" ++ category ++ ":"

def text (k : SecretKey) : String := start k.systemId k.category ++ k.name

def parse (s : String) : Except Problem SecretKey :=
  match Text.cutAt ':' s.toList with
  | none => .error (.format s)
  | some (systemId, rest) => match Text.cutAt ':' rest with
    | none => .error (.format s)
    | some (category, name) =>
      make (String.ofList systemId) (String.ofList category) (String.ofList name)

end SecretKey
end Interchange
