import Interchange.Auth.Provider

/-! # Types of providers

Providers are made by the name of their type. A name is taken in its normal form: that of the
built-in type it names, or else without white space around it and in lower case.
-/

namespace Interchange

/-- How providers of each type are made, by the normal form of the type's name. -/
structure AuthFactory where
  constructors : Dict (AuthParams → Result Provider)

namespace AuthFactory

def normalTag (tag : String) : String :=
  match AuthKind.parse tag with
  | .ok k => k.tag
  | .error _ => Text.lowercase (Text.trim tag)

/-- Adds a type, in place of one with the same name. -/
def register (f : AuthFactory) (tag : String) (constructor : AuthParams → Result Provider) :
    AuthFactory :=
  ⟨f.constructors.insert (normalTag tag) constructor⟩

def builtIn : AuthFactory :=
  (((AuthFactory.mk []).register "basic" Provider.basicOf).register "oauth2"
    Provider.oauth2Of).register "api_key" Provider.apiKeyOf

def types (f : AuthFactory) : List String := f.constructors.keys

def create (f : AuthFactory) (tag : String) (ps : AuthParams) : Result Provider :=
  match Dict.get? f.constructors (normalTag tag) with
  | some constructor => constructor ps
  | none => .error (.authentication
      ("Unsupported auth type '" ++ tag ++ "'. Supported: " ++ ", ".intercalate f.types))

def shown (f : AuthFactory) : String :=
  "AuthProviderFactory \x7b types: " ++ Text.shownList f.types ++ " \x7d"

end AuthFactory
end Interchange
