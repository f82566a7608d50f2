import Interchange.Settings.Validate
import Interchange.Settings.Environment
import Interchange.Files.Basic
import Interchange.Toml.Reader

/-! # Loading settings

Settings are read from a TOML file: references to the environment are replaced, the text is read,
the environment goes before it, and the result is checked.
-/

namespace Interchange

open Json

namespace Settings

def shorten (fields : List String) : Value → Value
  | .array items => .array (items.take fields.length)
  | v => v

/-- Reads settings from the value of a TOML document, where a section may be a list of its fields
with more items behind them. -/
def ofToml? : Value → Option Settings
  | .object members =>
    ofJson? (.object (members.map fun m => (m.1, shorten ((sections.lookup m.1).getD []) m.2)))
  | _ => none

def read (env : Environment) (text : String) : Result Settings := do
  let text ← match env.substitute text with
    | .ok text => pure text
    | .error names => throw (.configuration
        ("Missing required environment variables: " ++ ", ".intercalate names))
  let s ← match (Toml.read? text).bind ofToml? with
    | some s => pure s
    | none => throw (.configuration "Failed to parse TOML: not a document of settings")
  let s := s.override env
  match s.validate with
  | .ok _ => pure s
  | .error p => throw (.configuration ("Configuration validation failed: " ++ p.message))

def load (fs : Files) (env : Environment) (path : String) : Result Settings :=
  if fs.has path then
    match fs.readText path with
    | .ok text => read env text
    | .error e => .error (.configuration
        ("Failed to read configuration file " ++ path ++ ": " ++ e.message))
  else .error (.configuration ("Configuration file not found: " ++ path))

end Settings
end Interchange
