import Interchange.Transform.Registry
import Interchange.Files.Basic
import Interchange.Json.Reader

/-! # Schemas in files

A directory of schemas holds the canonical ones in `internal`, and those of each type of systems in
a directory of that name in `external`. A file is named for its entity type and ends in `.json`;
other files are left alone, and so are directories that are missing.
-/

namespace Interchange
namespace SchemaRegistry

/-- The schemas in the files of a directory, by entity type. -/
def readDirectory (fs : Files) (dir : String) : Result (List (String × Json.Value)) :=
  if fs.isDirectory dir then
    ((fs.list dir).filter fun name => (Path.splitName name).2 = some "json").mapM fun name => do
      let path := Path.join dir name
      match fs.readText path with
      | .error e => throw (.files e.message)
      | .ok text => match Json.parse? text with
        | some v => pure ((Path.splitName name).1, v)
        | none => throw (.configuration ("Schema file " ++ path ++ " is invalid: not JSON"))
  else pure []

/-- Registers the schemas of one directory with `register`; counts them. -/
def loadDirectory (fs : Files) (dir : String)
    (register : SchemaRegistry → String → Json.Value → Result SchemaRegistry)
    (state : SchemaRegistry × Nat) : Result (SchemaRegistry × Nat) := do
  let schemas ← readDirectory fs dir
  schemas.foldlM (fun s p => do
    let r ← register s.1 p.1 p.2
    pure (r, s.2 + 1)) state

def load (r : SchemaRegistry) (fs : Files) (dir : String) : Result (SchemaRegistry × Nat) := do
  let state ← loadDirectory fs (Path.join dir "internal") registerInternal (r, 0)
  let external := Path.join dir "external"
  if fs.isDirectory external then
    (fs.list external).foldlM (fun s systemType => do
      let path := Path.join external systemType
      if fs.isDirectory path then
        loadDirectory fs path (fun r => r.registerExternal systemType) s
      else pure s) state
  else pure state

end SchemaRegistry
end Interchange
