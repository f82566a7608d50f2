import Interchange.CommandLine.Program

/-! # The command line

Brings the files that a command may touch into a tree of files, runs the program on it, prints what
it printed, and writes the files that it changed. Directories are not listed, so the schemas of a
directory are not among those files.
-/

namespace Interchange
namespace CommandLine

def fetch (fs : Files) (path : String) : IO Files := do
  try
    let bytes ← IO.FS.readBinFile path
    pure (fs.place path (some bytes))
  catch
    | .inappropriateType .. => pure (fs.place path none)
    | _ => pure fs

def settingNames : List String :=
  [("APPLICATION", "LOG_LEVEL"), ("SECURITY", "MASTER_KEY"), ("SECURITY", "MASTER_KEY_PATH"),
    ("SECURITY", "SECRETS_PATH"), ("SECURITY", "DEFAULT_AUTH_TYPE"), ("REGISTRY", "PATH"),
    ("SCHEMAS", "DIRECTORY"), ("CIRCUIT_BREAKER", "FAILURE_THRESHOLD"),
    ("CIRCUIT_BREAKER", "RESET_TIMEOUT_SECONDS"), ("LOGGING", "LOCAL_ENABLED"),
    ("LOGGING", "LOCAL_PATH"), ("LOGGING", "LOCAL_ROTATION")].map fun p =>
      Environment.variableName p.1 p.2

def referencesOf (text : String) : List String :=
  (Environment.lines text).flatMap fun line => (Environment.parts line).filterMap fun
    | .reference name => some (String.ofList name)
    | .plain _ => none

def environmentOf (names : List String) (env : Environment) : IO Environment :=
  names.foldlM (fun env name => do
    match ← IO.getEnv name with
    | some value => pure (Dict.insert env name value)
    | none => pure env) env

def Command.paths : Command → List String
  | .init output masterKeyPath _ =>
    [output, masterKeyPath.getD ({} : SecuritySettings).masterKeyPath]
  | .verifyWebhook _ payload _ => [payload]
  | _ => []

def pathsOf (s : Settings) : List String :=
  [s.security.masterKeyPath, s.security.secretsPath, s.registry.path]

/-- Writes those of the named files that differ from what they were, with the directories above
them; one that only its owner may read keeps that. -/
def store (paths : List String) (before after : Files) : IO Unit :=
  paths.forM fun path => do
    if let .ok (.file content mode) := after.find path then
      if (before.find path).toOption ≠ some (.file content mode) then
        if Path.parent path ≠ "" then IO.FS.createDirAll (Path.parent path)
        IO.FS.writeBinFile path content
        if mode = 0o600 then IO.setAccessRights path ⟨⟨true, true, false⟩, {}, {}⟩

end CommandLine
end Interchange

open Interchange Interchange.CommandLine in
def main (arguments : List String) : IO UInt32 := do
  let outer ← environmentOf (settingNames ++ ["SWITCHYARD_CONFIG", "SWITCHYARD_LOG_LEVEL"]) []
  let mut fs ← fetch {} EnvironmentFile.name
  let mut environment := outer
  let mut paths := []
  if let .ok i := Invocation.ofArguments (EnvironmentFile.load outer fs) arguments then
    paths := i.config :: i.command.paths
    fs ← paths.foldlM fetch fs
    environment ← environmentOf (referencesOf ((fs.readText i.config).toOption.getD "")) outer
    if let .ok s := Settings.load fs (EnvironmentFile.load environment fs) i.config then
      fs ← (pathsOf s).foldlM fetch fs
      paths := paths ++ pathsOf s
  let draws ← (List.range 256).mapM fun _ => IO.getRandomBytes 32
  let random (n : Nat) : List UInt8 := ((draws[n]?).getD ByteArray.empty).toList
  let ending := program ⟨environment, random⟩ arguments fs
  ending.lines.forM IO.println
  ending.complaints.forM IO.eprintln
  store paths fs ending.files
  pure ending.exitCode.toUInt32
