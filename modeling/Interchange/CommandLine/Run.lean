import Interchange.CommandLine.Command
import Interchange.CommandLine.Console
import Interchange.Gateway.Setup
import Interchange.Settings.Load

/-! # Running commands

What each command does to the files, what it prints, and its exit code: 0 when all is well, 1 for a
signature that is not valid, 2 for settings that cannot be used, and 5 for files that cannot be
written.
-/

namespace Interchange
namespace CommandLine

/-- Random bytes, by draw; each draw gives as many as are needed. -/
abbrev Randomness := Nat → List UInt8

namespace Randomness

def masterKey (r : Randomness) : List UInt8 := (r 0).take MasterKey.length

def webhookSecret (r : Randomness) : List UInt8 := (r 1).take Webhook.secretLength

def nonce (r : Randomness) (n : Nat) : List UInt8 := (r (n + 2)).take Encryptor.nonceLength

end Randomness

/-- What commands go by. -/
structure Surroundings where
  environment : Environment
  random : Randomness

/-- The order in which entries are gone through that are held by name alone. -/
structure EntryOrder where
  list : List (String × String) → List (String × String)
  perm : ∀ entries, (list entries).Perm entries

def EntryOrder.same : EntryOrder := ⟨id, .refl⟩

open Printing

/-- The lines of settings in front of the path of the master key. -/
def linesBefore : List String :=
  ["# Switchyard Configuration File",
    "# Enterprise integration gateway",
    "",
    "[application]",
    "log_level = \"info\"",
    "",
    "[security]"]

/-- The lines of settings behind the path of the master key. -/
def linesAfter : List String :=
  ["# master_key = \"$\x7bSWITCHYARD_MASTER_KEY\x7d\"",
    "secrets_path = \".switchyard/secrets.json\"",
    "default_auth_type = \"oauth2\"  # oauth2 | basic | api_key",
    "",
    "[registry]",
    "path = \".switchyard/registry.json\"",
    "",
    "[schemas]",
    "# Holds internal/<entity>.json and external/<system_type>/<entity>.json",
    "# directory = \"schemas\"",
    "",
    "[circuit_breaker]",
    "failure_threshold = 5",
    "reset_timeout_seconds = 60",
    "",
    "[logging]",
    "local_enabled = false",
    "local_path = \"/var/log/switchyard\"",
    "local_rotation = \"daily\"  # daily | hourly | never"]

def keyLine (masterKeyPath : String) : String := "master_key_path = \"" ++ masterKeyPath ++ "\""

def settingsText (masterKeyPath : String) : String :=
  String.join ((linesBefore ++ keyLine masterKeyPath :: linesAfter).map (· ++ "\n"))

/-- Writes settings, unless there are some, and makes the master key, unless there is one. -/
def init (s : Surroundings) (output : String) (masterKeyPath : Option String) (force : Bool) :
    Printing Nat := do
  line "📝 Initializing Switchyard configuration"
  blank
  if (← files).has output ∧ !force then
    line ("❌ Configuration file already exists: " ++ output)
    line "   Use --force to overwrite"
    exit 2
  let keyPath := masterKeyPath.getD ({} : SecuritySettings).masterKeyPath
  match (← files).writeText output (settingsText keyPath) with
  | .error e =>
    complaint "Failed to write configuration file" e.message
    exit 5
  | .ok fs => modify fun c => { c with files := fs }
  line ("✅ Configuration file created: " ++ output)
  let existed := (← files).has keyPath
  match ← change fun fs => MasterKey.loadOrGenerate fs keyPath s.random.masterKey with
  | .error e =>
    complaint "Failed to create master key" e.message
    exit 5
  | .ok _ =>
    line ((if existed then "✅ Using existing master key: " else "✅ Master key generated: ")
      ++ keyPath)
  blank
  line "Next steps:"
  line ("  1. Keep " ++ keyPath ++ " safe; secrets cannot be decrypted without it")
  line "  2. Register systems in the registry file"
  line "  3. Store credentials: switchyard secrets store <system_id> KEY=VALUE"
  line "  4. Validate configuration: switchyard validate-config"
  blank
  pure 0

/-- Prints what settings and the things they name amount to. -/
def summary (settings : Settings) (systems : List SystemConfig) (schemaCount : Nat) :
    Printing Unit := do
  let security := settings.security
  line "Configuration Summary:"
  line ("  Log Level: " ++ settings.application.logLevel)
  line ("  Master Key: " ++
    if security.masterKey.isSome then "inline" else security.masterKeyPath)
  line ("  Secrets File: " ++ security.secretsPath)
  line ("  Default Auth Type: " ++ security.defaultAuthType)
  line ("  Registry: " ++ settings.registry.path)
  line ("  Systems: " ++ toString systems.length ++ " ("
    ++ toString (systems.filter (·.enabled)).length ++ " enabled)")
  line ("  Schemas: " ++
    if settings.schemas.directory.isSome then toString schemaCount else "none configured")
  line ("  Circuit Breaker: " ++ toString settings.circuitBreaker.failureThreshold
    ++ " failures, " ++ toString settings.circuitBreaker.resetTimeoutSeconds ++ "s reset")

/-- Checks the settings, the registry and the schemas. -/
def validateConfig (s : Surroundings) (config : String) : Printing Nat := do
  line ("🔍 Validating configuration file: " ++ config)
  blank
  let settings ← match Settings.load (← files) s.environment config with
    | .error e =>
      complaint "Failed to load configuration file" e.message
      exit 2
    | .ok settings => pure settings
  line "✅ Configuration file loaded successfully"
  line "✅ Configuration is valid"
  let registry ← match Registry.ofFile (← files) settings.registry.path with
    | .error e =>
      complaint ("Failed to read registry: " ++ settings.registry.path) e.message
      exit 2
    | .ok registry => pure registry
  let (_, schemaCount) ← match SchemaRegistry.ofSettings settings.schemas (← files) with
    | .error e =>
      complaint ("Failed to load schemas from " ++ settings.schemas.directory.getD "") e.message
      exit 2
    | .ok schemas => pure schemas
  blank
  summary settings (registry.list {}) schemaCount
  blank
  pure 0

/-- The settings that a command needs; without them it ends. -/
def settingsOf (s : Surroundings) (config : String) : Printing Settings := do
  match Settings.load (← files) s.environment config with
  | .error e =>
    line ("❌ Failed to load configuration: " ++ e.message)
    exit 2
  | .ok settings => pure settings

def describe (c : SystemConfig) : String :=
  let features := (if c.metadata.supportsBatch then ["batch"] else [])
    ++ if c.metadata.supportsWebhooks then ["webhooks"] else []
  (if c.enabled then "✅" else "⏸️ ") ++ " " ++ c.systemId ++ " [" ++ c.systemType ++ "] " ++ c.name
    ++ " (auth: " ++ c.authType?.getD "default" ++ ")"
    ++ if features.isEmpty then "" else " +" ++ ",".intercalate features

def systems (s : Surroundings) (config : String) (systemType : Option String)
    (enabledOnly : Bool) : Printing Nat := do
  let settings ← settingsOf s config
  let registry ← ofResult (Registry.ofFile (← files) settings.registry.path)
  let found := registry.list { systemType, enabled := if enabledOnly then some true else none }
  line ("📋 Registered systems (" ++ settings.registry.path ++ ")")
  blank
  if found.isEmpty then
    line "No systems registered."
    exit 0
  for c in found do line (describe c)
  blank
  line ("Total: " ++ toString found.length)
  pure 0

def securityOf (s : Surroundings) (settings : Settings) : Printing Security :=
  commit fun fs => Security.ofSettings settings.security fs s.random.masterKey

/-- Stores secrets for a system, in any order; their names are printed, never their values. -/
def storeSecrets (s : Surroundings) (config systemId : String) (entries : List (String × String))
    (order : EntryOrder := .same) : Printing Nat := do
  let settings ← settingsOf s config
  let security ← securityOf s settings
  let entries := Dict.ofList entries
  let _ ← commit fun fs =>
    let (r, _, fs) := security.storeCredentials fs s.random.nonce systemId (order.list entries)
    (r, fs)
  line ("🔐 Stored " ++ toString entries.length ++ " secret(s) for " ++ systemId ++ ": "
    ++ ", ".intercalate (Dict.keys entries))
  pure 0

def listSecrets (s : Surroundings) (config systemId : String) : Printing Nat := do
  let settings ← settingsOf s config
  let security ← securityOf s settings
  match security.store.keys (systemId ++ ":") with
  | [] => line ("No secrets stored for " ++ systemId ++ ".")
  | keys =>
    line ("🔐 Secrets for " ++ systemId ++ ":")
    for key in keys do line ("  " ++ key)
  pure 0

def generateWebhookSecret (s : Surroundings) (config systemId : String) : Printing Nat := do
  let settings ← settingsOf s config
  let security ← securityOf s settings
  let secret := Webhook.secretOfBytes s.random.webhookSecret
  let _ ← commit fun fs => security.storeWebhookSecret fs (s.random.nonce 0) systemId secret
  line ("🔑 Webhook secret for " ++ systemId ++ ":")
  blank
  line ("  " ++ secret)
  blank
  line "Store it with the sending system now; it will not be shown again."
  pure 0

/-- Checks the signature of a webhook whose payload is in a file. -/
def verifyWebhook (s : Surroundings) (config systemId payload : String)
    (headers : List (String × String)) : Printing Nat := do
  let settings ← settingsOf s config
  let security ← securityOf s settings
  let body ← match (← files).read payload with
    | .error e => throw (.failed (.file e))
    | .ok bytes => pure bytes.toList
  let registry ← ofResult (Registry.ofFile (← files) settings.registry.path)
  let metadata := ((registry.get? systemId).map (·.metadata)).getD {}
  if ← ofResult (security.verifyWebhook systemId metadata body (Dict.ofList headers)) then
    line "✅ Signature valid"
    pure 0
  else
    line "❌ Signature invalid"
    pure 1

def Command.run (s : Surroundings) (config : String) (command : Command)
    (order : EntryOrder := .same) : Printing Nat :=
  match command with
  | .init output masterKeyPath force => CommandLine.init s output masterKeyPath force
  | .validateConfig => CommandLine.validateConfig s config
  | .systems systemType enabledOnly => CommandLine.systems s config systemType enabledOnly
  | .storeSecrets systemId entries => CommandLine.storeSecrets s config systemId entries order
  | .listSecrets systemId => CommandLine.listSecrets s config systemId
  | .generateWebhookSecret systemId => CommandLine.generateWebhookSecret s config systemId
  | .verifyWebhook systemId payload headers =>
    CommandLine.verifyWebhook s config systemId payload headers

end CommandLine
end Interchange
