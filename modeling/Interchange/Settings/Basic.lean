import Interchange.Breaker.Basic

/-! # Settings

What can be set about a gateway, in sections. Every setting has a default, and so has every section.
-/

namespace Interchange

open Json

/-- Settings of the program itself. -/
structure ApplicationSettings where
  logLevel : String := "info"
deriving DecidableEq, Repr

/-- Where the master key and the secrets are, and how systems are authenticated by default. -/
structure SecuritySettings where
  /-- The file of the master key; it is made when it is missing. -/
  masterKeyPath : String := ".switchyard/master.key"
  /-- The master key itself, in place of the file. -/
  masterKey : Option String := none
  secretsPath : String := ".switchyard/secrets.json"
  defaultAuthType : String := "oauth2"
deriving DecidableEq, Repr

structure RegistrySettings where
  path : String := ".switchyard/registry.json"
deriving DecidableEq, Repr

structure SchemaSettings where
  directory : Option String := none
deriving DecidableEq, Repr

/-- When circuits open, and for how long. -/
structure BreakerSettings where
  failureThreshold : Nat := 5
  resetTimeoutSeconds : Nat := 60
deriving DecidableEq, Repr

/-- Whether there is a log in files, where, and when a new file is begun. -/
structure LogSettings where
  localEnabled : Bool := false
  localPath : String := "/var/log/switchyard"
  localRotation : String := "daily"
deriving DecidableEq, Repr

structure Settings where
  application : ApplicationSettings := {}
  security : SecuritySettings := {}
  registry : RegistrySettings := {}
  schemas : SchemaSettings := {}
  circuitBreaker : BreakerSettings := {}
  logging : LogSettings := {}
deriving DecidableEq, Repr

namespace ApplicationSettings

def fields : List String := ["log_level"]

def ofJson? (v : Value) : Option ApplicationSettings := do
  let fs ← Decode.record fields v
  pure { logLevel := ← Decode.fieldOr fs "log_level" Decode.text "info" }

def toJson (s : ApplicationSettings) : Value := .ofPairs [("log_level", .string s.logLevel)]

end ApplicationSettings

namespace SecuritySettings

def fields : List String := ["master_key_path", "master_key", "secrets_path", "default_auth_type"]

def ofJson? (v : Value) : Option SecuritySettings := do
  let fs ← Decode.record fields v
  let d : SecuritySettings := {}
  let masterKeyPath ← Decode.fieldOr fs "master_key_path" Decode.text d.masterKeyPath
  let masterKey ← Decode.fieldOr fs "master_key" (Decode.optional Decode.text) none
  let secretsPath ← Decode.fieldOr fs "secrets_path" Decode.text d.secretsPath
  let defaultAuthType ← Decode.fieldOr fs "default_auth_type" Decode.text d.defaultAuthType
  pure { masterKeyPath, masterKey, secretsPath, defaultAuthType }

def toJson (s : SecuritySettings) : Value :=
  .ofPairs [("master_key_path", .string s.masterKeyPath), ("master_key", .ofText? s.masterKey),
    ("secrets_path", .string s.secretsPath), ("default_auth_type", .string s.defaultAuthType)]

end SecuritySettings

namespace RegistrySettings

def fields : List String := ["path"]

def ofJson? (v : Value) : Option RegistrySettings := do
  let fs ← Decode.record fields v
  pure { path := ← Decode.fieldOr fs "path" Decode.text ({} : RegistrySettings).path }

def toJson (s : RegistrySettings) : Value := .ofPairs [("path", .string s.path)]

end RegistrySettings

namespace SchemaSettings

def fields : List String := ["directory"]

def ofJson? (v : Value) : Option SchemaSettings := do
  let fs ← Decode.record fields v
  pure { directory := ← Decode.fieldOr fs "directory" (Decode.optional Decode.text) none }

def toJson (s : SchemaSettings) : Value := .ofPairs [("directory", .ofText? s.directory)]

end SchemaSettings

namespace BreakerSettings

def fields : List String := ["failure_threshold", "reset_timeout_seconds"]

def ofJson? (v : Value) : Option BreakerSettings := do
  let fs ← Decode.record fields v
  let failureThreshold ← Decode.fieldOr fs "failure_threshold" (Decode.natBelow (Nat.pow 2 32)) 5
  let resetTimeoutSeconds ←
    Decode.fieldOr fs "reset_timeout_seconds" (Decode.natBelow (Nat.pow 2 64)) 60
  pure { failureThreshold, resetTimeoutSeconds }

def toJson (s : BreakerSettings) : Value :=
  .ofPairs [("failure_threshold", .ofNat s.failureThreshold),
    ("reset_timeout_seconds", .ofNat s.resetTimeoutSeconds)]

def config (s : BreakerSettings) : BreakerConfig :=
  ⟨s.failureThreshold, .ofSeconds s.resetTimeoutSeconds⟩

end BreakerSettings

namespace LogSettings

def fields : List String := ["local_enabled", "local_path", "local_rotation"]

def ofJson? (v : Value) : Option LogSettings := do
  let fs ← Decode.record fields v
  let d : LogSettings := {}
  let localEnabled ← Decode.fieldOr fs "local_enabled" Decode.bool d.localEnabled
  let localPath ← Decode.fieldOr fs "local_path" Decode.text d.localPath
  let localRotation ← Decode.fieldOr fs "local_rotation" Decode.text d.localRotation
  pure { localEnabled, localPath, localRotation }

def toJson (s : LogSettings) : Value :=
  .ofPairs [("local_enabled", .bool s.localEnabled), ("local_path", .string s.localPath),
    ("local_rotation", .string s.localRotation)]

end LogSettings

namespace Settings

def sections : List (String × List String) :=
  [("application", ApplicationSettings.fields), ("security", SecuritySettings.fields),
    ("registry", RegistrySettings.fields), ("schemas", SchemaSettings.fields),
    ("circuit_breaker", BreakerSettings.fields), ("logging", LogSettings.fields)]

def ofJson? (v : Value) : Option Settings := do
  let fs ← Decode.record (sections.map Prod.fst) v
  let application ← Decode.fieldOr fs "application" ApplicationSettings.ofJson? {}
  let security ← Decode.fieldOr fs "security" SecuritySettings.ofJson? {}
  let registry ← Decode.fieldOr fs "registry" RegistrySettings.ofJson? {}
  let schemas ← Decode.fieldOr fs "schemas" SchemaSettings.ofJson? {}
  let circuitBreaker ← Decode.fieldOr fs "circuit_breaker" BreakerSettings.ofJson? {}
  let logging ← Decode.fieldOr fs "logging" LogSettings.ofJson? {}
  pure { application, security, registry, schemas, circuitBreaker, logging }

def toJson (s : Settings) : Value :=
  .ofPairs [("application", s.application.toJson), ("security", s.security.toJson),
    ("registry", s.registry.toJson), ("schemas", s.schemas.toJson),
    ("circuit_breaker", s.circuitBreaker.toJson), ("logging", s.logging.toJson)]

end Settings
end Interchange
