import Interchange.Settings.Basic
import Interchange.Auth.Kind
import Interchange.Text.Trim

/-! # Checking settings

Which settings are refused, and why. Sections are checked in their order, and the first problem is
the one that is told.
-/

namespace Interchange

/-- Why settings are refused. -/
inductive Settings.Problem where
  | logLevel (level : String)
  | blankMasterKeyPath
  | blankSecretsPath
  | authType (tag : String)
  | blankRegistryPath
  | zeroThreshold
  | zeroTimeout
  | rotation (name : String)
  | blankLogPath
deriving DecidableEq, Repr

def ApplicationSettings.levels : List String := ["trace", "debug", "info", "warn", "error"]

def LogSettings.rotations : List String := ["daily", "hourly", "never"]

def Settings.Problem.message : Settings.Problem → String
  | .logLevel level => "Invalid log_level '" ++ level ++ "'. Must be one of: "
      ++ ", ".intercalate ApplicationSettings.levels
  | .blankMasterKeyPath =>
    "security.master_key_path cannot be empty when no inline master_key is set"
  | .blankSecretsPath => "security.secrets_path cannot be empty"
  | .authType tag => "Invalid security.default_auth_type: " ++ AuthKind.unknownMessage tag
  | .blankRegistryPath => "registry.path cannot be empty"
  | .zeroThreshold => "circuit_breaker.failure_threshold must be > 0"
  | .zeroTimeout => "circuit_breaker.reset_timeout_seconds must be > 0"
  | .rotation name => "Invalid logging.local_rotation '" ++ name ++ "'. Must be one of: "
      ++ ", ".intercalate LogSettings.rotations
  | .blankLogPath => "logging.local_path cannot be empty when local_enabled"

def ApplicationSettings.validate (s : ApplicationSettings) : Except Settings.Problem Unit :=
  if levels.contains s.logLevel then .ok () else .error (.logLevel s.logLevel)

/-- Refuses blank paths and an unknown kind of authentication. -/
def SecuritySettings.validate (s : SecuritySettings) : Except Settings.Problem Unit :=
  if s.masterKey = none ∧ Text.allBlank s.masterKeyPath then .error .blankMasterKeyPath
  else if Text.allBlank s.secretsPath then .error .blankSecretsPath
  else match AuthKind.parse s.defaultAuthType with
    | .error tag => .error (.authType tag)
    | .ok _ => .ok ()

def RegistrySettings.validate (s : RegistrySettings) : Except Settings.Problem Unit :=
  if Text.allBlank s.path then .error .blankRegistryPath else .ok ()

def BreakerSettings.validate (s : BreakerSettings) : Except Settings.Problem Unit :=
  if s.failureThreshold = 0 then .error .zeroThreshold
  else if s.resetTimeoutSeconds = 0 then .error .zeroTimeout
  else .ok ()

/-- Refuses an unknown rotation, and a blank path for a log that is wanted. -/
def LogSettings.validate (s : LogSettings) : Except Settings.Problem Unit :=
  if !rotations.contains s.localRotation then .error (.rotation s.localRotation)
  else if s.localEnabled ∧ Text.allBlank s.localPath then .error .blankLogPath
  else .ok ()

/-- Checks all sections but that of the schemas, where everything is allowed. -/
def Settings.validate (s : Settings) : Except Settings.Problem Unit := do
  s.application.validate
  s.security.validate
  s.registry.validate
  s.circuitBreaker.validate
  s.logging.validate

end Interchange
