import Interchange.Settings.Environment

/-! # Settings from the environment

Each setting follows the variable that is named for it, as far as the variable's text can be read.
There is one exception: the file log is turned on by a text that is no truth value.
-/

namespace Interchange

namespace Environment

variable {α : Type} {env : Environment} {name text : String} {bound n : Nat} {b : Bool}

/-! ## What texts mean -/

/-- A text is a whole number below a bound: digits, perhaps behind a plus sign. -/
def MeansNat (bound : Nat) (text : String) (n : Nat) : Prop :=
  ∃ digits, (text.toList = digits ∨ text.toList = '+' :: digits) ∧ digits ≠ [] ∧
    (∀ c ∈ digits, '0' ≤ c ∧ c ≤ '9') ∧ Text.digitsValue digits = n ∧ n < bound

/-- A text is a truth value. -/
def MeansBool (text : String) (b : Bool) : Prop :=
  text = "true" ∧ b = true ∨ text = "false" ∧ b = false

theorem readNat?_eq_some_iff : readNat? bound text = some n ↔ MeansNat bound text n := by
  have hd : ∀ ds : List Char, (ds ≠ [] ∧ ds.all Text.isDigit = true ∧ Text.digitsValue ds < bound ∧
      Text.digitsValue ds = n) ↔ ds ≠ [] ∧ (∀ c ∈ ds, '0' ≤ c ∧ c ≤ '9') ∧
        Text.digitsValue ds = n ∧ n < bound := by
    intro ds
    simp only [List.all_eq_true, Text.isDigit, Bool.and_eq_true, decide_eq_true_eq]
    constructor
    · rintro ⟨hne, hd, hb, rfl⟩
      exact ⟨hne, hd, rfl, hb⟩
    · rintro ⟨hne, hd, rfl, hb⟩
      exact ⟨hne, hd, hb, rfl⟩
  simp only [readNat?, Option.ite_none_right_eq_some, Option.some.injEq, and_assoc, hd, MeansNat]
  split
  · next ds hl =>
    rw [hl]
    constructor
    · exact fun h => ⟨ds, .inr rfl, h⟩
    · rintro ⟨_, rfl | hc, h⟩
      · exact absurd (h.2.1 '+' List.mem_cons_self) (by decide)
      · cases hc
        exact h
  · next ds hn =>
    constructor
    · exact fun h => ⟨_, .inl rfl, h⟩
    · rintro ⟨_, rfl | hc, h⟩
      · exact h
      · exact absurd hc (hn _)

theorem readBool?_eq_some_iff : readBool? text = some b ↔ MeansBool text b := by
  unfold readBool? MeansBool
  split
  · next h =>
    subst h
    simp [eq_comm]
  · next h =>
    simp [h, eq_comm]

/-! ## Following a variable -/

/-- A setting follows a variable: it gets what the variable's text means, and keeps its old value
if the variable is not set or if its text means nothing. -/
inductive Follows (env : Environment) (name : String) (Means : String → α → Prop) (old : α) :
    α → Prop
  | unset : Dict.get? env name = none → Follows env name Means old old
  | set {text : String} {new : α} : Dict.get? env name = some text → Means text new →
      Follows env name Means old new
  | unreadable {text : String} : Dict.get? env name = some text → (∀ new, ¬ Means text new) →
      Follows env name Means old old

theorem Follows.eq_of_unreadable {Means : String → α → Prop} {old new : α}
    (h : Follows env name Means old new) (hg : Dict.get? env name = some text)
    (hu : ∀ v, ¬ Means text v) : new = old := by
  cases h with
  | unset => rfl
  | set hg' hm =>
    cases hg.symm.trans hg'
    exact absurd hm (hu _)
  | unreadable => rfl

theorem follows_getD {read : String → Option α} {Means : String → α → Prop}
    (h : ∀ text new, read text = some new ↔ Means text new) (old : α) :
    Follows env name Means old (((Dict.get? env name).bind read).getD old) := by
  cases hg : Dict.get? env name with
  | none => exact .unset hg
  | some text =>
    rw [Option.bind_some]
    cases hr : read text with
    | some new => exact .set hg ((h text new).mp hr)
    | none =>
      refine .unreadable hg fun new hm => ?_
      rw [(h text new).mpr hm] at hr
      cases hr

theorem follows_text (old : String) :
    Follows env name (fun text new => new = text) old ((Dict.get? env name).getD old) := by
  cases hg : Dict.get? env name with
  | none => exact .unset hg
  | some text => exact .set hg rfl

theorem follows_or (old : Option String) :
    Follows env name (fun text new => new = some text) old ((Dict.get? env name).or old) := by
  cases hg : Dict.get? env name with
  | none => exact .unset hg
  | some text => exact .set hg rfl

theorem follows_nat (bound old : Nat) : Follows env name (MeansNat bound) old
    (((Dict.get? env name).bind (readNat? bound)).getD old) :=
  follows_getD (fun _ _ => readNat?_eq_some_iff) old

end Environment

namespace Settings

open Environment (Follows MeansNat MeansBool variableName)

variable {env : Environment} {s : Settings} {text : String}

/-- Settings follow the environment: each setting follows its variable. -/
structure Overridden (env : Environment) (s t : Settings) : Prop where
  logLevel : Follows env "SWITCHYARD_APPLICATION_LOG_LEVEL" (fun text new => new = text)
    s.application.logLevel t.application.logLevel
  masterKey : Follows env "SWITCHYARD_SECURITY_MASTER_KEY" (fun text new => new = some text)
    s.security.masterKey t.security.masterKey
  masterKeyPath : Follows env "SWITCHYARD_SECURITY_MASTER_KEY_PATH" (fun text new => new = text)
    s.security.masterKeyPath t.security.masterKeyPath
  secretsPath : Follows env "SWITCHYARD_SECURITY_SECRETS_PATH" (fun text new => new = text)
    s.security.secretsPath t.security.secretsPath
  defaultAuthType : Follows env "SWITCHYARD_SECURITY_DEFAULT_AUTH_TYPE"
    (fun text new => new = text) s.security.defaultAuthType t.security.defaultAuthType
  registryPath : Follows env "SWITCHYARD_REGISTRY_PATH" (fun text new => new = text)
    s.registry.path t.registry.path
  schemaDirectory : Follows env "SWITCHYARD_SCHEMAS_DIRECTORY" (fun text new => new = some text)
    s.schemas.directory t.schemas.directory
  failureThreshold : Follows env "SWITCHYARD_CIRCUIT_BREAKER_FAILURE_THRESHOLD"
    (MeansNat (Nat.pow 2 32)) s.circuitBreaker.failureThreshold t.circuitBreaker.failureThreshold
  resetTimeout : Follows env "SWITCHYARD_CIRCUIT_BREAKER_RESET_TIMEOUT_SECONDS"
    (MeansNat (Nat.pow 2 64)) s.circuitBreaker.resetTimeoutSeconds
    t.circuitBreaker.resetTimeoutSeconds
  localEnabled : Follows env "SWITCHYARD_LOGGING_LOCAL_ENABLED" MeansBool
    s.logging.localEnabled t.logging.localEnabled
  localPath : Follows env "SWITCHYARD_LOGGING_LOCAL_PATH" (fun text new => new = text)
    s.logging.localPath t.logging.localPath
  localRotation : Follows env "SWITCHYARD_LOGGING_LOCAL_ROTATION" (fun text new => new = text)
    s.logging.localRotation t.logging.localRotation

theorem unreadable_of_readBool? (h : Environment.readBool? text = none) (b : Bool) :
    ¬ MeansBool text b := by
  rw [← Environment.readBool?_eq_some_iff, h]
  exact nofun

theorem overridden_of_localEnabled {old : Bool} (h : Follows env
      "SWITCHYARD_LOGGING_LOCAL_ENABLED" MeansBool old (s.override env).logging.localEnabled) :
    Overridden env { s with logging.localEnabled := old } (s.override env) where
  logLevel := Environment.follows_text _
  masterKey := Environment.follows_or _
  masterKeyPath := Environment.follows_text _
  secretsPath := Environment.follows_text _
  defaultAuthType := Environment.follows_text _
  registryPath := Environment.follows_text _
  schemaDirectory := Environment.follows_or _
  failureThreshold := Environment.follows_nat ..
  resetTimeout := Environment.follows_nat ..
  localEnabled := h
  localPath := Environment.follows_text _
  localRotation := Environment.follows_text _

theorem localEnabled_override : (s.override env).logging.localEnabled =
    match Dict.get? env "SWITCHYARD_LOGGING_LOCAL_ENABLED" with
    | none => s.logging.localEnabled
    | some text => (Environment.readBool? text).getD true := rfl

theorem follows_localEnabled {old : Bool}
    (hn : Dict.get? env "SWITCHYARD_LOGGING_LOCAL_ENABLED" = none → old = s.logging.localEnabled)
    (ht : ∀ text, Dict.get? env "SWITCHYARD_LOGGING_LOCAL_ENABLED" = some text →
      (∃ b, MeansBool text b) ∨ old = true) :
    Follows env "SWITCHYARD_LOGGING_LOCAL_ENABLED" MeansBool old
      (s.override env).logging.localEnabled := by
  rw [localEnabled_override]
  cases hg : Dict.get? env "SWITCHYARD_LOGGING_LOCAL_ENABLED" with
  | none =>
    rw [← hn hg]
    exact .unset hg
  | some text =>
    dsimp only
    cases hr : Environment.readBool? text with
    | some b => exact .set hg (Environment.readBool?_eq_some_iff.mp hr)
    | none =>
      have hu := unreadable_of_readBool? hr
      rcases ht text hg with ⟨b, hb⟩ | rfl
      · exact absurd hb (hu b)
      · exact .unreadable hg hu

/-- Settings follow the environment exactly if the variable of the file log is not set, or is a
truth value, or the file log was on anyway. In the remaining case the file log is turned on, and
everything else follows the environment. -/
theorem override_overridden_iff (env : Environment) (s : Settings) :
    (Overridden env s (s.override env) ↔
      ∀ text, Dict.get? env "SWITCHYARD_LOGGING_LOCAL_ENABLED" = some text →
        (∃ b, MeansBool text b) ∨ s.logging.localEnabled = true) ∧
    ∀ text, Dict.get? env "SWITCHYARD_LOGGING_LOCAL_ENABLED" = some text →
      (∀ b, ¬ MeansBool text b) →
      Overridden env { s with logging.localEnabled := true } (s.override env) := by
  refine ⟨⟨fun h text hg => ?_, fun h => ?_⟩, fun text hg hu => ?_⟩
  · cases hr : Environment.readBool? text with
    | some b => exact .inl ⟨b, Environment.readBool?_eq_some_iff.mp hr⟩
    | none =>
      have hu := unreadable_of_readBool? hr
      rw [← h.localEnabled.eq_of_unreadable hg hu, localEnabled_override, hg]
      exact .inr (congrArg (Option.getD · true) hr)
  · exact overridden_of_localEnabled (follows_localEnabled (fun _ => rfl) h)
  · refine overridden_of_localEnabled (follows_localEnabled (fun hn => ?_) fun _ _ => .inr rfl)
    rw [hn] at hg
    cases hg

/-- The file log is off, and a text that is no truth value turns it on. -/
theorem log_turned_on :
    ¬ Overridden [("SWITCHYARD_LOGGING_LOCAL_ENABLED", "no")] {}
      (Settings.override [("SWITCHYARD_LOGGING_LOCAL_ENABLED", "no")] {}) := by
  intro h
  have hu : ∀ b, ¬ MeansBool "no" b := unreadable_of_readBool? (by decide)
  exact absurd (h.localEnabled.eq_of_unreadable rfl hu) (by decide)

/-! ## Without variables -/

def overridingVariables : List String :=
  [variableName "APPLICATION" "LOG_LEVEL", variableName "SECURITY" "MASTER_KEY",
    variableName "SECURITY" "MASTER_KEY_PATH", variableName "SECURITY" "SECRETS_PATH",
    variableName "SECURITY" "DEFAULT_AUTH_TYPE", variableName "REGISTRY" "PATH",
    variableName "SCHEMAS" "DIRECTORY", variableName "CIRCUIT_BREAKER" "FAILURE_THRESHOLD",
    variableName "CIRCUIT_BREAKER" "RESET_TIMEOUT_SECONDS", variableName "LOGGING" "LOCAL_ENABLED",
    variableName "LOGGING" "LOCAL_PATH", variableName "LOGGING" "LOCAL_ROTATION"]

/-- Settings stay as they are if no variable is set that stands for one. -/
theorem override_eq_self (h : ∀ name ∈ overridingVariables, Dict.get? env name = none)
    (s : Settings) : s.override env = s := by
  simp only [overridingVariables, List.forall_mem_cons] at h
  simp only [override, h, Option.getD_none, Option.none_or, Option.bind_none]

end Settings
end Interchange
