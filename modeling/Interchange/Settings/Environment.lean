import Interchange.Settings.Basic
import Interchange.Text.Trim

/-! # Settings and the environment

A text of settings may refer to variables of the environment, as `$` and a name in braces. Each
reference is replaced by the value of its variable, which is not looked at again; lines that are
comments stay as they are. Variables named for a setting go before the text.
-/

namespace Interchange

open Text

/-- Variables and their values. -/
abbrev Environment := Dict String

namespace Environment

inductive Part where
  | plain (c : Char)
  | reference (name : List Char)
deriving DecidableEq, Repr

def isNameStart (c : Char) : Bool := ('A' ≤ c && c ≤ 'Z') || c == '_'

def isNameChar (c : Char) : Bool := isNameStart c || isDigit c

/-- The name of the reference whose `$` stands before `cs`, if there is one. -/
def nameAt : List Char → Option (List Char)
  | '{' :: cs =>
    let name := cs.takeWhile isNameChar
    if name.head?.any isNameStart ∧ (cs.dropWhile isNameChar).head? = some '}' then some name
    else none
  | _ => none

/-- The parts of a line after the next `skip` characters, which belong to a reference. -/
def partsFrom (skip : Nat) : List Char → List Part
  | [] => []
  | c :: cs =>
    match skip with
    | skip + 1 => partsFrom skip cs
    | 0 =>
      if c = '$' then
        match nameAt cs with
        | some name => .reference name :: partsFrom (name.length + 2) cs
        | none => .plain c :: partsFrom 0 cs
      else .plain c :: partsFrom 0 cs

def isComment (line : List Char) : Bool := (trimStart line).head? = some '#'

def parts (line : List Char) : List Part :=
  if isComment line then line.map .plain else partsFrom 0 line

def withoutReturn (line : List Char) : List Char :=
  if line.getLast? = some '\r' then line.dropLast else line

/-- The lines of a text whose first line starts with `acc`, last character first. -/
def linesFrom (acc : List Char) : List Char → List (List Char)
  | [] => if acc.isEmpty then [] else [acc.reverse]
  | c :: cs =>
    if c = '\n' then withoutReturn acc.reverse :: linesFrom [] cs else linesFrom (c :: acc) cs

/-- The lines of a text; a line feed ends a line, with or without a carriage return before it, and
there is no empty line behind the last line feed. -/
def lines (s : String) : List (List Char) := linesFrom [] s.toList

/-- The names that a line refers to and that are not set, in order. -/
def unset (env : Environment) (ps : List Part) : List String :=
  ps.filterMap fun
    | .plain _ => none
    | .reference name =>
      let name := String.ofList name
      if Dict.contains env name then none else some name

/-- The text of a part; nothing for a variable that is not set. -/
def fill (env : Environment) : Part → List Char
  | .plain c => [c]
  | .reference name => ((Dict.get? env (String.ofList name)).getD "").toList

/-- A text with its references replaced, with line feeds between the lines and behind the last one;
or the names that are referred to and not set, each once, in the order of their first references. -/
def substitute (env : Environment) (s : String) : Except (List String) String :=
  let ps := (lines s).map parts
  match (ps.flatMap (unset env)).eraseDups with
  | [] =>
    let filled := ps.map fun line => line.flatMap (fill env)
    .ok (String.ofList (['\n'].intercalate filled ++ ['\n']))
  | names => .error names

def variableName (part setting : String) : String := "SWITCHYARD_" ++ part ++ "_" ++ setting

/-- The number that digits write, with a plus sign or without, if it is below a bound. -/
def readNat? (bound : Nat) (s : String) : Option Nat :=
  let ds := match s.toList with
    | '+' :: ds => ds
    | ds => ds
  if ds ≠ [] ∧ ds.all isDigit ∧ digitsValue ds < bound then some (digitsValue ds) else none

def readBool? (s : String) : Option Bool :=
  if s = "true" then some true else if s = "false" then some false else none

end Environment

namespace Settings

open Environment (variableName readNat? readBool?)

/-- Settings with the variables of the environment that are named for one: texts as they are,
numbers as far as they can be read, and a truth value that cannot be read as true. -/
def override (env : Environment) (s : Settings) : Settings :=
  let text (part setting old : String) : String :=
    (Dict.get? env (variableName part setting)).getD old
  let nat (bound : Nat) (part setting : String) (old : Nat) : Nat :=
    ((Dict.get? env (variableName part setting)).bind (readNat? bound)).getD old
  { application.logLevel := text "APPLICATION" "LOG_LEVEL" s.application.logLevel
    security.masterKey :=
      (Dict.get? env (variableName "SECURITY" "MASTER_KEY")).or s.security.masterKey
    security.masterKeyPath := text "SECURITY" "MASTER_KEY_PATH" s.security.masterKeyPath
    security.secretsPath := text "SECURITY" "SECRETS_PATH" s.security.secretsPath
    security.defaultAuthType := text "SECURITY" "DEFAULT_AUTH_TYPE" s.security.defaultAuthType
    registry.path := text "REGISTRY" "PATH" s.registry.path
    schemas.directory := (Dict.get? env (variableName "SCHEMAS" "DIRECTORY")).or s.schemas.directory
    circuitBreaker.failureThreshold :=
      nat (Nat.pow 2 32) "CIRCUIT_BREAKER" "FAILURE_THRESHOLD" s.circuitBreaker.failureThreshold
    circuitBreaker.resetTimeoutSeconds :=
      nat (Nat.pow 2 64) "CIRCUIT_BREAKER" "RESET_TIMEOUT_SECONDS"
        s.circuitBreaker.resetTimeoutSeconds
    logging.localEnabled := match Dict.get? env (variableName "LOGGING" "LOCAL_ENABLED") with
      | none => s.logging.localEnabled
      | some t => (readBool? t).getD true
    logging.localPath := text "LOGGING" "LOCAL_PATH" s.logging.localPath
    logging.localRotation := text "LOGGING" "LOCAL_ROTATION" s.logging.localRotation }

end Settings
end Interchange
