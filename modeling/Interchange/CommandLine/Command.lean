import Interchange.CommandLine.Arguments
import Interchange.Settings.Environment

/-! # Commands

What the program can be told to do, and how its arguments say it.
-/

namespace Interchange
namespace CommandLine

open Text

inductive Command where
  /-- Write settings and make a master key. -/
  | init (output : String) (masterKeyPath : Option String) (force : Bool)
  /-- Check the settings and what they name. -/
  | validateConfig
  /-- List the registered systems. -/
  | systems (systemType : Option String) (enabledOnly : Bool)
  /-- Store secrets for a system. -/
  | storeSecrets (systemId : String) (entries : List (String × String))
  /-- List the names of a system's secrets. -/
  | listSecrets (systemId : String)
  /-- Make and store a secret for a system's webhooks. -/
  | generateWebhookSecret (systemId : String)
  /-- Check the signature of a webhook. -/
  | verifyWebhook (systemId payload : String) (headers : List (String × String))
deriving DecidableEq, Repr

/-- What the program is started with. -/
structure Invocation where
  /-- The file of the settings. -/
  config : String
  logLevel : Option String
  command : Command
deriving DecidableEq, Repr

/-- The file of the settings when none is named. -/
def defaultConfig : String := "switchyard.toml"

/-- A name and a value around the first `=`; the name is not blank. -/
def pair? (s : String) : Option (String × String) :=
  (cutAt '=' s.toList).bind fun (name, value) =>
    let name := trimmed name
    if name = [] then none else some (String.ofList name, String.ofList value)

/-- A name and a value around the first colon; the name is not blank. -/
def headerLine? (s : String) : Option (String × String) :=
  (cutAt ':' s.toList).bind fun (name, value) =>
    let name := trimmed name
    if name = [] then none else some (String.ofList name, String.ofList (trimmed value))

namespace Shape

def leaf (options positions : List Parameter) : Shape := .mk false options positions []

def group (commands : List (String × Shape)) : Shape := .mk false [] [] commands

def system : Parameter := { name := "system_id", required := true }

def pairs : Parameter :=
  { name := "pairs", many := true, required := true, label := "<PAIRS>...", form := "KEY=VALUE"
    accepts := fun s => (pair? s).isSome }

def header : Parameter :=
  { name := "header", many := true, label := "--header <HEADERS>", form := "'Name: value'"
    accepts := fun s => (headerLine? s).isSome }

def program : Shape :=
  .mk true
    [{ name := "config", short := some 'c' }, { name := "log-level", short := some 'l' }] []
    [("init", leaf [{ name := "output", short := some 'o' }, { name := "master-key-path" },
        { name := "force", takesValue := false }] []),
      ("validate-config", leaf [] []),
      ("systems", leaf [{ name := "type" }, { name := "enabled-only", takesValue := false }] []),
      ("secrets", group [
        ("store", leaf [] [system, pairs]),
        ("list", leaf [] [system])]),
      ("webhook", group [
        ("generate-secret", leaf [] [system]),
        ("verify", leaf [{ name := "payload", required := true }, header] [system])])]

end Shape

/-- The command that values and the names of commands stand for. -/
def Command.ofArguments? (given : Dict (List String)) (path : List String) : Option Command :=
  let values (name : String) : List String := (Dict.get? given name).getD []
  let value? (name : String) : Option String := (values name).head?
  let systemId := (value? "system_id").getD ""
  match path with
  | ["init"] => some (.init ((value? "output").getD defaultConfig) (value? "master-key-path")
      (Dict.contains given "force"))
  | ["validate-config"] => some .validateConfig
  | ["systems"] => some (.systems (value? "type") (Dict.contains given "enabled-only"))
  | ["secrets", "store"] => some (.storeSecrets systemId ((values "pairs").filterMap pair?))
  | ["secrets", "list"] => some (.listSecrets systemId)
  | ["webhook", "generate-secret"] => some (.generateWebhookSecret systemId)
  | ["webhook", "verify"] => some (.verifyWebhook systemId ((value? "payload").getD "")
      ((values "header").filterMap headerLine?))
  | _ => none

/-- What arguments ask for; an environment may name the settings and the log level. -/
def Invocation.ofArguments (env : Environment) (arguments : List String) :
    Except Usage Invocation := do
  let (given, path) ← Shape.program.read arguments
  let value? (name fallback : String) : Option String :=
    (((Dict.get? given name).getD []).head?).or (Dict.get? env fallback)
  let some command := Command.ofArguments? given path | throw .wrong
  let config := (value? "config" "SWITCHYARD_CONFIG").getD defaultConfig
  pure { config, logLevel := value? "log-level" "SWITCHYARD_LOG_LEVEL", command }

end CommandLine
end Interchange
