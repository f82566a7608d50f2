import Interchange.Adapter.Pool
import Interchange.Json.Members

/-! # Systems that follow a script

A scripted system answers as its script says, one entry for each time that it is asked. Where the
script has no entry it connects, and answers an operation with its parameters. Entries can be
written as JSON.
-/

namespace Interchange

open Json

/-- The entries of a script, the first time in front; `none` stands for the usual answer. -/
structure Script where
  connects : List (Option Reply) := []
  executes : List (Option Reply) := []

namespace Script

def peer (s : Script) : Peer where
  reply calls := match calls.getLast? with
    | some (.execute _ params _) =>
      (s.executes[(calls.filter AdapterCall.isExecute).length - 1]?).join.getD (.now (.ok params))
    | _ =>
      (s.connects[(calls.filter AdapterCall.isConnect).length - 1]?).join.getD
        (.now (.ok (.bool true)))

def append (entries : List (Option Reply)) (made : Nat) (more : List Reply) :
    List (Option Reply) :=
  entries ++ List.replicate (made - entries.length) none ++ more.map some

/-- A script with more entries for what is asked after the given calls. -/
def extend (s : Script) (calls : List AdapterCall) (connects executes : List Reply) : Script :=
  { connects := append s.connects (calls.filter AdapterCall.isConnect).length connects
    executes := append s.executes (calls.filter AdapterCall.isExecute).length executes }

/-- The error that a record asks for by its kind, with a text and violations. -/
def error (systemId : String) (v : Value) : Error :=
  .ofKind (v.str "kind") systemId (v.str "error") (Value.texts (v.list "errors"))

/-- The result that a record asks for: an error under `fail`, else the value under `ok`. -/
def result (systemId : String) (v : Value) : Result Value :=
  match v.get? "fail" with
  | some e => .error (error systemId e)
  | none => .ok (v.at "ok")

/-- The entry that a value writes: the text `wait`, a truth value, a value under `ok`, or an
error. -/
def entry (systemId : String) (v : Value) : Reply :=
  match v with
  | .string "wait" => .later
  | .bool b => .now (.ok (.bool b))
  | v => match v.get? "ok" with
    | some x => .now (.ok x)
    | none => .now (.error (error systemId v))

/-- A script with the further entries that a record writes under `connects` and `replies`. -/
def extendJson (s : Script) (systemId : String) (calls : List AdapterCall) (v : Value) : Script :=
  s.extend calls ((v.list "connects").map (entry systemId))
    ((v.list "replies").map (entry systemId))

/-- Refuses to make an adapter for a configuration that says so itself. -/
def check (c : SystemConfig) : Result Unit :=
  match (Dict.get? c.connectionParams "refuse").bind Value.text? with
  | some reason => .error (.configuration reason)
  | none => .ok ()

end Script

/-- Adapters for types of systems, whose systems follow empty scripts. -/
def AdapterPool.ofTypes (types : List String) : AdapterPool :=
  types.foldl (fun p t => p.register t Script.check) { peers := fun _ => ({} : Script).peer }

/-- Adapters whose systems follow scripts, by system. -/
def AdapterPool.scripted (p : AdapterPool) (scripts : Dict Script) : AdapterPool :=
  { p with peers := fun systemId => ((Dict.get? scripts systemId).getD {}).peer }

end Interchange
