import Interchange.System.Config
import Interchange.Files.Replace
import Interchange.Json.Reader
import Interchange.Json.Printer
import Interchange.Error

/-! # The registry of systems

The configurations of all systems by their ids, in memory alone or with a copy in a file. A change
is written to the file first; when that fails the registry stays as it was.
-/

namespace Interchange

open Json

/-- The registered systems. -/
structure Registry where
  /-- The file that holds a copy. -/
  path : Option String := none
  systems : Dict SystemConfig := []
deriving DecidableEq

structure SystemFilter where
  systemType : Option String := none
  enabled : Option Bool := none
deriving DecidableEq, Repr

def SystemFilter.accepts (f : SystemFilter) (c : SystemConfig) : Bool :=
  (f.systemType.all fun t => c.systemType = t) && f.enabled.all fun e => c.enabled = e

namespace Registry

def ofSystems (cs : List SystemConfig) : Registry :=
  { systems := Dict.ofList (cs.map fun c => (c.systemId, c)) }

/-- The systems that a text holds: an object of configurations, or nothing at all. -/
def readSystems? (text : String) : Option (Dict SystemConfig) :=
  if Text.allBlank text then some []
  else (parseVerbatim? text).bind (Decode.dict SystemConfig.ofJson?)

/-- Opens the registry whose copy is in a file. A missing file is an empty registry. -/
def ofFile (fs : Files) (path : String) : Result Registry :=
  match fs.readText path with
  | .error .notFound => .ok { path := some path }
  | .error e => .error (.files e.message)
  | .ok text => match readSystems? text with
    | none =>
      .error (.storage ("Registry file " ++ path ++ " is invalid: not an object of systems"))
    | some systems => match systems.find? fun p => p.1 ≠ p.2.systemId with
      | some (id, c) => .error (.storage
          ("Registry entry '" ++ id ++ "' holds config for '" ++ c.systemId ++ "'"))
      | none => .ok { path := some path, systems }

def fileText (systems : Dict SystemConfig) : String :=
  (Value.object (Dict.mapValues SystemConfig.toJson systems)).indented

/-- Makes a map of systems that of the registry, once the file holds it. -/
def commit (r : Registry) (fs : Files) (systems : Dict SystemConfig)
    (faults : ReplaceFaults := {}) : Result Registry × Files :=
  match r.path with
  | none => (.ok { r with systems }, fs)
  | some path => match fs.replace path (fileText systems) faults with
    | (.error e, fs) => (.error (.files e.cause.message), fs)
    | (.ok _, fs) => (.ok { r with systems }, fs)

def get? (r : Registry) (systemId : String) : Option SystemConfig := Dict.get? r.systems systemId

def list (r : Registry) (f : SystemFilter) : List SystemConfig :=
  (Dict.values r.systems).filter f.accepts

def check (c : SystemConfig) : Result Unit :=
  match c.validate with
  | .ok _ => .ok ()
  | .error p => .error (.validation p.message)

def unknown (systemId : String) : Error := .notFound ("Integration system '" ++ systemId ++ "'")

def register (r : Registry) (fs : Files) (c : SystemConfig) (faults : ReplaceFaults := {}) :
    Result Registry × Files :=
  match check c with
  | .error e => (.error e, fs)
  | .ok _ =>
    if r.systems.contains c.systemId then
      (.error (.validation ("System '" ++ c.systemId ++ "' is already registered")), fs)
    else r.commit fs (r.systems.insert c.systemId c) faults

def update (r : Registry) (fs : Files) (c : SystemConfig) (faults : ReplaceFaults := {}) :
    Result Registry × Files :=
  match check c with
  | .error e => (.error e, fs)
  | .ok _ =>
    if r.systems.contains c.systemId then r.commit fs (r.systems.insert c.systemId c) faults
    else (.error (unknown c.systemId), fs)

def unregister (r : Registry) (fs : Files) (systemId : String) (faults : ReplaceFaults := {}) :
    Result (Bool × Registry) × Files :=
  if r.systems.contains systemId then
    match r.commit fs (r.systems.erase systemId) faults with
    | (.error e, fs) => (.error e, fs)
    | (.ok r, fs) => (.ok (true, r), fs)
  else (.ok (false, r), fs)

end Registry
end Interchange
