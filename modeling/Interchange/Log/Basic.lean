import Interchange.Log.Filter
import Interchange.Files.Basic
import Interchange.Time
import Interchange.Error

/-! # The log

A log has a level and, when its settings ask for it, a file in a directory of its own. The file is
named for the time at which it was begun, as far as the rotation goes.
-/

namespace Interchange

open Json

/-- When a new log file is begun. -/
inductive Rotation where
  | daily
  | hourly
  | never
deriving DecidableEq, Repr

namespace Rotation

def ofName (s : String) : Rotation :=
  if s = "hourly" then .hourly else if s = "never" then .never else .daily

def fileName (r : Rotation) (now : Instant) : String :=
  match r with
  | .never => "switchyard.log"
  | .daily => "switchyard.log." ++ Instant.date now
  | .hourly => "switchyard.log." ++ Instant.date now ++ "-" ++ Text.padded 2 (Instant.hour now)

end Rotation

structure Log where
  filter : LogFilter
  /-- The path of the file. -/
  path : Option String := none
  /-- What the file was given, oldest first. -/
  records : List LogRecord := []

namespace Log

/-- Gives a record to the file, if there is one and the record is kept. -/
def write (l : Log) (r : LogRecord) : Log :=
  if l.path.isSome ∧ l.filter.accepts r then { l with records := l.records ++ [r] } else l

def started (level : LogLevel) (s : LogSettings) : LogRecord :=
  { level := .info, message := "Logging initialized", source := "switchyard::logging::structured"
    fields := [("level", .string level.name), ("local_enabled", .bool s.localEnabled),
      ("local_path", .string s.localPath)] }

def alreadyStarted : Error :=
  .configuration ("Failed to install subscriber: "
    ++ "a global default trace dispatcher has already been set")

def level (name : String) : Result LogLevel :=
  match LogLevel.ofName? name with
  | some level => .ok level
  | none => .error (.configuration (LogLevel.unknownMessage name))

def begin? (s : LogSettings) (fs : Files) (now : Instant) : Result (Option String) × Files :=
  if !s.localEnabled then (.ok none, fs)
  else match fs.makeDirectories s.localPath with
    | (.error e, fs) => (.error (.configuration ("Failed to create log directory " ++ s.localPath
        ++ ": " ++ e.message)), fs)
    | (.ok _, fs) =>
      let path := Path.join s.localPath ((Rotation.ofName s.localRotation).fileName now)
      (.ok (some path), if fs.has path then fs else fs.place path (some ByteArray.empty))

def start (name : String) (s : LogSettings) (env : Environment) (fs : Files) (now : Instant) :
    Result Log × Files :=
  match level name with
  | .error e => (.error e, fs)
  | .ok level => match begin? s fs now with
    | (.error e, fs) => (.error e, fs)
    | (.ok path, fs) =>
      (.ok (({ filter := .ofEnvironment env level, path } : Log).write (started level s)), fs)

end Log
end Interchange
