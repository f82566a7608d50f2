import Interchange.CommandLine.Run
import Interchange.Log.Basic
import Interchange.Settings.EnvironmentFile

/-! # The program

A run of the program on its arguments: the environment is read, the log is started, and the command
is run. What went wrong is told on a line of its own.
-/

namespace Interchange
namespace CommandLine

/-- How a run of the program ends. -/
structure Ending where
  exitCode : Nat
  /-- What was printed. -/
  lines : List String := []
  /-- What went wrong. -/
  complaints : List String := []
  files : Files

/-- The exit code after a failure: 2 for what has been set wrong, else 5. -/
def Failure.exitCode : Failure → Nat
  | .gateway (.configuration _) => 2
  | _ => 5

def defaultLogLevel : String := "info"

def program (s : Surroundings) (arguments : List String) (fs : Files)
    (order : EntryOrder := .same) : Ending :=
  let s := { s with environment := EnvironmentFile.load s.environment fs }
  match Invocation.ofArguments s.environment arguments with
  | .error usage => { exitCode := usage.exitCode, complaints := usage.complaints, files := fs }
  | .ok i => match Log.level (i.logLevel.getD defaultLogLevel) with
    | .error e =>
      { exitCode := 5, complaints := ["Failed to initialize logging: " ++ e.message], files := fs }
    | .ok _ =>
      let (ending, c) := (i.command.run s i.config order).onFiles fs
      match ending with
      | .ok exitCode => { exitCode, lines := c.lines, files := c.files }
      | .error f =>
        { exitCode := f.exitCode, lines := c.lines, complaints := ["Error: " ++ f.message],
          files := c.files }

end CommandLine
end Interchange
