import Interchange.Error
import Interchange.Files.Basic

/-! # Programs that print lines

A program prints lines and works on files until it ends with an exit code or fails.
-/

namespace Interchange
namespace CommandLine

/-- Why a program failed. -/
inductive Failure where
  /-- The gateway could not do what was asked. -/
  | gateway (e : Error)
  /-- A file that the caller named could not be read. -/
  | file (e : FileError)
deriving DecidableEq, Repr

def Failure.message : Failure → String
  | .gateway e => e.message
  | .file e => e.message

/-- How a program ends before its last step. -/
inductive Stop where
  | exit (code : Nat)
  | failed (f : Failure)
deriving DecidableEq, Repr

/-- What a program has printed, and the files as they are. -/
structure Console where
  lines : List String := []
  files : Files := {}

/-- A program that prints lines and works on files. -/
abbrev Printing (α : Type) := ExceptT Stop (StateM Console) α

namespace Printing

variable {α : Type}

def line (s : String) : Printing Unit := modify fun c => { c with lines := c.lines ++ [s] }

def blank : Printing Unit := line ""

def complaint (part reason : String) : Printing Unit := do
  line ("❌ " ++ part)
  line ("   Error: " ++ reason)

def exit (code : Nat) : Printing α := throw (.exit code)

def files : Printing Files := do return (← get).files

/-- Goes on with the value of a result; an error ends the program. -/
def ofResult (r : Result α) : Printing α :=
  match r with
  | .ok a => pure a
  | .error e => throw (.failed (.gateway e))

def change (f : Files → Result α × Files) : Printing (Result α) := do
  let (r, fs) := f (← files)
  modify fun c => { c with files := fs }
  pure r

/-- Makes a change to the files; an error ends the program. -/
def commit (f : Files → Result α × Files) : Printing α := do ofResult (← change f)

/-- Runs a program on files: how it ended, what it printed, and the files that it left. -/
def onFiles (p : Printing Nat) (fs : Files) : Except Failure Nat × Console :=
  let (r, c) := (p.run).run { files := fs }
  (match r with
    | .ok code => .ok code
    | .error (.exit code) => .ok code
    | .error (.failed f) => .error f, c)

end Printing
end CommandLine
end Interchange
