import Interchange.Dict
import Interchange.Text.Trim

/-! # Reading arguments

A command has options, which are named, positions, which are filled in order, and commands of its
own. `Shape.read` takes the arguments of a command one by one and collects the values given to its
parameters; it refuses arguments that do not fit, and it stops where help is asked for. Of what is
then told about the use of the program only the text about a value that is refused is kept here.
-/

namespace Interchange
namespace CommandLine

open Text

/-- Why arguments lead to no command. -/
inductive Usage where
  /-- They ask for help or for the version. -/
  | asked
  /-- They do not fit. -/
  | wrong
  /-- A value of a parameter, which is named as `label`, does not have the form of its values. -/
  | refused (label form value : String)
deriving DecidableEq, Repr

def Usage.exitCode : Usage → Nat
  | .asked => 0
  | .wrong | .refused .. => 2

/-- What is told about a value that is refused. -/
def Usage.complaints : Usage → List String
  | .asked | .wrong => []
  | .refused label form value =>
    ["error: invalid value '" ++ value ++ "' for '" ++ label ++ "': expected " ++ form ++ ", got '"
        ++ value ++ "'",
      "",
      "For more information, try '--help'."]

/-- An option or a position. -/
structure Parameter where
  name : String
  /-- The letter of an option, beside its name. -/
  short : Option Char := none
  takesValue : Bool := true
  /-- Whether there may be several values. -/
  many : Bool := false
  required : Bool := false
  /-- How it is named to the user, and the form of its values. -/
  label : String := ""
  form : String := ""
  accepts : String → Bool := fun _ => true

/-- A command: whether it has a version, its options, its positions and its own commands. -/
inductive Shape where
  | mk (versioned : Bool) (options positions : List Parameter) (commands : List (String × Shape))

namespace Shape

def versioned : Shape → Bool
  | .mk v _ _ _ => v

def options : Shape → List Parameter
  | .mk _ os _ _ => os

def positions : Shape → List Parameter
  | .mk _ _ ps _ => ps

def commands : Shape → List (String × Shape)
  | .mk _ _ _ cs => cs

end Shape

/-- The values given so far, and where the next argument belongs. -/
structure Scan where
  given : Dict (List String) := []
  /-- The parameter that is being given values. -/
  current : Option (Parameter × List String) := none
  /-- The next argument is the value of the current option. -/
  awaiting : Bool := false
  /-- The next argument may be one more value of the current position. -/
  collecting : Bool := false
  /-- The number of positions that are filled. -/
  filled : Nat := 0
  /-- No options follow. -/
  onlyPositions : Bool := false

namespace Scan

/-- Takes down the values of the current parameter. -/
def settle (s : Scan) : Except Usage Scan :=
  match s.current with
  | none => .ok s
  | some (p, values) =>
    let before := Dict.get? s.given p.name
    if p.takesValue ∧ values = [] then .error .wrong
    else match values.find? fun v => !p.accepts v with
      | some v => .error (.refused p.label p.form v)
      | none =>
        if before.isSome ∧ !p.many then .error .wrong
        else .ok { s with
          current := none
          given := Dict.insert s.given p.name (before.getD [] ++ values) }

def turnTo (s : Scan) (p : Parameter) (values : List String) : Except Usage Scan := do
  let s ← s.settle
  pure { s with current := some (p, values), awaiting := false, collecting := false }

/-- Takes an option, with the value that stands in the same argument. -/
def takeOption (s : Scan) (p : Parameter) (attached : Option String) : Except Usage Scan := do
  let s ← s.turnTo p attached.toList
  if p.takesValue then
    match attached with
    | some _ => s.settle
    | none => pure { s with awaiting := true }
  else if attached.isSome then throw .wrong
  else s.settle

/-- Stops at a request for help or for the version. -/
def ask (s : Scan) (attached : Option String) : Except Usage Scan := do
  let _ ← s.settle
  throw (if attached.isSome then .wrong else .asked)

/-- Takes a named option; the name may be followed by `=` and a value. -/
def takeName (s : Scan) (shape : Shape) (cs : List Char) : Except Usage Scan :=
  let (name, attached) := match cutAt '=' cs with
    | some (name, value) => (String.ofList name, some (String.ofList value))
    | none => (String.ofList cs, none)
  match shape.options.find? fun p => p.name = name with
  | some p => s.takeOption p attached
  | none =>
    if name = "help" ∨ (name = "version" ∧ shape.versioned) then s.ask attached else .error .wrong

/-- Takes letters that stand for options; the rest behind one that takes a value is the value. -/
def takeLetters (s : Scan) (shape : Shape) : List Char → Except Usage Scan
  | [] => .ok s
  | c :: cs => match shape.options.find? fun p => p.short = some c with
    | some p =>
      if p.takesValue then
        s.takeOption p (match cs with
          | [] => none
          | '=' :: cs => some (String.ofList cs)
          | cs => some (String.ofList cs))
      else do takeLetters (← s.takeOption p none) shape cs
    | none => if c = 'h' ∨ (c = 'V' ∧ shape.versioned) then s.ask none else .error .wrong

def takeValue (s : Scan) (shape : Shape) (value : String) : Except Usage Scan := do
  let some p := shape.positions[s.filled]? | throw .wrong
  let filled := if p.many then s.filled else s.filled + 1
  match s.current with
  | some (q, values) =>
    if p.many ∧ q.name = p.name then
      pure { s with current := some (q, values ++ [value]), collecting := true }
    else pure { ← s.turnTo p [value] with filled, collecting := p.many }
  | none => pure { ← s.turnTo p [value] with filled, collecting := p.many }

def take (s : Scan) (shape : Shape) (argument : String) : Except Usage Scan :=
  if s.onlyPositions then s.takeValue shape argument
  else match argument.toList with
    | ['-', '-'] => .ok { s with onlyPositions := true }
    | '-' :: '-' :: cs => s.takeName shape cs
    | '-' :: c :: cs => s.takeLetters shape (c :: cs)
    | _ => match s.awaiting, s.current with
      | true, some (p, values) =>
        .ok { s with current := some (p, values ++ [argument]), awaiting := false }
      | _, _ => s.takeValue shape argument

end Scan

namespace Shape

/-- How arguments behind the command `help` end. -/
def help (shape : Shape) : List String → Usage
  | [] => .asked
  | name :: rest => match shape.commands.lookup name with
    | some command => help command rest
    | none => if shape.commands ≠ [] ∧ name = "help" ∧ rest = [] then .asked else .wrong

/-- The values given to a command once all arguments are taken. -/
def complete (shape : Shape) (s : Scan) : Except Usage (Dict (List String)) := do
  let s ← s.settle
  let parameters := shape.options ++ shape.positions
  if parameters.all fun p => !p.required || Dict.contains s.given p.name then pure s.given
  else throw .wrong

/-- Reads the arguments of a command from the state `s` on: the values given to it and to the
commands in it, and the names of the latter. -/
def readFrom (shape : Shape) (s : Scan) :
    List String → Except Usage (Dict (List String) × List String)
  | [] => do
    let given ← shape.complete s
    if shape.commands = [] then pure (given, []) else throw .wrong
  | argument :: rest =>
    let command? : Option Shape :=
      if s.onlyPositions ∨ s.awaiting ∨ s.collecting then none
      else shape.commands.lookup argument
    match command? with
    | some command => do
      let (below, path) ← readFrom command {} rest
      let given ← shape.complete s
      pure (Dict.insertAll given below, argument :: path)
    | none =>
      if argument = "help" ∧ shape.commands ≠ [] ∧ !(s.onlyPositions || s.awaiting || s.collecting)
      then .error (shape.help rest)
      else do readFrom shape (← s.take shape argument) rest

def read (shape : Shape) (arguments : List String) :
    Except Usage (Dict (List String) × List String) :=
  shape.readFrom {} arguments

end Shape
end CommandLine
end Interchange
