import Interchange.Dict

/-! # Files

A tree of directories and files as a value, with the operations that programs perform on it and the
errors that these end in. Paths are relative to the root of the tree; empty steps and single dots
count for nothing, and two dots step back, out of a directory that has to be there.

What changes a tree can also fail for reasons that do not lie in the tree, such as a full disk or a
permission that is missing. Such a fault is a parameter of the operation, and it may strike half
way.
-/

namespace Interchange

/-- Why an operation on files failed. -/
inductive FileError where
  | notFound
  | alreadyExists
  | notDirectory
  | isDirectory
  | notText
  /-- A reason that does not lie in the files. -/
  | other (text : String)
deriving DecidableEq, Repr

def FileError.message : FileError → String
  | .notFound => "No such file or directory (os error 2)"
  | .alreadyExists => "File exists (os error 17)"
  | .notDirectory => "Not a directory (os error 20)"
  | .isDirectory => "Is a directory (os error 21)"
  | .notText => "stream did not contain valid UTF-8"
  | .other text => text

/-- What keeps an operation from being finished. When directories are made, `done` counts the steps
that were taken before; when a file is written, opening it and then its bytes. -/
structure FileFault where
  cause : FileError
  done : Nat := 0
deriving DecidableEq, Repr

/-- A file or a directory. -/
inductive FileNode where
  | directory
  | file (content : ByteArray) (mode : Nat)

instance : DecidableEq FileNode
  | .directory, .directory => isTrue rfl
  | .directory, .file _ _ => isFalse nofun
  | .file _ _, .directory => isFalse nofun
  | .file a m, .file b n =>
    decidable_of_iff (a.data = b.data ∧ m = n) (by simp [ByteArray.ext_iff])

/-- A tree of files, by path; the root is always there. -/
structure Files where
  nodes : Dict FileNode := []
deriving DecidableEq

namespace Path

/-- The texts between the slashes of a text. -/
def cut : List Char → List (List Char)
  | [] => [[]]
  | '/' :: cs => [] :: cut cs
  | c :: cs => match cut cs with
    | [] => [[c]]
    | step :: steps => (c :: step) :: steps

def written (path : String) : List String := (cut path.toList).map String.ofList

def stays (step : String) : Bool := step = "" ∨ step = "."

/-- Where a step leads from the directory that steps lead to. -/
def advance (here : List String) (step : String) : List String :=
  if stays step then here else if step = ".." then here.dropLast else here ++ [step]

def steps (path : String) : List String := (written path).foldl advance []

def endsInside (path : String) : Bool := (written path).getLast?.any stays

def ofSteps (steps : List String) : String :=
  String.ofList (['/'].intercalate (steps.map String.toList))

/-- A path in its shortest form. -/
def normal (path : String) : String := ofSteps (steps path)

def proper (steps : List String) : List String := (steps.reverse.dropWhile stays).reverse

def fileName (path : String) : String := (proper (written path)).getLastD ""

def parentSteps (path : String) : List String := proper (proper (written path)).dropLast

/-- What stands before the last step of a path, as it is written. -/
def parent (path : String) : String := ofSteps (parentSteps path)

def join (path step : String) : String :=
  if path = "" ∨ path.endsWith "/" then path ++ step else path ++ "/" ++ step

/-- The part of a file name before its last dot, and the part behind it; a dot in front does not
count. -/
def splitName (name : String) : String × Option String :=
  let cs := name.toList.reverse
  let ext := cs.takeWhile (· ≠ '.')
  match cs.dropWhile (· ≠ '.') with
  | [] => (name, none)
  | _ :: stem =>
    if stem.isEmpty then (name, none)
    else (String.ofList stem.reverse, some (String.ofList ext.reverse))

/-- A path with the extension of its last step replaced, if it names a file. -/
def withExtension (path ext : String) : String :=
  let name := fileName path
  if name = "" ∨ name = ".." then path
  else ofSteps ((proper (written path)).dropLast ++ [(splitName name).1 ++ "." ++ ext])

end Path

namespace Files

/-- The node at a path in its shortest form. -/
def node? (fs : Files) (key : String) : Option FileNode :=
  if key = "" then some .directory else fs.nodes.get? key

/-- Whether all the directories that written steps lead through are there: `notFound` when one is
missing, `notDirectory` when one is a file. -/
def walk (fs : Files) (here : List String) : List String → Except FileError Unit
  | [] => .ok ()
  | s :: rest =>
    let next := Path.advance here s
    if rest.all Path.stays then .ok ()
    else match fs.node? (Path.ofSteps next) with
      | some .directory => walk fs next rest
      | some (.file _ _) => .error .notDirectory
      | none => .error .notFound

theorem walk_cons (fs : Files) (here : List String) (s : String) (rest : List String) :
    fs.walk here (s :: rest) =
      if rest.all Path.stays then .ok ()
      else match fs.node? (Path.ofSteps (Path.advance here s)) with
        | some .directory => fs.walk (Path.advance here s) rest
        | some (.file _ _) => .error .notDirectory
        | none => .error .notFound := rfl

def find (fs : Files) (path : String) : Except FileError FileNode := do
  if path = "" then throw .notFound
  fs.walk [] (Path.written path)
  match fs.node? (Path.normal path) with
  | none => throw .notFound
  | some (.file content mode) =>
    if Path.endsInside path then throw .notDirectory else pure (.file content mode)
  | some .directory => pure .directory

def has (fs : Files) (path : String) : Bool := (fs.find path).isOk

def isDirectory (fs : Files) (path : String) : Bool :=
  match fs.find path with
  | .ok .directory => true
  | _ => false

def read (fs : Files) (path : String) : Except FileError ByteArray := do
  match ← fs.find path with
  | .directory => throw .isDirectory
  | .file content _ => pure content

def readText (fs : Files) (path : String) : Except FileError String := do
  match String.fromUTF8? (← fs.read path) with
  | some s => pure s
  | none => throw .notText

/-- The tree in which a file has its content, in place of what it held, if there can be a file; one
that was there keeps its mode. -/
def put (fs : Files) (path : String) (content : ByteArray) (mode : Nat := 0o644) :
    Except FileError Files := do
  match fs.find path with
  | .ok .directory => throw .isDirectory
  | .ok (.file _ old) =>
    pure { fs with nodes := fs.nodes.insert (Path.normal path) (.file content old) }
  | .error .notFound =>
    if path = "" then throw .notFound
    fs.walk [] (Path.written path)
    if Path.endsInside path then throw .isDirectory
    pure { fs with nodes := fs.nodes.insert (Path.normal path) (.file content mode) }
  | .error e => throw e

/-- The tree with a file that must not be there yet. -/
def create (fs : Files) (path : String) (content : ByteArray) (mode : Nat) :
    Except FileError Files := do
  if fs.has path then throw .alreadyExists
  fs.put path content mode

def writeText (fs : Files) (path text : String) : Except FileError Files :=
  fs.put path text.toUTF8

/-- Writes a file. A fault keeps it from being opened, or leaves it with its first bytes alone. -/
def write (fs : Files) (path : String) (content : ByteArray) (mode : Nat := 0o644)
    (fault : Option FileFault := none) : Except FileError Unit × Files :=
  match fault with
  | none => match fs.put path content mode with
    | .error e => (.error e, fs)
    | .ok fs => (.ok (), fs)
  | some ⟨cause, 0⟩ => (.error cause, fs)
  | some ⟨cause, n + 1⟩ => match fs.put path (content.extract 0 n) mode with
    | .error e => (.error e, fs)
    | .ok fs => (.error cause, fs)

/-- Makes the directories that written steps lead through, and keeps those that were made when a
step turns out to be a file; `made` says whether any was made before. -/
def makeSteps (fs : Files) (made : Bool) (here : List String) :
    List String → Except FileError Unit × Files
  | [] => (.ok (), fs)
  | s :: rest =>
    let next := Path.advance here s
    match fs.node? (Path.ofSteps next) with
    | some .directory => makeSteps fs made next rest
    | some (.file _ _) =>
      (.error (if made ∨ rest.all Path.stays then .alreadyExists else .notDirectory), fs)
    | none =>
      makeSteps { fs with nodes := fs.nodes.insert (Path.ofSteps next) .directory } true next rest

theorem makeSteps_cons (fs : Files) (made : Bool) (here : List String) (s : String)
    (rest : List String) :
    fs.makeSteps made here (s :: rest) =
      match fs.node? (Path.ofSteps (Path.advance here s)) with
      | some .directory => fs.makeSteps made (Path.advance here s) rest
      | some (.file _ _) =>
        (.error (if made ∨ rest.all Path.stays then .alreadyExists else .notDirectory), fs)
      | none =>
        makeSteps { fs with
          nodes := fs.nodes.insert (Path.ofSteps (Path.advance here s)) .directory } true
          (Path.advance here s) rest := rfl

/-- Makes a directory and the ones above it, as far as they are missing. -/
def makeDirectories (fs : Files) (path : String) : Except FileError Unit × Files :=
  fs.makeSteps false [] (Path.written path)

/-- Makes the directories above a file, if its path names any. A fault ends that after some steps,
unless it ends before for a reason that lies in the files. -/
def makeParents (fs : Files) (path : String) (fault : Option FileFault := none) :
    Except FileError Unit × Files :=
  match fault with
  | none => fs.makeSteps false [] (Path.parentSteps path)
  | some ⟨cause, done⟩ => match fs.makeSteps false [] ((Path.parentSteps path).take done) with
    | (.error _, _) => fs.makeSteps false [] (Path.parentSteps path)
    | (.ok _, fs) => (.error cause, fs)

/-- Puts a file in its place, or a directory where there is no content; as it was if that cannot
be. -/
def place (fs : Files) (path : String) (content : Option ByteArray) : Files :=
  match content with
  | none => match fs.makeDirectories path with
    | (.ok _, made) => made
    | (.error _, _) => fs
  | some bytes => match fs.makeParents path with
    | (.ok _, made) => (made.put path bytes).toOption.getD fs
    | (.error _, _) => fs

/-- Why a file that is not there cannot come to a path that can only be that of a directory. -/
def insideError (path : String) : FileError :=
  if ((Path.written path).reverse.dropWhile (· = "")).head? = some "." then .notFound
  else .notDirectory

/-- Gives a file another name, in place of a file that had it; it has either the one or the
other. -/
def rename (fs : Files) (source target : String) (fault : Option FileError := none) :
    Except FileError Files := do
  if let some cause := fault then throw cause
  match ← fs.find source with
  | .directory => throw .isDirectory
  | .file content mode =>
    match fs.find target with
    | .ok .directory => throw .isDirectory
    | .error .notFound =>
      fs.walk [] (Path.written target)
      if Path.endsInside target then throw (insideError target)
    | .error e => throw e
    | .ok _ => pure ()
    pure { fs with
      nodes := (fs.nodes.erase (Path.normal source)).insert (Path.normal target)
        (.file content mode) }

def remove (fs : Files) (path : String) : Files :=
  let key := Path.normal path
  { fs with nodes := fs.nodes.filter fun p => p.1 ≠ key ∧ !p.1.startsWith (key ++ "/") }

/-- The names in a directory, in ascending order. -/
def list (fs : Files) (path : String) : List String :=
  let key := Path.normal path
  let start := if key = "" then "" else key ++ "/"
  fs.nodes.filterMap fun p =>
    let rest := (p.1.toList.drop start.length)
    if p.1.startsWith start ∧ !rest.contains '/' ∧ !rest.isEmpty then some (String.ofList rest)
    else none

def filePaths (fs : Files) : List String :=
  fs.nodes.filterMap fun p => match p.2 with
    | .file _ _ => some p.1
    | .directory => none

end Files
end Interchange
