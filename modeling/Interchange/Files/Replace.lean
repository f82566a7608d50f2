import Interchange.Files.Basic

/-! # Replacing a file

A file is replaced by writing its new text beside it, under its name with the extension `json.tmp`,
and renaming that. Until the last step the file holds what it held before, and what was written
beside it stays when a fault ends the replacement.
-/

namespace Interchange

/-- Where replacing a file can fail. -/
inductive ReplaceStep where
  | parents
  | write
  | rename
deriving DecidableEq, Repr

/-- Why a file was not replaced. -/
structure ReplaceError where
  step : ReplaceStep
  cause : FileError
deriving DecidableEq, Repr

/-- What keeps a file from being replaced, beside what is in the files. -/
structure ReplaceFaults where
  parents : Option FileFault := none
  write : Option FileFault := none
  rename : Option FileError := none
deriving DecidableEq, Repr

/-- The file that a new text is written to first. -/
def Path.temporary (path : String) : String := Path.withExtension path "json.tmp"

namespace Files

/-- Replaces the text of a file, and makes the directories above it. -/
def replace (fs : Files) (path text : String) (faults : ReplaceFaults := {}) :
    Except ReplaceError Unit × Files :=
  match fs.makeParents path faults.parents with
  | (.error e, fs) => (.error ⟨.parents, e⟩, fs)
  | (.ok _, fs) => match fs.write (Path.temporary path) text.toUTF8 0o644 faults.write with
    | (.error e, fs) => (.error ⟨.write, e⟩, fs)
    | (.ok _, fs) => match fs.rename (Path.temporary path) path faults.rename with
      | .error e => (.error ⟨.rename, e⟩, fs)
      | .ok fs => (.ok (), fs)

end Files
end Interchange
