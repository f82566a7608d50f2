import Interchange.Json.Basic

/-! # Tables of a TOML document

A table is defined once: by its header, by dotted keys, or by a value in braces. Headers may pass
through tables that longer headers or dotted keys imply, and through the last table of an array;
dotted keys pass only through tables that no header has defined.
-/

namespace Interchange
namespace Toml

open Json

/-- What has made a table. -/
inductive Origin where
  /-- Its own header, or the document. -/
  | header
  /-- A longer header. -/
  | longerHeader
  /-- A dotted key. -/
  | dottedKey
deriving DecidableEq, Repr

/-- What a key of a table stands for. -/
inductive Entry where
  | value (v : Value)
  | table (origin : Origin) (entries : List (String × Entry))
  | tables (items : List (List (String × Entry)))

/-- The entries of a table. -/
abbrev Table := Dict Entry

mutual

def Entry.read : Entry → Value
  | .value v => v
  | .table _ t => .object (membersOf t)
  | .tables ts => .array (itemsOf ts)

def membersOf : List (String × Entry) → List (String × Value)
  | [] => []
  | (k, e) :: t => (k, e.read) :: membersOf t

def itemsOf : List (List (String × Entry)) → List Value
  | [] => []
  | t :: ts => .object (membersOf t) :: itemsOf ts

end

namespace Table

def value (t : Table) : Value := .object (membersOf t)

/-- Changes the table that a path leads to from a table; `f` is told what has made it. A table that
is missing on the way is made. A dotted path does not lead through a table with a header. -/
def alter (dotted : Bool) (f : Origin → Table → Option Table) (origin : Origin) (t : Table) :
    List String → Option Table
  | [] => f origin t
  | k :: ks => match Dict.get? t k with
    | none =>
      let made := if dotted then Origin.dottedKey else .longerHeader
      (alter dotted f made [] ks).map fun sub => Dict.insert t k (.table made sub)
    | some (.value _) => none
    | some (.table o sub) =>
      if dotted ∧ o = .header then none
      else (alter dotted f o sub ks).map fun sub => Dict.insert t k (.table o sub)
    | some (.tables ts) => match ts.getLast? with
      | none => none
      | some sub => (alter dotted f .header sub ks).map fun sub =>
          Dict.insert t k (.tables (ts.dropLast ++ [sub]))

/-- Gives a value to the last of dotted keys. -/
def define (t : Table) (path : List String) (v : Value) : Option Table :=
  let here := path.dropLast
  alter true (fun origin t => (path.getLast?).bind fun k =>
    if (origin = .dottedKey ↔ here = []) ∨ Dict.contains t k then none
    else some (Dict.insert t k (.value v))) .header t here

def addHeader (t : Table) (path : List String) : Option Table :=
  alter false (fun _ t => (path.getLast?).bind fun k =>
    match Dict.get? t k with
    | none => some (Dict.insert t k (.table .header []))
    | some (.table .longerHeader sub) => some (Dict.insert t k (.table .header sub))
    | _ => none) .header t path.dropLast

def addItem (t : Table) (path : List String) : Option Table :=
  alter false (fun _ t => (path.getLast?).bind fun k =>
    match Dict.get? t k with
    | none => some (Dict.insert t k (.tables [[]]))
    | some (.tables ts) => some (Dict.insert t k (.tables (ts ++ [[]])))
    | _ => none) .header t path.dropLast

def defineBelow (t : Table) (header path : List String) (v : Value) : Option Table :=
  alter false (fun _ t => define t path v) .header t header

end Table
end Toml
end Interchange
