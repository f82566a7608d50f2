import Interchange.Json.Basic

/-! # Reading records from JSON values

How a JSON value is read as a record, a choice between names, a list or a map. A record may be
written as an object, where unknown members are skipped and a known one may occur once, or as the
array of its fields in order, where trailing fields may be left out. A reader answers `none` when
the value does not have the wanted shape.
-/

namespace Interchange
namespace Json
namespace Decode

variable {α β : Type}

def text (v : Value) : Option String := v.text?

def bool : Value → Option Bool
  | .bool b => some b
  | _ => none

def natBelow (bound : Nat) : Value → Option Nat
  | .number (.int n) => if 0 ≤ n ∧ n < bound then some n.toNat else none
  | _ => none

def any (v : Value) : Option Value := some v.normalize

def optional (f : Value → Option α) : Value → Option (Option α)
  | .null => some none
  | v => (f v).map some

def list (f : Value → Option α) : Value → Option (List α)
  | .array items => items.mapM f
  | _ => none

/-- An object whose members `f` reads; the last of several members with one key wins. -/
def dict (f : Value → Option α) : Value → Option (Dict α)
  | .object members =>
    (members.mapM fun m => (f m.2).map fun a => (m.1, a)).map Dict.ofList
  | _ => none

/-- One of the given names, written as a text or as an object that maps it to null. -/
def choice (names : List (String × α)) : Value → Option α
  | .string s => names.lookup s
  | .object [(s, .null)] => names.lookup s
  | _ => none

/-- The members of an object that have one of the given names; `none` when one occurs twice. -/
def known (names : List String) : List (String × Value) → Option (Dict Value)
  | [] => some []
  | (k, v) :: rest => (known names rest).bind fun fields =>
    if names.contains k then
      if Dict.contains fields k then none else some (Dict.insert fields k v)
    else some fields

def record (names : List String) : Value → Option (Dict Value)
  | .object members => known names members
  | .array items =>
    if items.length ≤ names.length then some (Dict.ofList (names.zip items)) else none
  | _ => none

def field (fields : Dict Value) (name : String) (f : Value → Option α) : Option α :=
  (fields.get? name).bind f

def fieldOr (fields : Dict Value) (name : String) (f : Value → Option α) (default : α) : Option α :=
  match fields.get? name with
  | none => some default
  | some v => f v

end Decode
end Json
end Interchange
