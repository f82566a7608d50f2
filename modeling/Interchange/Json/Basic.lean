import Interchange.Dict
import Interchange.Binary64.Basic

/-! # JSON values

A value as the gateway carries it. Whole numbers that fit 64 bits stay whole numbers; every other
number is a finite binary64. An object lists its members in ascending key order, each key once;
`normalize` brings any list of members into that form, the last of several members with one key
winning.
-/

namespace Interchange
namespace Json

inductive Number where
  | int (n : Int)
  | float (x : Binary64)
deriving DecidableEq

inductive Value where
  | null
  | bool (b : Bool)
  | number (n : Number)
  | string (s : String)
  | array (items : List Value)
  | object (members : List (String × Value))

instance : Inhabited Value := ⟨.null⟩

/-- A JSON object by itself. -/
abbrev Object := Dict Value

/-- The whole numbers that a JSON number holds exactly: 64 bits, signed or unsigned. -/
def Number.InRange (n : Int) : Prop := -Nat.pow 2 63 ≤ n ∧ n < Nat.pow 2 64

namespace Value

def ofInt (n : Int) : Value := .number (.int n)

def ofNat (n : Nat) : Value := .number (.int n)

def ofText? : Option String → Value
  | none => .null
  | some s => .string s

def ofPairs (ps : List (String × Value)) : Value := .object (Dict.ofList ps)

mutual

/-- Whether two values are the same, number for number and member for member. -/
def same : Value → Value → Bool
  | .null, .null => true
  | .bool a, .bool b => a == b
  | .number a, .number b => decide (a = b)
  | .string a, .string b => a == b
  | .array a, .array b => sameItems a b
  | .object a, .object b => sameMembers a b
  | _, _ => false

def sameItems : List Value → List Value → Bool
  | [], [] => true
  | a :: as, b :: bs => same a b && sameItems as bs
  | _, _ => false

def sameMembers : List (String × Value) → List (String × Value) → Bool
  | [], [] => true
  | (k, a) :: as, (l, b) :: bs => k == l && same a b && sameMembers as bs
  | _, _ => false

end

mutual

theorem same_iff : ∀ a b : Value, same a b = true ↔ a = b
  | .null, b => by cases b <;> simp [same]
  | .bool a, b => by cases b <;> simp [same]
  | .number a, b => by cases b <;> simp [same]
  | .string a, b => by cases b <;> simp [same]
  | .array a, b => by cases b <;> simp [same, sameItems_iff a]
  | .object a, b => by cases b <;> simp [same, sameMembers_iff a]

theorem sameItems_iff : ∀ a b : List Value, sameItems a b = true ↔ a = b
  | [], b => by cases b <;> simp [sameItems]
  | a :: as, b => by cases b <;> simp [sameItems, same_iff a, sameItems_iff as]

theorem sameMembers_iff : ∀ a b : List (String × Value), sameMembers a b = true ↔ a = b
  | [], b => by cases b <;> simp [sameMembers]
  | (k, a) :: as, b => by
    cases b with
    | nil => simp [sameMembers]
    | cons p bs =>
      obtain ⟨l, b⟩ := p
      simp [sameMembers, same_iff a, sameMembers_iff as]

end

instance : DecidableEq Value := fun a b => decidable_of_iff _ (same_iff a b)

def kind : Value → String
  | .null => "null"
  | .bool _ => "boolean"
  | .number _ => "number"
  | .string _ => "string"
  | .array _ => "array"
  | .object _ => "object"

mutual

/-- The value with the members of every object in ascending key order, each key once; the last of
several members with one key wins. -/
def normalize : Value → Value
  | .array items => .array (normalizeItems items)
  | .object members => .object (Dict.ofList (normalizeMembers members))
  | v => v

def normalizeItems : List Value → List Value
  | [] => []
  | v :: vs => normalize v :: normalizeItems vs

def normalizeMembers : List (String × Value) → List (String × Value)
  | [] => []
  | (k, v) :: ms => (k, normalize v) :: normalizeMembers ms

end

def text? : Value → Option String
  | .string s => some s
  | _ => none

def object? : Value → Option Object
  | .object members => some members
  | _ => none

def array? : Value → Option (List Value)
  | .array items => some items
  | _ => none

def get? (v : Value) (k : String) : Option Value := v.object?.bind fun o => Dict.get? o k

def isNull : Value → Bool
  | .null => true
  | _ => false

end Value
end Json
end Interchange
