import Interchange.Json.Basic

/-! # Members of objects

Members of an object read with a default: a member that is missing or of another kind counts as the
empty text, list or object.
-/

namespace Interchange
namespace Json
def Value.at (v : Value) (k : String) : Value := (v.get? k).getD .null

namespace Value

def str (v : Value) (k : String) : String := ((v.at k).text?).getD ""

def strOr (v : Value) (k default : String) : String := ((v.at k).text?).getD default

def list (v : Value) (k : String) : List Value := ((v.at k).array?).getD []

def obj (v : Value) (k : String) : Object := ((v.at k).object?).getD []

def nat? : Value → Option Nat
  | .number (.int n) => if 0 ≤ n then some n.toNat else none
  | _ => none

def nat (v : Value) (k : String) (default : Nat) : Nat := ((v.at k).nat?).getD default

def flag (v : Value) (k : String) : Bool := v.at k = .bool true

def texts (vs : List Value) : List String := vs.filterMap text?

def textDict (o : Object) : Dict String := o.filterMap fun p => p.2.text?.map fun t => (p.1, t)

def join : Value → Value → Value
  | .object a, .object b => .object (a ++ b)
  | a, _ => a

end Value
end Json
end Interchange
