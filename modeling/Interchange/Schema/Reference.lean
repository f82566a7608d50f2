import Interchange.Schema.Form
import Interchange.Json.Reader
import Interchange.Pattern.Reader

/-! # References between schemas

A reference names a schema of the same document: by a pointer, an anchor or an identifier. A schema
is `usable` if every schema that validation may reach from it is there and its patterns can be read.
-/

namespace Interchange
namespace Schema

open Json

/-- Replaces `%` and two hexadecimal digits by the character; ASCII only. -/
def unquotePercent : List Char → List Char
  | '%' :: a :: b :: cs => match hexValue? a, hexValue? b with
    | some x, some y => Char.ofNat (16 * x + y) :: unquotePercent cs
    | _, _ => '%' :: unquotePercent (a :: b :: cs)
  | c :: cs => c :: unquotePercent cs
  | [] => []

def pointerStep : List Char → List Char
  | '~' :: '1' :: cs => '/' :: pointerStep cs
  | '~' :: '0' :: cs => '~' :: pointerStep cs
  | c :: cs => c :: pointerStep cs
  | [] => []

def follow (v : Value) : List (List Char) → Option Value
  | [] => some v
  | step :: steps => match v with
    | .object members => (Dict.get? members (String.ofList (pointerStep step))).bind fun w =>
      follow w steps
    | .array items =>
      if step ≠ [] ∧ step.all Text.isDigit then
        (items[Text.digitsValue step]?).bind fun w => follow w steps
      else none
    | _ => none

mutual

/-- The first object, in the order of the text, that satisfies a test. -/
def findObject (test : Object → Bool) : Value → Option Value
  | .object members => if test members then some (.object members) else findMember test members
  | .array items => findItem test items
  | _ => none

def findItem (test : Object → Bool) : List Value → Option Value
  | [] => none
  | v :: vs => (findObject test v).or (findItem test vs)

def findMember (test : Object → Bool) : List (String × Value) → Option Value
  | [] => none
  | (_, v) :: ms => (findObject test v).or (findMember test ms)

end

def resolveFragment (document : Value) (fragment : List Char) : Option Value :=
  match fragment with
  | [] => some document
  | '/' :: pointer =>
    follow document (((String.ofList (unquotePercent pointer)).splitOn "/").map String.toList)
  | anchor =>
    let name : Value := .string (String.ofList anchor)
    findObject (fun o => o.get? "$anchor" == some name || o.get? "$dynamicAnchor" == some name)
      document

def resolve (root : Value) (reference : String) : Option Value :=
  let base := reference.toList.takeWhile (· ≠ '#')
  let fragment := (reference.toList.dropWhile (· ≠ '#')).drop 1
  if base = [] then resolveFragment root fragment
  else
    let name : List Char → Bool := fun id => id.takeWhile (· ≠ '#') == base
    let folder := match root.get? "$id" with
      | some (.string id) => (id.toList.reverse.dropWhile (· ≠ '/')).reverse
      | _ => []
    (findObject (fun o => match o.get? "$id" with
      | some (.string id) => name id.toList || id.toList.takeWhile (· ≠ '#') == folder ++ base
      | _ => false) root).bind fun document => resolveFragment document fragment

/-- The schemas that the arguments of a schema's keywords hold and that validation may apply. -/
def parts (members : Object) : List Value :=
  members.flatMap fun (k, v) =>
    if ["additionalProperties", "items", "contains", "propertyNames", "not", "unevaluatedItems",
        "unevaluatedProperties", "if"].contains k then [v]
    else if k = "then" ∨ k = "else" then (if Dict.contains members "if" then [v] else [])
    else if ["properties", "patternProperties", "dependentSchemas", "dependencies"].contains k then
      match v with
      | .object ms => (Dict.values ms).filter fun w => w.array?.isNone
      | _ => []
    else if ["prefixItems", "allOf", "anyOf", "oneOf"].contains k then (v.array?).getD []
    else []

def patterns (members : Object) : List String :=
  (match members.get? "pattern" with
    | some (.string p) => [p]
    | _ => [])
  ++ match members.get? "patternProperties" with
    | some (.object ms) => Dict.keys ms
    | _ => []

/-- Whether validation can be carried out from the schemas in `todo`; `seen` lists the references
that were followed, and `fuel` bounds the number of schemas. -/
def usableFrom (root : Value) : (fuel : Nat) → (seen : List String) → (todo : List Value) → Bool
  | _, _, [] => true
  | 0, _, _ => false
  | fuel + 1, seen, .bool _ :: todo => usableFrom root fuel seen todo
  | fuel + 1, seen, .object members :: todo =>
    let refs := ["$ref", "$dynamicRef"].filterMap fun k => (Dict.get? members k).bind Value.text?
    let fresh := refs.filter fun r => !seen.contains r
    (patterns members).all (fun p => (Pattern.read? p).isSome) &&
      match fresh.mapM (resolve root) with
      | some targets => usableFrom root fuel (fresh ++ seen) (targets ++ parts members ++ todo)
      | none => false
  | _, _, _ => false

/-- The names of the dialects of JSON Schema. -/
def dialects : List String :=
  ["https://json-schema.org/draft/2020-12/schema", "https://json-schema.org/draft/2019-09/schema",
    "http://json-schema.org/draft-07/schema", "http://json-schema.org/draft-06/schema",
    "http://json-schema.org/draft-04/schema"]

def knownDialect (schema : Value) : Bool :=
  match schema.get? "$schema" with
  | some (.string s) =>
    dialects.contains (String.ofList ((s.toList.reverse.dropWhile (· = '#')).reverse))
  | _ => true

def usable (schema : Value) : Bool :=
  let n := schema.size
  usableFrom schema ((n + 1) * (n + 1)) [] [schema]

end Schema
end Interchange
