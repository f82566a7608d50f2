import Interchange.Error
import Interchange.Schema.Reference

/-! # Validation

The violations of a schema by a value, keyword after keyword in ascending order, each with the path
to the part that violates it. A `Schema` is one that is ready for use; what follows about schemas
holds for any messages whatever.
-/

namespace Interchange
namespace Schema

open Json

/-- A part of a value that violates a schema, and how. -/
structure Violation where
  /-- Member names and indices, the innermost first. -/
  path : List String
  message : String
deriving DecidableEq, Repr

def pointerText (step : String) : String :=
  "/" ++ String.ofList (step.toList.flatMap fun c =>
    if c = '~' then ['~', '0'] else if c = '/' then ['~', '1'] else [c])

/-- The text of a violation: its path, unless that is the whole value, and the message. -/
def Violation.text (v : Violation) : String :=
  if v.path.isEmpty then v.message
  else String.join (v.path.reverse.map pointerText) ++ ": " ++ v.message

/-- How a schema is applied to a value at a path. -/
abbrev Check := Value → List String → Value → List Violation

def fits (check : Check) (schema data : Value) : Bool := (check schema [] data).isEmpty

def isOfType (data : Value) (type : String) : Bool :=
  match data with
  | .number n => type = "number" || (type = "integer" && n.isWhole)
  | v => v.kind == type

/-- A number of things, as in `1 item` and `2 items`. -/
def counted (n : Nat) (one many : String) : String :=
  toString n ++ " " ++ (if n = 1 then one else many)

def countOf : Value → Nat
  | .number n =>
    let (a, b) := n.ratio
    a.toNat / b
  | _ => 0

/-- The message about members or items that may not be there. -/
def unexpected (what : String) (names : List String) : String :=
  what ++ " are not allowed (" ++ ", ".intercalate (names.map fun n => "'" ++ n ++ "'")
    ++ (if names.length = 1 then " was" else " were") ++ " unexpected)"

def requiredMessage (name : String) : String := quoted name ++ " is a required property"

def missing (path : List String) (data : Object) (names : Value) : List Violation :=
  ((names.array?.getD []).filterMap Value.text?).filterMap fun name =>
    if data.contains name then none else some ⟨path, requiredMessage name⟩

def matching (patterns : Object) (name : String) : List Value :=
  patterns.filterMap fun (p, schema) => match Pattern.read? p with
    | some p => if p.found name then some schema else none
    | none => none

def argument (parent : Object) (k : String) : Object := ((parent.get? k).bind Value.object?).getD []

/-- Whether `additionalProperties` looks after the named members too. -/
def rulesMembers (parent : Object) : Bool :=
  match parent.get? "additionalProperties" with
  | some (.bool false) => true
  | some (.object _) => true
  | _ => false

def memberViolations (check : Check) (parent : Object) (rest : Value) (path : List String)
    (data : Object) : List Violation :=
  let named := argument parent "properties"
  let patterns := argument parent "patternProperties"
  let known (name : String) : List Value := (named.get? name).toList ++ matching patterns name
  match rest with
  | .bool false =>
    if Dict.contains parent "properties" ∨ Dict.contains parent "patternProperties" then
      let extra := (data.filter fun m => (known m.1).isEmpty).map Prod.fst
      data.flatMap (fun m => (known m.1).flatMap fun s => check s (m.1 :: path) m.2)
        ++ if extra.isEmpty then [] else [⟨path, unexpected "Additional properties" extra⟩]
    else match data with
      | [] => []
      | m :: _ => [⟨path, "False schema does not allow " ++ m.2.compact⟩]
  | rest => data.flatMap fun m =>
    let schemas := known m.1
    (if schemas.isEmpty then [rest] else schemas).flatMap fun s => check s (m.1 :: path) m.2

/-- The schemas that apply to a value in place, besides the keywords of the schema itself. -/
def inPlace (check : Check) (root : Value) (parent : Object) (data : Value) : List Value :=
  let schemas (k : String) : List Value := ((parent.get? k).bind Value.array?).getD []
  let refs := ["$ref", "$dynamicRef"].filterMap fun k =>
    ((parent.get? k).bind Value.text?).bind (resolve root)
  let chosen := (schemas "anyOf" ++ schemas "oneOf").filter fun s => fits check s data
  let conditional := match parent.get? "if" with
    | some test =>
      if fits check test data then test :: (parent.get? "then").toList
      else (parent.get? "else").toList
    | none => []
  let dependent := match data with
    | .object members => (argument parent "dependentSchemas").filterMap fun (k, s) =>
      if Dict.contains members k then some s else none
    | _ => []
  refs ++ schemas "allOf" ++ chosen ++ conditional ++ dependent

/-- Whether a schema or one that applies in place says something about a member. -/
def saysMember (check : Check) (root : Value) (name : String) (data : Value) :
    (fuel : Nat) → Value → Bool
  | 0, _ => false
  | fuel + 1, .object parent =>
    (argument parent "properties").contains name
      || !(matching (argument parent "patternProperties") name).isEmpty
      || Dict.contains parent "additionalProperties"
      || Dict.contains parent "unevaluatedProperties"
      || (inPlace check root parent data).any (saysMember check root name data fuel)
  | _, _ => false

/-- Whether a schema or one that applies in place says something about an item. -/
def saysItem (check : Check) (root : Value) (index : Nat) (item data : Value) :
    (fuel : Nat) → Value → Bool
  | 0, _ => false
  | fuel + 1, .object parent =>
    index < (((Dict.get? parent "prefixItems").bind Value.array?).getD []).length
      || Dict.contains parent "items"
      || Dict.contains parent "unevaluatedItems"
      || (match Dict.get? parent "contains" with
          | some s => fits check s item
          | none => false)
      || (inPlace check root parent data).any (saysItem check root index item data fuel)
  | _, _ => false

def keyword (check : Check) (root : Value) (parent : Object) (name : String) (arg : Value)
    (path : List String) (data : Value) : List Violation :=
  let flag (bad : Bool) (message : String) : List Violation :=
    if bad then [⟨path, message⟩] else []
  let shown := data.compact
  match name, data with
  | "$ref", _ => ((arg.text?).bind (resolve root)).elim [] fun s => check s path data
  | "$dynamicRef", _ => ((arg.text?).bind (resolve root)).elim [] fun s => check s path data
  | "additionalProperties", .object members =>
    match arg with
    | .bool true => []
    | rest => memberViolations check parent rest path members
  | "allOf", _ => (arg.array?.getD []).flatMap fun s => check s path data
  | "anyOf", _ => flag (!(arg.array?.getD []).any fun s => fits check s data)
      (shown ++ " is not valid under any of the schemas listed in the 'anyOf' keyword")
  | "oneOf", _ =>
    let n := ((arg.array?.getD []).filter fun s => fits check s data).length
    flag (n = 0) (shown ++ " is not valid under any of the schemas listed in the 'oneOf' keyword")
      ++ flag (1 < n)
        (shown ++ " is valid under more than one of the schemas listed in the 'oneOf' keyword")
  | "not", _ => flag (fits check arg data) (arg.compact ++ " is not allowed for " ++ shown)
  | "if", _ =>
    if fits check arg data then (parent.get? "then").elim [] fun s => check s path data
    else (parent.get? "else").elim [] fun s => check s path data
  | "const", _ => flag (!arg.equivalent data) (arg.compact ++ " was expected")
  | "enum", _ => flag (!(arg.array?.getD []).any fun v => v.equivalent data)
      (shown ++ " is not one of " ++ arg.compact)
  | "type", _ =>
    match arg with
    | .string t => flag (!isOfType data t) (shown ++ " is not of type " ++ quoted t)
    | .array [.string t] => flag (!isOfType data t) (shown ++ " is not of type " ++ quoted t)
    | _ =>
      let types := (arg.array?.getD []).filterMap Value.text?
      flag (!types.any (isOfType data)) (shown ++ " is not of types "
        ++ ", ".intercalate ((typeNames.filter types.contains).map quoted))
  | "minimum", .number n => match arg with
    | .number m => flag (n.order m == .lt) (shown ++ " is less than the minimum of " ++ m.text)
    | _ => []
  | "maximum", .number n => match arg with
    | .number m => flag (n.order m == .gt) (shown ++ " is greater than the maximum of " ++ m.text)
    | _ => []
  | "exclusiveMinimum", .number n => match arg with
    | .number m => flag (n.order m != .gt)
        (shown ++ " is less than or equal to the minimum of " ++ m.text)
    | _ => []
  | "exclusiveMaximum", .number n => match arg with
    | .number m => flag (n.order m != .lt)
        (shown ++ " is greater than or equal to the maximum of " ++ m.text)
    | _ => []
  | "multipleOf", .number n => match arg with
    | .number m => flag (!n.isMultipleOf m) (shown ++ " is not a multiple of " ++ m.plainText)
    | _ => []
  | "minLength", .string s => flag (s.length < countOf arg)
      (shown ++ " is shorter than " ++ counted (countOf arg) "character" "characters")
  | "maxLength", .string s => flag (countOf arg < s.length)
      (shown ++ " is longer than " ++ counted (countOf arg) "character" "characters")
  | "pattern", .string s => match (arg.text?).bind Pattern.read? with
    | some p => flag (!p.found s) (shown ++ " does not match \"" ++ (arg.text?).getD "" ++ "\"")
    | none => []
  | "minItems", .array items => flag (items.length < countOf arg)
      (shown ++ " has less than " ++ counted (countOf arg) "item" "items")
  | "maxItems", .array items => flag (countOf arg < items.length)
      (shown ++ " has more than " ++ counted (countOf arg) "item" "items")
  | "uniqueItems", .array items => match arg with
    | .bool true => flag (!Value.allDistinct items) (shown ++ " has non-unique elements")
    | _ => []
  | "prefixItems", .array items =>
    ((arg.array?.getD []).zip items).zipIdx.flatMap fun ((s, v), i) =>
      check s (toString i :: path) v
  | "items", .array items =>
    let skip := (((parent.get? "prefixItems").bind Value.array?).getD []).length
    (items.zipIdx.drop skip).flatMap fun (v, i) => check arg (toString i :: path) v
  | "contains", .array items =>
    let n := (items.filter fun v => fits check arg v).length
    let least := ((parent.get? "minContains").map countOf).getD 1
    let most := (parent.get? "maxContains").map countOf
    flag (n < least || most.any (· < n))
      ("None of " ++ shown ++ " are valid under the given schema")
  | "minProperties", .object members => flag (members.length < countOf arg)
      (shown ++ " has less than " ++ counted (countOf arg) "property" "properties")
  | "maxProperties", .object members => flag (countOf arg < members.length)
      (shown ++ " has more than " ++ counted (countOf arg) "property" "properties")
  | "required", .object members => missing path members arg
  | "dependentRequired", .object members => (arg.object?.getD []).flatMap fun (k, names) =>
    if Dict.contains members k then missing path members names else []
  | "dependentSchemas", .object members => (arg.object?.getD []).flatMap fun (k, s) =>
    if Dict.contains members k then check s path data else []
  | "dependencies", .object members => (arg.object?.getD []).flatMap fun (k, s) =>
    if Dict.contains members k then
      match s with
      | .array names => missing path members (.array names)
      | s => check s path data
    else []
  | "properties", .object members =>
    if rulesMembers parent then []
    else (arg.object?.getD []).flatMap fun (k, s) =>
      (Dict.get? members k).elim [] fun v => check s (k :: path) v
  | "patternProperties", .object members =>
    if rulesMembers parent then []
    else (arg.object?.getD []).flatMap fun (p, s) =>
      members.flatMap fun m => match Pattern.read? p with
        | some p => if p.found m.1 then check s (m.1 :: path) m.2 else []
        | none => []
  | "propertyNames", .object members =>
    match arg with
    | .bool false => flag (!members.isEmpty) ("False schema does not allow " ++ shown)
    | arg => members.flatMap fun m =>
      (check arg [] (.string m.1)).map fun v => ⟨path, v.message⟩
  | "unevaluatedProperties", .object members =>
    let rest : Object := Dict.erase parent "unevaluatedProperties"
    let left := members.filter fun m => !saysMember check root m.1 data root.size (.object rest)
    match arg with
    | .bool false => if left.isEmpty then []
      else [⟨path, unexpected "Unevaluated properties" (left.map Prod.fst)⟩]
    | arg => left.flatMap fun m => check arg (m.1 :: path) m.2
  | "unevaluatedItems", .array items =>
    let rest : Object := Dict.erase parent "unevaluatedItems"
    let left := items.zipIdx.filter fun (v, i) =>
      !saysItem check root i v data root.size (.object rest)
    let bad := left.filter fun (v, _) => !fits check arg v
    flag (!bad.isEmpty) (unexpected "Unevaluated items" (bad.map fun (v, _) => v.compact))
  | _, _ => []

/-- The violations of a schema, following at most `fuel` schemas inside schemas. -/
def violationsUpTo (root : Value) : Nat → Check
  | 0 => fun _ _ _ => []
  | fuel + 1 => fun schema path data => match schema with
    | .bool false => [⟨path, "False schema does not allow " ++ data.compact⟩]
    | .object members => members.flatMap fun m =>
      keyword (violationsUpTo root fuel) root members m.1 m.2 path data
    | _ => []

def violations (schema data : Value) : List Violation :=
  violationsUpTo schema ((schema.size + 1) * (data.size + 1)) schema [] data

end Schema

open Json

/-- A schema: its source, and what it says against a value. -/
structure Schema where
  source : Value
  messages : Value → List String

namespace Schema

def accepts (s : Schema) (v : Value) : Bool := (s.messages v).isEmpty

/-- Makes a schema ready for use, unless it is none. -/
def compile (source : Value) : Result Schema :=
  if isSchema source ∧ knownDialect source ∧ usable source then
    .ok ⟨source, fun v => (violations source v).map Violation.text⟩
  else .error (.configuration ("Invalid JSON schema: " ++ source.compact))

end Schema
end Interchange
