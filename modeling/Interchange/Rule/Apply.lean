import Interchange.Rule.Transform

/-! # Applying rules

A rule is applied in four steps: fields are copied, values transformed, gaps filled with defaults,
and fields removed. The steps take their entries as lists, in the order in which they are met.

The field mappings and the value transformations are hash maps, so rules that are equal may have
theirs met in different orders, and it shows in the result: of two sources for one field the last
one wins, and a template reads what the transformations before it have left. Such an order is part
of what a rule is applied with. Unless one is given, keys ascend.
-/

namespace Interchange

open Json

namespace Rule

def copyFields (mappings : List (String × String)) (input result : Object) : Object :=
  mappings.foldl (fun r m => match input.get? m.1 with
    | some v => r.insert m.2 v
    | none => r) result

def transformField (record : Object) (field : String) (t : ValueTransform) : Object :=
  match record.get? field with
  | none => record
  | some v => match t.apply v record with
    | .ok w => record.insert field w
    | .error _ => record

def transformFields (transforms : List (String × ValueTransform)) (result : Object) : Object :=
  transforms.foldl (fun r t => transformField r t.1 t.2) result

/-- Gives missing fields and null fields their defaults. -/
def fillDefaults (defaults : List (String × Value)) (result : Object) : Object :=
  defaults.foldl (fun r d => match r.get? d.1 with
    | none => r.insert d.1 d.2
    | some .null => r.insert d.1 d.2
    | some _ => r) result

def removeFields (fields : List String) (result : Object) : Object :=
  fields.foldl (fun r f => r.erase f) result

def start (r : Rule) (input : Object) : Object :=
  match r.mode with
  | .selective => []
  | .full => input

/-- Applies a rule, its field mappings and its value transformations taken in the given orders. -/
def applyInOrder (r : Rule) (mappings : List (String × String))
    (transforms : List (String × ValueTransform)) (input : Object) : Object :=
  removeFields r.fieldsToRemove
    (fillDefaults r.defaultValues
      (transformFields transforms
        (copyFields mappings input (r.start input))))

/-- An order in which the maps of a rule are met. -/
structure Order (r : Rule) where
  mappings : List (String × String)
  transforms : List (String × ValueTransform)
  mappings_perm : mappings.Perm r.fieldMappings
  transforms_perm : transforms.Perm r.valueTransformations

def Order.ascending (r : Rule) : r.Order where
  mappings := r.fieldMappings
  transforms := r.valueTransformations
  mappings_perm := .refl _
  transforms_perm := .refl _

def apply (r : Rule) (input : Object) (order : r.Order := .ascending r) : Object :=
  r.applyInOrder order.mappings order.transforms input

/-- Orders for the rules of a list, by their places in it. -/
abbrev Orders := Nat → (r : Rule) → r.Order

def isFor (r : Rule) (entityType : String) (direction : Direction) : Bool :=
  r.direction == direction && r.entityType == entityType

def select (rules : List Rule) (entityType : String) (direction : Direction) : List Rule :=
  rules.filter fun r => r.isFor entityType direction

/-- Applies rules one after another, each to the result of the one before. -/
def applyAll (rules : List Rule) (input : Object)
    (orders : Orders := fun _ => .ascending) : Object :=
  match rules with
  | [] => input
  | r :: rest => applyAll rest (r.apply input (orders 0 r)) fun i => orders (i + 1)

end Rule
end Interchange
