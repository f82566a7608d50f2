import Interchange.Json.Basic

/-! # Reshaping rules

A rule says how a payload of one entity type is reshaped in one direction: which fields are copied
under new names, which values are transformed, which defaults fill gaps and which fields go.
-/

namespace Interchange

open Json

/-- The way a payload travels through the gateway. -/
inductive Direction where
  | inbound
  | outbound
deriving DecidableEq, Repr

/-- Whether a rule starts from an empty object or from a copy of the input. -/
inductive Mode where
  | selective
  | full
deriving DecidableEq, Repr

/-- A transformation of one field's value. -/
inductive ValueTransform where
  /-- Looks the value's text up; one that is not listed becomes the fallback, if there is one. -/
  | map (mapping : Object) (fallback : Option Value)
  /-- Fills the placeholders of a template. -/
  | format (template : String)
  /-- Cuts a text at a delimiter and takes one part. -/
  | split (delimiter : String) (index : Nat)
  /-- Joins the items of an array. -/
  | join (delimiter : String)
  /-- Compares the value's text with a list of words that mean true. -/
  | boolean (trueValues : List String)
  /-- Casts to a number, 0 when the text is none. -/
  | number
  /-- Casts to a text. -/
  | string
deriving DecidableEq

/-- The words that mean true unless others are given. -/
def ValueTransform.defaultTrueValues : List String := ["true", "yes", "y", "1", "on"]

/-- A reshaping rule for one entity type and one direction. -/
structure Rule where
  entityType : String
  direction : Direction
  mode : Mode := .full
  /-- From source field to target field. -/
  fieldMappings : Dict String := []
  /-- By field of the result. -/
  valueTransformations : Dict ValueTransform := []
  /-- For fields that are missing or null after the transformations. -/
  defaultValues : Object := []
  fieldsToRemove : List String := []
deriving DecidableEq

namespace Rule

def withMode (r : Rule) (m : Mode) : Rule := { r with mode := m }

def mapField (r : Rule) (source target : String) : Rule :=
  { r with fieldMappings := r.fieldMappings.insert source target }

def transformValue (r : Rule) (field : String) (t : ValueTransform) : Rule :=
  { r with valueTransformations := r.valueTransformations.insert field t }

def defaultValue (r : Rule) (field : String) (v : Value) : Rule :=
  { r with defaultValues := r.defaultValues.insert field v }

def removeField (r : Rule) (field : String) : Rule :=
  { r with fieldsToRemove := r.fieldsToRemove ++ [field] }

end Rule
end Interchange
