import Interchange.Rule.Transform
import Mathlib.Data.List.Basic

/-! # What a transformation reads

Of the record that its value belongs to, a transformation reads the fields that its template names
and no others.
-/

namespace Interchange

open Json

namespace Template

/-- The fields that a template names; the placeholder `value` stands for the value itself. -/
def names (template : String) : List String :=
  (pieces template.toList).filterMap fun
    | .plain _ => none
    | .placeholder name =>
      let name := String.ofList name
      if name = "value" then none else some name

variable {template : String} {lookup lookup' : String → Option String}

theorem mem_names {name : List Char} (h : .placeholder name ∈ pieces template.toList)
    (hv : String.ofList name ≠ "value") : String.ofList name ∈ names template :=
  List.mem_filterMap.mpr ⟨_, h, if_neg hv⟩

theorem render_congr (h : ∀ name, .placeholder name ∈ pieces template.toList →
      lookup (String.ofList name) = lookup' (String.ofList name)) :
    render lookup template = render lookup' template := by
  have hu : unknown lookup (pieces template.toList) = unknown lookup' (pieces template.toList) := by
    refine List.filterMap_congr fun p hp => ?_
    cases p with
    | plain c => rfl
    | placeholder name => simp only [h name hp]
  have hf : (pieces template.toList).flatMap (fill lookup) =
      (pieces template.toList).flatMap (fill lookup') := by
    refine List.flatMap_congr fun p hp => ?_
    cases p with
    | plain c => rfl
    | placeholder name => simp only [fill, h name hp]
  simp only [render, hu, hf]

end Template

namespace ValueTransform

def reads : ValueTransform → List String
  | .format template => Template.names template
  | _ => []

variable {t : ValueTransform} {v : Value} {record record' : Object}

theorem apply_congr (h : ∀ f ∈ t.reads, record.get? f = record'.get? f) :
    t.apply v record = t.apply v record' := by
  cases t with
  | format template =>
    have hr : Template.render (placeholderText v record) template =
        Template.render (placeholderText v record') template := by
      refine Template.render_congr fun name hp => ?_
      unfold placeholderText
      split
      · rfl
      · next hv => rw [h _ (Template.mem_names hp hv)]
    simp only [apply, hr]
  | map | split | join | boolean | number | string => rfl

/-- What a transformation makes of a value when its template reads the given fields, unless it does
not apply. -/
def result? (t : ValueTransform) (fields : String → Option Value) (v : Value) : Option Value :=
  (t.apply v (t.reads.filterMap fun f => (fields f).map fun w => (f, w))).toOption

theorem get?_filterMap_fields (fields : String → Option Value) (fs : List String) (f : String) :
    Dict.get? (fs.filterMap fun f => (fields f).map fun w => (f, w)) f =
      if f ∈ fs then fields f else none := by
  induction fs with
  | nil => rfl
  | cons g fs ih =>
    by_cases hg : g = f
    · subst hg
      cases hw : fields g with
      | none => simp [hw, ih]
      | some w => simp [hw, Dict.get?_cons]
    · cases hw : fields g with
      | none => simp [hw, ih, Ne.symm hg]
      | some w => simp [hw, ih, Dict.get?_cons, hg, Ne.symm hg]

theorem result?_eq {fields : String → Option Value}
    (h : ∀ f ∈ t.reads, record.get? f = fields f) :
    t.result? fields v = (t.apply v record).toOption := by
  unfold result?
  refine congrArg Except.toOption (apply_congr fun f hf => ?_)
  rw [get?_filterMap_fields, if_pos hf, h f hf]

end ValueTransform
end Interchange
