import Interchange.Proofs.Rule.Fields
import Interchange.Proofs.Text.Parts

/-! # Splitting and joining

Main statement: the parts that `split` finds in a text are those between the occurrences of the
delimiter from left to right, and `join` makes the text of them again. An index behind the last part
leaves the field of a rule as it is.
-/

namespace Interchange
namespace ValueTransform

open Json

variable {delimiter s : String} {parts : List String} {record : Object}

def partsOf (delimiter s : String) : List String :=
  (Text.cut delimiter.toList s.toList).map String.ofList

theorem parts_partsOf (hd : delimiter ≠ "") (s : String) :
    Text.Parts delimiter.toList s.toList ((partsOf delimiter s).map String.toList) := by
  have h := Text.parts_cut (fun he => hd (String.toList_eq_nil_iff.mp he)) s.toList
  simpa [partsOf, Function.comp_def] using h

theorem intercalate_partsOf (hd : delimiter ≠ "") (s : String) :
    delimiter.intercalate (partsOf delimiter s) = s := by
  rw [← String.toList_inj, String.toList_intercalate, (parts_partsOf hd s).intercalate_eq]

theorem apply_split (hd : delimiter ≠ "") (s : String) (i : Nat) (record : Object) :
    (split delimiter i).apply (.string s) record =
      match (partsOf delimiter s)[i]? with
      | some part => .ok (.string part)
      | none => .error (.noPart i) := by
  simp only [apply, if_neg hd, partsOf, List.getElem?_map]
  cases (Text.cut delimiter.toList s.toList)[i]? <;> rfl

theorem apply_join_texts (delimiter : String) (parts : List String) (record : Object) :
    (join delimiter).apply (.array (parts.map .string)) record =
      .ok (.string (delimiter.intercalate parts)) := by
  have hm : (parts.map Value.string).map Value.display = parts := by
    rw [List.map_map]
    exact List.map_id parts
  rw [apply, hm]

/-- What a rule leaves of a text that it splits: the part, or the text itself if there is none. -/
theorem get?_applyInOrder_split {r : Rule} {input : Object} {mappings : List (String × String)}
    {transforms : List (String × ValueTransform)} {field : String} {i : Nat} (hd : delimiter ≠ "")
    (hr : r.Maps) (ht : transforms.Perm r.valueTransformations)
    (hf : Dict.get? r.valueTransformations field = some (split delimiter i))
    (hs : (Rule.copyFields mappings input (r.start input)).get? field = some (.string s)) :
    (r.applyInOrder mappings transforms input).get? field =
      if field ∈ r.fieldsToRemove then none
      else some (.string ((partsOf delimiter s)[i]?.getD s)) := by
  refine Rule.get?_applyInOrder_of_reads_nil hr ht hf rfl hs [] ?_ nofun
  rw [apply_split hd]
  cases (partsOf delimiter s)[i]? <;> rfl

/-- A text has its parts at a delimiter in one way. An index gives its part, or fails behind the
last one and then leaves the field of a rule, whatever else the rule does; no part holds the
delimiter, and joined they are the text. -/
theorem join_split (hd : delimiter ≠ "") (s : String) : ∃ parts : List String,
    1 ≤ parts.length ∧
    (∀ ps, Text.Parts delimiter.toList s.toList ps ↔ ps = parts.map String.toList) ∧
    (∀ i record, (split delimiter i).apply (.string s) record =
      if h : i < parts.length then .ok (.string parts[i]) else .error (.noPart i)) ∧
    (∀ part ∈ parts, ¬ delimiter.toList <:+: part.toList) ∧
    (∀ record, (join delimiter).apply (.array (parts.map .string)) record = .ok (.string s)) ∧
    ∀ (r : Rule) input mappings transforms field i, r.Maps →
      transforms.Perm r.valueTransformations →
      Dict.get? r.valueTransformations field = some (split delimiter i) →
      (Rule.copyFields mappings input (r.start input)).get? field = some (.string s) →
      (r.applyInOrder mappings transforms input).get? field =
        if field ∈ r.fieldsToRemove then none else some (.string (parts[i]?.getD s)) := by
  have hp := parts_partsOf hd s
  have hne : delimiter.toList ≠ [] := fun he => hd (String.toList_eq_nil_iff.mp he)
  refine ⟨partsOf delimiter s, ?_, fun ps => ⟨hp.unique, fun h => h ▸ hp⟩, fun i record => ?_,
    fun part hm => hp.not_infix hne _ (List.mem_map_of_mem hm), fun record => ?_,
    fun r input mappings transforms field i hr ht hf hs => get?_applyInOrder_split hd hr ht hf hs⟩
  · exact List.length_pos_iff.mpr fun he => hp.ne_nil (he ▸ rfl)
  · rw [apply_split hd]
    by_cases h : i < (partsOf delimiter s).length
    · rw [dif_pos h, List.getElem?_eq_getElem h]
    · rw [dif_neg h, List.getElem?_eq_none (Nat.le_of_not_lt h)]
  · rw [apply_join_texts, intercalate_partsOf hd]

def thirdPart : Rule where
  entityType := "contact"
  direction := .inbound
  valueTransformations := [("tag", .split "aa" 2)]

/-- A delimiter that stands in a text in two places, one over the other. -/
theorem join_split_overlapping : "aa" ≠ "" ∧ ∃ parts : List String, parts[1]? = some "a" ∧
    parts[2]? = none ∧
    (join "aa").apply (.array (parts.map .string)) [] = .ok (.string "aaa") ∧
    thirdPart.Maps ∧
    (thirdPart.apply [("tag", .string "aaa")]).get? "tag" = some (.string "aaa") := by
  have hd : "aa" ≠ "" := by decide
  obtain ⟨parts, -, hp, -, -, hj, hr⟩ := join_split hd "aaa"
  have hparts : ["", "a"].map String.toList = parts.map String.toList :=
    (hp _).mp (Text.parts_cut (by decide) "aaa".toList)
  obtain rfl := List.map_injective_iff.mpr (fun _ _ => String.toList_injective) hparts
  have hmaps : thirdPart.Maps := ⟨by decide, by decide +kernel, by decide +kernel⟩
  exact ⟨hd, _, rfl, rfl, hj [], hmaps, hr thirdPart _ _ _ "tag" 2 hmaps (.refl _) rfl rfl⟩

end ValueTransform
end Interchange
