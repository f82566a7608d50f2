import Interchange.Rule.Codec
import Interchange.Proofs.Json.Decoding

/-! # Rules, written and read back

Main statement: a rule is read back from its JSON form exactly if that can hold it.
-/

namespace Interchange

open Json

/-! ## Value transformations -/

namespace ValueTransform

/-- A transformation that its JSON form can hold. Its maps are in key order and its index fits 64
bits, as always; a fallback that is null cannot be told from none. -/
def Encodable : ValueTransform → Prop
  | .map mapping fallback => (Value.object mapping).Normal ∧
      ∀ v, fallback = some v → v.Normal ∧ v ≠ .null
  | .split _ index => index < Nat.pow 2 64
  | _ => True

/-- A transformation as it is held: its maps are in key order, and its index fits 64 bits. -/
def WellFormed : ValueTransform → Prop
  | .map mapping fallback => (Value.object mapping).Normal ∧ ∀ v, fallback = some v → v.Normal
  | .split _ index => index < Nat.pow 2 64
  | _ => True

/-- No fallback is null. -/
def Restorable (t : ValueTransform) : Prop := ∀ mapping, t ≠ .map mapping (some .null)

theorem WellFormed.encodable_iff {t : ValueTransform} (h : t.WellFormed) :
    t.Encodable ↔ t.Restorable := by
  cases t with
  | map mapping fallback =>
    obtain ⟨hm, hf⟩ := h
    constructor
    · rintro ⟨-, he⟩ _ ⟨⟩
      exact (he .null rfl).2 rfl
    · refine fun hr => ⟨hm, fun v hv => ⟨hf v hv, ?_⟩⟩
      rintro rfl
      exact hr mapping (hv ▸ rfl)
  | split delimiter index => exact iff_of_true h nofun
  | _ => exact iff_of_true trivial nofun

theorem Encodable.wellFormed {t : ValueTransform} (h : t.Encodable) : t.WellFormed := by
  cases t with
  | map mapping fallback => exact ⟨h.1, fun v hv => (h.2 v hv).1⟩
  | split delimiter index => exact h
  | _ => trivial

theorem optional_any {fallback : Option Value}
    (h : ∀ v, fallback = some v → v.Normal ∧ v ≠ .null) :
    Decode.optional Decode.any (fallback.getD .null) = some fallback := by
  rcases fallback with _ | v
  · rfl
  · obtain ⟨hv, hne⟩ := h v rfl
    have ho : Decode.optional Decode.any v = some (some v.normalize) := by
      cases v <;> first | rfl | exact absurd rfl hne
    rw [Option.getD_some, ho, hv]

theorem natBelow_ofNat {n bound : Nat} (h : n < bound) :
    Decode.natBelow bound (.ofNat n) = some n := by
  have hin : (0 : Int) ≤ n ∧ (n : Int) < bound := by omega
  simp [Decode.natBelow, Value.ofNat, h]

theorem ofJson?_object {members : List (String × Value)} (h : "type" ∉ Dict.keys members)
    (type : String) :
    ofJson? (.object (("type", .string type) :: members)) = ofFields? type (.object members) := by
  have hne : ∀ m ∈ members, m.1 ≠ "type" := fun m hm he => h (List.mem_map.mpr ⟨m, hm, he⟩)
  have ht : members.filter (fun m => m.1 = "type") = [] :=
    List.filter_eq_nil_iff.mpr fun m hm => by simpa using hne m hm
  have hs : members.filter (fun m => !decide (m.1 = "type")) = members :=
    List.filter_eq_self.mpr fun m hm => by simpa using hne m hm
  simp [ofJson?, ht, hs]

theorem Encodable.ofJson?_toJson {t : ValueTransform} (h : t.Encodable) :
    ofJson? t.toJson = some t := by
  cases t with
  | map mapping fallback =>
    obtain ⟨hm, hf⟩ := h
    rw [toJson, ofJson?_object (by simp [Dict.keys])]
    simp only [ofFields?, ↓reduceIte]
    refine Decode.record_bind (by simp [Dict.keys]) fun fs hfs => ?_
    simp [Decode.field, Decode.fieldOr, hfs, Dict.get?, Decode.dict_any hm, optional_any hf]
  | format template =>
    rw [toJson, ofJson?_object (by simp [Dict.keys])]
    simp only [ofFields?, String.reduceEq, ↓reduceIte]
    refine Decode.record_bind (by simp [Dict.keys]) fun fs hfs => ?_
    simp [Decode.field, hfs, Dict.get?, Decode.text, Value.text?]
  | split delimiter index =>
    rw [toJson, ofJson?_object (by simp [Dict.keys])]
    simp only [ofFields?, String.reduceEq, ↓reduceIte]
    refine Decode.record_bind (by simp [Dict.keys]) fun fs hfs => ?_
    simp [Decode.field, Decode.fieldOr, hfs, Dict.get?, Decode.text, Value.text?, natBelow_ofNat h]
  | join delimiter =>
    rw [toJson, ofJson?_object (by simp [Dict.keys])]
    simp only [ofFields?, String.reduceEq, ↓reduceIte]
    refine Decode.record_bind (by simp [Dict.keys]) fun fs hfs => ?_
    simp [Decode.field, hfs, Dict.get?, Decode.text, Value.text?]
  | boolean trueValues =>
    have ht : Decode.list Decode.text (.array (trueValues.map .string)) = some trueValues :=
      Decode.list_array fun _ _ => rfl
    rw [toJson, ofJson?_object (by simp [Dict.keys])]
    simp only [ofFields?, String.reduceEq, ↓reduceIte]
    refine Decode.record_bind (by simp [Dict.keys]) fun fs hfs => ?_
    simp [Decode.fieldOr, hfs, Dict.get?, ht]
  | number => rfl
  | string => rfl

theorem encodable_of_optional_any {v : Value} {fallback : Option Value}
    (h : Decode.optional Decode.any v = some fallback) :
    ∀ w, fallback = some w → w.Normal ∧ w ≠ .null := by
  rintro w rfl
  have hw : v ≠ .null ∧ v.normalize = w := by
    cases v <;> simp_all [Decode.optional, Decode.any]
  obtain ⟨hne, rfl⟩ := hw
  refine ⟨v.normal_normalize, ?_⟩
  cases v <;> first | exact absurd rfl hne | nofun

theorem lt_of_natBelow {bound n : Nat} {v : Value} (h : Decode.natBelow bound v = some n) :
    n < bound := by
  unfold Decode.natBelow at h
  split at h
  · split at h
    · next hin =>
      cases h
      omega
    · cases h
  · cases h

theorem encodable_of_ofFields? {type : String} {body : Value} {t : ValueTransform}
    (h : ofFields? type body = some t) : t.Encodable := by
  unfold ofFields? at h
  simp only [Option.bind_eq_bind, Option.pure_def] at h
  split_ifs at h
  · obtain ⟨fs, -, h⟩ := Option.bind_eq_some_iff.mp h
    obtain ⟨mapping, hm, h⟩ := Option.bind_eq_some_iff.mp h
    obtain ⟨fallback, hf, h⟩ := Option.bind_eq_some_iff.mp h
    cases h
    refine ⟨Decode.of_field (P := fun o => (Value.object o).Normal) hm
      fun _ _ => Decode.normal_of_dict_any, ?_⟩
    exact Decode.of_fieldOr (P := fun o => ∀ w, o = some w → w.Normal ∧ w ≠ .null) hf nofun
      fun _ _ => encodable_of_optional_any
  · obtain ⟨fs, -, h⟩ := Option.bind_eq_some_iff.mp h
    obtain ⟨template, -, h⟩ := Option.bind_eq_some_iff.mp h
    cases h
    trivial
  · obtain ⟨fs, -, h⟩ := Option.bind_eq_some_iff.mp h
    obtain ⟨delimiter, -, h⟩ := Option.bind_eq_some_iff.mp h
    obtain ⟨index, hi, h⟩ := Option.bind_eq_some_iff.mp h
    cases h
    exact Decode.of_fieldOr (P := fun n => n < Nat.pow 2 64) hi (by decide)
      fun _ _ => lt_of_natBelow
  · obtain ⟨fs, -, h⟩ := Option.bind_eq_some_iff.mp h
    obtain ⟨delimiter, -, h⟩ := Option.bind_eq_some_iff.mp h
    cases h
    trivial
  · obtain ⟨fs, -, h⟩ := Option.bind_eq_some_iff.mp h
    obtain ⟨trueValues, -, h⟩ := Option.bind_eq_some_iff.mp h
    cases h
    trivial
  · obtain ⟨fs, -, rfl⟩ := Option.map_eq_some_iff.mp h
    trivial
  · obtain ⟨fs, -, rfl⟩ := Option.map_eq_some_iff.mp h
    trivial

theorem encodable_of_ofJson? {v : Value} {t : ValueTransform} (h : ofJson? v = some t) :
    t.Encodable := by
  unfold ofJson? at h
  split at h
  · split at h
    · exact encodable_of_ofFields? h
    · cases h
  · exact encodable_of_ofFields? h
  · cases h

end ValueTransform

/-! ## Rules -/

theorem Direction.ofJson?_name (d : Direction) : ofJson? (.string d.name) = some d := by
  cases d <;> rfl

theorem Mode.ofJson?_name (m : Mode) : ofJson? (.string m.name) = some m := by
  cases m <;> rfl

namespace Rule

/-- A rule that its JSON form can hold: its maps are in key order, as always, and so are its
transformations. -/
structure Encodable (r : Rule) : Prop where
  fieldMappings : Dict.Sorted r.fieldMappings
  sorted : Dict.Sorted r.valueTransformations
  valueTransformations : ∀ p ∈ r.valueTransformations, p.2.Encodable
  defaultValues : (Value.object r.defaultValues).Normal

/-- A rule as it is held: its maps are in key order. -/
structure WellFormed (r : Rule) : Prop where
  fieldMappings : Dict.Sorted r.fieldMappings
  sorted : Dict.Sorted r.valueTransformations
  valueTransformations : ∀ p ∈ r.valueTransformations, p.2.WellFormed
  defaultValues : (Value.object r.defaultValues).Normal

theorem WellFormed.encodable_iff {r : Rule} (h : r.WellFormed) :
    r.Encodable ↔ ∀ p ∈ r.valueTransformations, p.2.Restorable := by
  constructor
  · exact fun he p hp =>
      ((h.valueTransformations p hp).encodable_iff).mp (he.valueTransformations p hp)
  · exact fun hr => ⟨h.fieldMappings, h.sorted,
      fun p hp => ((h.valueTransformations p hp).encodable_iff).mpr (hr p hp), h.defaultValues⟩

theorem Encodable.wellFormed {r : Rule} (h : r.Encodable) : r.WellFormed where
  fieldMappings := h.fieldMappings
  sorted := h.sorted
  valueTransformations p hp := (h.valueTransformations p hp).wellFormed
  defaultValues := h.defaultValues

theorem Encodable.ofJson?_toJson {r : Rule} (h : r.Encodable) : ofJson? r.toJson = some r := by
  have hm : Decode.dict Decode.text (.object (r.fieldMappings.mapValues .string)) =
      some r.fieldMappings := Decode.dict_object h.fieldMappings fun _ _ => rfl
  have ht : Decode.dict ValueTransform.ofJson?
      (.object (r.valueTransformations.mapValues ValueTransform.toJson)) =
        some r.valueTransformations :=
    Decode.dict_object h.sorted fun p hp => (h.valueTransformations p hp).ofJson?_toJson
  have hr : Decode.list Decode.text (.array (r.fieldsToRemove.map .string)) =
      some r.fieldsToRemove := Decode.list_array fun _ _ => rfl
  unfold ofJson? toJson
  refine Decode.record_bind (by simp [Dict.keys]) fun fs hfs => ?_
  simp [Decode.field, Decode.fieldOr, hfs, Dict.get?, Decode.text, Value.text?,
    Direction.ofJson?_name, Mode.ofJson?_name, hm, ht, hr, Decode.dict_any h.defaultValues]

theorem encodable_of_ofJson? {v : Value} {r : Rule} (h : ofJson? v = some r) : r.Encodable := by
  unfold ofJson? at h
  simp only [Option.bind_eq_bind, Option.bind_eq_some_iff, Option.pure_def] at h
  obtain ⟨fs, -, _, -, _, -, _, -, mappings, hm, transformations, ht, defaults, hd, _, -, h⟩ := h
  cases h
  constructor
  · exact Decode.of_fieldOr hm Dict.sorted_nil fun _ _ => Decode.sorted_of_dict
  · exact Decode.of_fieldOr ht Dict.sorted_nil fun _ _ => Decode.sorted_of_dict
  · refine Decode.of_fieldOr (P := fun d => ∀ p ∈ d, p.2.Encodable) ht nofun fun _ _ hv => ?_
    exact Decode.forall_mem_of_dict hv fun _ _ => ValueTransform.encodable_of_ofJson?
  · exact Decode.of_fieldOr (P := fun o => (Value.object o).Normal) hd rfl
      fun _ _ => Decode.normal_of_dict_any

end Rule

end Interchange
