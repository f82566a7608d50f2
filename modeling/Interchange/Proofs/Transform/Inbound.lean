import Interchange.Transform.Transformer
import Interchange.Proofs.Result

/-! # Inbound results

What a system answers, once it is brought into the canonical shape. Main statement: every object
that is reached through arrays alone tells truly which system it comes from, names the entity type
of the object it was made of, and conforms to the canonical schema of that type, whatever the rules
of the system do to the fields that say so.
-/

namespace Interchange

open Json

theorem SchemaRegistry.check_eq_ok_iff {schema : Option Schema} {entityType : String} {v : Value} :
    check schema entityType v = .ok () ↔ ∀ s, schema = some s → s.accepts v = true := by
  unfold check
  cases schema with
  | none => simp
  | some s => by_cases h : s.accepts v = true <;> simp [h]

/-- The value that is reached through arrays alone, by the places it takes in them. -/
def Json.Value.item? : Value → List Nat → Option Value
  | v, [] => some v
  | .array items, i :: path => items[i]?.bind fun v => v.item? path
  | _, _ :: _ => none

def Json.Value.Scalar : Value → Prop
  | .array _ | .object _ => False
  | _ => True

/-- Induction through arrays alone: objects are not looked into. -/
@[elab_as_elim]
theorem Json.Value.array_induction {P : Value → Prop}
    (array : ∀ items, (∀ v ∈ items, P v) → P (.array items))
    (object : ∀ o, P (.object o)) (scalar : ∀ v, v.Scalar → P v) : ∀ v, P v
  | .array items => array items fun v _ => array_induction array object scalar v
  | .object o => object o
  | .null => scalar .null trivial
  | .bool b => scalar (.bool b) trivial
  | .number n => scalar (.number n) trivial
  | .string s => scalar (.string s) trivial

/-! ## Entity types -/

theorem entityTypeOf_ne_empty (v : Value) : entityTypeOf v ≠ "" := by
  unfold entityTypeOf
  split
  · split
    · decide
    · assumption
  · decide

/-- An object whose entity type field holds a type names that type. -/
theorem entityTypeOf_eq_of_get? {o : Object} {entityType : String} (hne : entityType ≠ "")
    (h : o.get? entityTypeField = some (.string entityType)) :
    entityTypeOf (.object o) = entityType := by
  have hg : Value.get? (.object o) entityTypeField = some (.string entityType) := h
  simp only [entityTypeOf, hg, if_neg hne]

namespace Transformer

variable {t : Transformer} {schemas : SchemaRegistry} {input o : Object} {v r : Value}

/-- A canonical object: it tells which system it comes from, names the entity type of the object it
was made of, and conforms to the canonical schema of the type it names. -/
structure Canonical (t : Transformer) (schemas : SchemaRegistry) (input o : Object) : Prop where
  origin : ∃ m : Object, o.get? metadataField = some (.object m) ∧
    m.get? "source_system" = some (.string t.systemId) ∧
    m.get? "source_system_type" = some (.string t.systemType)
  entityType : o.get? entityTypeField = some (.string (entityTypeOf (.object input)))
  conforms : ∀ s, schemas.internal? (entityTypeOf (.object o)) = some s →
    s.accepts (.object o) = true

/-! ## Stamps -/

theorem get?_provenance (t : Transformer) (o : Object) :
    (t.provenance o).get? "source_system" = some (.string t.systemId) ∧
      (t.provenance o).get? "source_system_type" = some (.string t.systemType) := by
  constructor
  · rw [provenance, Dict.get?_insert_of_ne _ _ (by decide), Dict.get?_insert_self]
  · rw [provenance, Dict.get?_insert_self]

theorem get?_stamp_metadata (t : Transformer) (entityType : String) (o : Object) :
    (t.stamp entityType o).get? metadataField = some (.object (t.provenance o)) := by
  rw [stamp, Dict.get?_insert_of_ne _ _ (by decide), Dict.get?_insert_self]

theorem get?_stamp_entityType (t : Transformer) (entityType : String) (o : Object) :
    (t.stamp entityType o).get? entityTypeField = some (.string entityType) :=
  Dict.get?_insert_self ..

/-- A stamp is put on after the rules, so no rule forges it, and it names the type whose schema is
checked. -/
theorem canonical_of_toInternal (h : t.toInternal schemas (.object input) = .ok (.object o)) :
    t.Canonical schemas input o := by
  obtain ⟨_, hv, ho⟩ := Result.bind_eq_ok_iff.mp h
  cases ho
  have ht := get?_stamp_entityType t (entityTypeOf (.object input))
    (Rule.applyAll (Rule.select t.rules (entityTypeOf (.object input)) .inbound) input t.orders)
  refine ⟨⟨_, get?_stamp_metadata .., get?_provenance ..⟩, ht, ?_⟩
  rw [entityTypeOf_eq_of_get? (entityTypeOf_ne_empty _) ht]
  exact SchemaRegistry.check_eq_ok_iff.mp hv

/-! ## Arrays -/

theorem fromResults_eq_mapM (t : Transformer) (schemas : SchemaRegistry) (vs : List Value) :
    t.fromResults schemas vs = vs.mapM (t.fromResult schemas) := by
  induction vs with
  | nil => rfl
  | cons v vs ih =>
    rw [List.mapM_cons, ← ih, fromResults]

theorem fromResults_getElem? {vs rs : List Value} (h : t.fromResults schemas vs = .ok rs)
    (i : Nat) : rs[i]?.map Except.ok = vs[i]?.map (t.fromResult schemas) := by
  induction vs generalizing rs i with
  | nil => cases h; rfl
  | cons v vs ih =>
    obtain ⟨r, hr, h⟩ := Result.bind_eq_ok_iff.mp h
    obtain ⟨rs', hrs, h⟩ := Result.bind_eq_ok_iff.mp h
    cases h
    cases i with
    | zero => simp [hr]
    | succ i => simpa using ih hrs i

theorem fromResult_array_iff {items : List Value} :
    t.fromResult schemas (.array items) = .ok r ↔
      ∃ results, t.fromResults schemas items = .ok results ∧ r = .array results := by
  rw [fromResult]
  refine Result.bind_eq_ok_iff.trans (exists_congr fun results => and_congr_right fun _ => ?_)
  exact ⟨fun h => by cases h; rfl, fun h => h ▸ rfl⟩

theorem fromResult_object_iff :
    t.fromResult schemas (.object input) = .ok r ↔
      ∃ o, t.toInternal schemas (.object input) = .ok (.object o) ∧ r = .object o := by
  rw [fromResult]
  constructor
  · intro h
    obtain ⟨_, _, hr⟩ := Result.bind_eq_ok_iff.mp h
    cases hr
    exact ⟨_, h, rfl⟩
  · rintro ⟨o, h, rfl⟩
    exact h

/-- A result holds, at every place, what the value at that place becomes. -/
theorem fromResult_item (h : t.fromResult schemas v = .ok r) (path : List Nat) :
    (r.item? path).map Except.ok = (v.item? path).map (t.fromResult schemas) := by
  induction path generalizing v r with
  | nil => simp [Value.item?, h]
  | cons i path ih =>
    cases v with
    | array items =>
      obtain ⟨results, hi, rfl⟩ := fromResult_array_iff.mp h
      have hri := fromResults_getElem? hi i
      simp only [Value.item?]
      cases hv : items[i]? with
      | none => simp_all
      | some w =>
        obtain ⟨x, hx, hw⟩ := Option.map_eq_some_iff.mp (hri.trans (by rw [hv]; rfl))
        simpa [hx] using ih hw.symm
    | object input =>
      obtain ⟨o, -, rfl⟩ := fromResult_object_iff.mp h
      rfl
    | null | bool _ | number _ | string _ => cases h; rfl

theorem eq_object_of_fromResult (h : t.fromResult schemas v = .ok (.object o)) :
    ∃ input, v = .object input ∧ t.toInternal schemas (.object input) = .ok (.object o) := by
  cases v with
  | object input =>
    obtain ⟨_, hi, ho⟩ := fromResult_object_iff.mp h
    exact ⟨input, rfl, ho ▸ hi⟩
  | array items =>
    obtain ⟨_, -, hr⟩ := fromResult_array_iff.mp h
    cases hr
  | null | bool _ | number _ | string _ => cases h

/-- Every object of a result that is reached through arrays alone is canonical and stands where the
object stands that it was made of; and every such object of what the system answered is there. -/
theorem fromResult_canonical (h : t.fromResult schemas v = .ok r) (path : List Nat) :
    (∀ o, r.item? path = some (.object o) →
      ∃ input, v.item? path = some (.object input) ∧ t.Canonical schemas input o) ∧
    (∀ input, v.item? path = some (.object input) → ∃ o, r.item? path = some (.object o)) := by
  have hp := fromResult_item h path
  constructor
  · intro o ho
    rw [ho] at hp
    obtain ⟨w, hw, hwo⟩ := Option.map_eq_some_iff.mp hp.symm
    obtain ⟨input, rfl, hi⟩ := eq_object_of_fromResult hwo
    exact ⟨input, hw, canonical_of_toInternal hi⟩
  · intro input hi
    rw [hi] at hp
    obtain ⟨x, hx, hxi⟩ := Option.map_eq_some_iff.mp hp
    obtain ⟨o, -, rfl⟩ := fromResult_object_iff.mp hxi.symm
    exact ⟨o, hx⟩

/-- A transformer whose rule forges where a payload comes from and drops what it is. -/
def forging : Transformer where
  systemId := "crm"
  systemType := "sales"
  rules := [{
    entityType := "contact"
    direction := .inbound
    mode := .full
    fieldMappings := [("origin", "_metadata")]
    fieldsToRemove := ["_entity_type"] }]
  schemas := []

/-- A contact in an array of arrays that says it comes from elsewhere. -/
def forged : Value :=
  .array [.null, .array [.object [("_entity_type", .string "contact"),
    ("origin", .object [("source_system", .string "erp")])]]]

/-- A canonical schema for contacts that asks for the metadata. -/
def contacts : SchemaRegistry where
  internal := [("contact",
    ⟨.null, fun v => if (v.get? metadataField).isSome then [] else ["no metadata"]⟩)]

/-- The contact is stamped with the system that it does come from. -/
theorem fromResult_canonical_forged :
    ∃ r, forging.fromResult contacts forged = .ok r ∧
      ∃ o : Object, r.item? [1, 0] = some (.object o) ∧
        (∃ m : Object, o.get? metadataField = some (.object m) ∧
          m.get? "source_system" = some (.string "crm")) ∧
        o.get? entityTypeField = some (.string "contact") := by
  have hr : ∃ r, forging.fromResult contacts forged = .ok r := ⟨_, rfl⟩
  obtain ⟨r, hr⟩ := hr
  have hc := fromResult_canonical hr [1, 0]
  obtain ⟨o, ho⟩ := hc.2 _ rfl
  obtain ⟨input, hi, hco⟩ := hc.1 o ho
  cases hi
  obtain ⟨m, hm, hs, -⟩ := hco.origin
  exact ⟨r, hr, o, ho, ⟨m, hm, hs⟩, hco.entityType⟩

end Transformer
end Interchange
