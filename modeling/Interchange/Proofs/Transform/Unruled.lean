import Interchange.Proofs.Json.Decoding
import Interchange.Proofs.Transform.Inbound

/-! # Payloads without rules

Where no rule reshapes the payloads of an entity type, all that happens to one of them on its way in
is that it is stamped. Main statement: a payload that came in goes out and comes in again as it is,
whatever its reserved fields held at first.
-/

namespace Interchange

open Json

namespace Transformer

variable {t : Transformer} {schemas : SchemaRegistry} {entityType : String} {x y : Object}

/-- No rule is for an entity type, in either direction. -/
def Unruled (t : Transformer) (entityType : String) : Prop :=
  ∀ r ∈ t.rules, r.entityType ≠ entityType

/-- The metadata of a payload: none unless they are an object. -/
def metadataOf (x : Object) : Object :=
  match x.get? metadataField with
  | some (.object m) => m
  | _ => []

/-- A payload that was stamped: its type and the system it comes from are told, whatever the
reserved fields of the one it was made of held; everything else is as it was. -/
structure Stamped (t : Transformer) (x y : Object) : Prop where
  normal : (Value.object y).Normal
  entityType : y.get? entityTypeField = some (.string (entityTypeOf (.object x)))
  metadata : ∃ m : Object, y.get? metadataField = some (.object m) ∧
    ∀ k, m.get? k =
      if k = "source_system" then some (.string t.systemId)
      else if k = "source_system_type" then some (.string t.systemType)
      else (metadataOf x).get? k
  others : ∀ k, k ≠ entityTypeField → k ≠ metadataField → y.get? k = x.get? k

/-! ## Without rules -/

theorem Unruled.reshape (h : t.Unruled entityType) (direction : Direction) (v : Value) :
    t.reshape entityType direction v = v := by
  have hnone : Rule.select t.rules entityType direction = [] :=
    List.filter_eq_nil_iff.mpr fun r hr => by simp [Rule.isFor, h r hr]
  cases v with
  | object o =>
    rw [Transformer.reshape, hnone]
    rfl
  | _ => rfl

/-- A payload without rules comes in stamped, if the canonical schema accepts it so. -/
theorem Unruled.toInternal_eq (h : t.Unruled (entityTypeOf (.object x)))
    (hi : ∀ s, schemas.internal? (entityTypeOf (.object x)) = some s →
      s.accepts (.object (t.stamp (entityTypeOf (.object x)) x)) = true) :
    t.toInternal schemas (.object x) =
      .ok (.object (t.stamp (entityTypeOf (.object x)) x)) := by
  simp only [toInternal, receive, h.reshape, SchemaRegistry.validate,
    SchemaRegistry.check_eq_ok_iff.mpr hi]
  rfl

/-- A payload without rules goes out as it is, if both schemas accept it. -/
theorem Unruled.toExternal_eq (h : t.Unruled (entityTypeOf (.object x)))
    (hi : ∀ s, schemas.internal? (entityTypeOf (.object x)) = some s →
      s.accepts (.object x) = true)
    (he : ∀ s, t.externalSchema? schemas (entityTypeOf (.object x)) = some s →
      s.accepts (.object x) = true) :
    t.toExternal schemas (.object x) = .ok (.object x) := by
  simp only [toExternal, h.reshape, SchemaRegistry.validate, SchemaRegistry.check_eq_ok_iff.mpr hi,
    SchemaRegistry.check_eq_ok_iff.mpr he]
  rfl

/-! ## Stamps -/

theorem provenance_eq (t : Transformer) (x : Object) :
    t.provenance x = ((metadataOf x).insert "source_system" (.string t.systemId)).insert
      "source_system_type" (.string t.systemType) := rfl

theorem get?_provenance_eq (t : Transformer) (x : Object) (k : String) :
    (t.provenance x).get? k =
      if k = "source_system" then some (.string t.systemId)
      else if k = "source_system_type" then some (.string t.systemType)
      else (metadataOf x).get? k := by
  rw [provenance_eq, Dict.get?_insert, Dict.get?_insert]
  by_cases hs : k = "source_system"
  · subst hs
    rfl
  · simp only [hs, Ne.symm hs, if_false, eq_comm]

theorem normal_metadataOf (h : (Value.object x).Normal) : (Value.object (metadataOf x)).Normal := by
  unfold metadataOf
  split
  · next m hm => exact (Value.normal_object_iff.mp h).2 _ (Dict.mem_of_get? hm)
  · rfl

/-- Storing a value keeps an object in its normal form. -/
theorem normal_insert {k : String} {v : Value} (h : (Value.object x).Normal) (hv : v.Normal) :
    (Value.object (x.insert k v)).Normal := by
  obtain ⟨hs, hm⟩ := Value.normal_object_iff.mp h
  refine Value.normal_object (hs.insert k v) fun m hmem => ?_
  rcases Dict.mem_insert hmem with rfl | hmem
  · exact hv
  · exact hm m hmem

theorem normal_provenance (h : (Value.object x).Normal) :
    (Value.object (t.provenance x)).Normal :=
  normal_insert (normal_insert (normal_metadataOf h) rfl) rfl

theorem normal_stamp (h : (Value.object x).Normal) (entityType : String) :
    (Value.object (t.stamp entityType x)).Normal :=
  normal_insert (normal_insert h (normal_provenance h)) rfl

theorem stamped_stamp (h : (Value.object x).Normal) :
    t.Stamped x (t.stamp (entityTypeOf (.object x)) x) where
  normal := normal_stamp h _
  entityType := get?_stamp_entityType ..
  metadata := ⟨_, get?_stamp_metadata .., get?_provenance_eq t x⟩
  others k ht hm := by
    rw [stamp, Dict.get?_insert_of_ne _ _ (Ne.symm ht), Dict.get?_insert_of_ne _ _ (Ne.symm hm)]

/-- Stamping what was stamped before finds everything in its place. -/
theorem stamp_stamp (h : (Value.object x).Normal) (entityType : String) :
    t.stamp entityType (t.stamp entityType x) = t.stamp entityType x := by
  have hm := get?_stamp_metadata t entityType x
  have ht := get?_stamp_entityType t entityType x
  have hs := (Value.normal_object_iff.mp (normal_stamp (t := t) h entityType)).1
  have hp : t.provenance (t.stamp entityType x) = t.provenance x := by
    have hold : metadataOf (t.stamp entityType x) = t.provenance x := by rw [metadataOf, hm]
    have hsorted := (Value.normal_object_iff.mp (normal_provenance (t := t) h)).1
    obtain ⟨hsys, htype⟩ := get?_provenance t x
    rw [provenance_eq, hold, hsorted.insert_eq_self hsys, hsorted.insert_eq_self htype]
  rw [stamp, hp, hs.insert_eq_self hm, hs.insert_eq_self ht]

/--
A payload of an entity type without rules comes in as it is but for its stamp. If the schemas accept
it so, it goes out unchanged after that, comes in again unchanged, and is of the same entity type.
-/
theorem unruled_roundTrip (schemas : SchemaRegistry) (h : t.Unruled (entityTypeOf (.object x)))
    (hx : (Value.object x).Normal) :
    ∃ y, t.Stamped x y ∧ entityTypeOf (.object y) = entityTypeOf (.object x) ∧
      ((∀ s, schemas.internal? (entityTypeOf (.object x)) = some s →
          s.accepts (.object y) = true) →
        t.toInternal schemas (.object x) = .ok (.object y) ∧
        t.toInternal schemas (.object y) = .ok (.object y) ∧
        ((∀ s, t.externalSchema? schemas (entityTypeOf (.object x)) = some s →
            s.accepts (.object y) = true) →
          t.toExternal schemas (.object y) = .ok (.object y))) := by
  have hy : t.Stamped x (t.stamp (entityTypeOf (.object x)) x) := stamped_stamp hx
  have htype := entityTypeOf_eq_of_get? (entityTypeOf_ne_empty _) hy.entityType
  have hu : t.Unruled (entityTypeOf (.object (t.stamp (entityTypeOf (.object x)) x))) := by
    rwa [htype]
  refine ⟨_, hy, htype, fun hi => ⟨h.toInternal_eq hi, ?_, fun he => ?_⟩⟩
  · have hagain := hu.toInternal_eq (by rwa [htype, stamp_stamp hx])
    rwa [htype, stamp_stamp hx] at hagain
  · exact hu.toExternal_eq (by rwa [htype]) (by rwa [htype])

/-- A transformer whose one rule is for another entity type. -/
def leadsOnly : Transformer where
  systemId := "crm"
  systemType := "sales"
  rules := [{ entityType := "lead", direction := .inbound, fieldsToRemove := ["name"] }]
  schemas := []

/-- A payload that names no entity type as such, and another system as the one it comes from. -/
def unnamed : Object :=
  [("_entity_type", .null),
    ("_metadata", .object [("page", .ofNat 2), ("source_system", .string "erp")]),
    ("name", .string "Ann")]

/-- A canonical schema for payloads without a type that asks for the metadata. -/
def untyped : SchemaRegistry where
  internal := [("default",
    ⟨.null, fun v => if (v.get? metadataField).isSome then [] else ["no metadata"]⟩)]

/-- It is stamped as one of the default type, keeps the rest of its metadata, and then stays. -/
theorem unruled_roundTrip_unnamed : ∃ y : Object,
    leadsOnly.toInternal untyped (.object unnamed) = .ok (.object y) ∧
      y.get? entityTypeField = some (.string "default") ∧
      (∃ m : Object, y.get? metadataField = some (.object m) ∧ m.get? "page" = some (.ofNat 2) ∧
        m.get? "source_system" = some (.string "crm")) ∧
      leadsOnly.toExternal untyped (.object y) = .ok (.object y) ∧
      leadsOnly.toInternal untyped (.object y) = .ok (.object y) := by
  have hu : leadsOnly.Unruled (entityTypeOf (.object unnamed)) := by
    rintro r (_ | ⟨_, ⟨⟩⟩)
    decide
  obtain ⟨y, hy, -, h⟩ := unruled_roundTrip untyped hu (by decide)
  obtain ⟨m, hm, hk⟩ := hy.metadata
  obtain ⟨hin, hagain, hout⟩ := h fun s hs => by
    cases hs
    rw [Schema.accepts]
    have hget : Value.get? (.object y) metadataField = some (.object m) := hm
    simp only [hget]
    rfl
  exact ⟨y, hin, hy.entityType, ⟨m, hm, hk "page", hk "source_system"⟩, hout nofun, hagain⟩

end Transformer
end Interchange
