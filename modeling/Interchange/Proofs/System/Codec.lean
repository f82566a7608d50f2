import Interchange.System.Config
import Interchange.Proofs.Rule.Codec

/-! # Systems, written and read back

Main statement: a configuration is read back from its JSON form exactly if that can hold it.
-/

namespace Interchange

open Json

/-! ## Metadata -/

namespace SystemMetadata

/-- Metadata that its JSON form can hold. The free-form members stand beside the fields there, so
none of them can have the name of a field. -/
structure Encodable (m : SystemMetadata) : Prop where
  extra : (Value.object m.extra).Normal
  named : ∀ p ∈ m.extra, p.1 ∉ fieldNames

def fieldMembers (m : SystemMetadata) : List (String × Value) :=
  [("supports_batch", .bool m.supportsBatch), ("supports_webhooks", .bool m.supportsWebhooks)]
    ++ optionalMember "webhook_signature_header" m.signatureHeader
    ++ optionalMember "webhook_signature_algorithm" m.signatureAlgorithm

theorem nodup_fieldMembers (m : SystemMetadata) : (Dict.keys m.fieldMembers).Nodup := by
  unfold fieldMembers
  cases m.signatureHeader <;> cases m.signatureAlgorithm <;> simp [optionalMember, Dict.keys]

theorem filter_fieldMembers (m : SystemMetadata) :
    m.fieldMembers.filter (fun p => !fieldNames.contains p.1) = [] := by
  unfold fieldMembers
  cases m.signatureHeader <;> cases m.signatureAlgorithm <;> simp [optionalMember, fieldNames]

theorem Encodable.ofJson?_toJson {m : SystemMetadata} (h : m.Encodable) :
    ofJson? m.toJson = some m := by
  have hjson : m.toJson = .object (m.fieldMembers ++ m.extra) := rfl
  have hextra : (m.fieldMembers ++ m.extra).filter (fun p => !fieldNames.contains p.1) =
      m.extra := by
    rw [List.filter_append, filter_fieldMembers, List.nil_append]
    exact List.filter_eq_self.mpr fun p hp => by simpa using h.named p hp
  have hknown := Decode.known_append h.named m.fieldMembers
  rw [hjson, ofJson?, hknown, hextra, Decode.dict_any h.extra]
  refine Decode.record_bind m.nodup_fieldMembers fun fs hfs => ?_
  obtain ⟨batch, webhooks, header, algorithm, extra⟩ := m
  cases header <;> cases algorithm <;>
    simp [Decode.fieldOr, hfs, fieldNames, fieldMembers, optionalMember, Dict.get?, Decode.bool,
      Decode.optional, Decode.text, Value.text?]

theorem encodable_of_ofJson? {v : Value} {m : SystemMetadata} (h : ofJson? v = some m) :
    m.Encodable := by
  unfold ofJson? at h
  split at h
  · simp only [Option.bind_eq_bind, Option.bind_eq_some_iff, Option.pure_def] at h
    obtain ⟨fs, -, _, -, _, -, _, -, _, -, extra, he, h⟩ := h
    cases h
    refine ⟨Decode.normal_of_dict_any he, fun p hp => ?_⟩
    obtain ⟨w, hw, -⟩ := Decode.exists_mem_of_dict he p hp
    simpa using (List.mem_filter.mp hw).2
  · cases h

end SystemMetadata

/-! ## Transform parameters -/

namespace TransformParams

/-- Parameters that their JSON form can hold. -/
structure Encodable (p : TransformParams) : Prop where
  rules : ∀ r ∈ p.rules, r.Encodable
  externalSchemas : (Value.object p.externalSchemas).Normal

theorem Encodable.ofJson?_toJson {p : TransformParams} (h : p.Encodable) :
    ofJson? p.toJson = some p := by
  have hr : Decode.list Rule.ofJson? (.array (p.rules.map Rule.toJson)) = some p.rules :=
    Decode.list_array fun r hr => (h.rules r hr).ofJson?_toJson
  unfold ofJson? toJson
  refine Decode.record_bind (by simp [Dict.keys]) fun fs hfs => ?_
  simp [Decode.fieldOr, hfs, Dict.get?, hr, Decode.dict_any h.externalSchemas]

theorem encodable_of_ofJson? {v : Value} {p : TransformParams} (h : ofJson? v = some p) :
    p.Encodable := by
  unfold ofJson? at h
  obtain ⟨fs, -, h⟩ := Option.bind_eq_some_iff.mp h
  obtain ⟨rules, hr, h⟩ := Option.bind_eq_some_iff.mp h
  obtain ⟨schemas, hs, h⟩ := Option.bind_eq_some_iff.mp h
  cases h
  constructor
  · refine Decode.of_fieldOr (P := fun l => ∀ r ∈ l, r.Encodable) hr nofun fun _ _ hv => ?_
    exact Decode.forall_mem_of_list hv fun _ _ => Rule.encodable_of_ofJson?
  · exact Decode.of_fieldOr (P := fun o => (Value.object o).Normal) hs rfl
      fun _ _ => Decode.normal_of_dict_any

end TransformParams

/-! ## Configurations -/

namespace SystemConfig

/-- A configuration that its JSON form can hold. -/
structure Encodable (c : SystemConfig) : Prop where
  connectionParams : (Value.object c.connectionParams).Normal
  authParams : (Value.object c.authParams).Normal
  transformParams : c.transformParams.Encodable
  metadata : c.metadata.Encodable

/-- A configuration as it is held: its maps are in key order. -/
structure WellFormed (c : SystemConfig) : Prop where
  connectionParams : (Value.object c.connectionParams).Normal
  authParams : (Value.object c.authParams).Normal
  rules : ∀ r ∈ c.transformParams.rules, r.WellFormed
  externalSchemas : (Value.object c.transformParams.externalSchemas).Normal
  extra : (Value.object c.metadata.extra).Normal

/-- No free-form member of the metadata has the name of a field, and no fallback of a transformation
is null. -/
structure Restorable (c : SystemConfig) : Prop where
  named : ∀ p ∈ c.metadata.extra, p.1 ∉ SystemMetadata.fieldNames
  fallbacks : ∀ r ∈ c.transformParams.rules, ∀ p ∈ r.valueTransformations, p.2.Restorable

theorem WellFormed.encodable_iff {c : SystemConfig} (h : c.WellFormed) :
    c.Encodable ↔ c.Restorable := by
  constructor
  · exact fun he => ⟨he.metadata.named, fun r hr =>
      (h.rules r hr).encodable_iff.mp (he.transformParams.rules r hr)⟩
  · exact fun hr => ⟨h.connectionParams, h.authParams,
      ⟨fun r hm => (h.rules r hm).encodable_iff.mpr (hr.fallbacks r hm), h.externalSchemas⟩,
      ⟨h.extra, hr.named⟩⟩

theorem Encodable.wellFormed {c : SystemConfig} (h : c.Encodable) : c.WellFormed where
  connectionParams := h.connectionParams
  authParams := h.authParams
  rules r hr := (h.transformParams.rules r hr).wellFormed
  externalSchemas := h.transformParams.externalSchemas
  extra := h.metadata.extra

theorem Encodable.ofJson?_toJson {c : SystemConfig} (h : c.Encodable) :
    ofJson? c.toJson = some c := by
  unfold ofJson? toJson
  refine Decode.record_bind (by simp [Dict.keys]) fun fs hfs => ?_
  simp [Decode.field, Decode.fieldOr, hfs, Dict.get?, Decode.text, Value.text?, Decode.bool,
    Decode.dict_any h.connectionParams, Decode.dict_any h.authParams,
    h.transformParams.ofJson?_toJson, h.metadata.ofJson?_toJson]

theorem encodable_of_ofJson? {v : Value} {c : SystemConfig} (h : ofJson? v = some c) :
    c.Encodable := by
  unfold ofJson? at h
  simp only [Option.bind_eq_bind, Option.bind_eq_some_iff, Option.pure_def] at h
  obtain ⟨fs, -, _, -, _, -, _, -, connection, hc, auth, ha, transform, ht, _, -, metadata, hm,
    h⟩ := h
  cases h
  constructor
  · exact Decode.of_fieldOr (P := fun o => (Value.object o).Normal) hc rfl
      fun _ _ => Decode.normal_of_dict_any
  · exact Decode.of_fieldOr (P := fun o => (Value.object o).Normal) ha rfl
      fun _ _ => Decode.normal_of_dict_any
  · exact Decode.of_fieldOr ht ⟨nofun, rfl⟩ fun _ _ => TransformParams.encodable_of_ofJson?
  · exact Decode.of_fieldOr hm ⟨rfl, nofun⟩ fun _ _ => SystemMetadata.encodable_of_ofJson?

/-- A configuration is read back from its JSON form exactly if that can hold it. -/
theorem ofJson?_toJson_iff {c : SystemConfig} : ofJson? c.toJson = some c ↔ c.Encodable :=
  ⟨encodable_of_ofJson?, Encodable.ofJson?_toJson⟩

end SystemConfig
end Interchange
