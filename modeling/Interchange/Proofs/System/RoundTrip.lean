import Interchange.Proofs.Json.Reordering
import Interchange.Proofs.System.Codec

/-! # Configurations, read, written and read again

A configuration may be written in several ways: with fields left out, with members of other names
beside its fields, or as an array of its fields. Main statement: however it was written, its JSON
form is read as the same configuration, in whatever order the members of that form stand, and the
free-form metadata are those that were written.
-/

namespace Interchange

open Json Json.Decode

/-! ## Any order of members -/

namespace ValueTransform

theorem unordered_ofFields? (type : String) : Unordered (ofFields? type) := by
  intro v hv
  unfold ofFields?
  split_ifs
  · refine record_bind_normalize hv fun fs fs' h => ?_
    simp only [h.field (unordered_dict unordered_any),
      h.fieldOr (unordered_optional unordered_any)]
  · refine record_bind_normalize hv fun fs fs' h => ?_
    simp only [h.field unordered_text]
  · refine record_bind_normalize hv fun fs fs' h => ?_
    simp only [h.field unordered_text, h.fieldOr (unordered_natBelow _)]
  · refine record_bind_normalize hv fun fs fs' h => ?_
    simp only [h.field unordered_text]
  · refine record_bind_normalize hv fun fs fs' h => ?_
    simp only [h.fieldOr (unordered_list unordered_text)]
  · simp only [Option.map_eq_bind]
    exact record_bind_normalize hv fun _ _ _ => rfl
  · simp only [Option.map_eq_bind]
    exact record_bind_normalize hv fun _ _ _ => rfl
  · rfl

theorem filter_type {ms : List (String × Value)} (h : (Dict.keys ms).Nodup) :
    ms.filter (fun m => m.1 = "type") = ((Dict.get? ms "type").map ("type", ·)).toList := by
  induction ms with
  | nil => rfl
  | cons m ms ih =>
    obtain ⟨k, v⟩ := m
    obtain ⟨hk, hms⟩ := List.nodup_cons.mp h
    rw [List.filter_cons, Dict.get?_cons, ih hms]
    by_cases ht : k = "type"
    · subst ht
      simp [Dict.get?_eq_none_iff.mpr hk]
    · simp [ht]

/-- How an object without repetitions is read: by the text under `type`. -/
theorem ofJson?_of_nodup {ms : List (String × Value)} (h : (Dict.keys ms).Nodup) :
    ofJson? (.object ms) = ((Dict.get? ms "type").bind Value.text?).bind fun type =>
      ofFields? type (.object (ms.filter fun m => m.1 ≠ "type")) := by
  rw [ofJson?, filter_type h]
  rcases Dict.get? ms "type" with _ | (_ | _ | _ | _ | _ | _) <;> rfl

theorem unordered_ofJson? : Unordered ofJson? := by
  intro v hv
  cases v with
  | object ms =>
    have hk : (Dict.keys (Dict.mapValues Value.normalize (Dict.ofList ms))).Nodup :=
      ((Dict.sorted_ofList ms).mapValues _).nodup
    rw [Value.normalize_object, ofJson?_of_nodup hk, ofJson?_of_nodup hv.keys, Dict.get?_mapValues,
      Dict.get?_ofList hv.keys]
    have htype : ((Dict.get? ms "type").map Value.normalize).bind Value.text? =
        (Dict.get? ms "type").bind Value.text? := by
      rcases Dict.get? ms "type" with _ | (_ | _ | _ | _ | _ | _) <;> rfl
    rw [htype]
    refine congrArg (Option.bind _) (funext fun type => ?_)
    rw [← normalize_filter hv.keys fun k => k ≠ "type"]
    exact unordered_ofFields? type _ (hv.filter _)
  | array vs =>
    rw [Value.normalize_array]
    match vs with
    | [] => rfl
    | .string type :: vs =>
      have h := unordered_ofFields? type (.array vs) (.array fun v hm =>
        hv.items v (List.mem_cons_of_mem _ hm))
      rwa [Value.normalize_array] at h
    | .null :: _ | .bool _ :: _ | .number _ :: _ | .array _ :: _ | .object _ :: _ => rfl
  | _ => rfl

end ValueTransform

theorem Rule.unordered_ofJson? : Unordered Rule.ofJson? := by
  intro v hv
  refine record_bind_normalize hv fun fs fs' h => ?_
  simp only [h.field unordered_text, h.field (unordered_choice _), h.fieldOr (unordered_choice _),
    h.fieldOr (unordered_dict unordered_text),
    h.fieldOr (unordered_dict ValueTransform.unordered_ofJson?),
    h.fieldOr (unordered_dict unordered_any), h.fieldOr (unordered_list unordered_text),
    Direction.ofJson?, Mode.ofJson?]

theorem TransformParams.unordered_ofJson? : Unordered TransformParams.ofJson? := by
  intro v hv
  refine record_bind_normalize hv fun fs fs' h => ?_
  simp only [h.fieldOr (unordered_list Rule.unordered_ofJson?),
    h.fieldOr (unordered_dict unordered_any)]

theorem SystemMetadata.unordered_ofJson? : Unordered SystemMetadata.ofJson? := by
  intro v hv
  cases v with
  | object ms =>
    obtain ⟨fs, fs', hfs, hfs', h⟩ := known_normalize fieldNames hv
    have hextra := unordered_dict unordered_any _
      (hv.filter fun m => !fieldNames.contains m.1)
    rw [normalize_filter hv.keys fun k => !fieldNames.contains k] at hextra
    rw [Value.normalize_object, ofJson?, ofJson?, hfs, hfs']
    simp only [Option.bind_eq_bind, Option.bind_some, h.fieldOr unordered_bool,
      h.fieldOr (unordered_optional unordered_text), hextra]
  | _ => rfl

theorem SystemConfig.unordered_ofJson? : Unordered SystemConfig.ofJson? := by
  intro v hv
  refine record_bind_normalize hv fun fs fs' h => ?_
  simp only [h.field unordered_text, h.fieldOr (unordered_dict unordered_any),
    h.fieldOr TransformParams.unordered_ofJson?, h.fieldOr unordered_bool,
    h.fieldOr SystemMetadata.unordered_ofJson?]

/-! ## What is written -/

theorem distinct_ofMap {α : Type} {f : α → Value} {d : Dict α} (hd : Dict.Sorted d)
    (h : ∀ p ∈ d, (f p.2).Distinct) : (Value.object (Dict.mapValues f d)).Distinct := by
  refine .object (hd.mapValues f).nodup fun m hm => ?_
  obtain ⟨p, hp, rfl⟩ := List.mem_map.mp hm
  exact h p hp

theorem distinct_of_optionalMember {k : String} {s : Option String} {p : String × Value}
    (hp : p ∈ optionalMember k s) : p.2.Distinct := by
  cases s with
  | none => cases hp
  | some s =>
    obtain rfl := List.mem_singleton.mp hp
    exact .string s

theorem ValueTransform.Encodable.distinct_toJson {t : ValueTransform} (h : t.Encodable) :
    t.toJson.Distinct := by
  cases t with
  | map mapping fallback =>
    obtain ⟨hm, hf⟩ := h
    cases fallback with
    | none => simp [toJson, Dict.keys, hm.distinct]
    | some v => simp [toJson, Dict.keys, hm.distinct, (hf v rfl).1.distinct]
  | _ => simp [toJson, Dict.keys, Value.ofNat]

theorem Rule.Encodable.distinct_toJson {r : Rule} (h : r.Encodable) : r.toJson.Distinct := by
  have hfields := distinct_ofMap h.fieldMappings fun p _ => .string p.2
  have hvalues := distinct_ofMap h.sorted fun p hp => (h.valueTransformations p hp).distinct_toJson
  refine .object (by simp [Dict.keys]) ?_
  simp [hfields, hvalues, h.defaultValues.distinct]

theorem TransformParams.Encodable.distinct_toJson {p : TransformParams} (h : p.Encodable) :
    p.toJson.Distinct := by
  refine .object (by simp [Dict.keys]) ?_
  simpa [h.externalSchemas.distinct] using fun r hr => (h.rules r hr).distinct_toJson

namespace SystemMetadata

variable {m : SystemMetadata}

theorem name_mem_of_fieldMembers {p : String × Value} (hp : p ∈ m.fieldMembers) :
    p.1 ∈ fieldNames := by
  have h : p ∉ m.fieldMembers.filter fun p => !fieldNames.contains p.1 := by
    rw [filter_fieldMembers]
    exact List.not_mem_nil
  simpa [List.mem_filter, hp] using h

theorem Encodable.nodup_keys (h : m.Encodable) : (Dict.keys (m.fieldMembers ++ m.extra)).Nodup := by
  rw [Dict.keys, List.map_append]
  refine List.nodup_append.mpr ⟨m.nodup_fieldMembers, ?_, ?_⟩
  · exact (Value.normal_object_iff.mp h.extra).1.nodup
  · rintro k hk _ hk' rfl
    obtain ⟨p, hp, rfl⟩ := List.mem_map.mp hk
    obtain ⟨q, hq, he⟩ := List.mem_map.mp hk'
    exact h.named q hq (he ▸ name_mem_of_fieldMembers hp)

theorem Encodable.distinct_toJson (h : m.Encodable) : m.toJson.Distinct := by
  refine .object h.nodup_keys fun p hp => ?_
  simp only [List.mem_append, List.mem_cons, List.not_mem_nil, or_false] at hp
  rcases hp with (((rfl | rfl) | hp) | hp) | hp
  · exact .bool _
  · exact .bool _
  · exact distinct_of_optionalMember hp
  · exact distinct_of_optionalMember hp
  · exact ((Value.normal_object_iff.mp h.extra).2 p hp).distinct

end SystemMetadata

theorem SystemConfig.Encodable.distinct_toJson {c : SystemConfig} (h : c.Encodable) :
    c.toJson.Distinct := by
  refine .object (by simp [Dict.keys]) ?_
  simp [h.connectionParams.distinct, h.authParams.distinct, h.transformParams.distinct_toJson,
    h.metadata.distinct_toJson]

/-! ## Free-form metadata -/

theorem SystemMetadata.get?_extra {ms : List (String × Value)} {m : SystemMetadata} {k : String}
    (h : ofJson? (.object ms) = some m) (hk : k ∉ fieldNames) :
    m.extra.get? k = (Dict.get? (Dict.ofList ms) k).map Value.normalize := by
  simp only [ofJson?, Option.bind_eq_bind, Option.bind_eq_some_iff, Option.pure_def] at h
  obtain ⟨_, -, _, -, _, -, _, -, _, -, extra, he, h⟩ := h
  cases h
  have hfree : (!fieldNames.contains k) = true := by simpa using hk
  rw [dict_any_eq, Dict.ofList_mapValues] at he
  cases he
  rw [Dict.get?_mapValues, Dict.get?_ofList_filter (P := fun k => !fieldNames.contains k) hfree]

namespace SystemConfig

variable {v : Value} {c : SystemConfig}

def fieldNames : List String :=
  ["system_id", "system_type", "name", "connection_params", "auth_params", "transform_params",
    "enabled", "metadata"]

/-- What a written configuration says under a key of its metadata; the last of several members with
that key counts. -/
def writtenMetadata? (v : Value) (k : String) : Option Value :=
  match written fieldNames "metadata" v with
  | some (.object ms) => (Dict.get? (Dict.ofList ms) k).map Value.normalize
  | _ => none

theorem get?_extra {k : String} (h : ofJson? v = some c) (hk : k ∉ SystemMetadata.fieldNames) :
    c.metadata.extra.get? k = writtenMetadata? v k := by
  simp only [ofJson?, Option.bind_eq_bind, Option.bind_eq_some_iff, Option.pure_def] at h
  obtain ⟨fs, hfs, _, -, _, -, _, -, _, -, _, -, _, -, _, -, metadata, hm, h⟩ := h
  cases h
  have hget : fs.get? "metadata" = written fieldNames "metadata" v :=
    get?_of_record hfs (by decide) (by decide)
  rw [fieldOr, hget] at hm
  rw [writtenMetadata?]
  cases hw : written fieldNames "metadata" v with
  | none =>
    rw [hw] at hm
    cases hm
    rfl
  | some w =>
    rw [hw] at hm
    cases w with
    | object ms => exact SystemMetadata.get?_extra hm hk
    | _ => cases hm

/-- A configuration that was read is read again from its JSON form, in whatever order the members of
that form are written, and is written as before. Its free-form metadata are those that were written,
and no field is among them. -/
theorem roundTrip (h : ofJson? v = some c) :
    ofJson? c.toJson = some c ∧ (ofJson? c.toJson).map toJson = some c.toJson ∧
      (∀ w : Value, w.Distinct → w.normalize = c.toJson.normalize → ofJson? w = some c) ∧
      (∀ k, k ∉ SystemMetadata.fieldNames → c.metadata.extra.get? k = writtenMetadata? v k ∧
        writtenMetadata? c.toJson k = writtenMetadata? v k) ∧
      ∀ k ∈ SystemMetadata.fieldNames, c.metadata.extra.get? k = none := by
  have hc : c.Encodable := encodable_of_ofJson? h
  have hback := hc.ofJson?_toJson
  refine ⟨hback, ?_, fun w hw he => ?_, fun k hk => ?_, fun k hk => ?_⟩
  · rw [hback, Option.map_some]
  · rw [unordered_ofJson?.eq hw hc.distinct_toJson he, hback]
  · exact ⟨get?_extra h hk, (get?_extra hback hk).symm.trans (get?_extra h hk)⟩
  · refine Dict.get?_eq_none_iff.mpr fun hmem => ?_
    obtain ⟨p, hp, rfl⟩ := List.mem_map.mp hmem
    exact hc.metadata.named p hp hk

/-- A configuration written as an array, with a rule that is an array too and free-form metadata. -/
def crmItems : Value :=
  .array [.string "crm", .string "mock", .string "CRM", .object [], .object [],
    .object [("rules", .array [.array [.string "contact", .string "inbound",
      .object [("selective", .null)], .object [],
      .object [("level", .array [.string "map", .object [], .null])]]])], .bool true,
    .object [("region", .null), ("supports_batch", .bool true), ("owner", .string "sales")]]

theorem roundTrip_crmItems :
    ∃ c, ofJson? crmItems = some c ∧ c.metadata.extra.get? "region" = some .null ∧
      ofJson? c.toJson = some c ∧ ofJson? c.toJson.normalize = some c := by
  have h : ofJson? crmItems = some ⟨"crm", "mock", "CRM", [], [],
      ⟨[⟨"contact", .inbound, .selective, [], [("level", .map [] none)], [], []⟩], []⟩, true,
      ⟨true, false, none, none, [("owner", .string "sales"), ("region", .null)]⟩⟩ := rfl
  obtain ⟨hback, -, hany, hextra, -⟩ := roundTrip h
  refine ⟨_, h, ?_, hback, ?_⟩
  · exact (hextra "region" (by decide)).1
  · exact hany _ (Value.distinct_normalize _) (Value.normal_normalize _)

end SystemConfig

end Interchange
