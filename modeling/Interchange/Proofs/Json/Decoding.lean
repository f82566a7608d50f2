import Interchange.Json.Decode
import Interchange.Proofs.Dict.Sorted

/-! # Records, lists and maps, read back

What the readers of records, lists and maps make of what was written, and what can be said of all
that they read.
-/

namespace Interchange
namespace Json

variable {α : Type}

/-! ## Normal values -/

namespace Value

theorem normalizeItems_eq (vs : List Value) : normalizeItems vs = vs.map normalize := by
  induction vs with
  | nil => rfl
  | cons v vs ih => rw [normalizeItems, ih, List.map_cons]

theorem normalizeMembers_eq (ms : List (String × Value)) :
    normalizeMembers ms = Dict.mapValues normalize ms := by
  induction ms with
  | nil => rfl
  | cons m ms ih => rw [normalizeMembers, ih, Dict.mapValues, Dict.mapValues, List.map_cons]

/-- A value in which the members of every object stand in the order of their keys, each key once. -/
def Normal (v : Value) : Prop := v.normalize = v

instance (v : Value) : Decidable v.Normal := inferInstanceAs (Decidable (v.normalize = v))

theorem normal_array {vs : List Value} (h : ∀ v ∈ vs, v.Normal) : (array vs).Normal := by
  have hself : vs.map normalize = vs := (List.map_congr_left h).trans (List.map_id' vs)
  rw [Normal, normalize, normalizeItems_eq, hself]

theorem normal_array_iff {vs : List Value} : (array vs).Normal ↔ ∀ v ∈ vs, v.Normal := by
  refine ⟨fun h => ?_, normal_array⟩
  rw [Normal, normalize, normalizeItems_eq, array.injEq] at h
  exact List.map_inj_left.mp (h.trans (List.map_id vs).symm)

theorem normal_object {o : Object} (hs : Dict.Sorted o) (h : ∀ m ∈ o, m.2.Normal) :
    (object o).Normal := by
  have hself : Dict.mapValues normalize o = o := by
    refine (List.map_congr_left fun m hm => ?_).trans (List.map_id' o)
    rw [h m hm]
  rw [Normal, normalize, normalizeMembers_eq, hself, hs.ofList_eq]

theorem normal_object_iff {o : Object} :
    (object o).Normal ↔ Dict.Sorted o ∧ ∀ m ∈ o, m.2.Normal := by
  refine ⟨fun h => ?_, fun h => normal_object h.1 h.2⟩
  rw [Normal, normalize, normalizeMembers_eq, object.injEq] at h
  have hs : Dict.Sorted o := h ▸ Dict.sorted_ofList _
  rw [(hs.mapValues normalize).ofList_eq, Dict.mapValues] at h
  refine ⟨hs, fun m hm => ?_⟩
  exact congrArg Prod.snd (List.map_inj_left.mp (h.trans (List.map_id o).symm) m hm)

mutual

theorem normal_normalize : ∀ v : Value, v.normalize.Normal
  | .null => rfl
  | .bool _ => rfl
  | .number _ => rfl
  | .string _ => rfl
  | .array vs => normal_array (normal_normalizeItems vs)
  | .object ms => normal_object (Dict.sorted_ofList _) fun m hm =>
      normal_normalizeMembers ms m (Dict.mem_of_mem_ofList hm)

theorem normal_normalizeItems : ∀ (vs : List Value), ∀ v ∈ normalizeItems vs, v.Normal
  | [] => nofun
  | v :: vs => List.forall_mem_cons.mpr ⟨normal_normalize v, normal_normalizeItems vs⟩

theorem normal_normalizeMembers :
    ∀ (ms : List (String × Value)), ∀ m ∈ normalizeMembers ms, m.2.Normal
  | [] => nofun
  | (_, v) :: ms => List.forall_mem_cons.mpr ⟨normal_normalize v, normal_normalizeMembers ms⟩

end

end Value

namespace Decode

variable {f : α → Value} {g : Value → Option α} {v : Value} {fs : Dict Value} {name : String}
  {a default : α} {P : α → Prop} {names : List String} {ms extra : List (String × Value)}

/-! ## Lists and maps -/

theorem mapM_map_eq_some {β : Type} {f : α → β} {g : β → Option α} {as : List α}
    (h : ∀ a ∈ as, g (f a) = some a) : (as.map f).mapM g = some as := by
  induction as with
  | nil => rfl
  | cons a as ih =>
    obtain ⟨ha, has⟩ := List.forall_mem_cons.mp h
    simp [ha, ih has]

theorem forall_mem_of_mapM {β : Type} {g : β → Option α} {bs : List β} {as : List α}
    (h : bs.mapM g = some as) (hg : ∀ b ∈ bs, ∀ a, g b = some a → P a) : ∀ a ∈ as, P a := by
  induction bs generalizing as with
  | nil =>
    cases h
    nofun
  | cons b bs ih =>
    simp only [List.mapM_cons, Option.bind_eq_bind, Option.bind_eq_some_iff] at h
    obtain ⟨a, ha, as', has, h⟩ := h
    cases h
    obtain ⟨hb, hbs⟩ := List.forall_mem_cons.mp hg
    exact List.forall_mem_cons.mpr ⟨hb a ha, ih has hbs⟩

/-- A list is read back if each of its items is. -/
theorem list_array {as : List α} (h : ∀ a ∈ as, g (f a) = some a) :
    list g (.array (as.map f)) = some as := mapM_map_eq_some h

theorem forall_mem_of_list {as : List α} (h : list g v = some as)
    (hg : ∀ v a, g v = some a → P a) : ∀ a ∈ as, P a := by
  cases v with
  | array items => exact forall_mem_of_mapM h fun v _ => hg v
  | _ => cases h

/-- A map is read back if each of its values is. -/
theorem dict_object {d : Dict α} (hd : Dict.Sorted d) (h : ∀ p ∈ d, g (f p.2) = some p.2) :
    dict g (.object (Dict.mapValues f d)) = some d := by
  have hm : (Dict.mapValues f d).mapM (fun m => (g m.2).map fun a => (m.1, a)) = some d :=
    mapM_map_eq_some fun p hp => by rw [h p hp, Option.map_some]
  rw [dict, hm, Option.map_some, hd.ofList_eq]

theorem dict_any_eq (ms : List (String × Value)) :
    dict any (.object ms) = some (Dict.ofList (Dict.mapValues Value.normalize ms)) := by
  have hm : ms.mapM (fun m => (any m.2).map fun a => (m.1, a)) =
      some (Dict.mapValues Value.normalize ms) := List.mapM_pure
  rw [dict, hm, Option.map_some]

/-- Free-form members are read back as they are. -/
theorem dict_any {o : Object} (h : (Value.object o).Normal) : dict any (.object o) = some o := by
  rw [Value.Normal, Value.normalize, Value.normalizeMembers_eq, Value.object.injEq] at h
  rw [dict_any_eq, h]

theorem sorted_of_dict {d : Dict α} (h : dict g v = some d) : Dict.Sorted d := by
  cases v with
  | object members =>
    obtain ⟨ps, -, rfl⟩ := Option.map_eq_some_iff.mp h
    exact Dict.sorted_ofList ps
  | _ => cases h

theorem exists_mem_of_dict {d : Dict α} (h : dict g (.object ms) = some d) :
    ∀ p ∈ d, ∃ v, (p.1, v) ∈ ms ∧ g v = some p.2 := by
  obtain ⟨ps, hps, rfl⟩ := Option.map_eq_some_iff.mp h
  have hmem : ∀ p ∈ ps, ∃ v, (p.1, v) ∈ ms ∧ g v = some p.2 := by
    refine forall_mem_of_mapM hps ?_
    rintro ⟨k, v⟩ hm _ hp
    obtain ⟨a, ha, rfl⟩ := Option.map_eq_some_iff.mp hp
    exact ⟨v, hm, ha⟩
  exact fun p hp => hmem p (Dict.mem_of_mem_ofList hp)

theorem forall_mem_of_dict {d : Dict α} (h : dict g v = some d) (hg : ∀ v a, g v = some a → P a) :
    ∀ p ∈ d, P p.2 := by
  cases v with
  | object members =>
    intro p hp
    obtain ⟨v, -, hv⟩ := exists_mem_of_dict h p hp
    exact hg v p.2 hv
  | _ => cases h

theorem normal_of_dict_any {o : Object} (h : dict any v = some o) : (Value.object o).Normal := by
  refine Value.normal_object (sorted_of_dict h) (forall_mem_of_dict h ?_)
  rintro v _ ⟨⟩
  exact v.normal_normalize

/-! ## Fields -/

theorem of_field (h : field fs name g = some a) (hg : ∀ v a, g v = some a → P a) : P a := by
  obtain ⟨v, -, hv⟩ := Option.bind_eq_some_iff.mp h
  exact hg v a hv

theorem of_fieldOr (h : fieldOr fs name g default = some a) (hd : P default)
    (hg : ∀ v a, g v = some a → P a) : P a := by
  unfold fieldOr at h
  split at h
  · cases h
    exact hd
  · exact hg _ a h

/-- Members that no field is named after are skipped. -/
theorem known_append (h : ∀ m ∈ extra, m.1 ∉ names) (ms : List (String × Value)) :
    known names (ms ++ extra) = known names ms := by
  induction ms with
  | nil =>
    induction extra with
    | nil => rfl
    | cons m extra ih =>
      obtain ⟨hm, hextra⟩ := List.forall_mem_cons.mp h
      have hrest : known names extra = some [] := ih hextra
      have hc : names.contains m.1 = false := by simpa using hm
      simp only [List.nil_append, known, hrest, hc]
      rfl
  | cons m ms ih => rw [List.cons_append, known, known, ih]

/-- The fields of an object in which no key occurs twice are its members that have their names. -/
theorem known_of_nodup (names : List String) (h : (Dict.keys ms).Nodup) :
    ∃ fs, known names ms = some fs ∧
      ∀ k, fs.get? k = if k ∈ names then Dict.get? ms k else none := by
  induction ms with
  | nil => exact ⟨[], rfl, fun k => by simp⟩
  | cons m ms ih =>
    obtain ⟨q, v⟩ := m
    obtain ⟨hq, hms⟩ := List.nodup_cons.mp h
    obtain ⟨fs, hfs, hget⟩ := ih hms
    by_cases hn : q ∈ names
    · refine ⟨fs.insert q v, ?_, fun k => ?_⟩
      · have hnone : fs.get? q = none := by
          rw [hget, if_pos hn]
          exact Dict.get?_eq_none_iff.mpr hq
        simp [known, hfs, hn, Dict.contains, hnone]
      · rw [Dict.get?_insert, Dict.get?_cons, hget]
        by_cases hk : q = k
        · subst hk
          simp [hn]
        · simp [hk]
    · refine ⟨fs, by simp [known, hfs, hn], fun k => ?_⟩
      rw [hget, Dict.get?_cons]
      by_cases hk : q = k
      · subst hk
        simp [hn]
      · simp [hk]

theorem get?_of_known (h : known names ms = some fs) (hn : name ∈ names) :
    fs.get? name = Dict.get? ms name := by
  induction ms generalizing fs with
  | nil =>
    cases h
    rfl
  | cons m ms ih =>
    obtain ⟨q, v⟩ := m
    obtain ⟨fs₀, hfs, h⟩ := Option.bind_eq_some_iff.mp h
    split_ifs at h with hq hc
    · cases h
      rw [Dict.get?_insert, Dict.get?_cons, ih hfs]
    · cases h
      have hne : q ≠ name := by
        rintro rfl
        exact hq (List.contains_iff_mem.mpr hn)
      rw [Dict.get?_cons, if_neg hne, ih hfs]

/-- The value written for a field of a record: the member with its name, or the item at its
place. -/
def written (names : List String) (name : String) : Value → Option Value
  | .object ms => Dict.get? ms name
  | .array vs => vs[names.idxOf name]?
  | _ => none

theorem get?_of_record (h : record names v = some fs) (hnames : names.Nodup) (hn : name ∈ names) :
    fs.get? name = written names name v := by
  cases v with
  | object ms => exact get?_of_known h hn
  | array vs =>
    rw [record] at h
    split_ifs at h
    cases h
    have hkeys : (Dict.keys (names.zip vs)).Nodup :=
      hnames.sublist (Dict.keys_zip_sublist names vs)
    rw [Dict.get?_ofList hkeys, written, Dict.get?_zip hnames (List.getElem?_idxOf hn)]
  | _ => cases h

/-- Reading a record that is written as an object without repetitions: what is made of its members
is made of any fields that are looked up the same. -/
theorem record_bind {β : Type} {k : Dict Value → Option β} {r : Option β}
    (h : (Dict.keys ms).Nodup)
    (hk : ∀ fs : Dict Value, (∀ name, fs.get? name =
      if name ∈ names then Dict.get? ms name else none) → k fs = r) :
    (record names (.object ms)).bind k = r := by
  obtain ⟨fs, hfs, hget⟩ := known_of_nodup names h
  rw [record, hfs, Option.bind_some]
  exact hk fs hget

end Decode
end Json
end Interchange
