import Interchange.Proofs.Json.Decoding

/-! # The order of members

What is read does not hang on the order in which the members of an object are written, as long as
none is written twice.
-/

namespace Interchange
namespace Json

variable {α β : Type}

namespace Value

/-- A value in which no object has two members of one key. -/
inductive Distinct : Value → Prop where
  | null : Distinct .null
  | bool (b : Bool) : Distinct (.bool b)
  | number (n : Number) : Distinct (.number n)
  | string (s : String) : Distinct (.string s)
  | array {vs : List Value} (h : ∀ v ∈ vs, v.Distinct) : Distinct (.array vs)
  | object {ms : List (String × Value)} (hk : (Dict.keys ms).Nodup)
      (h : ∀ m ∈ ms, m.2.Distinct) : Distinct (.object ms)

theorem Distinct.items {vs : List Value} (h : Distinct (.array vs)) : ∀ v ∈ vs, v.Distinct := by
  cases h
  assumption

theorem Distinct.keys {ms : List (String × Value)} (h : Distinct (.object ms)) :
    (Dict.keys ms).Nodup := by
  cases h
  assumption

theorem Distinct.members {ms : List (String × Value)} (h : Distinct (.object ms)) :
    ∀ m ∈ ms, m.2.Distinct := by
  cases h
  assumption

attribute [simp] Distinct.null Distinct.bool Distinct.number Distinct.string

@[simp]
theorem distinct_array_iff {vs : List Value} : (array vs).Distinct ↔ ∀ v ∈ vs, v.Distinct :=
  ⟨Distinct.items, .array⟩

@[simp]
theorem distinct_object_iff {ms : List (String × Value)} :
    (object ms).Distinct ↔ (Dict.keys ms).Nodup ∧ ∀ m ∈ ms, m.2.Distinct :=
  ⟨fun h => ⟨h.keys, h.members⟩, fun h => .object h.1 h.2⟩

theorem Distinct.filter {ms : List (String × Value)} (h : Distinct (.object ms))
    (P : String × Value → Bool) : Distinct (.object (ms.filter P)) :=
  .object (h.keys.sublist (List.filter_sublist.map Prod.fst)) fun m hm =>
    h.members m (List.mem_of_mem_filter hm)

mutual

theorem distinct_normalize : ∀ v : Value, v.normalize.Distinct
  | .null => .null
  | .bool b => .bool b
  | .number n => .number n
  | .string s => .string s
  | .array vs => .array (distinct_normalizeItems vs)
  | .object ms => .object (Dict.sorted_ofList _).nodup fun m hm =>
      distinct_normalizeMembers ms m (Dict.mem_of_mem_ofList hm)

theorem distinct_normalizeItems : ∀ (vs : List Value), ∀ v ∈ normalizeItems vs, v.Distinct
  | [] => nofun
  | v :: vs => List.forall_mem_cons.mpr ⟨distinct_normalize v, distinct_normalizeItems vs⟩

theorem distinct_normalizeMembers :
    ∀ (ms : List (String × Value)), ∀ m ∈ normalizeMembers ms, m.2.Distinct
  | [] => nofun
  | (_, v) :: ms => List.forall_mem_cons.mpr ⟨distinct_normalize v, distinct_normalizeMembers ms⟩

end

theorem Normal.distinct {v : Value} (h : v.Normal) : v.Distinct := by
  have hd := v.distinct_normalize
  rwa [h] at hd

theorem normalize_array (vs : List Value) : (array vs).normalize = .array (vs.map normalize) := by
  rw [normalize, normalizeItems_eq]

theorem normalize_object (ms : List (String × Value)) :
    (object ms).normalize = .object (Dict.mapValues normalize (Dict.ofList ms)) := by
  rw [normalize, normalizeMembers_eq, Dict.ofList_mapValues]

end Value

namespace Decode

open Value

variable {g : Value → Option α} {v w : Value} {fs fs' : Dict Value} {names : List String}
  {ms ms' : List (String × Value)}

/-- A reader that makes of a value without repetitions what it makes of the value in order. -/
def Unordered (g : Value → Option α) : Prop := ∀ v, v.Distinct → g v.normalize = g v

/-- What such a reader makes of values that differ in the order of members only is the same. -/
theorem Unordered.eq (h : Unordered g) (hv : v.Distinct) (hw : w.Distinct)
    (hvw : v.normalize = w.normalize) : g v = g w := by
  rw [← h v hv, ← h w hw, hvw]

/-! ## Texts, numbers and free-form values -/

theorem unordered_text : Unordered text := by
  rintro (_ | _ | _ | _ | _ | _) - <;> rfl

theorem unordered_bool : Unordered bool := by
  rintro (_ | _ | _ | _ | _ | _) - <;> rfl

theorem unordered_natBelow (bound : Nat) : Unordered (natBelow bound) := by
  rintro (_ | _ | _ | _ | _ | _) - <;> rfl

theorem unordered_any : Unordered any := by
  intro v _
  exact congrArg some v.normal_normalize

theorem unordered_optional (h : Unordered g) : Unordered (optional g) := by
  intro v hv
  have hg := h v hv
  cases v <;> first | rfl | exact congrArg (Option.map some) hg

/-! ## Lists, maps and choices -/

theorem mapM_congr {as : List β} {f g : β → Option α} (h : ∀ a ∈ as, f a = g a) :
    as.mapM f = as.mapM g := by
  induction as with
  | nil => rfl
  | cons a as ih =>
    obtain ⟨ha, has⟩ := List.forall_mem_cons.mp h
    rw [List.mapM_cons, List.mapM_cons, ha, ih has]

theorem mapM_map_congr {γ : Type} {as : List β} {h : β → γ} {f : γ → Option α} {g : β → Option α}
    (hfg : ∀ a ∈ as, f (h a) = g a) : (as.map h).mapM f = as.mapM g := by
  rw [List.mapM_map]
  exact mapM_congr hfg

theorem unordered_list (h : Unordered g) : Unordered (list g) := by
  intro v hv
  cases v with
  | array vs =>
    rw [normalize_array]
    exact mapM_map_congr fun v hm => h v (hv.items v hm)
  | _ => rfl

/-- Reading items in another order gives their results in another order. -/
theorem exists_mapM_of_perm {bs bs' : List β} {f : β → Option α} {as : List α} (hp : bs.Perm bs')
    (h : bs.mapM f = some as) : ∃ as', bs'.mapM f = some as' ∧ as.Perm as' := by
  induction hp generalizing as with
  | nil => exact ⟨as, h, .refl as⟩
  | cons b _ ih =>
    simp only [List.mapM_cons, Option.bind_eq_bind, Option.bind_eq_some_iff] at h
    obtain ⟨a, ha, as, has, h⟩ := h
    cases h
    obtain ⟨as', has', hp⟩ := ih has
    exact ⟨a :: as', by simp [ha, has'], hp.cons a⟩
  | swap b b' bs =>
    simp only [List.mapM_cons, Option.bind_eq_bind, Option.bind_eq_some_iff] at h
    obtain ⟨a', ha', _, ⟨a, ha, as, has, h⟩, h'⟩ := h
    cases h
    cases h'
    exact ⟨a :: a' :: as, by simp [ha, ha', has], .swap a a' as⟩
  | trans _ _ ih ih' =>
    obtain ⟨as', has', hp⟩ := ih h
    obtain ⟨as'', has'', hp'⟩ := ih' has'
    exact ⟨as'', has'', hp.trans hp'⟩

theorem keys_of_mapM {as : List (String × α)}
    (h : ms.mapM (fun m => (g m.2).map fun a => (m.1, a)) = some as) :
    Dict.keys as = Dict.keys ms := by
  induction ms generalizing as with
  | nil =>
    cases h
    rfl
  | cons m ms ih =>
    simp only [List.mapM_cons, Option.bind_eq_bind, Option.bind_eq_some_iff] at h
    obtain ⟨_, ha, as, has, h⟩ := h
    cases h
    obtain ⟨a, -, rfl⟩ := Option.map_eq_some_iff.mp ha
    exact congrArg (m.1 :: ·) (ih has)

theorem dict_some_of_perm {d : Dict α} (hp : ms.Perm ms') (hk : (Dict.keys ms).Nodup)
    (h : dict g (.object ms) = some d) : dict g (.object ms') = some d := by
  obtain ⟨as, has, rfl⟩ := Option.map_eq_some_iff.mp h
  obtain ⟨as', has', hp'⟩ := exists_mapM_of_perm hp has
  have hk' : (Dict.keys as).Nodup := (keys_of_mapM has).symm ▸ hk
  rw [dict, has', Option.map_some, Dict.ofList_eq_of_perm hp'.symm hk']

theorem dict_of_perm (hp : ms.Perm ms') (hk : (Dict.keys ms).Nodup) :
    dict g (.object ms) = dict g (.object ms') := by
  have hk' : (Dict.keys ms').Nodup := (hp.map Prod.fst).nodup_iff.mp hk
  refine Option.ext fun d => ⟨dict_some_of_perm hp hk, dict_some_of_perm hp.symm hk'⟩

theorem perm_mapValues_ofList (hk : (Dict.keys ms).Nodup) (f : Value → β) :
    (Dict.mapValues f (Dict.ofList ms)).Perm (Dict.mapValues f ms) :=
  (Dict.perm_ofList hk).map _

theorem unordered_dict (h : Unordered g) : Unordered (dict g) := by
  intro v hv
  cases v with
  | object ms =>
    have hk : (Dict.keys (Dict.mapValues normalize (Dict.ofList ms))).Nodup :=
      ((Dict.sorted_ofList ms).mapValues _).nodup
    rw [normalize_object, dict_of_perm (perm_mapValues_ofList hv.keys normalize) hk]
    refine congrArg (Option.map Dict.ofList) (mapM_map_congr fun m hm => ?_)
    rw [h m.2 (hv.members m hm)]
  | _ => rfl

theorem choice_of_two (names : List (String × α)) (m m' : String × Value)
    (ms : List (String × Value)) : choice names (.object (m :: m' :: ms)) = none := by
  obtain ⟨s, v⟩ := m
  cases v <;> rfl

theorem unordered_choice (names : List (String × α)) : Unordered (choice names) := by
  intro v hv
  cases v with
  | object ms =>
    rw [normalize_object]
    match ms with
    | [] => rfl
    | [(s, v)] => cases v <;> rfl
    | m :: m' :: ms =>
      have hl := (perm_mapValues_ofList hv.keys normalize).length_eq
      rw [choice_of_two]
      match Dict.mapValues normalize (Dict.ofList (m :: m' :: ms)), hl with
      | m₁ :: m₂ :: ms', _ => exact choice_of_two names m₁ m₂ ms'
  | _ => rfl

/-! ## Records -/

/-- The fields of a value without repetitions, and those of the value in order. -/
structure Reordered (fs fs' : Dict Value) : Prop where
  get? : ∀ name, fs'.get? name = (fs.get? name).map normalize
  distinct : ∀ name w, fs.get? name = some w → w.Distinct

theorem Reordered.field (h : Reordered fs fs') (hg : Unordered g) (name : String) :
    field fs' name g = field fs name g := by
  rw [Decode.field, Decode.field, h.get?]
  cases hw : fs.get? name with
  | none => rfl
  | some w => exact hg w (h.distinct name w hw)

theorem Reordered.fieldOr (h : Reordered fs fs') (hg : Unordered g) (name : String) (default : α) :
    fieldOr fs' name g default = fieldOr fs name g default := by
  rw [Decode.fieldOr, Decode.fieldOr, h.get?]
  cases hw : fs.get? name with
  | none => rfl
  | some w => exact hg w (h.distinct name w hw)

theorem known_normalize (names : List String) (hv : (object ms).Distinct) :
    ∃ fs fs', known names ms = some fs ∧
      known names (Dict.mapValues normalize (Dict.ofList ms)) = some fs' ∧ Reordered fs fs' := by
  have hk : (Dict.keys (Dict.mapValues normalize (Dict.ofList ms))).Nodup :=
    ((Dict.sorted_ofList ms).mapValues _).nodup
  obtain ⟨fs, hfs, hget⟩ := known_of_nodup names hv.keys
  obtain ⟨fs', hfs', hget'⟩ := known_of_nodup names hk
  refine ⟨fs, fs', hfs, hfs', fun name => ?_, fun name w hw => ?_⟩
  · rw [hget, hget', Dict.get?_mapValues, Dict.get?_ofList hv.keys]
    split <;> rfl
  · rw [hget] at hw
    split at hw
    · exact hv.members _ (Dict.mem_of_get? hw)
    · cases hw

/-- What is made of the fields of a record, if it does not hang on the order within them, does not
hang on their order either. -/
theorem record_bind_normalize {k : Dict Value → Option β} (hv : v.Distinct)
    (hk : ∀ fs fs', Reordered fs fs' → k fs' = k fs) :
    (record names v.normalize).bind k = (record names v).bind k := by
  cases v with
  | object ms =>
    obtain ⟨fs, fs', hfs, hfs', hr⟩ := known_normalize names hv
    rw [normalize_object, record, record, hfs, hfs']
    exact hk fs fs' hr
  | array vs =>
    have hzip : Dict.ofList (names.zip (vs.map normalize)) =
        Dict.mapValues normalize (Dict.ofList (names.zip vs)) := by
      rw [← Dict.ofList_mapValues, List.zip_map_right]
      rfl
    rw [normalize_array, record, record, List.length_map]
    split
    · refine hk _ _ ⟨fun name => ?_, fun name w hw => ?_⟩
      · rw [hzip, Dict.get?_mapValues]
      · exact hv.items w (List.of_mem_zip (Dict.mem_of_get?_ofList hw)).2
    · rfl
  | _ => rfl

theorem normalize_filter (hk : (Dict.keys ms).Nodup) (P : String → Bool) :
    (object (ms.filter fun m => P m.1)).normalize =
      .object ((Dict.mapValues normalize (Dict.ofList ms)).filter fun m => P m.1) := by
  have hf : (Dict.keys (ms.filter fun m => P m.1)).Nodup :=
    hk.sublist (List.filter_sublist.map Prod.fst)
  rw [normalize_object]
  congr 1
  refine ((Dict.sorted_ofList _).mapValues _).ext
    (((Dict.sorted_ofList ms).mapValues _).filter _) fun k => ?_
  rw [Dict.get?_filter P, Dict.get?_mapValues, Dict.get?_mapValues, Dict.get?_ofList hf,
    Dict.get?_ofList hk, Dict.get?_filter P]
  split <;> rfl

end Decode
end Json
end Interchange
