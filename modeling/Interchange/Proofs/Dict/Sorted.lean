import Interchange.Dict
import Mathlib.Data.List.Nodup
import Mathlib.Data.String.Basic

/-! # Maps in key order

Every operation keeps the keys of a map in ascending order, and a map in that order is determined by
what it has under each key.
-/

namespace Interchange
namespace Dict

variable {α β : Type} {d d' e : Dict α} {k : String} {v : α}

/-! ## Looking up -/

theorem get?_eq_none_iff : get? d k = none ↔ k ∉ keys d := by
  induction d with
  | nil => simp [keys]
  | cons p d ih =>
    obtain ⟨q, w⟩ := p
    rw [get?_cons]
    by_cases hq : q = k
    · simp [keys, hq]
    · simpa [keys, hq, Ne.symm hq] using ih

theorem mem_of_get? (h : get? d k = some v) : (k, v) ∈ d := by
  induction d with
  | nil => cases h
  | cons p d ih =>
    obtain ⟨q, w⟩ := p
    rw [get?_cons] at h
    split at h
    · next hq =>
      cases h
      rw [hq]
      exact List.mem_cons_self
    · exact List.mem_cons_of_mem _ (ih h)

theorem get?_eq_some_iff_of_nodup (hd : (keys d).Nodup) : get? d k = some v ↔ (k, v) ∈ d := by
  refine ⟨mem_of_get?, fun h => ?_⟩
  induction d with
  | nil => cases h
  | cons p d ih =>
    obtain ⟨q, w⟩ := p
    obtain ⟨hq, hd⟩ := List.nodup_cons.mp hd
    rcases List.mem_cons.mp h with h | h
    · cases h
      exact if_pos rfl
    · have hne : q ≠ k := by
        rintro rfl
        exact hq (List.mem_map.mpr ⟨_, h, rfl⟩)
      rw [get?_cons, if_neg hne]
      exact ih hd h

theorem perm_of_get?_eq (hd : (keys d).Nodup) (hd' : (keys d').Nodup)
    (h : ∀ k, get? d k = get? d' k) : d.Perm d' := by
  refine (List.perm_ext_iff_of_nodup ?_ ?_).mpr fun p => ?_
  · exact List.Nodup.of_map Prod.fst hd
  · exact List.Nodup.of_map Prod.fst hd'
  · rw [← get?_eq_some_iff_of_nodup hd, ← get?_eq_some_iff_of_nodup hd', h]

theorem get?_mapValues (f : α → β) (d : Dict α) (k : String) :
    get? (mapValues f d) k = (get? d k).map f := by
  induction d with
  | nil => rfl
  | cons p d ih =>
    obtain ⟨q, w⟩ := p
    simp only [mapValues, List.map_cons, get?_cons] at ih ⊢
    split
    · rfl
    · exact ih

theorem get?_erase_self (d : Dict α) (k : String) : get? (erase d k) k = none := by
  simp [get?_erase]

theorem erase_of_get?_none (h : get? d k = none) : erase d k = d := by
  refine List.filter_eq_self.mpr fun p hp => decide_eq_true ?_
  rintro rfl
  exact get?_eq_none_iff.mp h (List.mem_map_of_mem hp)

theorem get?_filter (P : String → Bool) (d : Dict α) (k : String) :
    get? (d.filter fun p => P p.1) k = if P k then get? d k else none := by
  induction d with
  | nil => simp
  | cons p d ih =>
    obtain ⟨q, w⟩ := p
    rw [List.filter_cons, get?_cons]
    by_cases hk : q = k
    · subst hk
      by_cases hp : P q
      · simp [hp, get?_cons]
      · simpa [hp] using ih
    · by_cases hp : P q
      · simpa [hp, get?_cons, hk] using ih
      · simpa [hp, hk] using ih

theorem mem_of_get?_insertAll {ps : List (String × α)} (h : get? (insertAll d ps) k = some v) :
    (k, v) ∈ ps ∨ get? d k = some v := by
  induction ps generalizing d with
  | nil => exact .inr h
  | cons p ps ih =>
    rcases ih h with h | h
    · exact .inl (List.mem_cons_of_mem _ h)
    · rw [get?_insert] at h
      split at h
      · next hk =>
        cases h
        exact .inl (hk ▸ List.mem_cons_self)
      · exact .inr h

theorem mem_of_get?_ofList {ps : List (String × α)} (h : get? (ofList ps) k = some v) :
    (k, v) ∈ ps :=
  (mem_of_get?_insertAll (d := []) h).resolve_right nofun

theorem mem_keys_insert {k' : String} : k' ∈ keys (insert d k v) ↔ k' = k ∨ k' ∈ keys d := by
  rw [← not_iff_not, not_or, ← get?_eq_none_iff, ← get?_eq_none_iff, get?_insert]
  split
  · next hk => simp [hk]
  · next hk => simp [Ne.symm hk]

theorem mem_keys_insertAll {ps : List (String × α)} :
    k ∈ keys (insertAll d ps) ↔ k ∈ keys ps ∨ k ∈ keys d := by
  induction ps generalizing d with
  | nil => simp [insertAll, keys]
  | cons p ps ih =>
    have hp : k ∈ keys (p :: ps) ↔ k = p.1 ∨ k ∈ keys ps := List.mem_cons
    rw [insertAll, List.foldl_cons, ← insertAll, ih, mem_keys_insert, hp, or_left_comm, or_assoc]

theorem mem_keys_ofList {ps : List (String × α)} : k ∈ keys (ofList ps) ↔ k ∈ keys ps :=
  mem_keys_insertAll.trans (or_iff_left List.not_mem_nil)

theorem insert_insert (d : Dict α) (k : String) (v w : α) :
    insert (insert d k v) k w = insert d k w := by
  induction d with
  | nil => simp [insert]
  | cons p d ih =>
    obtain ⟨q, u⟩ := p
    by_cases hq : q = k
    · simp [insert, hq]
    · by_cases hlt : k < q <;> simp [insert, hq, hlt, ih]

theorem insert_of_forall_lt (h : ∀ p ∈ d, p.1 < k) (v : α) : insert d k v = d ++ [(k, v)] := by
  induction d with
  | nil => rfl
  | cons p d ih =>
    obtain ⟨hp, hd⟩ := List.forall_mem_cons.mp h
    rw [insert, if_neg (ne_of_lt hp), if_neg (lt_asymm hp), ih hd, List.cons_append]

/-! ## Order -/

instance (d : Dict α) : Decidable (Sorted d) :=
  inferInstanceAs (Decidable (d.Pairwise fun p q => p.1 < q.1))

namespace Sorted

theorem nodup (h : Sorted d) : (keys d).Nodup :=
  List.pairwise_map.mpr (h.imp fun hlt => ne_of_lt hlt)

theorem get?_eq_some_iff (h : Sorted d) : get? d k = some v ↔ (k, v) ∈ d :=
  get?_eq_some_iff_of_nodup h.nodup

theorem eq_of_perm (h : Sorted d) (h' : Sorted d') (hp : d.Perm d') : d = d' :=
  hp.eq_of_pairwise (fun _ _ _ _ hpq hqp => absurd hqp (lt_asymm hpq)) h h'

/-- A map in key order is determined by what it has under each key. -/
theorem ext (h : Sorted d) (h' : Sorted d') (hk : ∀ k, get? d k = get? d' k) : d = d' :=
  h.eq_of_perm h' (perm_of_get?_eq h.nodup h'.nodup hk)

theorem keys_eq {e : Dict β} (h : Sorted d) (h' : Sorted e) (hk : ∀ k, k ∈ keys d ↔ k ∈ keys e) :
    keys d = keys e := by
  have hd : (keys d).Pairwise (· < ·) := List.pairwise_map.mpr h
  have he : (keys e).Pairwise (· < ·) := List.pairwise_map.mpr h'
  exact ((List.perm_ext_iff_of_nodup h.nodup h'.nodup).mpr hk).eq_of_pairwise
    (fun _ _ _ _ hpq hqp => absurd hqp (lt_asymm hpq)) hd he

theorem insert (h : Sorted d) (k : String) (v : α) : Sorted (Dict.insert d k v) := by
  induction d with
  | nil => exact List.pairwise_singleton _ _
  | cons p d ih =>
    obtain ⟨q, w⟩ := p
    obtain ⟨hq, hd⟩ := List.pairwise_cons.mp h
    simp only [Dict.insert]
    split
    · next he => exact List.pairwise_cons.mpr ⟨he ▸ hq, hd⟩
    · next hne =>
      split
      · next hlt =>
        refine List.pairwise_cons.mpr ⟨fun p hp => ?_, h⟩
        rcases List.mem_cons.mp hp with rfl | hp
        · exact hlt
        · exact lt_trans hlt (hq p hp)
      · next hge =>
        refine List.pairwise_cons.mpr ⟨fun p hp => ?_, ih hd⟩
        rcases mem_insert hp with rfl | hp
        · exact lt_of_le_of_ne (not_lt.mp hge) hne
        · exact hq p hp

theorem filter (h : Sorted d) (P : String × α → Bool) : Sorted (d.filter P) :=
  List.Pairwise.filter _ h

theorem erase (h : Sorted d) (k : String) : Sorted (Dict.erase d k) := h.filter _

theorem insert_erase (h : Sorted d) (k : String) (v : α) :
    Dict.insert (Dict.erase d k) k v = Dict.insert d k v := by
  refine ((h.erase k).insert k v).ext (h.insert k v) fun q => ?_
  rw [get?_insert, get?_insert, get?_erase]
  split <;> rfl

theorem perm_insert (h : Sorted d) (k : String) (v : α) :
    (Dict.insert d k v).Perm ((k, v) :: Dict.erase d k) := by
  have hi := h.insert k v
  have hk : (k, v) ∉ Dict.erase d k := by simp [Dict.erase]
  refine (List.perm_ext_iff_of_nodup ?_ ?_).mpr fun p => ?_
  · exact List.Nodup.of_map Prod.fst hi.nodup
  · exact List.nodup_cons.mpr ⟨hk, List.Nodup.of_map Prod.fst (h.erase k).nodup⟩
  · obtain ⟨q, w⟩ := p
    rw [← hi.get?_eq_some_iff, List.mem_cons, ← (h.erase k).get?_eq_some_iff, get?_insert,
      get?_erase]
    by_cases hq : k = q <;> simp [hq, eq_comm]

/-- Storing what is there already changes nothing. -/
theorem insert_eq_self (h : Sorted d) (hk : get? d k = some v) : Dict.insert d k v = d := by
  refine (h.insert k v).ext h fun q => ?_
  rw [get?_insert]
  split
  · next he => rw [← he, hk]
  · rfl

theorem perm_of_get? (h : Sorted d) (hk : get? d k = some v) :
    d.Perm ((k, v) :: Dict.erase d k) := by
  have hp := h.perm_insert k v
  rwa [h.insert_eq_self hk] at hp

theorem foldl_insert {ps : List (String × α)} (h : Sorted (d ++ ps)) :
    ps.foldl (fun d p => Dict.insert d p.1 p.2) d = d ++ ps := by
  induction ps generalizing d with
  | nil => exact (List.append_nil d).symm
  | cons p ps ih =>
    obtain ⟨k, v⟩ := p
    have hlt : ∀ q ∈ d, q.1 < k := fun q hq =>
      (List.pairwise_append.mp h).2.2 q hq (k, v) List.mem_cons_self
    rw [List.foldl_cons, insert_of_forall_lt hlt v, ih (by simpa using h), List.append_assoc,
      List.singleton_append]

/-- A map in key order is made of its own pairs. -/
theorem ofList_eq (h : Sorted d) : ofList d = d := by
  have hd : Sorted ([] ++ d) := h
  exact hd.foldl_insert

theorem mapValues (h : Sorted d) (f : α → β) : Sorted (Dict.mapValues f d) :=
  List.pairwise_map.mpr h

end Sorted

/-! ## Maps made of others -/

theorem Sorted.insertAll (h : Sorted d) (e : Dict α) : Sorted (Dict.insertAll d e) := by
  induction e generalizing d with
  | nil => exact h
  | cons p e ih => exact ih (h.insert p.1 p.2)

/-- What is stored later goes before what was there. -/
theorem get?_insertAll (he : (keys e).Nodup) (d : Dict α) (k : String) :
    get? (insertAll d e) k = (get? e k).or (get? d k) := by
  induction e generalizing d with
  | nil => rfl
  | cons p e ih =>
    obtain ⟨q, v⟩ := p
    obtain ⟨hq, he⟩ := List.nodup_cons.mp he
    rw [insertAll, List.foldl_cons, ← insertAll, ih he, get?_cons, get?_insert]
    by_cases hk : q = k
    · have hn : get? e k = none := get?_eq_none_iff.mpr (hk ▸ hq)
      simp [hk, hn]
    · simp [hk]

theorem Sorted.filterMap (h : Sorted d) (f : String → α → Option β) :
    Sorted (d.filterMap fun p => (f p.1 p.2).map fun v => (p.1, v)) := by
  refine List.pairwise_filterMap.mpr (h.imp fun hpq => ?_)
  intro p' hp q' hq
  obtain ⟨v, -, rfl⟩ := Option.map_eq_some_iff.mp hp
  obtain ⟨w, -, rfl⟩ := Option.map_eq_some_iff.mp hq
  exact hpq

theorem get?_filterMap (h : Sorted d) (f : String → α → Option β) (k : String) :
    get? (d.filterMap fun p => (f p.1 p.2).map fun v => (p.1, v)) k = (get? d k).bind (f k) := by
  induction d with
  | nil => rfl
  | cons p d ih =>
    obtain ⟨q, v⟩ := p
    obtain ⟨hq, hd⟩ := List.pairwise_cons.mp h
    rw [List.filterMap_cons, get?_cons]
    by_cases hk : q = k
    · subst hk
      have hn : get? d q = none := get?_eq_none_of_lt hq
      cases hf : f q v with
      | none => simp [ih hd, hn, hf]
      | some w => simp [get?_cons, hf]
    · cases hf : f q v with
      | none => simp [ih hd, hk]
      | some w => simp [get?_cons, ih hd, hk]

theorem sorted_ofList (ps : List (String × α)) : Sorted (ofList ps) := sorted_nil.insertAll ps

theorem keys_ofList {ps : List (String × α)} {qs : List (String × β)} (h : keys ps = keys qs) :
    keys (ofList ps) = keys (ofList qs) :=
  (sorted_ofList ps).keys_eq (sorted_ofList qs) fun k => by
    rw [mem_keys_ofList, mem_keys_ofList, h]

theorem mem_of_mem_ofList {ps : List (String × α)} {p : String × α} (h : p ∈ ofList ps) : p ∈ ps :=
  mem_of_get?_ofList ((sorted_ofList ps).get?_eq_some_iff.mpr h)

theorem get?_ofList {ps : List (String × α)} (h : (keys ps).Nodup) (k : String) :
    get? (ofList ps) k = get? ps k :=
  (get?_insertAll h [] k).trans (Option.or_none)

/-- Putting pairs in order moves them only, if no key occurs twice. -/
theorem perm_ofList {ps : List (String × α)} (h : (keys ps).Nodup) : (ofList ps).Perm ps :=
  perm_of_get?_eq (sorted_ofList ps).nodup h (get?_ofList h)

theorem ofList_eq_of_perm {ps qs : List (String × α)} (hp : ps.Perm qs) (h : (keys qs).Nodup) :
    ofList ps = ofList qs := by
  have hps : (keys ps).Nodup := (hp.map Prod.fst).nodup_iff.mpr h
  exact (sorted_ofList ps).eq_of_perm (sorted_ofList qs)
    ((perm_ofList hps).trans (hp.trans (perm_ofList h).symm))

theorem insert_mapValues (f : α → β) (d : Dict α) (k : String) (v : α) :
    insert (mapValues f d) k (f v) = mapValues f (insert d k v) := by
  induction d with
  | nil => rfl
  | cons p d ih =>
    obtain ⟨q, w⟩ := p
    rw [insert, mapValues, List.map_cons, insert, ← mapValues, ih]
    split_ifs <;> rfl

theorem insertAll_mapValues (f : α → β) (d : Dict α) (ps : List (String × α)) :
    insertAll (mapValues f d) (mapValues f ps) = mapValues f (insertAll d ps) := by
  induction ps generalizing d with
  | nil => rfl
  | cons p ps ih => exact (congrArg (insertAll · _) (insert_mapValues f d p.1 p.2)).trans (ih _)

theorem ofList_mapValues (f : α → β) (ps : List (String × α)) :
    ofList (mapValues f ps) = mapValues f (ofList ps) := insertAll_mapValues f [] ps

theorem get?_insertAll_filter {ps : List (String × α)} {P : String → Bool} (hk : P k = true)
    (h : get? d k = get? e k) :
    get? (insertAll d (ps.filter fun p => P p.1)) k = get? (insertAll e ps) k := by
  induction ps generalizing d e with
  | nil => exact h
  | cons p ps ih =>
    rw [List.filter_cons]
    split
    · exact ih (by rw [get?_insert, get?_insert, h])
    · next hp =>
      have hne : p.1 ≠ k := by
        rintro rfl
        exact hp hk
      exact ih (by rw [get?_insert_of_ne _ _ hne, h])

theorem get?_ofList_filter {ps : List (String × α)} {P : String → Bool} (hk : P k = true) :
    get? (ofList (ps.filter fun p => P p.1)) k = get? (ofList ps) k :=
  get?_insertAll_filter hk rfl

theorem keys_zip_sublist (names : List String) (vs : List α) :
    (keys (names.zip vs)).Sublist names := by
  induction names generalizing vs with
  | nil => exact .slnil
  | cons name names ih =>
    cases vs with
    | nil => exact List.nil_sublist _
    | cons v vs => exact (ih vs).cons_cons name

theorem get?_zip {names : List String} (hn : names.Nodup) {i : Nat} (hi : names[i]? = some k)
    (vs : List α) : get? (names.zip vs) k = vs[i]? := by
  induction names generalizing i vs with
  | nil => cases hi
  | cons name names ih =>
    obtain ⟨hname, hn⟩ := List.nodup_cons.mp hn
    cases vs with
    | nil => rfl
    | cons v vs =>
      rw [List.zip_cons_cons, get?_cons]
      cases i with
      | zero =>
        cases hi
        exact if_pos rfl
      | succ i =>
        have hk : k ∈ names := List.mem_of_getElem? hi
        rw [if_neg fun he : name = _ => hname (he ▸ hk), ih hn hi]
        rfl

end Dict
end Interchange
