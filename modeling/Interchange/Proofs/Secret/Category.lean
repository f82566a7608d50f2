import Interchange.Proofs.Secret.Moves

/-! # The secrets of a category

A category is read as one stretch of the map, from the first key with its start to the last.
Whatever was stored and deleted before, this gives the very secrets that are read one by one, and
none of another system or category, be their names the start of one another.
-/

namespace Interchange

namespace SecretKey

variable {systemId category : String} {k : SecretKey}

/-- A system and a category that some valid key has. -/
def Accepted (systemId category : String) : Prop := ∃ name, Valid ⟨systemId, category, name⟩

theorem Accepted.colon_not_mem (h : Accepted systemId category) :
    ':' ∉ systemId.toList ∧ ':' ∉ category.toList := by
  obtain ⟨name, hv⟩ := h
  exact hv.colon_not_mem

/-- The valid keys with the start of a system and a category are the keys of these. -/
theorem startsWith_start_iff (ha : Accepted systemId category) (hk : k.Valid) :
    Text.startsWith k.text (start systemId category) ↔
      k.systemId = systemId ∧ k.category = category := by
  constructor
  · intro h
    obtain ⟨rest, hr⟩ := List.isPrefixOf_iff_prefix.mp h
    have ht : k.text = text ⟨systemId, category, String.ofList rest⟩ := by
      rw [← String.toList_inj, ← hr]
      simp [text]
    rw [eq_of_text_eq hk.colon_not_mem ha.colon_not_mem ht]
    exact ⟨rfl, rfl⟩
  · rintro ⟨rfl, rfl⟩
    exact startsWith_text k

end SecretKey

namespace SecretStore

open SecretKey

variable {s : SecretStore} {systemId category : String} {start k name : String} {d : Dict String}
  {key : MasterKey}

theorem eq_append_dropStart (h : Text.startsWith k start) :
    k = start ++ Text.dropStart k start := by
  obtain ⟨rest, hr⟩ := List.isPrefixOf_iff_prefix.mp h
  rw [← String.toList_inj, String.toList_append, Text.dropStart, String.toList_ofList, ← hr]
  simp [← String.length_toList]

/-- The secrets of a category are all that are stored with its start, and each of them opens. -/
theorem opened_of_category (hs : Dict.Sorted s.secrets) (h : s.category systemId category = .ok d) :
    s.opened (SecretKey.start systemId category) =
      d.map fun p => (SecretKey.start systemId category ++ p.1, .ok p.2) := by
  have hl : ∀ p ∈ s.opened (SecretKey.start systemId category),
      Text.startsWith p.1 (SecretKey.start systemId category) := by
    intro p hp
    obtain ⟨q, hq, rfl⟩ := List.mem_map.mp hp
    exact (List.mem_filter.mp hq).2
  rw [category_eq hs] at h
  generalize s.opened (SecretKey.start systemId category) = l at *
  induction l generalizing d with
  | nil =>
    cases h
    rfl
  | cons p l ih =>
    obtain ⟨k, r⟩ := p
    rw [List.mapM_cons] at h
    obtain ⟨x, hx, h⟩ := Result.bind_eq_ok_iff.mp h
    obtain ⟨d', hd, h⟩ := Result.bind_eq_ok_iff.mp h
    obtain ⟨v, hv, hx⟩ := Result.bind_eq_ok_iff.mp hx
    obtain rfl : r = .ok v := hv
    obtain rfl := Except.ok.inj hx
    obtain rfl := Except.ok.inj h
    obtain ⟨hk, hl⟩ := List.forall_mem_cons.mp hl
    rw [List.map_cons, ← ih hd hl, ← eq_append_dropStart hk]

theorem lt_of_append_lt_append (start : List Char) {a b : List Char} (h : start ++ a < start ++ b) :
    a < b := by
  induction start with
  | nil => exact h
  | cons c start ih => exact ih (by simpa [List.cons_lt_cons_iff] using h)

theorem sorted_category (hs : Dict.Sorted s.secrets) (h : s.category systemId category = .ok d) :
    Dict.Sorted d := by
  have ho := sorted_opened hs (SecretKey.start systemId category)
  rw [opened_of_category hs h, Dict.Sorted, List.pairwise_map] at ho
  refine ho.imp fun hpq => ?_
  rw [String.lt_iff_toList_lt, String.toList_append, String.toList_append] at hpq
  exact String.lt_iff_toList_lt.mpr (lt_of_append_lt_append _ hpq)

theorem get?_map_append (start : String) (d : Dict String) (name : String) :
    Dict.get? (d.map fun p => (start ++ p.1, (.ok p.2 : Result String))) (start ++ name) =
      (Dict.get? d name).map .ok := by
  induction d with
  | nil => rfl
  | cons p d ih =>
    obtain ⟨k, v⟩ := p
    rw [List.map_cons, Dict.get?_cons, Dict.get?_cons, ih]
    by_cases hk : k = name
    · simp [hk]
    · have hne : start ++ k ≠ start ++ name := fun he =>
        hk (by simpa [← String.toList_inj] using he)
      simp [hk, hne]

/-- The secrets of a category by name: each is what the text under its key opens to. -/
theorem get?_of_category (hs : Dict.Sorted s.secrets) (h : s.category systemId category = .ok d)
    (name : String) :
    (Dict.get? s.secrets (SecretKey.start systemId category ++ name)).map s.encryptor.decrypt =
      (Dict.get? d name).map .ok := by
  have hstart : Text.startsWith (SecretKey.start systemId category ++ name)
      (SecretKey.start systemId category) :=
    List.isPrefixOf_iff_prefix.mpr ⟨name.toList, by simp⟩
  have ho := get?_opened s (SecretKey.start systemId category)
    (SecretKey.start systemId category ++ name)
  rw [if_pos hstart, opened_of_category hs h, get?_map_append] at ho
  exact ho.symm

/-! ## The category and single secrets -/

theorem Intact.exists_category (h : Intact key s) (systemId category : String) :
    ∃ d, s.category systemId category = .ok d := by
  cases hd : s.category systemId category with
  | ok d => exact ⟨d, rfl⟩
  | error e =>
    rw [SecretStore.category, stretch_eq_filter h.sorted] at hd
    obtain ⟨done, p, rest, hl, -, he⟩ := Result.mapM_eq_error_iff.mp hd
    have hp : p ∈ s.secrets := (List.mem_filter.mp (hl ▸ List.mem_append_right done
      List.mem_cons_self)).1
    obtain ⟨k, secret, -, -, ho⟩ := h.entry p hp
    simp only [ho, Result.ok_bind] at he
    cases he

theorem Intact.get?_category (h : Intact key s) (ha : Accepted systemId category)
    (hd : s.category systemId category = .ok d) (name v : String) :
    Dict.get? d name = some v ↔ s.get? systemId category name = .ok (some v) := by
  have hm := get?_of_category h.sorted hd name
  rw [get?_eq_ok_some_iff]
  constructor
  · intro hg
    rw [hg] at hm
    obtain ⟨text, ht, hv⟩ := Option.map_eq_some_iff.mp hm
    -- only a valid key has a text with this start, and only the one with this name
    obtain ⟨k, secret, hk, hkt, -⟩ := h.entry _ (Dict.mem_of_get? ht)
    obtain rfl : k = ⟨systemId, category, name⟩ :=
      eq_of_text_eq hk.colon_not_mem ha.colon_not_mem hkt
    exact ⟨_, text, keyOf_of_valid hk, ht, hv⟩
  · rintro ⟨k, text, hk, ht, hv⟩
    obtain ⟨rfl, -⟩ := keyOf_eq_ok hk
    rw [SecretKey.text] at ht
    rw [ht, Option.map_some, hv] at hm
    obtain ⟨w, hw, he⟩ := Option.map_eq_some_iff.mp hm.symm
    cases he
    exact hw

theorem category_erase (hs : Dict.Sorted s.secrets) {k : String}
    (hk : ¬ Text.startsWith k (SecretKey.start systemId category)) :
    SecretStore.category { s with secrets := s.secrets.erase k } systemId category =
      s.category systemId category := by
  have hf : (s.secrets.erase k).filter
      (fun p => Text.startsWith p.1 (SecretKey.start systemId category)) =
      s.secrets.filter fun p => Text.startsWith p.1 (SecretKey.start systemId category) := by
    rw [Dict.erase, List.filter_filter]
    refine List.filter_congr fun p _ => ?_
    by_cases hp : p.1 = k
    · simp [hp, hk]
    · simp [hp]
  rw [SecretStore.category, SecretStore.category, stretch_eq_filter (hs.erase k),
    stretch_eq_filter hs, hf]

/-- One call on a store, whatever files are at hand. -/
def Changes (s t : SecretStore) : Prop := ∃ fs left, Moves ⟨s, fs⟩ ⟨t, left⟩

theorem intact_of_changes {path : Option String}
    (h : Relation.ReflTransGen Changes { encryptor := .ofMasterKey key, path } s) :
    Intact key s := by
  induction h with
  | refl => exact intact_empty key path
  | tail _ hc ih =>
    obtain ⟨fs, left, hc⟩ := hc
    exact hc.intact ih

/-- Whatever was stored and deleted in a store that was empty once, a category holds each name once,
with the secret that is read under it, and nothing else. Without a secret of another system or
category it would be the same. -/
theorem category_agrees (key : MasterKey) (path : Option String)
    (hs : Relation.ReflTransGen Changes { encryptor := .ofMasterKey key, path } s)
    (ha : Accepted systemId category) :
    ∃ d, s.category systemId category = .ok d ∧ Dict.Sorted d ∧
      (∀ name v, Dict.get? d name = some v ↔ s.get? systemId category name = .ok (some v)) ∧
      ∀ k : SecretKey, k.Valid → ¬ (k.systemId = systemId ∧ k.category = category) →
        SecretStore.category { s with secrets := s.secrets.erase k.text } systemId category =
          .ok d := by
  have h := intact_of_changes hs
  obtain ⟨d, hd⟩ := h.exists_category systemId category
  refine ⟨d, hd, sorted_category h.sorted hd, h.get?_category ha hd, fun k hk hne => ?_⟩
  rw [category_erase h.sorted fun hst => hne ((startsWith_start_iff ha hk).mp hst), hd]

/-- In memory a secret can be stored under every valid key. -/
theorem exists_changes (hp : s.path = none) (hr : s.encryptor.cipher.Regular) {k : SecretKey}
    (hk : k.Valid) (secret : String) :
    ∃ t, Changes s t ∧ t.path = none ∧ t.encryptor = s.encryptor ∧
      ∀ k' : SecretKey, t.get? k'.systemId k'.category k'.name =
        if k = k' then .ok (some secret) else s.get? k'.systemId k'.category k'.name := by
  have hn : (List.replicate 12 (0 : UInt8)).length = Encryptor.nonceLength := rfl
  have hset : s.set {} (.replicate 12 0) k.systemId k.category k.name secret =
      (.ok (s.put k.text (s.encryptor.encrypt (.replicate 12 0) secret)), {}) := by
    simp only [SecretStore.set, keyOf_of_valid hk, SecretStore.commit, hp, SecretStore.put]
  exact ⟨_, ⟨_, _, .stored hn hset⟩, hp, rfl, get?_put hr hn hk secret⟩

/-- Two systems, the id of one the start of the other's, and names, one the start of the other. -/
theorem category_agrees_prefixes : Accepted "sf1" "auth" ∧
    ∃ s d, Relation.ReflTransGen Changes { encryptor := .ofMasterKey ⟨"key"⟩, path := none } s ∧
      s.get? "sf10" "auth" "a" = .ok (some "w") ∧ s.category "sf1" "auth" = .ok d ∧
      Dict.get? d "a:b" = some "v" ∧ Dict.get? d "a" = none := by
  have ha : Accepted "sf1" "auth" := ⟨"a", by decide⟩
  have hr := Encryptor.regular_ofMasterKey ⟨"key"⟩
  obtain ⟨t, ht, hp, he, hgt⟩ := exists_changes (s := ⟨.ofMasterKey ⟨"key"⟩, none, []⟩)
    (k := ⟨"sf1", "auth", "a:b"⟩) rfl hr (by decide) "v"
  obtain ⟨s, hs, -, -, hgs⟩ := exists_changes (s := t) (k := ⟨"sf10", "auth", "a"⟩) hp (he ▸ hr)
    (by decide) "w"
  have hruns := Relation.ReflTransGen.tail (.single ht) hs
  obtain ⟨d, hd, -, hg, -⟩ := category_agrees ⟨"key"⟩ none hruns ha
  refine ⟨ha, s, d, hruns, hgs ⟨"sf10", "auth", "a"⟩, hd, (hg _ _).mpr ?_, ?_⟩
  · exact (hgs ⟨"sf1", "auth", "a:b"⟩).trans (hgt ⟨"sf1", "auth", "a:b"⟩)
  · have hnone : s.get? "sf1" "auth" "a" = .ok none :=
      (hgs ⟨"sf1", "auth", "a"⟩).trans ((hgt ⟨"sf1", "auth", "a"⟩).trans rfl)
    cases hn : Dict.get? d "a" with
    | none => rfl
    | some v => cases hnone.symm.trans ((hg "a" v).mp hn)

end SecretStore
end Interchange
