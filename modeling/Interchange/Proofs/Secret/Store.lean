import Interchange.Secret.Store
import Interchange.Proofs.Dict.Sorted
import Interchange.Proofs.Secret.Encryptor
import Interchange.Proofs.Result
import Mathlib.Tactic.SplitIfs

/-! # Secrets of different systems

All secrets lie in one map, under keys that start with a system. Whatever is read for a system
depends on the secrets of that system alone, also where the id of one system is the start of
another's.
-/

namespace Interchange

/-! ## Keys -/

namespace SecretKey

variable {systemId category name : String} {k : String}

/-- The system to which a key belongs: what stands before the first colon. -/
def owner (k : String) : String := String.ofList (k.toList.takeWhile (· ≠ ':'))

theorem owner_of_startsWith (hc : ':' ∉ systemId.toList)
    (h : Text.startsWith k (start systemId category)) : owner k = systemId := by
  obtain ⟨rest, hr⟩ := List.isPrefixOf_iff_prefix.mp h
  have hk : k.toList = systemId.toList ++ ':' :: (category.toList ++ ':' :: rest) := by
    rw [← hr]
    simp [start]
  have hne : ∀ c ∈ systemId.toList, decide (c ≠ ':') = true := fun c hcs =>
    decide_eq_true fun he => hc (he ▸ hcs)
  rw [owner, hk, List.takeWhile_append_of_pos hne]
  simp

theorem startsWith_text (key : SecretKey) :
    Text.startsWith key.text (start key.systemId key.category) :=
  List.isPrefixOf_iff_prefix.mpr ⟨key.name.toList, by simp [text]⟩

end SecretKey

namespace SecretStore

open SecretKey

variable {s s' s'' : SecretStore} {systemId category name secret : String} {d : Dict String}

theorem keyOf_eq_ok {k : SecretKey} (h : keyOf systemId category name = .ok k) :
    k = ⟨systemId, category, name⟩ ∧ ':' ∉ systemId.toList := by
  unfold keyOf at h
  split at h
  · next k' hk =>
    cases h
    unfold SecretKey.make at hk
    split_ifs at hk with h1 h2 h3 h4
    cases hk
    refine ⟨rfl, fun hm => h4 (.inl ?_)⟩
    simpa using hm
  · cases h

/-- A key that is accepted belongs to the system that it is made for. -/
theorem owner_keyOf {k : SecretKey} (h : keyOf systemId category name = .ok k) :
    owner k.text = systemId := by
  obtain ⟨rfl, hc⟩ := keyOf_eq_ok h
  exact owner_of_startsWith hc (startsWith_text _)

/-! ## Stretches -/

theorem not_lt_of_prefix {p l : List Char} (h : p <+: l) : ¬ l < p := by
  induction p generalizing l with
  | nil => exact List.not_lt_nil l
  | cons a p ih =>
    obtain ⟨rest, rfl⟩ := h
    simpa [List.cons_lt_cons_iff] using ih ⟨rest, rfl⟩

/-- The texts with a start lie next to one another. -/
theorem prefix_of_lt {p l m : List Char} (hp : ¬ l < p) (hlm : l < m) (hm : p <+: m) : p <+: l := by
  induction p generalizing l m with
  | nil => exact List.nil_prefix
  | cons a p ih =>
    obtain ⟨rest, rfl⟩ := hm
    cases l with
    | nil => exact absurd (List.nil_lt_cons a p) hp
    | cons b l =>
      rw [List.cons_append, List.cons_lt_cons_iff] at hlm
      rw [List.cons_lt_cons_iff, not_or, not_and] at hp
      rcases hlm with hlt | ⟨rfl, hlm⟩
      · exact absurd hlt hp.1
      · exact List.prefix_cons_inj _ |>.mpr (ih (hp.2 rfl) hlm ⟨rest, rfl⟩)

section Filter

variable {α : Type} {P : α → Bool} {l : List α}

theorem takeWhile_eq_filter (h : l.Pairwise fun x y => P y → P x) : l.takeWhile P = l.filter P := by
  induction l with
  | nil => rfl
  | cons x l ih =>
    obtain ⟨hx, hl⟩ := List.pairwise_cons.mp h
    by_cases hp : P x
    · rw [List.takeWhile_cons_of_pos hp, List.filter_cons_of_pos hp, ih hl]
    · rw [List.takeWhile_cons_of_neg hp, List.filter_cons_of_neg hp]
      exact (List.filter_eq_nil_iff.mpr fun y hy hpy => hp (hx y hy hpy)).symm

theorem dropWhile_eq_filter (h : l.Pairwise fun x y => P y → P x) :
    l.dropWhile P = l.filter fun x => !P x := by
  induction l with
  | nil => rfl
  | cons x l ih =>
    obtain ⟨hx, hl⟩ := List.pairwise_cons.mp h
    by_cases hp : P x
    · rw [List.dropWhile_cons_of_pos hp, List.filter_cons_of_neg (by simpa using hp), ih hl]
    · rw [List.dropWhile_cons_of_neg hp]
      refine (List.filter_eq_self.mpr fun y hy => ?_).symm
      rcases List.mem_cons.mp hy with rfl | hy
      · simpa using hp
      · simpa using fun hpy => hp (hx y hy hpy)

end Filter

/-- A stretch of a map in key order holds all the entries whose keys have the start. -/
theorem stretch_eq_filter {start : String} (hd : Dict.Sorted d) :
    stretch d start = d.filter fun p => Text.startsWith p.1 start := by
  have hdrop : d.Pairwise fun p q => decide (q.1 < start) → decide (p.1 < start) :=
    hd.imp fun hpq hq => decide_eq_true (lt_trans hpq (of_decide_eq_true hq))
  have htake : (d.filter fun p => !decide (p.1 < start)).Pairwise
      fun p q => Text.startsWith q.1 start → Text.startsWith p.1 start := by
    refine List.Pairwise.imp_of_mem ?_ (hd.filter _)
    intro p q hp _ hpq hq
    have hps : ¬ p.1 < start := by simpa using (List.mem_filter.mp hp).2
    refine List.isPrefixOf_iff_prefix.mpr
      (prefix_of_lt (fun h => hps (String.lt_iff_toList_lt.mpr h)) ?_
        (List.isPrefixOf_iff_prefix.mp hq))
    exact String.lt_iff_toList_lt.mp hpq
  rw [stretch, dropWhile_eq_filter hdrop, takeWhile_eq_filter htake, List.filter_filter]
  refine List.filter_congr fun p _ => ?_
  cases hps : Text.startsWith p.1 start with
  | false => rfl
  | true =>
    have hlt := not_lt_of_prefix (List.isPrefixOf_iff_prefix.mp hps)
    simpa using fun h => hlt (String.lt_iff_toList_lt.mp h)

/-! ## What a system sees -/

/-- Two stores hold the same secrets for a system, be they sealed under other nonces. -/
structure Alike (systemId : String) (s s' : SecretStore) : Prop where
  encryptor : s.encryptor = s'.encryptor
  opened : ∀ k, owner k = systemId →
    (s.secrets.get? k).map s.encryptor.decrypt = (s'.secrets.get? k).map s'.encryptor.decrypt

/-- A store that is kept in memory alone and whose map is in key order. -/
structure InMemory (s : SecretStore) : Prop where
  path : s.path = none
  sorted : Dict.Sorted s.secrets
  regular : s.encryptor.cipher.Regular

theorem Alike.refl (systemId : String) (s : SecretStore) : Alike systemId s s :=
  ⟨rfl, fun _ _ => rfl⟩

theorem Alike.symm (h : Alike systemId s s') : Alike systemId s' s :=
  ⟨h.encryptor.symm, fun k hk => (h.opened k hk).symm⟩

theorem Alike.trans (h : Alike systemId s s') (h' : Alike systemId s' s'') :
    Alike systemId s s'' :=
  ⟨h.encryptor.trans h'.encryptor, fun k hk => (h.opened k hk).trans (h'.opened k hk)⟩

theorem get?_eq (s : SecretStore) (systemId category name : String) :
    s.get? systemId category name = (do
      let k ← keyOf systemId category name
      match (s.secrets.get? k.text).map s.encryptor.decrypt with
      | none => pure none
      | some r => some <$> r) := by
  unfold SecretStore.get?
  congr
  funext k
  cases s.secrets.get? k.text <;> rfl

/-- A secret is stored under a key, and can be opened. -/
def Holds (s : SecretStore) (systemId category name secret : String) : Prop :=
  ∃ k sealed, keyOf systemId category name = .ok k ∧ s.secrets.get? k.text = some sealed ∧
    s.encryptor.decrypt sealed = .ok secret

theorem get?_eq_ok_some_iff :
    s.get? systemId category name = .ok (some secret) ↔ s.Holds systemId category name secret := by
  unfold SecretStore.get? Holds
  rw [Result.bind_eq_ok_iff]
  constructor
  · rintro ⟨k, hk, h⟩
    cases hs : s.secrets.get? k.text with
    | none => simp [hs, pure, Except.pure] at h
    | some sealed =>
      rw [hs] at h
      obtain ⟨t, ht, h⟩ := Result.bind_eq_ok_iff.mp h
      cases h
      exact ⟨k, sealed, hk, hs, ht⟩
  · rintro ⟨k, sealed, hk, hs, ht⟩
    refine ⟨k, hk, ?_⟩
    rw [hs]
    exact Result.bind_eq_ok_iff.mpr ⟨secret, ht, rfl⟩

theorem Alike.get?_eq (h : Alike systemId s s') :
    s.get? systemId category name = s'.get? systemId category name := by
  rw [SecretStore.get?_eq, SecretStore.get?_eq]
  cases hk : keyOf systemId category name with
  | error e => rfl
  | ok k => simp only [Result.ok_bind, h.opened k.text (owner_keyOf hk)]

def opened (s : SecretStore) (start : String) : Dict (Result String) :=
  Dict.mapValues s.encryptor.decrypt (s.secrets.filter fun p => Text.startsWith p.1 start)

theorem get?_opened (s : SecretStore) (start k : String) :
    (s.opened start).get? k =
      if Text.startsWith k start then (s.secrets.get? k).map s.encryptor.decrypt else none := by
  rw [opened, Dict.get?_mapValues, Dict.get?_filter (Text.startsWith · start)]
  split <;> rfl

theorem sorted_opened (hs : Dict.Sorted s.secrets) (start : String) :
    Dict.Sorted (s.opened start) := (hs.filter _).mapValues _

theorem category_eq (hs : Dict.Sorted s.secrets) :
    s.category systemId category =
      (s.opened (start systemId category)).mapM (fun p => do
        let secret ← p.2
        pure (Text.dropStart p.1 (start systemId category), secret)) := by
  rw [SecretStore.category, stretch_eq_filter hs, opened, Dict.mapValues, List.mapM_map]
  rfl

theorem Alike.category_eq (h : Alike systemId s s') (hs : Dict.Sorted s.secrets)
    (hs' : Dict.Sorted s'.secrets) (hc : ':' ∉ systemId.toList) :
    s.category systemId category = s'.category systemId category := by
  have ho : s.opened (start systemId category) = s'.opened (start systemId category) := by
    refine (sorted_opened hs _).ext (sorted_opened hs' _) fun k => ?_
    rw [get?_opened, get?_opened]
    split
    · next hk => exact h.opened k (owner_of_startsWith hc hk)
    · rfl
  rw [SecretStore.category_eq hs, SecretStore.category_eq hs', ho]

/-! ## Storing -/

/-- Stores a text under a key. -/
def put (s : SecretStore) (k text : String) : SecretStore :=
  { s with secrets := s.secrets.insert k text }

theorem eq_of_commit {fs left : Files} {faults : ReplaceFaults}
    (h : s.commit fs d faults = (.ok s', left)) :
    s' = { s with secrets := d } := by
  unfold commit at h
  split at h
  · cases h
    rfl
  · split at h
    · cases h
    · cases h
      rfl

theorem put_of_set {fs left : Files} {nonce : List UInt8} {faults : ReplaceFaults}
    (h : s.set fs nonce systemId category name secret faults = (.ok s', left)) :
    ∃ k, keyOf systemId category name = .ok k ∧
      s' = s.put k.text (s.encryptor.encrypt nonce secret) := by
  unfold SecretStore.set at h
  split at h
  · cases h
  · next k hk => exact ⟨k, hk, eq_of_commit h⟩

/-- In memory a secret is stored as soon as its key is accepted. -/
theorem set_eq (hs : s.InMemory) (fs : Files) (nonce : List UInt8) {faults : ReplaceFaults} :
    s.set fs nonce systemId category name secret faults =
      ((keyOf systemId category name).map fun k => s.put k.text (s.encryptor.encrypt nonce secret),
        fs) := by
  unfold SecretStore.set
  cases keyOf systemId category name with
  | error e => rfl
  | ok k => simp [commit, hs.path, SecretStore.put, Except.map]

theorem InMemory.put (hs : s.InMemory) (k text : String) : (s.put k text).InMemory :=
  ⟨hs.path, hs.sorted.insert k text, hs.regular⟩

/-- What is stored for one system does not change what another one sees. -/
theorem alike_put {k : String} (h : owner k ≠ systemId) (text : String) :
    Alike systemId s (s.put k text) := by
  refine ⟨rfl, fun k' hk' => ?_⟩
  have hne : k ≠ k' := fun he => h (by rw [he, hk'])
  simp only [SecretStore.put, Dict.get?_insert_of_ne _ _ hne]

/-- A secret opens again, so the nonce under which it is sealed does not show. -/
theorem Alike.put (h : Alike systemId s s') (hr : s.encryptor.cipher.Regular)
    {nonce nonce' : List UInt8} (hn : nonce.length = Encryptor.nonceLength)
    (hn' : nonce'.length = Encryptor.nonceLength) (k secret : String) :
    Alike systemId (s.put k (s.encryptor.encrypt nonce secret))
      (s'.put k (s'.encryptor.encrypt nonce' secret)) := by
  refine ⟨h.encryptor, fun k' hk' => ?_⟩
  simp only [SecretStore.put, Dict.get?_insert]
  split
  · have hr' := hr
    rw [h.encryptor] at hr'
    simp only [Option.map_some, Encryptor.decrypt_encrypt hr hn, Encryptor.decrypt_encrypt hr' hn']
  · exact h.opened k' hk'

end SecretStore
end Interchange
