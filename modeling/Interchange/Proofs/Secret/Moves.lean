import Interchange.Proofs.Files.Kept
import Interchange.Proofs.Secret.Names
import Mathlib.Logic.Relation

/-! # Stores in use

What one call makes of a store and of the files around it. The secrets change by at most one entry,
and between any two calls the file of the store gives that store again.
-/

namespace Interchange
namespace SecretStore

/-- One call: a secret is stored, under any texts, or deleted; a fault may strike meanwhile. A call
that fails leaves the store as it was, though not always the files. -/
inductive Moves : Kept → Kept → Prop
  | stored {s t : SecretStore} {fs left : Files} {nonce : List UInt8}
      {systemId category name secret : String} {faults : ReplaceFaults} :
      nonce.length = Encryptor.nonceLength →
      s.set fs nonce systemId category name secret faults = (.ok t, left) → Moves ⟨s, fs⟩ ⟨t, left⟩
  | notStored {s : SecretStore} {fs left : Files} {nonce : List UInt8}
      {systemId category name secret : String} {faults : ReplaceFaults} {e : Error} :
      nonce.length = Encryptor.nonceLength →
      s.set fs nonce systemId category name secret faults = (.error e, left) →
      Moves ⟨s, fs⟩ ⟨s, left⟩
  | deleted {s t : SecretStore} {fs left : Files} {systemId category name : String}
      {faults : ReplaceFaults} {gone : Bool} :
      s.delete fs systemId category name faults = (.ok (gone, t), left) → Moves ⟨s, fs⟩ ⟨t, left⟩
  | notDeleted {s : SecretStore} {fs left : Files} {systemId category name : String}
      {faults : ReplaceFaults} {e : Error} :
      s.delete fs systemId category name faults = (.error e, left) → Moves ⟨s, fs⟩ ⟨s, left⟩

/-- A store as it is opened: empty and in memory alone, or from its file. -/
inductive Opened (key : MasterKey) : Kept → Prop
  | inMemory (fs : Files) : Opened key ⟨{ encryptor := .ofMasterKey key }, fs⟩
  | fromFile {s : SecretStore} {fs : Files} {path : String} :
      ofFile fs path (.ofMasterKey key) = .ok s → Opened key ⟨s, fs⟩

/-- The secrets that a call would leave: with one more under a valid key, or with one less. -/
inductive Edit (s : SecretStore) : Dict String → Prop
  | put {k : SecretKey} {nonce : List UInt8} (secret : String) : k.Valid →
      nonce.length = Encryptor.nonceLength →
      Edit s (s.secrets.insert k.text (s.encryptor.encrypt nonce secret))
  | drop (k : String) : Edit s (s.secrets.erase k)

/-- A call does nothing, or it makes an edit, or tries to. -/
inductive Attempt (s : SecretStore) (fs : Files) : Kept → Prop
  | idle : Attempt s fs ⟨s, fs⟩
  | made {d : Dict String} {faults : ReplaceFaults} {t : SecretStore} {left : Files} : s.Edit d →
      s.commit fs d faults = (.ok t, left) → Attempt s fs ⟨t, left⟩
  | failed {d : Dict String} {faults : ReplaceFaults} {e : Error} {left : Files} : s.Edit d →
      s.commit fs d faults = (.error e, left) → Attempt s fs ⟨s, left⟩

variable {s t : SecretStore} {fs left : Files} {path : String} {d : Dict String} {key : MasterKey}
  {x y : Kept} {faults : ReplaceFaults}

theorem valid_of_keyOf_eq {systemId category name : String} {k : SecretKey}
    (h : keyOf systemId category name = .ok k) : k.Valid := by
  obtain ⟨rfl, hv⟩ := valid_of_keyOf (k := ⟨systemId, category, name⟩) h
  exact hv

theorem Moves.attempt (h : Moves x y) : Attempt x.store x.files y := by
  cases h with
  | stored hn h =>
    unfold SecretStore.set at h
    split at h
    · cases h
    · next hk => exact .made (.put _ (valid_of_keyOf_eq hk) hn) h
  | notStored hn h =>
    unfold SecretStore.set at h
    split at h
    · cases h
      exact .idle
    · next hk => exact .failed (.put _ (valid_of_keyOf_eq hk) hn) h
  | deleted h =>
    unfold SecretStore.delete at h
    split at h
    · cases h
    split at h
    · split at h
      · cases h
      · next hc =>
        cases h
        exact .made (.drop _) hc
    · cases h
      exact .idle
  | notDeleted h =>
    unfold SecretStore.delete at h
    split at h
    · cases h
      exact .idle
    split at h
    · split at h
      · next hc =>
        cases h
        exact .failed (.drop _) hc
      · cases h
    · cases h

theorem Edit.sorted (h : s.Edit d) (hs : Dict.Sorted s.secrets) : Dict.Sorted d := by
  cases h with
  | put => exact hs.insert _ _
  | drop => exact hs.erase _

/-! ## The file between calls -/

/-- The file of a store gives that store when it is opened again. Where it is missing nothing comes
up in its place once the directories above it are there. -/
structure Synced (x : Kept) : Prop where
  reopens : ∀ path, x.store.path = some path →
    ofFile x.files path x.store.encryptor = .ok x.store
  settled : ∀ path, x.store.path = some path → x.files.Settled path

theorem of_ofFile {e : Encryptor} (h : ofFile fs path e = .ok s) :
    s.encryptor = e ∧ Dict.Sorted s.secrets := by
  unfold ofFile at h
  split at h
  · cases h
    exact ⟨rfl, Dict.sorted_nil⟩
  · cases h
  · split at h
    · cases h
    · next hd =>
      cases h
      exact ⟨rfl, sorted_of_readSecrets? hd⟩

theorem synced_of_commit (hd : Dict.Sorted d) (h : s.commit fs d faults = (.ok t, left)) :
    Synced ⟨t, left⟩ := by
  obtain rfl := eq_of_commit h
  have hread : ∀ path, s.path = some path → left.readText path = .ok (fileText d) := by
    intro path hp
    rw [commit_eq hp] at h
    split at h
    · cases h
    · next hr =>
      cases h
      exact Files.readText_of_replace hr
  constructor
  case reopens =>
    intro path (hp : s.path = some path)
    obtain ⟨encryptor, _, secrets⟩ := s
    obtain rfl : _ = some path := hp
    exact ofFile_of_onFile (.inr (hread path rfl)) hd encryptor
  case settled =>
    intro path (hp : s.path = some path) hf
    have hr := hread path hp
    rw [Files.readText_eq_notFound_iff.mpr hf] at hr
    cases hr

/-- Whatever the file was, once a secret is stored it gives the store. -/
theorem synced_of_set {nonce : List UInt8} {systemId category name secret : String}
    (hs : Dict.Sorted s.secrets)
    (h : s.set fs nonce systemId category name secret faults = (.ok t, left)) :
    Synced ⟨t, left⟩ := by
  unfold SecretStore.set at h
  split at h
  · cases h
  · exact synced_of_commit (hs.insert _ _) h

theorem Synced.commit_error {e : Error} (hx : Synced ⟨s, fs⟩)
    (h : s.commit fs d faults = (.error e, left)) : Synced ⟨s, left⟩ := by
  have hstop : ∀ path, s.path = some path → Files.Stopped fs path left := by
    intro path hp
    rw [commit_eq hp] at h
    split at h
    · next hr =>
      cases h
      exact (Files.stopped_of_replace_error hr).1
    · cases h
  constructor
  case reopens =>
    intro path hp
    have hf := (hstop path hp).find_eq (hx.settled path hp)
    exact (ofFile_congr hf _).trans (hx.reopens path hp)
  case settled =>
    intro path hp
    exact (hstop path hp).settled (hx.settled path hp)

theorem Moves.sorted (h : Moves x y) (hs : Dict.Sorted x.store.secrets) :
    Dict.Sorted y.store.secrets := by
  cases h.attempt with
  | idle => exact hs
  | made he hc =>
    rw [eq_of_commit hc]
    exact he.sorted hs
  | failed => exact hs

theorem Moves.synced (h : Moves x y) (hs : Dict.Sorted x.store.secrets) (hx : Synced x) :
    Synced y := by
  cases h.attempt with
  | idle => exact hx
  | made he hc => exact synced_of_commit (he.sorted hs) hc
  | failed _ hc => exact hx.commit_error hc

theorem Moves.encryptor_eq (h : Moves x y) : y.store.encryptor = x.store.encryptor := by
  cases h.attempt with
  | idle => rfl
  | made _ hc => rw [eq_of_commit hc]
  | failed => rfl

theorem Opened.encryptor_eq (h : Opened key x) : x.store.encryptor = .ofMasterKey key := by
  cases h with
  | inMemory => rfl
  | fromFile h => exact (of_ofFile h).1

theorem Opened.sorted (h : Opened key x) : Dict.Sorted x.store.secrets := by
  cases h with
  | inMemory => exact Dict.sorted_nil
  | fromFile h => exact (of_ofFile h).2

theorem Opened.synced (h : Opened key x)
    (hs : ∀ path, x.store.path = some path → x.files.Settled path) : Synced x := by
  refine ⟨fun path hp => ?_, hs⟩
  cases h with
  | inMemory => cases hp
  | fromFile h =>
    cases hp.symm.trans (path_of_ofFile h)
    rw [(of_ofFile h).1]
    exact h

section Runs

variable {start : Kept} (hc : Relation.ReflTransGen Moves start x)
include hc

theorem encryptor_of_moves : x.store.encryptor = start.store.encryptor := by
  induction hc with
  | refl => rfl
  | tail _ h ih => exact h.encryptor_eq.trans ih

theorem sorted_of_moves (hs : Dict.Sorted start.store.secrets) : Dict.Sorted x.store.secrets := by
  induction hc with
  | refl => exact hs
  | tail _ h ih => exact h.sorted ih

theorem synced_of_moves (hs : Dict.Sorted start.store.secrets) (hx : Synced start) : Synced x := by
  induction hc with
  | refl => exact hx
  | tail hc h ih => exact h.synced (sorted_of_moves hc hs) ih

end Runs

/-! ## Secrets that open -/

/-- A store under a master key, each of whose secrets has a valid key and opens. -/
structure Intact (key : MasterKey) (s : SecretStore) : Prop where
  encryptor : s.encryptor = .ofMasterKey key
  sorted : Dict.Sorted s.secrets
  entry : ∀ p ∈ s.secrets, ∃ (k : SecretKey) (secret : String),
    k.Valid ∧ k.text = p.1 ∧ s.encryptor.decrypt p.2 = .ok secret

theorem intact_empty (key : MasterKey) (path : Option String) :
    Intact key { encryptor := .ofMasterKey key, path } :=
  ⟨rfl, Dict.sorted_nil, nofun⟩

theorem Intact.edit (h : Intact key s) (he : s.Edit d) : Intact key { s with secrets := d } := by
  refine ⟨h.encryptor, he.sorted h.sorted, fun p hp => ?_⟩
  cases he with
  | @put k nonce secret hk hn =>
    rcases Dict.mem_insert hp with rfl | hp
    · have hr : s.encryptor.cipher.Regular := by
        rw [h.encryptor]
        exact Encryptor.regular_ofMasterKey key
      exact ⟨k, secret, hk, rfl, Encryptor.decrypt_encrypt hr hn secret⟩
    · exact h.entry p hp
  | drop k => exact h.entry p (List.mem_filter.mp hp).1

theorem Moves.intact (h : Moves x y) (hx : Intact key x.store) : Intact key y.store := by
  cases h.attempt with
  | idle => exact hx
  | made he hc =>
    rw [eq_of_commit hc]
    exact hx.edit he
  | failed => exact hx

/-! ## Reading after storing -/

/-- A secret that was stored under a key is read there, and all others are read as before. -/
theorem get?_put {k : SecretKey} {nonce : List UInt8} (hr : s.encryptor.cipher.Regular)
    (hn : nonce.length = Encryptor.nonceLength) (hk : k.Valid) (secret : String) (k' : SecretKey) :
    (s.put k.text (s.encryptor.encrypt nonce secret)).get? k'.systemId k'.category k'.name =
      if k = k' then .ok (some secret) else s.get? k'.systemId k'.category k'.name := by
  by_cases hk' : k'.Valid
  · rw [SecretStore.get?_eq, SecretStore.get?_eq, keyOf_of_valid hk', Result.ok_bind,
      Result.ok_bind]
    by_cases hkk : k = k'
    · subst hkk
      simp only [SecretStore.put, Dict.get?_insert_self, Option.map_some,
        Encryptor.decrypt_encrypt hr hn, if_true]
      rfl
    · have ht : k.text ≠ k'.text := fun he => hkk (hk.text_inj hk' he)
      simp only [SecretStore.put, Dict.get?_insert_of_ne _ _ ht, if_neg hkk]
  · -- the key is refused, whatever is stored
    have hkk : k ≠ k' := fun he => hk' (he ▸ hk)
    rw [if_neg hkk]
    cases hko : keyOf k'.systemId k'.category k'.name with
    | ok k'' => exact absurd (valid_of_keyOf hko).2 hk'
    | error e => rw [SecretStore.get?, SecretStore.get?, hko, Result.error_bind, Result.error_bind]

end SecretStore
end Interchange
