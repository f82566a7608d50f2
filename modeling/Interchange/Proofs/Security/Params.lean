import Interchange.Security.Manager
import Interchange.Proofs.Secret.Category

/-! # Parameters of providers

A provider is made from the parameters of its system: those of the configuration that are not null,
without the type, and before them the secrets stored for the system. Each of them is looked up here
by name.
-/

namespace Interchange

/-! ## Stored secrets -/

namespace SecretStore

variable {s : SecretStore} {systemId name : String}

/-- The authentication secret that is stored for a system under a name, if it opens. -/
def authSecret? (s : SecretStore) (systemId name : String) : Option String :=
  (Dict.get? s.secrets (SecretKey.start systemId SecretKey.authCategory ++ name)).bind fun text =>
    (s.encryptor.decrypt text).toOption

theorem authSecret?_of_map_eq {r : Option String}
    (h : (Dict.get? s.secrets (SecretKey.start systemId SecretKey.authCategory ++ name)).map
      s.encryptor.decrypt = r.map .ok) : s.authSecret? systemId name = r := by
  rw [authSecret?]
  cases ht : Dict.get? s.secrets (SecretKey.start systemId SecretKey.authCategory ++ name) with
  | none =>
    rw [ht] at h
    cases r with
    | none => rfl
    | some v => cases h
  | some text =>
    rw [ht] at h
    obtain ⟨v, rfl, hv⟩ := Option.map_eq_some_iff.mp h.symm
    rw [Option.bind_some, ← hv]
    rfl

end SecretStore

namespace Security

variable {s : Security} {c : SystemConfig} {ps : AuthParams} {p : Provider}

/-- The parameters of a system's provider: under each name the secret stored for the system, or else
the parameter in the configuration, if that is not null and not the type. -/
structure Forms (s : Security) (c : SystemConfig) (ps : AuthParams) : Prop where
  sorted : Dict.Sorted ps
  get?_eq : ∀ name, Dict.get? ps name = (s.store.authSecret? c.systemId name).or
    (if name = "type" then none else (Dict.get? c.authParams name).bind plainText?)
  /-- All that is stored for the system opens. -/
  opens : ∀ name text,
    Dict.get? s.store.secrets (SecretKey.start c.systemId SecretKey.authCategory ++ name) =
      some text → ∃ secret, s.store.encryptor.decrypt text = .ok secret

theorem plainParams_eq (c : SystemConfig) :
    plainParams c = c.authParams.filterMap fun p =>
      (if p.1 = "type" then none else plainText? p.2).map fun s => (p.1, s) := by
  unfold plainParams
  congr
  funext p
  split <;> rfl

theorem get?_plainParams (hc : Dict.Sorted c.authParams) (name : String) :
    Dict.get? (plainParams c) name =
      if name = "type" then none else (Dict.get? c.authParams name).bind plainText? := by
  rw [plainParams_eq, Dict.get?_filterMap hc fun k v => if k = "type" then none else plainText? v]
  by_cases hn : name = "type"
  · simp [hn]
  · simp [hn]

theorem forms_of_params (hs : Dict.Sorted s.store.secrets) (hc : Dict.Sorted c.authParams)
    (h : s.params c = .ok ps) : s.Forms c ps := by
  obtain ⟨stored, hd, h⟩ := Result.bind_eq_ok_iff.mp h
  obtain rfl := Except.ok.inj h
  have hg := SecretStore.get?_of_category hs hd
  refine ⟨?_, fun name => ?_, fun name text ht => ?_⟩
  · rw [plainParams_eq]
    exact (hc.filterMap fun k v => if k = "type" then none else plainText? v).insertAll stored
  · rw [Dict.get?_insertAll (SecretStore.sorted_category hs hd).nodup, get?_plainParams hc,
      SecretStore.authSecret?_of_map_eq (hg name)]
  · have hn := hg name
    rw [ht] at hn
    obtain ⟨secret, -, he⟩ := Option.map_eq_some_iff.mp hn.symm
    exact ⟨secret, he.symm⟩

/-- A provider that is made now from the configuration and the stored secrets of its system. -/
def Makes (s : Security) (c : SystemConfig) (p : Provider) : Prop :=
  ∃ ps, s.Forms c ps ∧ s.factory.create (c.authType?.getD s.defaultType) ps = .ok p

theorem makes_of_build (hs : Dict.Sorted s.store.secrets) (hc : Dict.Sorted c.authParams)
    (h : s.build c = .ok p) : s.Makes c p := by
  obtain ⟨ps, hp, h⟩ := Result.bind_eq_ok_iff.mp h
  exact ⟨ps, forms_of_params hs hc hp, h⟩

end Security

/-! ## New providers -/

theorem AuthFactory.constructor_builtIn {tag : String} {f : AuthParams → Result Provider}
    (h : Dict.get? builtIn.constructors tag = some f) :
    f = Provider.apiKeyOf ∨ f = Provider.oauth2Of ∨ f = Provider.basicOf := by
  rcases Dict.mem_insert (Dict.mem_of_get? h) with h | h
  · exact .inl (Prod.mk.inj h).2
  · rcases Dict.mem_insert h with h | h
    · exact .inr (.inl (Prod.mk.inj h).2)
    · rcases Dict.mem_insert h with h | h
      · exact .inr (.inr (Prod.mk.inj h).2)
      · cases h

/-- A new provider has issued nothing that could be revoked. -/
theorem AuthFactory.revoke_of_create {tag : String} {ps : AuthParams} {p : Provider}
    (h : builtIn.create tag ps = .ok p) : p.revoke = p := by
  unfold create at h
  split at h
  · next f hf =>
    rcases constructor_builtIn hf with rfl | rfl | rfl
    · obtain ⟨key, -, h⟩ := Result.bind_eq_ok_iff.mp h
      cases h
      rfl
    · obtain ⟨client, -, h⟩ := Result.bind_eq_ok_iff.mp h
      cases h
      rfl
    · obtain ⟨username, -, h⟩ := Result.bind_eq_ok_iff.mp h
      obtain ⟨password, -, h⟩ := Result.bind_eq_ok_iff.mp h
      cases h
      rfl
  · cases h

theorem Provider.revoke_credentials (p : Provider) (a : TokenAccess) :
    (p.credentials a).2.1.revoke = p.revoke := by
  cases p with
  | basic username password issued => cases issued <;> rfl
  | apiKey headerName key => rfl
  | oauth2 client state => rfl

/-! ## Storing secrets -/

namespace SecretStore

variable {s : SecretStore} {nonce : List UInt8}

/-- A secret that was stored opens again under its own name, and the others stay. -/
theorem authSecret?_put (hr : s.encryptor.cipher.Regular)
    (hn : nonce.length = Encryptor.nonceLength) (systemId name secret other : String) :
    (s.put (SecretKey.start systemId SecretKey.authCategory ++ name)
      (s.encryptor.encrypt nonce secret)).authSecret? systemId other =
      if name = other then some secret else s.authSecret? systemId other := by
  rw [authSecret?, SecretStore.put, Dict.get?_insert]
  by_cases h : name = other
  · subst h
    simp only [if_true, Option.bind_some, Encryptor.decrypt_encrypt hr hn]
    rfl
  · have hne : SecretKey.start systemId SecretKey.authCategory ++ name ≠
        SecretKey.start systemId SecretKey.authCategory ++ other := fun he =>
      h (by simpa [← String.toList_inj] using he)
    simp only [if_neg h, if_neg hne]
    rfl

end SecretStore

namespace Security

variable {s t : Security} {fs fs' : Files} {systemId category : String}
  {nonces : Nat → List UInt8} {place : Nat} {entries : List (String × String)} {r : Result Unit}

theorem put_of_setSecret {nonce : List UInt8} {name secret : String} {faults : ReplaceFaults}
    (h : s.setSecret fs nonce systemId category name secret faults = (.ok t, fs')) :
    ∃ k, SecretStore.keyOf systemId category name = .ok k ∧
      t = { s with store := s.store.put k.text (s.store.encryptor.encrypt nonce secret) } := by
  unfold setSecret at h
  split at h
  · cases h
  · next store hs =>
    cases h
    obtain ⟨k, hk, rfl⟩ := SecretStore.put_of_set hs
    exact ⟨k, hk, rfl⟩

/-- Nothing changes but the secrets, and these stay in order and sealed as before. -/
structure Refills (s t : Security) : Prop where
  factory : t.factory = s.factory
  defaultType : t.defaultType = s.defaultType
  providers : t.providers = s.providers
  encryptor : t.store.encryptor = s.store.encryptor
  sorted : Dict.Sorted s.store.secrets → Dict.Sorted t.store.secrets

theorem Refills.refl (s : Security) : Refills s s := ⟨rfl, rfl, rfl, rfl, id⟩

theorem Refills.trans {u : Security} (h : Refills s t) (h' : Refills t u) : Refills s u :=
  ⟨h'.factory.trans h.factory, h'.defaultType.trans h.defaultType,
    h'.providers.trans h.providers, h'.encryptor.trans h.encryptor, h'.sorted ∘ h.sorted⟩

theorem refills_put (s : Security) (k text : String) :
    Refills s { s with store := s.store.put k text } :=
  ⟨rfl, rfl, rfl, rfl, fun hs => hs.insert k text⟩

theorem refills_setSecrets (s : Security) (fs : Files) (systemId category : String)
    (nonces : Nat → List UInt8) (place : Nat) (entries : List (String × String))
    (faults : Nat → ReplaceFaults) :
    Refills s (s.setSecrets fs systemId category nonces place entries faults).2.1 := by
  induction entries generalizing s fs place with
  | nil => exact .refl s
  | cons entry rest ih =>
    obtain ⟨name, secret⟩ := entry
    rw [setSecrets]
    split
    · exact .refl s
    · next t fs' ht =>
      obtain ⟨k, -, rfl⟩ := put_of_setSecret ht
      exact (refills_put s _ _).trans (ih _ _ _)

/-- Credentials that were stored are all there under their names, the last one where there are
several. -/
theorem authSecret?_setSecrets (hr : s.store.encryptor.cipher.Regular)
    (hn : ∀ i, (nonces i).length = Encryptor.nonceLength)
    (h : s.setSecrets fs systemId SecretKey.authCategory nonces place entries = (.ok (), t, fs'))
    (name : String) :
    t.store.authSecret? systemId name =
      (entries.reverse.lookup name).or (s.store.authSecret? systemId name) := by
  induction entries generalizing s fs place with
  | nil =>
    cases h
    rfl
  | cons entry rest ih =>
    obtain ⟨n, secret⟩ := entry
    rw [setSecrets] at h
    split at h
    · cases h
    · next u fs'' hu =>
      obtain ⟨k, hk, rfl⟩ := put_of_setSecret hu
      obtain ⟨rfl, -⟩ := SecretStore.keyOf_eq_ok hk
      rw [ih (by exact hr) h, List.reverse_cons, List.lookup_append,
        SecretKey.text, SecretStore.authSecret?_put hr (hn place)]
      by_cases he : n = name
      · simp [he]
      · simp [he, Ne.symm he]

end Security
end Interchange
