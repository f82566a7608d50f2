import Interchange.Security.Manager
import Interchange.Proofs.Auth.Endpoints
import Interchange.Proofs.Secret.Store

/-! # The security of different systems

Providers are kept by system, and secrets in one map. What is done to the credentials of one system
depends on what is held for that system alone, and no other system notices.
-/

namespace Interchange
namespace Security

variable {systemId : String} {s s' s'' t t' : Security} {p : Option Provider}

/-- The same is held for a system. -/
structure Alike (systemId : String) (s s' : Security) : Prop where
  store : s.store.Alike systemId s'.store
  factory : s.factory = s'.factory
  defaultType : s.defaultType = s'.defaultType
  provider : s.providers.get? systemId = s'.providers.get? systemId

theorem Alike.refl (systemId : String) (s : Security) : Alike systemId s s :=
  ⟨.refl .., rfl, rfl, rfl⟩

theorem Alike.symm (h : Alike systemId s s') : Alike systemId s' s :=
  ⟨h.store.symm, h.factory.symm, h.defaultType.symm, h.provider.symm⟩

theorem Alike.trans (h : Alike systemId s s') (h' : Alike systemId s' s'') : Alike systemId s s'' :=
  ⟨h.store.trans h'.store, h.factory.trans h'.factory, h.defaultType.trans h'.defaultType,
    h.provider.trans h'.provider⟩

/-! ## Providers -/

/-- Nothing changes but the provider in use for one system, which is `p` then. -/
structure Sets (systemId : String) (p : Option Provider) (s t : Security) : Prop where
  store : t.store = s.store
  factory : t.factory = s.factory
  defaultType : t.defaultType = s.defaultType
  provider : t.providers.get? systemId = p
  others : ∀ id, id ≠ systemId → t.providers.get? id = s.providers.get? id

theorem Sets.beside (h : Sets systemId p s t) {id : String} (hid : id ≠ systemId) : Alike id s t :=
  ⟨h.store ▸ .refl .., h.factory.symm, h.defaultType.symm, (h.others id hid).symm⟩

theorem Alike.sets (h : Alike systemId s s') (ht : Sets systemId p s t)
    (ht' : Sets systemId p s' t') : Alike systemId t t' := by
  refine ⟨?_, ?_, ?_, ht.provider.trans ht'.provider.symm⟩
  · rw [ht.store, ht'.store]
    exact h.store
  · rw [ht.factory, ht'.factory]
    exact h.factory
  · rw [ht.defaultType, ht'.defaultType]
    exact h.defaultType

theorem sets_insert (systemId : String) (p : Provider) (s : Security) :
    Sets systemId (some p) s { s with providers := s.providers.insert systemId p } :=
  ⟨rfl, rfl, rfl, Dict.get?_insert_self .., fun _ hid => Dict.get?_insert_of_ne _ _ (Ne.symm hid)⟩

theorem sets_rotate (systemId : String) (s : Security) :
    Sets systemId none s (s.rotate systemId).2 :=
  ⟨rfl, rfl, rfl, by simp [rotate, Dict.get?_erase], fun id hid => by
    simp [rotate, Dict.get?_erase, Ne.symm hid]⟩

theorem Sets.trans {q : Option Provider} (h : Sets systemId p s s') (h' : Sets systemId q s' t) :
    Sets systemId q s t :=
  ⟨h'.store.trans h.store, h'.factory.trans h.factory, h'.defaultType.trans h.defaultType,
    h'.provider, fun id hid => (h'.others id hid).trans (h.others id hid)⟩

theorem Sets.unique (h : Sets systemId p s t) (h' : Sets systemId p s t') (id : String) :
    Alike id t t' := by
  by_cases hid : id = systemId
  · exact hid ▸ (Alike.refl systemId s).sets h h'
  · exact (h.beside hid).symm.trans (h'.beside hid)

def issuer (s : Security) (c : SystemConfig) : Result Provider :=
  match s.providers.get? c.systemId with
  | some p => .ok p
  | none => s.build c

variable {c : SystemConfig}

theorem Alike.issuer_eq (h : Alike c.systemId s s') (hs : s.store.InMemory)
    (hs' : s'.store.InMemory) (hc : ':' ∉ c.systemId.toList) : s.issuer c = s'.issuer c := by
  have hp : s.params c = s'.params c := by
    rw [params, params, h.store.category_eq hs.sorted hs'.sorted hc]
  have hb : s.build c = s'.build c := by
    rw [build, build, hp, h.factory, typeOf, typeOf, h.defaultType]
  rw [issuer, issuer, h.provider, hb]

/-- Credentials are those of the provider of the system, which stays in use. -/
theorem credentials_cases (s : Security) (c : SystemConfig) (now : Instant)
    (endpoints : TokenEndpoints) :
    (∃ e, s.issuer c = .error e ∧ s.credentials c now endpoints = (.error e, s, endpoints)) ∨
      ∃ p t, s.issuer c = .ok p ∧
        Sets c.systemId (some (p.credentials ⟨c.systemId, now, endpoints⟩).2.1) s t ∧
        s.credentials c now endpoints = ((p.credentials ⟨c.systemId, now, endpoints⟩).1, t,
          (p.credentials ⟨c.systemId, now, endpoints⟩).2.2.endpoints) := by
  cases hp : s.providers.get? c.systemId with
  | some p =>
    refine .inr ⟨p, _, by rw [issuer, hp], sets_insert .., ?_⟩
    simp only [credentials, provider, hp]
  | none =>
    cases hb : s.build c with
    | error e =>
      refine .inl ⟨e, by rw [issuer, hp, hb], ?_⟩
      simp only [credentials, provider, hp, hb, Result.error_bind]
    | ok p =>
      refine .inr ⟨p, _, by rw [issuer, hp, hb],
        (sets_insert c.systemId p s).trans (sets_insert ..), ?_⟩
      simp only [credentials, provider, hp, hb, Result.ok_bind]
      rfl

theorem Alike.credentials (h : Alike c.systemId s s') (hs : s.store.InMemory)
    (hs' : s'.store.InMemory) (hc : ':' ∉ c.systemId.toList) {e e' : TokenEndpoints}
    (he : e.Alike c.systemId e') (hsep : e.Separate) {now now' : Instant} (hnow : now = now') :
    (s.credentials c now e).1 = (s'.credentials c now' e').1 ∧
      Alike c.systemId (s.credentials c now e).2.1 (s'.credentials c now' e').2.1 ∧
      TokenEndpoints.Alike c.systemId (s.credentials c now e).2.2
        (s'.credentials c now' e').2.2 := by
  subst hnow
  have hi := h.issuer_eq hs hs' hc
  rcases s.credentials_cases c now e with ⟨x, hx, hr⟩ | ⟨p, t, hp, ht, hr⟩ <;>
    rcases s'.credentials_cases c now e' with ⟨x', hx', hr'⟩ | ⟨p', t', hp', ht', hr'⟩
  · rw [hr, hr']
    rw [hx, hx'] at hi
    cases hi
    exact ⟨rfl, h, he⟩
  · rw [hx, hp'] at hi
    cases hi
  · rw [hp, hx'] at hi
    cases hi
  · rw [hp, hp'] at hi
    cases hi
    obtain ⟨h1, h2, h3⟩ := p.confined_credentials.alike ⟨c.systemId, now, e⟩ ⟨c.systemId, now, e'⟩
      ⟨rfl, rfl, he, hsep⟩
    rw [hr, hr']
    have h4 := h3.endpoints
    rw [(p.confined_credentials.beside ⟨c.systemId, now, e⟩).systemId] at h4
    exact ⟨h1, h.sets ht (h2 ▸ ht'), h4⟩

/-- Whatever comes of credentials, the secrets stay and no other system notices. -/
theorem credentials_beside (s : Security) (c : SystemConfig) (now : Instant) (e : TokenEndpoints) :
    (s.credentials c now e).2.1.store = s.store ∧
      (s.credentials c now e).2.2.answer = e.answer ∧
      (s.credentials c now e).2.2.pending = e.pending ∧
      ∀ id, id ≠ c.systemId →
        Alike id s (s.credentials c now e).2.1 ∧ e.Alike id (s.credentials c now e).2.2 := by
  rcases s.credentials_cases c now e with ⟨x, -, hr⟩ | ⟨p, t, -, ht, hr⟩
  · rw [hr]
    exact ⟨rfl, rfl, rfl, fun id _ => ⟨.refl .., .refl ..⟩⟩
  · have hb := p.confined_credentials.beside ⟨c.systemId, now, e⟩
    rw [hr]
    exact ⟨ht.store, hb.answer, hb.pending, fun id hid => ⟨ht.beside hid, hb.endpoints id hid⟩⟩

theorem Alike.verifyWebhook_eq (h : Alike systemId s s') (m : SystemMetadata)
    (payload : List UInt8) (headers : Dict String) :
    s.verifyWebhook systemId m payload headers = s'.verifyWebhook systemId m payload headers := by
  rw [verifyWebhook, verifyWebhook, h.store.get?_eq]

/-! ## Storing credentials -/

section

variable {nonces nonces' : Nat → List UInt8} {category : String}

/-- In memory a list of secrets is stored as far as their keys are accepted. -/
theorem setSecrets_cons (hs : s.store.InMemory) (fs : Files) (place : Nat)
    (name secret : String) (rest : List (String × String)) :
    s.setSecrets fs systemId category nonces place ((name, secret) :: rest) =
      match SecretStore.keyOf systemId category name with
      | .error e => (.error e, s, fs)
      | .ok k => Security.setSecrets
          { s with store := s.store.put k.text (s.store.encryptor.encrypt (nonces place) secret) }
          fs systemId category nonces (place + 1) rest := by
  rw [setSecrets, setSecret, SecretStore.set_eq hs]
  cases SecretStore.keyOf systemId category name <;> rfl

/-- Secrets that are stored are those of the system: the others keep theirs. -/
theorem setSecrets_beside (hs : s.store.InMemory) (fs : Files) (systemId category : String)
    (nonces : Nat → List UInt8) (place : Nat) (entries : List (String × String)) :
    (s.setSecrets fs systemId category nonces place entries).2.1.store.InMemory ∧
      ∀ id, id ≠ systemId →
        Alike id s (s.setSecrets fs systemId category nonces place entries).2.1 := by
  induction entries generalizing s place with
  | nil => exact ⟨hs, fun _ _ => .refl ..⟩
  | cons entry rest ih =>
    obtain ⟨name, secret⟩ := entry
    rw [setSecrets_cons hs]
    cases hk : SecretStore.keyOf systemId category name with
    | error e => exact ⟨hs, fun _ _ => .refl ..⟩
    | ok k =>
      have ho := SecretStore.owner_keyOf hk
      let sealed := s.store.encryptor.encrypt (nonces place) secret
      let s' : Security := { s with store := s.store.put k.text sealed }
      obtain ⟨hm, hb⟩ := ih (s := s') (hs.put k.text sealed) (place + 1)
      refine ⟨hm, fun id hid => ?_⟩
      have hp : Alike id s s' :=
        ⟨SecretStore.alike_put (ho ▸ Ne.symm hid) sealed, rfl, rfl, rfl⟩
      exact hp.trans (hb id hid)

/-- It does not matter under which nonces secrets are sealed. -/
theorem Alike.setSecrets (h : Alike systemId s s') (hs : s.store.InMemory)
    (hs' : s'.store.InMemory) (hn : ∀ i, (nonces i).length = Encryptor.nonceLength)
    (hn' : ∀ i, (nonces' i).length = Encryptor.nonceLength) (fs fs' : Files) (category : String)
    (place : Nat) (entries : List (String × String)) :
    (s.setSecrets fs systemId category nonces place entries).1 =
        (s'.setSecrets fs' systemId category nonces' place entries).1 ∧
      Alike systemId (s.setSecrets fs systemId category nonces place entries).2.1
        (s'.setSecrets fs' systemId category nonces' place entries).2.1 := by
  induction entries generalizing s s' place with
  | nil => exact ⟨rfl, h⟩
  | cons entry rest ih =>
    obtain ⟨name, secret⟩ := entry
    rw [setSecrets_cons hs, setSecrets_cons hs']
    cases SecretStore.keyOf systemId category name with
    | error e => exact ⟨rfl, h⟩
    | ok k =>
      let sealed := s.store.encryptor.encrypt (nonces place) secret
      let sealed' := s'.store.encryptor.encrypt (nonces' place) secret
      have hp : Alike systemId { s with store := s.store.put k.text sealed }
          { s' with store := s'.store.put k.text sealed' } :=
        ⟨h.store.put hs.regular (hn place) (hn' place) k.text secret, h.factory, h.defaultType,
          h.provider⟩
      exact ih hp (hs.put k.text sealed) (hs'.put k.text sealed') (place + 1)

end

end Security
end Interchange
