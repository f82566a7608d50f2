import Interchange.Gateway.Setup
import Interchange.Proofs.Secret.Names

/-! # What opening and storing say about secrets

Two runs that differ in the master key, in the sealed texts, in the secrets that are stored and in
the order in which that is done end in the same way, and with secrets under the same keys.
-/

namespace Interchange

variable {fs fs' left : Files} {path : String} {σ σ' : SecuritySettings}

/-! ## Settings -/

/-- The settings of security are the same, up to the text of a master key that is not blank. -/
structure SecuritySettings.SameButKey (σ σ' : SecuritySettings) : Prop where
  masterKeyPath : σ.masterKeyPath = σ'.masterKeyPath
  secretsPath : σ.secretsPath = σ'.secretsPath
  defaultAuthType : σ.defaultAuthType = σ'.defaultAuthType
  masterKey : Option.Rel (fun k k' => k = k' ∨ Text.allBlank k = false ∧ Text.allBlank k' = false)
    σ.masterKey σ'.masterKey

/-- What a file holds is the same as far as it matters. The file of the secrets may have other
sealed texts under the same keys, and that of the master key another text that is not blank; what
the others hold is of no account once the settings have been read. -/
def SecuritySettings.SameButSecrets (σ : SecuritySettings) (key : String) (a b : ByteArray) :
    Prop :=
  a = b ∨ key = Path.normal σ.secretsPath ∧ Files.Texts SecretStore.SameKeys a b ∨
    (σ.masterKey = none ∧ key = Path.normal σ.masterKeyPath ∧
      Files.Texts (fun t t' => Text.allBlank t = false ∧ Text.allBlank t' = false) a b) ∨
    key ≠ Path.normal σ.secretsPath ∧
      (σ.masterKey = none → key ≠ Path.normal σ.masterKeyPath)

/-- The master key is not kept in the file of the secrets. -/
def SecuritySettings.Apart (σ : SecuritySettings) : Prop :=
  σ.masterKey = none → Path.normal σ.masterKeyPath ≠ Path.normal σ.secretsPath

instance (σ : SecuritySettings) : Decidable σ.Apart :=
  inferInstanceAs (Decidable (_ → _))

theorem keysKept_of_sameButSecrets (ha : σ.Apart) (key : String) (a b : ByteArray)
    (h : σ.SameButSecrets key a b) : SecretStore.KeysKept σ.secretsPath key a b := by
  rintro rfl
  rcases h with rfl | ⟨-, h⟩ | ⟨hn, he, -⟩ | ⟨hne, -⟩
  · exact .inl rfl
  · exact .inr h
  · exact absurd he.symm (ha hn)
  · exact absurd rfl hne

namespace MasterKey

theorem ofText_of_not_blank {s : String} (h : Text.allBlank s = false) : ofText s = .ok ⟨s⟩ := by
  rw [ofText, h]
  rfl

/-- A key is read from two trees, or made in both. -/
theorem loadOrGenerate_alike {R S : String → ByteArray → ByteArray → Prop}
    (hr : Files.Alike R fs fs') (hs : Files.Alike S fs fs')
    (hR : ∀ a b, R (Path.normal path) a b → a = b ∨
      Files.Texts (fun t t' => Text.allBlank t = false ∧ Text.allBlank t' = false) a b)
    (hS : ∀ a b, S (Path.normal path) a b) (random random' : List UInt8) :
    Result.Alike (fun _ _ => True) (loadOrGenerate fs path random).1
        (loadOrGenerate fs' path random').1 ∧
      Files.Alike S (loadOrGenerate fs path random).2 (loadOrGenerate fs' path random').2 := by
  unfold loadOrGenerate
  rw [hr.has]
  split
  · have ht := hr.readText hR
    revert ht
    generalize fs.readText path = r, fs'.readText path = r'
    rintro (⟨rfl | ⟨hb, hb'⟩⟩ | e)
    · refine ⟨?_, hs⟩
      dsimp only
      cases ofText _ with
      | error e => exact .error e
      | ok key => exact .ok trivial
    · dsimp only
      rw [ofText_of_not_blank ((Text.allBlank_trim _).trans hb),
        ofText_of_not_blank ((Text.allBlank_trim _).trans hb')]
      exact ⟨.ok trivial, hs⟩
    · exact ⟨.error _, hs⟩
  · obtain ⟨r, made, made', hm, hm', hmade⟩ := hs.makeParents path
    rw [hm, hm']
    cases r with
    | error e => exact ⟨.error _, hmade⟩
    | ok u =>
      have hc := hmade.create (hS (ofBytes random).text.toUTF8 (ofBytes random').text.toUTF8) 0o600
      dsimp only
      revert hc
      generalize made.create _ _ _ = r, made'.create _ _ _ = r'
      rintro (hleft | e)
      · exact ⟨.ok trivial, hleft⟩
      · exact ⟨.error _, hmade⟩

theorem ofSettings_alike (hσ : σ.SameButKey σ') (ha : σ.Apart)
    (h : Files.Alike σ.SameButSecrets fs fs') (random random' : List UInt8) :
    Result.Alike (fun _ _ => True) (ofSettings σ fs random).1 (ofSettings σ' fs' random').1 ∧
      Files.Alike (SecretStore.KeysKept σ.secretsPath) (ofSettings σ fs random).2
        (ofSettings σ' fs' random').2 := by
  have hs := h.mono (keysKept_of_sameButSecrets ha)
  have hk := hσ.masterKey
  unfold ofSettings
  rw [← hσ.masterKeyPath]
  revert hk
  generalize hx : σ.masterKey = x, σ'.masterKey = x'
  rintro (@⟨k, _, rfl | ⟨hb, hb'⟩⟩ | _)
  · refine ⟨?_, hs⟩
    dsimp only
    cases ofText k with
    | error e => exact .error e
    | ok key => exact .ok trivial
  · dsimp only
    rw [ofText_of_not_blank hb, ofText_of_not_blank hb']
    exact ⟨.ok trivial, hs⟩
  · refine loadOrGenerate_alike h hs ?_ ?_ random random'
    · rintro a b (hab | ⟨he, -⟩ | ⟨-, -, hab⟩ | ⟨-, hne⟩)
      · exact .inl hab
      · exact absurd he (ha hx)
      · exact .inr hab
      · exact absurd rfl (hne hx)
    · exact fun _ _ he => absurd he (ha hx)

end MasterKey

namespace Security

open SecretStore

variable {s s' : Security} {systemId category : String} {entries entries' : List (String × String)}

/-- Security is opened in both runs, with secrets under the same keys, or in neither for the same
reason. -/
theorem ofSettings_alike (hσ : σ.SameButKey σ') (ha : σ.Apart)
    (h : Files.Alike σ.SameButSecrets fs fs') (random random' : List UInt8) :
    Result.Alike (fun s s' => SameNames σ.secretsPath s.store s'.store) (ofSettings σ fs random).1
        (ofSettings σ' fs' random').1 ∧
      Files.Alike (KeysKept σ.secretsPath) (ofSettings σ fs random).2
        (ofSettings σ' fs' random').2 := by
  obtain ⟨hk, hleft⟩ := MasterKey.ofSettings_alike hσ ha h random random'
  unfold ofSettings
  rw [← hσ.secretsPath, ← hσ.defaultAuthType]
  revert hk hleft
  generalize MasterKey.ofSettings σ fs random = x, MasterKey.ofSettings σ' fs' random' = x'
  obtain ⟨r, left⟩ := x
  obtain ⟨r', left'⟩ := x'
  rintro (@⟨key, key', -⟩ | e) hleft
  · refine ⟨?_, hleft⟩
    have ho := ofFile_alike hleft (.ofMasterKey key) (.ofMasterKey key')
    dsimp only
    revert ho
    generalize ofFile left _ _ = r, ofFile left' _ _ = r'
    rintro (hn | e)
    · simp only [Result.ok_bind]
      cases AuthKind.parse σ.defaultAuthType with
      | error tag => exact .error _
      | ok kind => exact .ok hn
    · exact .error e
  · exact ⟨.error e, hleft⟩

/-! ## Storing -/

def keyTexts (systemId category : String) (names : List String) : List String :=
  names.map fun name => SecretKey.text ⟨systemId, category, name⟩

def withEntry (s : Security) (systemId category : String) (nonce : List UInt8)
    (entry : String × String) : Dict String :=
  s.store.secrets.insert (SecretKey.text ⟨systemId, category, entry.1⟩)
    (s.store.encryptor.encrypt nonce entry.2)

section Once

variable {nonces : Nat → List UInt8} {place : Nat} {entry : String × String}
  {rest : List (String × String)}

theorem setSecrets_refused {e : Error} (hk : keyOf systemId category entry.1 = .error e) :
    s.setSecrets fs systemId category nonces place (entry :: rest) = (.error e, s, fs) := by
  simp only [setSecrets, setSecret, SecretStore.set, hk]

theorem setSecrets_accepted
    (hk : keyOf systemId category entry.1 = .ok ⟨systemId, category, entry.1⟩) :
    s.setSecrets fs systemId category nonces place (entry :: rest) =
      match s.store.commit fs (s.withEntry systemId category (nonces place) entry) with
      | (.error e, left) => (.error e, s, left)
      | (.ok store, left) =>
        { s with store }.setSecrets left systemId category nonces (place + 1) rest := by
  simp only [setSecrets, setSecret, SecretStore.set, hk, withEntry]
  generalize s.store.commit _ _ = x
  obtain ⟨_ | _, left⟩ := x <;> rfl

theorem mem_keys_withEntry {k : String} {names : List String} (s : Security) (nonce : List UInt8) :
    k ∈ keyTexts systemId category names ∨
        k ∈ Dict.keys (s.withEntry systemId category nonce entry) ↔
      k ∈ keyTexts systemId category (entry.1 :: names) ∨ k ∈ Dict.keys s.store.secrets := by
  rw [withEntry, Dict.mem_keys_insert, keyTexts, keyTexts, List.map_cons, List.mem_cons,
    or_left_comm, or_assoc]

/-- Secrets are stored, all of them: the store has them beside the ones that it had. -/
def Stores (s : Security) (fs : Files) (path systemId category : String)
    (nonces : Nat → List UInt8) (place : Nat) (entries : List (String × String)) : Prop :=
  ∃ t left, s.setSecrets fs systemId category nonces place entries = (.ok (), t, left) ∧
    t.store.Written path left ∧ ∀ k, k ∈ Dict.keys t.store.secrets ↔
      k ∈ keyTexts systemId category (Dict.keys entries) ∨ k ∈ Dict.keys s.store.secrets

theorem Stores.cons {store : SecretStore}
    (hk : keyOf systemId category entry.1 = .ok ⟨systemId, category, entry.1⟩)
    (hc : s.store.commit fs (s.withEntry systemId category (nonces place) entry) =
      (.ok store, left))
    (hd : store.secrets = s.withEntry systemId category (nonces place) entry)
    (h : Stores { s with store } left path systemId category nonces (place + 1) rest) :
    Stores s fs path systemId category nonces place (entry :: rest) := by
  obtain ⟨t, left', ht, hw, hm⟩ := h
  refine ⟨t, left', ?_, hw, fun k => (hm k).trans ?_⟩
  · rw [setSecrets_accepted hk, hc]
    exact ht
  · rw [hd]
    exact mem_keys_withEntry ..

/-- Once a store was written, everything else is stored. -/
theorem stores_of_written (h : s.store.Written path fs) (hk : ∀ name ∈ Dict.keys entries,
      keyOf systemId category name = .ok ⟨systemId, category, name⟩) (place : Nat) :
    Stores s fs path systemId category nonces place entries := by
  induction entries generalizing s fs place with
  | nil => exact ⟨s, fs, rfl, h, fun k => (or_iff_right List.not_mem_nil).symm⟩
  | cons entry rest ih =>
    obtain ⟨hk, hrest⟩ := List.forall_mem_cons.mp hk
    obtain ⟨left, hc, hw⟩ := h.commit (h.sorted.insert _ _)
    exact .cons hk hc rfl (ih hw hrest (place + 1))

theorem stores_of_replace (hp : s.store.path = some path) (hd : Dict.Sorted s.store.secrets)
    (hk : ∀ name ∈ Dict.keys (entry :: rest),
      keyOf systemId category name = .ok ⟨systemId, category, name⟩)
    (hr : fs.replace path (fileText (s.withEntry systemId category (nonces place) entry)) =
      (.ok (), left)) :
    Stores s fs path systemId category nonces place (entry :: rest) := by
  obtain ⟨hk, hrest⟩ := List.forall_mem_cons.mp hk
  obtain ⟨hc, hw⟩ := written_of_replace hp (hd.insert _ _) hr
  exact .cons hk hc rfl (stores_of_written hw hrest (place + 1))

theorem setSecrets_of_replace_error {e : ReplaceError} (hp : s.store.path = some path)
    (hk : keyOf systemId category entry.1 = .ok ⟨systemId, category, entry.1⟩)
    (hr : fs.replace path (fileText (s.withEntry systemId category (nonces place) entry)) =
      (.error e, left)) :
    s.setSecrets fs systemId category nonces place (entry :: rest) =
      (.error (replaceError path e), s, left) := by
  rw [setSecrets_accepted hk, commit_eq hp, hr]

end Once

/-- Whatever is stored under some names, and in whatever order, the outcome is the same, and so are
the keys in the file. -/
theorem setSecrets_alike (hs : SameNames path s.store s'.store)
    (h : Files.Alike (KeysKept path) fs fs')
    (he : (Dict.keys entries).Perm (Dict.keys entries'))
    (hn : ∀ name ∈ Dict.keys entries, Text.allBlank name = false)
    (nonces nonces' : Nat → List UInt8) (systemId category : String) :
    ∃ r t t' left left', s.setSecrets fs systemId category nonces 0 entries = (r, t, left) ∧
      s'.setSecrets fs' systemId category nonces' 0 entries' = (r, t', left') ∧
      storedKeys left path = storedKeys left' path := by
  rcases entries with _ | ⟨entry, rest⟩ <;> rcases entries' with _ | ⟨entry', rest'⟩
  · exact ⟨_, _, _, _, _, rfl, rfl, storedKeys_eq h⟩
  · exact absurd he.length_eq (by simp [Dict.keys])
  · exact absurd he.length_eq (by simp [Dict.keys])
  have hn' : ∀ name ∈ Dict.keys (entry' :: rest'), Text.allBlank name = false :=
    fun name hm => hn name (he.mem_iff.mpr hm)
  rcases keyOf_cases systemId category with ⟨e, hk⟩ | hk
  · have hr := hk entry.1 (hn _ List.mem_cons_self)
    have hr' := hk entry'.1 (hn' _ List.mem_cons_self)
    exact ⟨_, _, _, _, _, setSecrets_refused hr, setSecrets_refused hr', storedKeys_eq h⟩
  have hok := fun name hm => hk name (hn name hm)
  have hok' := fun name hm => hk name (hn' name hm)
  -- whether the first secret can be stored decides about them all
  rcases h.replace (fileText (s.withEntry systemId category (nonces 0) entry))
      (fileText (s'.withEntry systemId category (nonces' 0) entry'))
      (fun hne he => absurd he hne) with
    ⟨_, _, hr, hr'⟩ | ⟨e, _, _, hr, hr', hleft⟩
  · obtain ⟨t, left, ht, hw, hm⟩ := stores_of_replace hs.copy hs.sorted hok hr
    obtain ⟨t', left', ht', hw', hm'⟩ := stores_of_replace hs.copy' hs.sorted' hok' hr'
    refine ⟨_, _, _, _, _, ht, ht', ?_⟩
    rw [hw.storedKeys_eq, hw'.storedKeys_eq, hw.sorted.keys_eq hw'.sorted fun k => ?_]
    rw [hm, hm', hs.keys, keyTexts, keyTexts, (he.map _).mem_iff]
  · exact ⟨_, _, _, _, _, setSecrets_of_replace_error hs.copy (hok _ List.mem_cons_self) hr,
      setSecrets_of_replace_error hs.copy' (hok' _ List.mem_cons_self) hr', storedKeys_eq hleft⟩

/-- Credentials are stored with the same outcome, and with the same keys in the file. -/
theorem storeCredentials_alike (hs : SameNames path s.store s'.store)
    (h : Files.Alike (KeysKept path) fs fs')
    (he : (Dict.keys entries).Perm (Dict.keys entries'))
    (hn : ∀ name ∈ Dict.keys entries, Text.allBlank name = false)
    (nonces nonces' : Nat → List UInt8) (systemId : String) :
    ∃ r t t' left left', s.storeCredentials fs nonces systemId entries = (r, t, left) ∧
      s'.storeCredentials fs' nonces' systemId entries' = (r, t', left') ∧
      storedKeys left path = storedKeys left' path := by
  obtain ⟨r, t, t', left, left', ht, ht', hk⟩ :=
    setSecrets_alike hs h he hn nonces nonces' systemId SecretKey.authCategory
  have hempty : entries'.isEmpty = entries.isEmpty := by
    have hl := he.length_eq
    rw [Dict.keys, Dict.keys, List.length_map, List.length_map] at hl
    rw [Bool.eq_iff_iff, List.isEmpty_iff_length_eq_zero, List.isEmpty_iff_length_eq_zero, hl]
  simp only [storeCredentials, ht, ht', hempty]
  exact ⟨_, _, _, _, _, rfl, rfl, hk⟩

end Security
end Interchange
