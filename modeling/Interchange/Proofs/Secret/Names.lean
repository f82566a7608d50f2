import Interchange.Proofs.Files.Alike
import Interchange.Proofs.Secret.Durable

/-! # The names of stored secrets

Two stores with secrets under the same keys, in trees whose files hold secrets under the same keys:
the sealed texts show in nothing that is said about keys. A store that was written once can be
written again and again.
-/

namespace Interchange
namespace SecretStore

variable {s s' : SecretStore} {fs fs' left : Files} {path text systemId category name : String}
  {d : Dict String}

/-! ## Keys in a file -/

/-- Two texts hold sealed secrets under the same keys. -/
def SameKeys (text text' : String) : Prop :=
  ∃ d d', readSecrets? text = some d ∧ readSecrets? text' = some d' ∧ Dict.keys d = Dict.keys d'

/-- The keys under which a file holds sealed secrets, unless it holds something else. -/
def storedKeys (fs : Files) (path : String) : Except FileError (Option (List String)) :=
  (fs.readText path).map fun text => (readSecrets? text).map Dict.keys

/-- Only the file of a store matters, and there only the keys do. -/
def KeysKept (path key : String) (a b : ByteArray) : Prop :=
  key = Path.normal path → a = b ∨ Files.Texts SameKeys a b

theorem sorted_of_readSecrets? (h : readSecrets? text = some d) : Dict.Sorted d := by
  unfold readSecrets? at h
  split at h
  · cases h
    exact Dict.sorted_nil
  · obtain ⟨v, -, hd⟩ := Option.bind_eq_some_iff.mp h
    exact Json.Decode.sorted_of_dict hd

theorem readText_of_keysKept (h : Files.Alike (KeysKept path) fs fs') :
    Result.Alike (fun t t' => t = t' ∨ SameKeys t t') (fs.readText path) (fs'.readText path) :=
  h.readText fun _ _ hk => hk rfl

theorem storedKeys_eq (h : Files.Alike (KeysKept path) fs fs') :
    storedKeys fs path = storedKeys fs' path := by
  have ht := readText_of_keysKept h
  unfold storedKeys
  revert ht
  generalize fs.readText path = r, fs'.readText path = r'
  rintro (⟨rfl | ⟨d, d', hd, hd', hk⟩⟩ | e)
  · rfl
  · simp only [Except.map, hd, hd', Option.map_some, hk]
  · rfl

/-- Two stores have their copies in one file, and secrets under the same keys. -/
structure SameNames (path : String) (s s' : SecretStore) : Prop where
  copy : s.path = some path
  copy' : s'.path = some path
  sorted : Dict.Sorted s.secrets
  sorted' : Dict.Sorted s'.secrets
  keys : Dict.keys s.secrets = Dict.keys s'.secrets

theorem SameNames.keys_eq (h : SameNames path s s') (start : String) :
    s.keys start = s'.keys start := by
  rw [SecretStore.keys, SecretStore.keys, h.keys]

/-- Whatever seals the secrets, a store is opened with the same keys or is not opened for the same
reason. -/
theorem ofFile_alike (h : Files.Alike (KeysKept path) fs fs') (e e' : Encryptor) :
    Result.Alike (SameNames path) (ofFile fs path e) (ofFile fs' path e') := by
  have ht := readText_of_keysKept h
  unfold ofFile
  revert ht
  generalize fs.readText path = r, fs'.readText path = r'
  rintro (@⟨text, _, rfl | ⟨d, d', hd, hd', hk⟩⟩ | x)
  · dsimp only
    cases hd : readSecrets? text with
    | none => exact .error _
    | some d =>
      have hs := sorted_of_readSecrets? hd
      exact .ok ⟨rfl, rfl, hs, hs, rfl⟩
  · simp only [hd, hd']
    exact .ok ⟨rfl, rfl, sorted_of_readSecrets? hd, sorted_of_readSecrets? hd', hk⟩
  · cases x with
    | notFound => exact .ok ⟨rfl, rfl, Dict.sorted_nil, Dict.sorted_nil, rfl⟩
    | _ => exact .error _

/-! ## Names that are refused -/

/-- Whether a key is accepted does not depend on its name, as long as that is not blank. -/
theorem keyOf_cases (systemId category : String) :
    (∃ e, ∀ name, Text.allBlank name = false → keyOf systemId category name = .error e) ∨
      ∀ name, Text.allBlank name = false →
        keyOf systemId category name = .ok ⟨systemId, category, name⟩ := by
  unfold keyOf SecretKey.make
  by_cases hs : Text.allBlank systemId
  · exact .inl ⟨_, fun name _ => by rw [if_pos hs]⟩
  by_cases hc : Text.allBlank category
  · exact .inl ⟨_, fun name _ => by rw [if_neg hs, if_pos hc]⟩
  by_cases hcolon : systemId.toList.contains ':' ∨ category.toList.contains ':'
  · refine .inl ⟨.validation (SecretKey.Problem.colon systemId category).message, fun name hn => ?_⟩
    rw [if_neg hs, if_neg hc, if_neg (Bool.eq_false_iff.mp hn), if_pos hcolon]
  · refine .inr fun name hn => ?_
    rw [if_neg hs, if_neg hc, if_neg (Bool.eq_false_iff.mp hn), if_neg hcolon]

/-! ## Writing again and again -/

/-- The file of a store holds its secrets and can be replaced. -/
structure Written (path : String) (s : SecretStore) (fs : Files) : Prop where
  copy : s.path = some path
  sorted : Dict.Sorted s.secrets
  text : fs.readText path = .ok (fileText s.secrets)
  again : ∀ text, ∃ left, fs.replace path text = (.ok (), left)

theorem Written.storedKeys_eq (h : Written path s fs) :
    storedKeys fs path = .ok (some (Dict.keys s.secrets)) := by
  rw [storedKeys, h.text, Except.map, readSecrets?_fileText h.sorted, Option.map_some]

theorem commit_eq (hp : s.path = some path) (fs : Files) (d : Dict String)
    {faults : ReplaceFaults} : s.commit fs d faults =
    match fs.replace path (fileText d) faults with
    | (.error e, left) => (.error (replaceError path e), left)
    | (.ok _, left) => (.ok { s with secrets := d }, left) := by
  unfold commit
  split
  · next hn => cases hp.symm.trans hn
  · next hs =>
    cases hp.symm.trans hs
    rfl

theorem written_of_replace (hp : s.path = some path) (hd : Dict.Sorted d)
    (hr : fs.replace path (fileText d) = (.ok (), left)) :
    s.commit fs d = (.ok { s with secrets := d }, left) ∧
      Written path { s with secrets := d } left := by
  rw [commit_eq hp, hr]
  exact ⟨rfl, hp, hd, Files.readText_of_replace hr, Files.replace_again hr⟩

theorem Written.commit (h : Written path s fs) (hd : Dict.Sorted d) :
    ∃ left, s.commit fs d = (.ok { s with secrets := d }, left) ∧
      Written path { s with secrets := d } left :=
  have ⟨left, hr⟩ := h.again (fileText d)
  ⟨left, written_of_replace h.copy hd hr⟩

end SecretStore
end Interchange
