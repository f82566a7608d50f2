import Interchange.Proofs.Files.Stopped
import Interchange.Secret.Store
import Interchange.System.Registry

/-! # Maps that are kept in a file

The stored secrets and the registered systems are changed in one and the same way: the change is
refused, or nothing needs to be changed, or the file is replaced and the memory follows it.
-/

namespace Interchange

/-- What a change does with the files, whatever is in them: nothing; or it replaces the file of the
map, under some faults, and it fails exactly if that does. The changed map has the same file. -/
inductive Files.Writes {α : Type} (file? : α → Option String) (path? : Option String)
    (faults : ReplaceFaults) (f : Files → Result α × Files) : Prop
  | apart (r : Result α) : (∀ a, r = .ok a → file? a = path?) → (∀ fs, f fs = (r, fs)) →
      Files.Writes file? path? faults f
  | replaces (path text : String) (err : ReplaceError → Error) (a : α) : path? = some path →
      file? a = path? →
      (∀ fs, f fs = match fs.replace path text faults with
        | (.error e, left) => (.error (err e), left)
        | (.ok _, left) => (.ok a, left)) → Files.Writes file? path? faults f

variable {faults : ReplaceFaults}

theorem Files.writes_refused {α : Type} {file? : α → Option String} {path? : Option String}
    {f : Files → Result α × Files} {e : Error} (h : ∀ fs, f fs = (.error e, fs)) :
    Files.Writes file? path? faults f :=
  .apart (.error e) nofun h

theorem Files.Writes.map {α β : Type} {file? : α → Option String} {path? : Option String}
    {f : Files → Result α × Files} {k : Files → Result β × Files} {b : β → Option String}
    (h : Files.Writes file? path? faults f) (c : α → β) (hb : ∀ a, b (c a) = file? a)
    (hk : ∀ fs, k fs = match f fs with
      | (.error e, left) => (.error e, left)
      | (.ok a, left) => (.ok (c a), left)) : Files.Writes b path? faults k := by
  cases h with
  | apart r hr hf =>
    cases r with
    | error e => exact writes_refused fun fs => by rw [hk, hf]
    | ok a =>
      refine .apart (.ok (c a)) ?_ fun fs => by rw [hk, hf]
      rintro _ ⟨⟩
      exact (hb a).trans (hr a rfl)
  | replaces path text err a hp ha hf =>
    refine .replaces path text err (c a) hp ((hb a).trans ha) fun fs => ?_
    rw [hk, hf]
    rcases fs.replace path text faults with ⟨_ | _, left⟩ <;> rfl

/-! ## Secrets -/

namespace SecretStore

variable {fs fs' : Files} {path : String}

theorem writes_commit (s : SecretStore) (secrets : Dict String) (faults : ReplaceFaults) :
    Files.Writes SecretStore.path s.path faults fun fs => s.commit fs secrets faults := by
  cases hp : s.path with
  | none =>
    refine .apart (.ok { s with secrets }) ?_ fun fs => by simp only [commit, hp]
    rintro _ ⟨⟩
    exact hp
  | some path =>
    refine .replaces path (fileText secrets) (replaceError path) { s with secrets } rfl hp
      fun fs => ?_
    rcases hr : fs.replace path (fileText secrets) faults with ⟨_ | _, left⟩ <;>
      simp only [commit, hp, hr]

theorem writes_set (s : SecretStore) (nonce : List UInt8) (systemId category name secret : String)
    (faults : ReplaceFaults) : Files.Writes SecretStore.path s.path faults
      fun fs => s.set fs nonce systemId category name secret faults := by
  rcases hk : keyOf systemId category name with e | k
  · exact Files.writes_refused (e := e) fun fs => by simp only [set, hk]
  · simpa only [set, hk] using s.writes_commit _ faults

theorem writes_delete (s : SecretStore) (systemId category name : String)
    (faults : ReplaceFaults) : Files.Writes (fun x => x.2.path) s.path faults
      fun fs => s.delete fs systemId category name faults := by
  rcases hk : keyOf systemId category name with e | k
  · exact Files.writes_refused (e := e) fun fs => by simp only [delete, hk]
  · by_cases hc : s.secrets.contains k.text
    · refine (s.writes_commit (s.secrets.erase k.text) faults).map (fun s => (true, s))
        (fun _ => rfl) fun fs => ?_
      rcases hs : s.commit fs (s.secrets.erase k.text) faults with ⟨_ | _, left⟩ <;>
        simp only [delete, hk, hc, hs, if_true]
    · refine .apart (.ok (false, s)) ?_ fun fs => by simp only [delete, hk, hc]; rfl
      rintro _ ⟨⟩
      rfl

theorem ofFile_congr (h : fs'.find path = fs.find path) (e : Encryptor) :
    ofFile fs' path e = ofFile fs path e := by
  rw [ofFile, ofFile, Files.readText_congr h]

theorem path_of_ofFile {s : SecretStore} {e : Encryptor} (h : ofFile fs path e = .ok s) :
    s.path = some path := by
  unfold ofFile at h
  split at h
  · cases h
    rfl
  · cases h
  · split at h
    · cases h
    · cases h
      rfl

end SecretStore

/-! ## Systems -/

namespace Registry

variable {fs fs' : Files} {path : String}

theorem writes_commit (r : Registry) (systems : Dict SystemConfig) (faults : ReplaceFaults) :
    Files.Writes Registry.path r.path faults fun fs => r.commit fs systems faults := by
  cases hp : r.path with
  | none =>
    refine .apart (.ok { r with systems }) ?_ fun fs => by simp only [commit, hp]
    rintro _ ⟨⟩
    exact hp
  | some path =>
    refine .replaces path (fileText systems) (fun e => .files e.cause.message)
      { r with systems } rfl hp fun fs => ?_
    rcases hr : fs.replace path (fileText systems) faults with ⟨_ | _, left⟩ <;>
      simp only [commit, hp, hr]

theorem writes_register (r : Registry) (c : SystemConfig) (faults : ReplaceFaults) :
    Files.Writes Registry.path r.path faults fun fs => r.register fs c faults := by
  rcases hc : check c with e | _
  · exact Files.writes_refused (e := e) fun fs => by simp only [register, hc]
  · by_cases hs : r.systems.contains c.systemId
    · exact Files.writes_refused fun fs => by simp only [register, hc, hs, if_true]; rfl
    · simpa only [register, hc, hs, Bool.false_eq_true, if_false] using r.writes_commit _ faults

theorem writes_update (r : Registry) (c : SystemConfig) (faults : ReplaceFaults) :
    Files.Writes Registry.path r.path faults fun fs => r.update fs c faults := by
  rcases hc : check c with e | _
  · exact Files.writes_refused (e := e) fun fs => by simp only [update, hc]
  · by_cases hs : r.systems.contains c.systemId
    · simpa only [update, hc, hs, if_true] using r.writes_commit _ faults
    · exact Files.writes_refused fun fs => by simp only [update, hc, hs]; rfl

theorem writes_unregister (r : Registry) (systemId : String) (faults : ReplaceFaults) :
    Files.Writes (fun x => x.2.path) r.path faults fun fs => r.unregister fs systemId faults := by
  by_cases hs : r.systems.contains systemId
  · refine (r.writes_commit (r.systems.erase systemId) faults).map (fun r => (true, r))
      (fun _ => rfl) fun fs => ?_
    rcases hr : r.commit fs (r.systems.erase systemId) faults with ⟨_ | _, left⟩ <;>
      simp only [unregister, hs, hr, if_true]
  · refine .apart (.ok (false, r)) ?_ fun fs => by simp only [unregister, hs]; rfl
    rintro _ ⟨⟩
    rfl

theorem ofFile_congr (h : fs'.find path = fs.find path) : ofFile fs' path = ofFile fs path := by
  rw [ofFile, ofFile, Files.readText_congr h]

theorem path_of_ofFile {r : Registry} (h : ofFile fs path = .ok r) : r.path = some path := by
  unfold ofFile at h
  split at h
  · cases h
    rfl
  · cases h
  · split at h
    · cases h
    · split at h
      · cases h
      · cases h
        rfl

end Registry

end Interchange
