import Interchange.Proofs.CommandLine.Written
import Interchange.Proofs.Files.Stopped
import Interchange.Proofs.Security.Names

/-! # Making settings

Settings are written with the path of the master key, and the key is read or made. The settings can
be loaded again, with that path and that key, exactly if the path means only itself in their text.
-/

namespace Interchange

variable {fs left : Files} {path output : String} {random : List UInt8} {key : MasterKey}

/-! ## The master key -/

namespace Files

variable {content : ByteArray} {mode : Nat}

/-- A file that is made is found, and everything else stays as it was. -/
theorem grows_of_create (h : fs.create path content mode = .ok left) :
    Grows fs left ∧ ∃ mode, left.find path = .ok (.file content mode) := by
  unfold create at h
  split at h
  · cases h
  next hh =>
  obtain ⟨hw, mode, rfl⟩ := put_eq_ok h
  refine ⟨grows_insert ?_ _, mode, hw.find_insert content mode⟩
  cases hn : fs.node? (Path.normal path) with
  | none => rfl
  | some node =>
    cases node with
    | directory => exact absurd hn hw.node
    | file old mode =>
      have hf := find_eq_file_iff.mpr ⟨hw.ne_empty, hw.walk, hw.inside, hn⟩
      rw [has, hf] at hh
      exact absurd rfl hh

end Files

namespace MasterKey

open Files

/-- A key is read and nothing is changed, or it is made in a file. -/
theorem loadOrGenerate_cases (h : loadOrGenerate fs path random = (.ok key, left)) :
    left = fs ∧ fs.has path = true ∨ key = ofBytes random ∧ Grows fs left ∧
      ∃ mode, left.find path = .ok (.file key.text.toUTF8 mode) := by
  unfold loadOrGenerate at h
  split at h
  · next hh =>
    split at h
    · cases h
    · exact .inl ⟨(congrArg Prod.snd h).symm, hh⟩
  · split at h
    · cases h
    · next made hm =>
      dsimp only at h
      split at h
      · cases h
      · next hc =>
        cases h
        obtain ⟨hg, hf⟩ := grows_of_create hc
        have hp := grows_makeParents fs path none
        rw [hm] at hp
        exact .inr ⟨rfl, fun k n hn => hg k n (hp k n hn), hf⟩

theorem ofText_ofBytes (hr : random ≠ []) :
    ofText (Text.trim (ofBytes random).text) = .ok (ofBytes random) := by
  have hb := Base64.not_isBlank_of_mem_encode random
  have ht : Text.trim (ofBytes random).text = (ofBytes random).text := by
    rw [ofBytes, Text.trim, String.toList_ofList, Text.trimmed_of_not_blank hb]
  obtain ⟨x, bs, rfl⟩ := List.exists_cons_of_ne_nil hr
  obtain ⟨c, cs, hc⟩ := List.exists_cons_of_ne_nil (Base64.encode_ne_nil x bs)
  rw [ht, ofText_of_not_blank]
  rw [ofBytes, Text.allBlank, String.toList_ofList, hc, List.all_cons,
    hb c (hc ▸ List.mem_cons_self), Bool.false_and]

/-- A key that was read or made is read again. -/
theorem loadOrGenerate_again (hr : random ≠ [])
    (h : loadOrGenerate fs path random = (.ok key, left)) (random' : List UInt8) :
    loadOrGenerate left path random' = (.ok key, left) := by
  rcases loadOrGenerate_cases h with ⟨rfl, hh⟩ | ⟨rfl, -, mode, hf⟩
  · unfold loadOrGenerate at h ⊢
    rw [if_pos hh] at h ⊢
    exact h
  · have ht : left.readText path = .ok (ofBytes random).text :=
      readText_eq_ok_iff.mpr ⟨_, mode, hf, fromUTF8?_toUTF8 _⟩
    have hh : left.has path = true := by
      rw [has, hf]
      rfl
    rw [loadOrGenerate, if_pos hh, ht]
    dsimp only
    rw [ofText_ofBytes hr]

end MasterKey

/-! ## Programs on files -/

namespace CommandLine

open Printing

section Ends

variable {α β : Type} {Q : Except Stop α → Files → Prop}

/-- How a program ends on files, and what it leaves there, whatever has been printed before. -/
def Ends (Q : Except Stop α → Files → Prop) (fs : Files) (p : Printing α) : Prop :=
  ∀ lines, Q (p.run.run ⟨lines, fs⟩).1 (p.run.run ⟨lines, fs⟩).2.files

theorem ends_pure {a : α} (h : Q (.ok a) fs) : Ends Q fs (pure a) := fun _ => h

theorem ends_line {f : Unit → Printing α} {s : String} (h : Ends Q fs (f ())) :
    Ends Q fs (line s >>= f) := fun _ => h _

theorem ends_blank {f : Unit → Printing α} (h : Ends Q fs (f ())) : Ends Q fs (blank >>= f) :=
  fun _ => h _

theorem ends_complaint {f : Unit → Printing α} {part reason : String} (h : Ends Q fs (f ())) :
    Ends Q fs (complaint part reason >>= f) := fun _ => h _

theorem ends_exit {f : β → Printing α} {n : Nat} (h : Q (.error (.exit n)) fs) :
    Ends Q fs (exit n >>= f) := fun _ => h

theorem ends_files {f : Files → Printing α} (h : Ends Q fs (f fs)) : Ends Q fs (files >>= f) :=
  fun _ => h _

theorem ends_change {g : Files → Result β × Files} {f : Result β → Printing α}
    (h : Ends Q (g fs).2 (f (g fs).1)) : Ends Q fs (change g >>= f) := fun _ => h _

theorem ends_modify {f : Unit → Printing α} (h : Ends Q left (f ())) :
    Ends Q fs ((modify fun c => { c with files := left }) >>= f) := fun _ => h _

/-- What holds of all ways to end well holds if a program has exited with 0. -/
theorem files_of_exit {P : Files → Prop} {p : Printing Nat} {c : Console}
    (hp : Ends (fun r left => r = .ok 0 ∨ r = .error (.exit 0) → P left) fs p)
    (h : p.onFiles fs = (.ok 0, c)) : P c.files := by
  have hp := hp []
  unfold onFiles at h
  revert hp h
  generalize p.run.run _ = x
  obtain ⟨r, c'⟩ := x
  rcases r with (n | f) | n
  · intro h hp
    cases h
    exact hp (.inr rfl)
  · exact nofun
  · intro h hp
    cases h
    exact hp (.inl rfl)

end Ends

/-! ## Making settings -/

variable {s : Surroundings} {given : Option String} {force : Bool} {c : Console}
  {env : Environment}

def keyPath (given : Option String) : String := given.getD ({} : SecuritySettings).masterKeyPath

theorem ends_init (s : Surroundings) (output : String) (given : Option String) (force : Bool)
    (fs : Files) : Ends (fun r left => r = .ok 0 ∨ r = .error (.exit 0) →
      ∃ mid key, fs.writeText output (settingsText (keyPath given)) = .ok mid ∧
        MasterKey.loadOrGenerate mid (keyPath given) s.random.masterKey = (.ok key, left))
      fs (init s output given force) := by
  unfold init
  refine ends_line (ends_blank (ends_files ?_))
  split
  · exact ends_line (ends_line (ends_exit nofun))
  · refine ends_files ?_
    dsimp only
    split
    · exact ends_complaint (ends_exit nofun)
    · next mid hm =>
      refine ends_modify (ends_line (ends_files (ends_change ?_)))
      split
      · exact ends_complaint (ends_exit nofun)
      · next key hk =>
        refine ends_line (ends_blank (ends_line (ends_line (ends_line (ends_line (ends_line
          (ends_blank (ends_pure fun _ => ?_))))))))
        exact ⟨mid, key, hm, Prod.ext hk rfl⟩

theorem made_of_init (h : (init s output given force).onFiles fs = (.ok 0, c)) :
    ∃ mid key, fs.writeText output (settingsText (keyPath given)) = .ok mid ∧
      MasterKey.loadOrGenerate mid (keyPath given) s.random.masterKey = (.ok key, c.files) :=
  files_of_exit (ends_init s output given force fs) h

/-- Settings that name a path of the master key, and with which security is opened with a certain
key. -/
structure Opens (σ : Settings) (fs : Files) (path : String) (key : MasterKey) : Prop where
  masterKeyPath : σ.security.masterKeyPath = path
  masterKey : ∀ random, MasterKey.ofSettings σ.security fs random = (.ok key, fs)
  store : ∀ random, (Security.ofSettings σ.security fs random).1.map (·.store) =
    SecretStore.ofFile fs σ.security.secretsPath (.ofMasterKey key)

theorem load_of_made {mid : Files} (hw : fs.writeText output (settingsText path) = .ok mid)
    (hk : MasterKey.loadOrGenerate mid path random = (.ok key, left)) (env : Environment) :
    Settings.load left env output = Settings.read env (settingsText path) := by
  obtain ⟨hwrite, mode, rfl⟩ := Files.put_eq_ok hw
  have hm := hwrite.find_insert (settingsText path).toUTF8 mode
  have hf : left.find output = .ok (.file (settingsText path).toUTF8 mode) := by
    rcases MasterKey.loadOrGenerate_cases hk with ⟨rfl, -⟩ | ⟨-, hg, -⟩
    · exact hm
    · rw [hg.find_eq (by rw [hm]; nofun), hm]
  have ht : left.readText output = .ok (settingsText path) :=
    Files.readText_eq_ok_iff.mpr ⟨_, mode, hf, Files.fromUTF8?_toUTF8 _⟩
  have hh : left.has output = true := by
    rw [Files.has, hf]
    rfl
  rw [Settings.load, if_pos hh, ht]

theorem opens_of_key (h : ∀ random, MasterKey.loadOrGenerate fs path random = (.ok key, fs)) :
    Opens { security.masterKeyPath := path } fs path key where
  masterKeyPath := rfl
  masterKey := h
  store := by
    intro random
    have hk : MasterKey.ofSettings { masterKeyPath := path } fs random = (.ok key, fs) := h random
    have ha : AuthKind.parse ({} : SecuritySettings).defaultAuthType = .ok .oauth2 := by
      decide +kernel
    rw [Security.ofSettings, hk]
    dsimp only
    rw [ha]
    cases SecretStore.ofFile fs ({} : SecuritySettings).secretsPath (.ofMasterKey key) <;> rfl

/-- Settings that have been made can be loaded, with the path and the key that they were made with,
exactly if the path means only itself in their text. -/
theorem init_reloads_iff (hr : s.random.masterKey.length = MasterKey.length)
    (h : (init s output given force).onFiles fs = (.ok 0, c)) :
    ∃ mid key, fs.writeText output (settingsText (keyPath given)) = .ok mid ∧
      MasterKey.loadOrGenerate mid (keyPath given) s.random.masterKey = (.ok key, c.files) ∧
      ((∀ env : Environment, (∀ name ∈ Settings.overridingVariables, Dict.get? env name = none) →
          ∃ σ, Settings.load c.files env output = .ok σ ∧ Opens σ c.files (keyPath given) key) ↔
        Carried (keyPath given)) := by
  obtain ⟨mid, key, hm, hk⟩ := made_of_init h
  refine ⟨mid, key, hm, hk, fun ha => ?_, fun hc env he => ?_⟩
  · -- the environment in which nothing is set shows what the path means
    obtain ⟨σ, hσ, ho⟩ := ha [] fun _ _ => rfl
    rw [load_of_made hm hk] at hσ
    exact carried_of_read hσ ho.masterKeyPath
  · have hne : s.random.masterKey ≠ [] := fun hn => by rw [hn] at hr; cases hr
    refine ⟨_, (load_of_made hm hk env).trans (read_of_carried hc he), opens_of_key ?_⟩
    exact MasterKey.loadOrGenerate_again hne hk

def sameBytes : Surroundings := ⟨[], fun _ => List.replicate 32 7⟩

theorem carried_of_no_dollar (hb : Text.allBlank path = false)
    (hv : path.toList.all (fun c => Toml.Verbatim c) = true) (hd : '$' ∉ path.toList) :
    Carried path where
  not_blank := hb
  verbatim := fun c hc => of_decide_eq_true (List.all_eq_true.mp hv c hc)
  no_reference := fun _ _ hi => hd (hi.subset List.mem_cons_self)

theorem init_reloads_default :
    ((init sameBytes "switchyard.toml" none false).onFiles {}).1 = .ok 0 ∧
      ∃ key, ∀ env : Environment,
        (∀ name ∈ Settings.overridingVariables, Dict.get? env name = none) →
        ∃ σ, Settings.load ((init sameBytes "switchyard.toml" none false).onFiles {}).2.files env
            "switchyard.toml" = .ok σ ∧
          Opens σ ((init sameBytes "switchyard.toml" none false).onFiles {}).2.files
            ".switchyard/master.key" key := by
  have h : (init sameBytes "switchyard.toml" none false).onFiles {} =
      (.ok 0, ((init sameBytes "switchyard.toml" none false).onFiles {}).2) :=
    Prod.ext (by decide +kernel) rfl
  obtain ⟨-, key, -, -, hiff⟩ := init_reloads_iff (by decide) h
  refine ⟨congrArg Prod.fst h, key, hiff.mpr ?_⟩
  exact carried_of_no_dollar (by decide +kernel) (by decide +kernel) (by decide +kernel)

/-- Settings are made with a quote in the path of the master key, and cannot be loaded with it. -/
theorem quote_not_reloaded :
    ((init sameBytes "switchyard.toml" (some "a\"b") false).onFiles {}).1 = .ok 0 ∧
      ∀ σ, Settings.load ((init sameBytes "switchyard.toml" (some "a\"b") false).onFiles {}).2.files
        [] "switchyard.toml" = .ok σ → σ.security.masterKeyPath ≠ "a\"b" := by
  have h : (init sameBytes "switchyard.toml" (some "a\"b") false).onFiles {} =
      (.ok 0, ((init sameBytes "switchyard.toml" (some "a\"b") false).onFiles {}).2) :=
    Prod.ext (by decide +kernel) rfl
  obtain ⟨mid, key, hm, hk⟩ := made_of_init h
  refine ⟨congrArg Prod.fst h, fun σ hσ hp => ?_⟩
  rw [load_of_made hm hk] at hσ
  exact absurd ((carried_of_read hσ hp).verbatim '"' (by decide +kernel)) (by decide)

end CommandLine
end Interchange
