import Interchange.Proofs.Files.Tree

/-! # Replacing a file

What writing and renaming come to, with and without faults, and the ways that replacing a file can
go. Main statement: a file that is replaced holds its new text.
-/

namespace Interchange
namespace Files

open Interchange.Path

variable {fs fs' : Files} {path source target text : String} {content : ByteArray} {mode : Nat}

/-! ## Writing -/

/-- Where a file can be written: the way is there, and nothing but a file is in its place. -/
structure Writable (fs : Files) (path : String) : Prop where
  walk : fs.walk [] (written path) = .ok ()
  inside : endsInside path = false
  node : fs.node? (normal path) ≠ some .directory

theorem Writable.ne_empty (h : Writable fs path) : path ≠ "" := by
  rintro rfl
  exact absurd h.inside (by decide)

/-- What is put in a place where a file can be written is found there. -/
theorem Writable.find_insert (h : Writable fs path) (content : ByteArray) (mode : Nat) :
    (Files.mk (fs.nodes.insert (normal path) (.file content mode))).find path =
      .ok (.file content mode) :=
  find_eq_file_iff.mpr ⟨h.ne_empty, walk_mono (under_insert h.node _) h.walk, h.inside,
    node?_insert_self h.node _⟩

theorem writable_of_find (h : fs.find path = .ok (.file content mode)) : Writable fs path := by
  obtain ⟨-, hw, he, hn⟩ := find_eq_file_iff.mp h
  exact ⟨hw, he, by simp [hn]⟩

theorem writable_of_notFound (hf : fs.find path = .error .notFound)
    (hw : fs.walk [] (written path) = .ok ()) (he : endsInside path = false) :
    Writable fs path := by
  rcases find_eq_notFound_iff.mp hf with rfl | hw' | ⟨-, hn⟩
  · exact absurd he (by decide)
  · rw [hw] at hw'
    cases hw'
  · exact ⟨hw, he, ne_directory_of_none hn⟩

theorem put_eq_ok (h : fs.put path content mode = .ok fs') :
    Writable fs path ∧
      ∃ mode, fs' = Files.mk (fs.nodes.insert (normal path) (.file content mode)) := by
  unfold put at h
  split at h
  · cases h
  · next hf =>
    cases h
    exact ⟨writable_of_find hf, _, rfl⟩
  · next hf =>
    by_cases hp : path = ""
    · simp only [hp, if_true] at h
      cases h
    simp only [hp, if_false] at h
    cases hw : fs.walk [] (written path) with
    | error e =>
      rw [hw] at h
      cases h
    | ok u =>
      rw [hw] at h
      by_cases he : endsInside path = true
      · simp only [he, if_true] at h
        cases h
      · simp only [he] at h
        cases h
        exact ⟨writable_of_notFound hf hw (Bool.eq_false_iff.mpr he), _, rfl⟩
  · cases h

/-- Whether a file can be written, and in which mode, does not depend on what is written. -/
theorem Writable.put (h : Writable fs path) (mode : Nat) : ∃ mode', ∀ content,
    fs.put path content mode =
      .ok (Files.mk (fs.nodes.insert (normal path) (.file content mode'))) := by
  have hfind := find_eq fs path
  rw [if_neg h.ne_empty, h.walk] at hfind
  unfold Files.put
  rcases hn : fs.node? (normal path) with _ | _ | ⟨_, old⟩
  · rw [hfind, hn]
    simp only [h.ne_empty, h.walk, h.inside, if_false]
    exact ⟨mode, fun _ => rfl⟩
  · exact absurd hn h.node
  · rw [hfind, hn]
    simp only [h.inside]
    exact ⟨old, fun _ => rfl⟩

/-- What is written to the end met no fault. -/
theorem write_eq_ok {fault : Option FileFault}
    (h : fs.write path content mode fault = (.ok (), fs')) :
    fault = none ∧ fs.put path content mode = .ok fs' := by
  unfold write at h
  split at h
  · split at h
    · cases h
    · next hp =>
      cases h
      exact ⟨rfl, hp⟩
  · cases h
  · split at h <;> cases h

/-- What is not written to the end is not there at all, or in part. -/
theorem write_eq_error {fault : Option FileFault} {e : FileError}
    (h : fs.write path content mode fault = (.error e, fs')) :
    fs' = fs ∨ ∃ n, fs.put path (content.extract 0 n) mode = .ok fs' := by
  unfold write at h
  split at h
  · split at h
    · cases h
      exact .inl rfl
    · cases h
  · cases h
    exact .inl rfl
  · split at h
    · cases h
      exact .inl rfl
    · next hp =>
      cases h
      exact .inr ⟨_, hp⟩

/-! ## Renaming -/

theorem node?_erase {key : String} (h : fs.node? key ≠ some .directory) (key' : String) :
    (Files.mk (fs.nodes.erase key)).node? key' = if key = key' then none else fs.node? key' := by
  by_cases h' : key' = ""
  · subst h'
    rw [if_neg (ne_empty_of_node? h)]
    rfl
  · simp only [node?, if_neg h', Dict.get?_erase]

theorem under_erase {key : String} (h : fs.node? key ≠ some .directory) :
    Under fs (Files.mk (fs.nodes.erase key)) := by
  intro key' hk'
  have hne : key ≠ key' := fun he => h (he ▸ hk')
  rw [node?_erase h, if_neg hne, hk']

theorem rename_eq_ok {fault : Option FileError} (h : fs.rename source target fault = .ok fs') :
    fault = none ∧ ∃ content mode, fs.find source = .ok (.file content mode) ∧ Writable fs target ∧
      fs' = Files.mk ((fs.nodes.erase (normal source)).insert (normal target)
        (.file content mode)) := by
  cases fault with
  | some cause => cases h
  | none => ?_
  refine ⟨rfl, ?_⟩
  unfold rename at h
  rcases hs : fs.find source with e | _ | ⟨content, mode⟩
  · rw [hs] at h
    cases h
  · rw [hs] at h
    cases h
  · refine ⟨content, mode, rfl, ?_⟩
    rw [hs] at h
    rcases ht : fs.find target with e | _ | ⟨c, m⟩
    · rw [ht] at h
      cases e with
      | notFound =>
        cases hw : fs.walk [] (written target) with
        | error e =>
          rw [hw] at h
          cases h
        | ok u =>
          rw [hw] at h
          by_cases he : endsInside target = true
          · simp only [he, if_true] at h
            cases h
          · simp only [he] at h
            cases h
            exact ⟨writable_of_notFound ht hw (Bool.eq_false_iff.mpr he), rfl⟩
      | _ => cases h
    · rw [ht] at h
      cases h
    · rw [ht] at h
      cases h
      exact ⟨writable_of_find ht, rfl⟩

/-- A file that is renamed is found under its new name. -/
theorem find_of_rename (h : fs.rename source target = .ok fs')
    (hs : fs.find source = .ok (.file content mode)) :
    fs'.find target = .ok (.file content mode) := by
  obtain ⟨-, content', mode', hs', ht, rfl⟩ := rename_eq_ok h
  cases hs.symm.trans hs'
  have hsource : fs.node? (normal source) ≠ some .directory := (writable_of_find hs).node
  have ht' : Writable (Files.mk (fs.nodes.erase (normal source))) target := by
    refine ⟨walk_mono (under_erase hsource) ht.walk, ht.inside, ?_⟩
    rw [node?_erase hsource]
    split
    · nofun
    · exact ht.node
  exact ht'.find_insert content mode

/-! ## Making the directories -/

/-- Directories above a file are made in the order of the steps, as far as it goes. -/
theorem snd_makeParents (path : String) (fault : Option FileFault) :
    ∃ done rest, parentSteps path = done ++ rest ∧
      ∀ fs : Files, (fs.makeParents path fault).2 = (fs.makeSteps false [] done).2 := by
  cases fault with
  | none => exact ⟨_, [], (List.append_nil _).symm, fun _ => rfl⟩
  | some fault =>
    refine ⟨_, _, (List.take_append_drop fault.done _).symm, fun fs => ?_⟩
    rw [makeParents]
    split
    · next he =>
      have h := (makeSteps_append_of_error (congrArg Prod.fst he)
        ((parentSteps path).drop fault.done)).2
      rwa [List.take_append_drop] at h
    · next hm => rw [hm]

/-- Directories that are made to the end met no fault. -/
theorem makeParents_eq_ok {fault : Option FileFault} {made : Files}
    (h : fs.makeParents path fault = (.ok (), made)) :
    fault = none ∧ fs.makeParents path = (.ok (), made) := by
  cases fault with
  | none => exact ⟨rfl, h⟩
  | some fault =>
    rw [makeParents] at h
    split at h
    · next he =>
      obtain ⟨e, he⟩ := (makeSteps_append_of_error (congrArg Prod.fst he)
        ((parentSteps path).drop fault.done)).1
      rw [List.take_append_drop, h] at he
      cases he
    · cases h

/-! ## Replacing -/

variable {faults : ReplaceFaults}

/-- The ways that replacing a file can go. -/
inductive Replacing (fs : Files) (path text : String) (faults : ReplaceFaults) :
    Except ReplaceError Unit × Files → Prop
  | parents {e made} : fs.makeParents path faults.parents = (.error e, made) →
      Replacing fs path text faults (.error ⟨.parents, e⟩, made)
  | write {e made left} : fs.makeParents path = (.ok (), made) → faults.parents = none →
      made.write (temporary path) text.toUTF8 0o644 faults.write = (.error e, left) →
      Replacing fs path text faults (.error ⟨.write, e⟩, left)
  | rename {e made beside} : fs.makeParents path = (.ok (), made) → faults.parents = none →
      made.put (temporary path) text.toUTF8 = .ok beside → faults.write = none →
      beside.rename (temporary path) path faults.rename = .error e →
      Replacing fs path text faults (.error ⟨.rename, e⟩, beside)
  | done {made beside fs'} : fs.makeParents path = (.ok (), made) →
      made.put (temporary path) text.toUTF8 = .ok beside →
      beside.rename (temporary path) path = .ok fs' → faults = {} →
      Replacing fs path text faults (.ok (), fs')

theorem replacing (fs : Files) (path text : String) (faults : ReplaceFaults) :
    Replacing fs path text faults (fs.replace path text faults) := by
  unfold replace
  split
  · next hm => exact .parents hm
  · next hm =>
    obtain ⟨hp, hm⟩ := makeParents_eq_ok hm
    split
    · next hw => exact .write hm hp hw
    · next hw =>
      obtain ⟨hf, hw⟩ := write_eq_ok hw
      split
      · next hr => exact .rename hm hp hw hf hr
      · next hr =>
        obtain ⟨hn, -⟩ := rename_eq_ok hr
        refine .done hm hw (hn ▸ hr) ?_
        obtain ⟨_, _, _⟩ := faults
        cases hp
        cases hf
        cases hn
        rfl

theorem replace_eq (fs : Files) (path text : String) : fs.replace path text =
    match fs.makeParents path with
    | (.error e, fs) => (.error ⟨.parents, e⟩, fs)
    | (.ok _, fs) => match fs.put (temporary path) text.toUTF8 with
      | .error e => (.error ⟨.write, e⟩, fs)
      | .ok fs => match fs.rename (temporary path) path with
        | .error e => (.error ⟨.rename, e⟩, fs)
        | .ok fs => (.ok (), fs) := by
  rw [replace]
  rcases fs.makeParents path with ⟨_ | _, made⟩
  · rfl
  · simp only [write]
    cases made.put (temporary path) text.toUTF8 <;> rfl

theorem fromUTF8?_toUTF8 (text : String) : String.fromUTF8? text.toUTF8 = some text := by
  unfold String.fromUTF8?
  exact dif_pos text.isValidUTF8

/-- A file that is replaced holds its new text. -/
theorem readText_of_replace (h : fs.replace path text faults = (.ok (), fs')) :
    fs'.readText path = .ok text := by
  have hr := replacing fs path text faults
  rw [h] at hr
  cases hr with
  | @done made beside _ _ hw hr =>
    obtain ⟨ht, mode, rfl⟩ := put_eq_ok hw
    exact readText_eq_ok_iff.mpr ⟨_, mode, find_of_rename hr (ht.find_insert _ mode),
      fromUTF8?_toUTF8 text⟩

end Files
end Interchange
