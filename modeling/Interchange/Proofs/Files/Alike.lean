import Interchange.Proofs.Files.Stopped
import Interchange.Proofs.Result

/-! # Trees that differ in what their files hold

Two trees with files in the same places: whether an operation succeeds, and the error it ends in, is
the same in both, whatever their files hold and whatever is written. Main statement: a file is
replaced in both or in neither.
-/

namespace Interchange

/-- Two nodes differ in no more than what they hold: both are directories, or files of one mode. -/
inductive FileNode.Alike (R : ByteArray → ByteArray → Prop) : FileNode → FileNode → Prop
  | directory : Alike R .directory .directory
  | file {a b : ByteArray} (mode : Nat) : R a b → Alike R (.file a mode) (.file b mode)

namespace Files

open Interchange.Path

/-- Two trees have the same directories and files, and `R` relates what the files of one hold to
what those of the other hold. -/
def Alike (R : String → ByteArray → ByteArray → Prop) (fs fs' : Files) : Prop :=
  ∀ key, Option.Rel (FileNode.Alike (R key)) (fs.node? key) (fs'.node? key)

variable {R S : String → ByteArray → ByteArray → Prop} {fs fs' : Files} {here steps : List String}
  {path source target text text' : String} {content content' : ByteArray} {mode : Nat}

theorem Alike.mono (h : Alike R fs fs') (hs : ∀ key a b, R key a b → S key a b) :
    Alike S fs fs' := by
  intro key
  have hk := h key
  revert hk
  generalize fs.node? key = x, fs'.node? key = x'
  rintro (⟨_ | ⟨mode, hr⟩⟩ | _)
  · exact .some .directory
  · exact .some (.file mode (hs _ _ _ hr))
  · exact .none

/-! ## What is there -/

theorem Alike.walk (h : Alike R fs fs') (here steps : List String) :
    fs'.walk here steps = fs.walk here steps := by
  induction steps generalizing here with
  | nil => rfl
  | cons step rest ih =>
    rw [walk_cons, walk_cons]
    have hk := h (ofSteps (advance here step))
    revert hk
    generalize fs.node? _ = x, fs'.node? _ = x'
    rintro (⟨_ | _⟩ | _)
    · simp only [ih]
    · rfl
    · rfl

theorem Alike.find (h : Alike R fs fs') (path : String) :
    Result.Alike (FileNode.Alike (R (normal path))) (fs.find path) (fs'.find path) := by
  rw [find_eq, find_eq, h.walk]
  split
  · exact .error _
  · have hk := h (normal path)
    revert hk
    generalize fs.node? _ = x, fs'.node? _ = x'
    cases fs.walk [] (written path) with
    | error e => exact fun _ => .error e
    | ok u =>
      rintro (⟨_ | ⟨mode, hr⟩⟩ | _)
      · exact .ok .directory
      · dsimp only
        split
        · exact .error _
        · exact .ok (.file mode hr)
      · exact .error _

theorem Alike.has (h : Alike R fs fs') (path : String) : fs'.has path = fs.has path := by
  have hf := h.find path
  rw [Files.has, Files.has]
  revert hf
  generalize fs.find path = r, fs'.find path = r'
  rintro (_ | _) <;> rfl

theorem Alike.read (h : Alike R fs fs') (path : String) :
    Result.Alike (R (normal path)) (fs.read path) (fs'.read path) := by
  have hf := h.find path
  rw [Files.read, Files.read]
  revert hf
  generalize fs.find path = r, fs'.find path = r'
  rintro (⟨_ | ⟨mode, hr⟩⟩ | e)
  · exact .error _
  · exact .ok hr
  · exact .error e

/-- Two files hold texts that `P` relates. -/
def Texts (P : String → String → Prop) (a b : ByteArray) : Prop :=
  ∃ t t', String.fromUTF8? a = some t ∧ String.fromUTF8? b = some t' ∧ P t t'

theorem texts_of_rel {P : String → String → Prop} {t t' : String} (h : P t t') :
    Texts P t.toUTF8 t'.toUTF8 := ⟨t, t', fromUTF8?_toUTF8 t, fromUTF8?_toUTF8 t', h⟩

theorem Alike.readText {P : String → String → Prop} (h : Alike R fs fs')
    (hR : ∀ a b, R (normal path) a b → a = b ∨ Texts P a b) :
    Result.Alike (fun t t' => t = t' ∨ P t t') (fs.readText path) (fs'.readText path) := by
  have hf := h.read path
  rw [Files.readText, Files.readText]
  revert hf
  generalize fs.read path = r, fs'.read path = r'
  rintro (@⟨a, b, hr⟩ | e)
  · rcases hR a b hr with rfl | ⟨t, t', ht, ht', hp⟩
    · cases ha : String.fromUTF8? a with
      | none =>
        simp only [bind, Except.bind, ha]
        exact .error _
      | some t =>
        simp only [bind, Except.bind, ha]
        exact .ok (.inl rfl)
    · simp only [bind, Except.bind, ht, ht']
      exact .ok (.inr hp)
  · exact .error e

/-! ## What is changed -/

theorem Alike.insert {key : String} {n n' : FileNode} (h : Alike R fs fs')
    (hn : FileNode.Alike (R key) n n') :
    Alike R ⟨fs.nodes.insert key n⟩ ⟨fs'.nodes.insert key n'⟩ := by
  intro key'
  have hk := h key'
  unfold node? at hk ⊢
  split
  · exact .some .directory
  · next he =>
    simp only [if_neg he] at hk
    simp only [Dict.get?_insert]
    split
    · next he =>
      cases he
      exact .some hn
    · exact hk

theorem Alike.makeSteps (h : Alike R fs fs') (made : Bool) (here steps : List String) :
    ∃ r left left', fs.makeSteps made here steps = (r, left) ∧
      fs'.makeSteps made here steps = (r, left') ∧ Alike R left left' := by
  induction steps generalizing fs fs' made here with
  | nil => exact ⟨_, _, _, rfl, rfl, h⟩
  | cons step rest ih =>
    rw [makeSteps_cons, makeSteps_cons]
    have hk := h (ofSteps (advance here step))
    revert hk
    generalize fs.node? _ = x, fs'.node? _ = x'
    rintro (⟨_ | _⟩ | _)
    · exact ih h _ _
    · exact ⟨_, _, _, rfl, rfl, h⟩
    · exact ih (h.insert .directory) _ _

theorem Alike.makeParents (h : Alike R fs fs') (path : String) :
    ∃ r left left', fs.makeParents path = (r, left) ∧ fs'.makeParents path = (r, left') ∧
      Alike R left left' := h.makeSteps false [] (parentSteps path)

theorem Alike.put (h : Alike R fs fs')
    (hc : Writable fs path → R (normal path) content content') (mode : Nat) :
    Result.Alike (Alike R) (fs.put path content mode) (fs'.put path content' mode) := by
  have hf := h.find path
  rw [Files.put, Files.put, h.walk]
  cases hfind : fs.find path with
  | ok n =>
    rw [hfind] at hf
    revert hf
    generalize fs'.find path = r'
    rintro ⟨_ | ⟨mode, -⟩⟩
    · exact .error _
    · exact .ok (h.insert (.file mode (hc (writable_of_find hfind))))
  | error e =>
    rw [hfind] at hf
    revert hf
    generalize fs'.find path = r'
    rintro ⟨⟩
    cases e with
    | notFound =>
      by_cases hp : path = ""
      · simp only [hp, if_true]
        exact .error _
      cases hw : fs.walk [] (written path) with
      | error e =>
        simp only [hp, if_false]
        exact .error e
      | ok u =>
        cases he : endsInside path with
        | true =>
          simp only [hp, if_false]
          exact .error _
        | false =>
          simp only [hp, if_false]
          exact .ok (h.insert (.file mode (hc (writable_of_notFound hfind hw he))))
    | _ => exact .error _

theorem Alike.create (h : Alike R fs fs') (hc : R (normal path) content content') (mode : Nat) :
    Result.Alike (Alike R) (fs.create path content mode) (fs'.create path content' mode) := by
  rw [Files.create, Files.create, h.has]
  by_cases hh : fs.has path
  · simp only [hh, if_true]
    exact .error _
  · simp only [hh]
    exact h.put (fun _ => hc) mode

theorem Alike.rename (h : Alike R fs fs') (source target : String) :
    Result.Alike (fun _ _ => True) (fs.rename source target) (fs'.rename source target) := by
  have hs := h.find source
  have ht := h.find target
  unfold Files.rename
  rw [h.walk]
  revert hs ht
  generalize fs.find source = r, fs'.find source = r', fs.find target = x, fs'.find target = x'
  rintro (⟨_ | ⟨mode, -⟩⟩ | e) ht
  · exact .error _
  · rcases ht with ⟨_ | _⟩ | e
    · exact .error _
    · exact .ok trivial
    · cases e with
      | notFound =>
        cases fs.walk [] (written target) with
        | error e => exact .error e
        | ok u =>
          cases he : endsInside target with
          | true => exact .error _
          | false => exact .ok trivial
      | _ => exact .error _
  · exact .error e

/-! ## Replacing a file -/

/-- A file is replaced in both trees or in neither, for the same reason. In the latter case they
stay alike, if they may differ in what is written beside the file. -/
theorem Alike.replace (h : Alike R fs fs') (text text' : String)
    (ht : normal (temporary path) ≠ normal path →
      R (normal (temporary path)) text.toUTF8 text'.toUTF8) :
    (∃ left left', fs.replace path text = (.ok (), left) ∧
      fs'.replace path text' = (.ok (), left')) ∨
    ∃ e left left', fs.replace path text = (.error e, left) ∧
      fs'.replace path text' = (.error e, left') ∧ Alike R left left' := by
  obtain ⟨r, made, made', hm, hm', hmade⟩ := h.makeParents path
  rw [replace_eq, replace_eq, hm, hm']
  cases r with
  | error e => exact .inr ⟨_, _, _, rfl, rfl, hmade⟩
  | ok u =>
    have hw := hmade.put
      (fun hw => ht (normal_ne_of_writable (leads_of_makeParents hm) hw)) 0o644
    dsimp only
    revert hw
    generalize made.put _ text.toUTF8 = w, made'.put _ text'.toUTF8 = w'
    rintro (@⟨beside, beside', hbeside⟩ | e)
    · have hr := hbeside.rename (temporary path) path
      dsimp only
      revert hr
      generalize beside.rename _ path = x, beside'.rename _ path = x'
      rintro (_ | e)
      · exact .inl ⟨_, _, rfl, rfl⟩
      · exact .inr ⟨_, _, _, rfl, rfl, hbeside⟩
    · exact .inr ⟨_, _, _, rfl, rfl, hmade⟩

theorem Writable.rename (ht : Writable fs target)
    (hs : fs.find source = .ok (.file content mode)) :
    ∃ fs', fs.rename source target = .ok fs' := by
  have hfind := find_eq fs target
  rw [if_neg ht.ne_empty, ht.walk] at hfind
  unfold Files.rename
  rw [hs]
  rcases hn : fs.node? (normal target) with _ | _ | ⟨_, _⟩
  · rw [hfind, hn]
    simp only [ht.walk, ht.inside]
    exact ⟨_, rfl⟩
  · exact absurd hn ht.node
  · rw [hfind, hn]
    simp only [ht.inside]
    exact ⟨_, rfl⟩

theorem Writable.mono (hw : Writable fs path) (h : Under fs fs')
    (hn : fs'.node? (normal path) ≠ some .directory) : Writable fs' path :=
  ⟨walk_mono h hw.walk, hw.inside, hn⟩

theorem under_of_put (h : fs.put path content mode = .ok fs') : Under fs fs' := by
  obtain ⟨hw, _, rfl⟩ := put_eq_ok h
  exact under_insert hw.node _

theorem node?_of_put (h : fs.put path content mode = .ok fs') (key : String)
    (hk : normal path ≠ key) : fs'.node? key = fs.node? key := by
  obtain ⟨hw, _, rfl⟩ := put_eq_ok h
  rw [node?_insert hw.node, if_neg hk]

/-- What is renamed leaves its old place, and takes no directory away. -/
theorem under_of_rename (h : fs.rename source target = .ok fs')
    (hne : normal source ≠ normal target) : Under fs fs' ∧ fs'.node? (normal source) = none ∧
      fs'.node? (normal target) ≠ some .directory := by
  obtain ⟨-, _, _, hs, ht, rfl⟩ := rename_eq_ok h
  have hsource := (writable_of_find hs).node
  have herased : (Files.mk (fs.nodes.erase (normal source))).node? (normal target) ≠
      some .directory := by
    rw [node?_erase hsource, if_neg hne]
    exact ht.node
  refine ⟨fun key hk => under_insert herased _ key (under_erase hsource key hk), ?_, ?_⟩
  · rw [node?_insert herased, if_neg (Ne.symm hne), node?_erase hsource, if_pos rfl]
  · rw [node?_insert_self herased]
    nofun

/-- A file that was replaced can be replaced again. -/
theorem replace_again (h : fs.replace path text = (.ok (), fs')) (text' : String) :
    ∃ left, fs'.replace path text' = (.ok (), left) := by
  have hr := replacing fs path text {}
  rw [h] at hr
  cases hr with
  | @done made beside _ hm hw hr =>
    have hl := leads_of_makeParents hm
    have hwt := (put_eq_ok hw).1
    have hne := normal_ne_of_writable hl hwt
    obtain ⟨-, -, -, -, hwp, -⟩ := rename_eq_ok hr
    obtain ⟨hu, hnt, hnp⟩ := under_of_rename hr hne
    -- the directories are still there, and nothing but a file is in either place
    have hu' : Under made fs' := fun key hk => hu key (under_of_put hw key hk)
    have hwt' : Writable fs' (temporary path) := hwt.mono hu' (by simp [hnt])
    obtain ⟨mode, hbeside⟩ := hwt'.put 0o644
    have hw' := hbeside text'.toUTF8
    have hnp' := node?_of_put hw' (normal path) hne ▸ hnp
    have hwp' := hwp.mono (fun key hk => under_of_put hw' key (hu key hk)) hnp'
    obtain ⟨left, hleft⟩ := hwp'.rename (hwt'.find_insert text'.toUTF8 mode)
    have hm' : fs'.makeParents path = (.ok (), fs') := makeSteps_of_leads (hl.mono hu') false
    simp only [replace_eq, hm', hw', hleft]
    exact ⟨left, rfl⟩

/-- Trees are alike whose nodes are, one by one. -/
theorem alike_of_forall₂ (h : List.Forall₂
    (fun p q => p.1 = q.1 ∧ FileNode.Alike (R p.1) p.2 q.2) fs.nodes fs'.nodes) :
    Alike R fs fs' := by
  intro key
  unfold node?
  split
  · exact .some .directory
  · revert h
    generalize fs.nodes = nodes, fs'.nodes = nodes'
    intro h
    induction h with
    | nil => exact .none
    | @cons p q _ _ hpq _ ih =>
      obtain ⟨hk, hn⟩ := hpq
      obtain ⟨k, n⟩ := p
      obtain ⟨k', n'⟩ := q
      cases hk
      rw [Dict.get?_cons, Dict.get?_cons]
      split
      · next hk =>
        cases hk
        exact .some hn
      · exact ih

end Files
end Interchange
