import Interchange.Proofs.Dict.Sorted
import Interchange.Proofs.Files.Replace

/-! # Replacing a file, and stopping before the end

Whatever stops the replacement of a file, be it in the files or a fault, some directories above the
file may have been made by then, and anything may have been written beside it. Main statements: the
file is as it was, unless it was missing and making the directories shows another one in its place;
and the next replacement goes as if the one that was stopped had never been begun.
-/

namespace Interchange
namespace Files

open Interchange.Path

variable {fs fs' mid : Files} {path text : String} {content : ByteArray}
  {here steps : List String} {faults : ReplaceFaults}

/-! ## Trees that grow -/

theorem Grows.walk (h : Grows fs fs') (hw : fs.walk here steps ≠ .error .notFound) :
    fs'.walk here steps = fs.walk here steps := by
  induction steps generalizing here with
  | nil => rfl
  | cons step rest ih =>
    rw [walk_cons] at hw
    rw [walk_cons, walk_cons]
    split
    · rfl
    · next hr =>
      rw [if_neg hr] at hw
      rcases hn : fs.node? (ofSteps (advance here step)) with _ | _ | _
      · exact absurd (by rw [hn]) hw
      · rw [hn] at hw
        rw [h _ _ hn]
        exact ih hw
      · rw [h _ _ hn]

/-- What a path leads to stays, in a tree that grows. -/
theorem Grows.find_eq (h : Grows fs fs') (hf : fs.find path ≠ .error .notFound) :
    fs'.find path = fs.find path := by
  rw [Files.find_eq] at hf
  rw [Files.find_eq, Files.find_eq]
  split
  · rfl
  · next hp =>
    rw [if_neg hp] at hf
    cases hw : fs.walk [] (written path) with
    | error e =>
      have hw' : fs'.walk [] (written path) = fs.walk [] (written path) := h.walk fun he => by
        rw [he] at hf
        exact hf rfl
      rw [hw', hw]
    | ok u =>
      rw [walk_mono h.under hw]
      cases hn : fs.node? (normal path) with
      | none =>
        rw [hw, hn] at hf
        exact absurd rfl hf
      | some node => rw [h _ _ hn]

theorem Grows.find_eq_iff (h : Grows fs fs') : fs'.find path = fs.find path ↔
    (fs.find path = .error .notFound → fs'.find path = .error .notFound) := by
  refine ⟨fun he hf => he.trans hf, fun hs => ?_⟩
  by_cases hf : fs.find path = .error .notFound
  · exact (hs hf).trans hf.symm
  · exact h.find_eq hf

/-- What is the same in the end was the same all the time. -/
theorem find_of_between (hm : Grows fs mid) (hm' : Grows mid fs')
    (h : fs'.find path = fs.find path) : mid.find path = fs.find path := by
  refine hm.find_eq_iff.mpr fun hf => ?_
  by_contra hmid
  exact hmid ((hm'.find_eq hmid).symm.trans (h.trans hf))

/-! ## Writing beside a file -/

theorem node?_of_leads_take (hh : ∀ n, fs.node? (ofSteps (here.take n)) = some .directory)
    (hl : fs.Leads here steps) (n : Nat) :
    fs.node? (ofSteps ((steps.foldl advance here).take n)) = some .directory := by
  induction hl generalizing n with
  | nil => exact hh n
  | @cons here step rest hd _ ih =>
    refine ih (fun n => ?_) n
    unfold advance at hd ⊢
    split
    · exact hh n
    · next hs =>
      rw [if_neg hs] at hd
      split
      · rw [List.dropLast_eq_take, List.take_take]
        exact hh _
      · next hdots =>
        rw [if_neg hdots] at hd
        rcases Nat.lt_or_ge here.length n with hn | hn
        · rwa [List.take_of_length_le (by simpa using Nat.succ_le_of_lt hn)]
        · rw [List.take_append_of_le_length hn]
          exact hh n

theorem walk_of_stays (h : steps.all stays) : fs.walk here steps = .ok () := by
  cases steps with
  | nil => rfl
  | cons step rest =>
    rw [List.all_cons, Bool.and_eq_true_iff] at h
    rw [walk_cons, if_pos h.2]

theorem walk_of_leads_parents (hl : fs.Leads [] (parentSteps path)) :
    fs.walk [] (written path) = .ok () := by
  rcases stays_or_named path with hs | ⟨before, name, trail, hp⟩
  · exact walk_of_stays hs
  · rw [hp.parentSteps_eq] at hl
    rw [hp.written]
    exact (walk_eq_ok_iff hp.name hp.trail).mpr (leads_of_proper hl)

/-- A path that names no file leads to a directory, once the directories above it are there. -/
theorem directory_of_no_name (hl : fs.Leads [] (parentSteps path))
    (h : fileName path = "" ∨ fileName path = "..") :
    fs.node? (normal path) = some .directory := by
  rcases stays_or_named path with hs | ⟨before, name, trail, hp⟩
  · rw [normal, Path.steps, foldl_advance_of_stays hs]
    rfl
  · rw [hp.fileName_eq] at h
    have hn : name = ".." := h.resolve_left fun he => absurd hp.name (by simp [he, stays])
    rw [hp.parentSteps_eq] at hl
    have hd := node?_of_leads_take (fun n => by rw [List.take_nil]; rfl) (leads_of_proper hl)
    have hup := hd ((before.foldl advance []).length - 1)
    rw [normal, Path.steps, hp.written, List.foldl_append, List.foldl_cons,
      foldl_advance_of_stays hp.trail, hn]
    rwa [← List.dropLast_eq_take] at hup

/-- A text beside a file takes another place than the file. -/
theorem normal_ne_of_writable (hl : fs.Leads [] (parentSteps path))
    (ht : Writable fs (temporary path)) : normal (temporary path) ≠ normal path := by
  by_cases h : fileName path = "" ∨ fileName path = ".."
  · have hd := directory_of_no_name hl h
    intro he
    rw [← he] at hd
    exact ht.node hd
  · exact normal_temporary_ne_of_name h

/-- Writing beside a file leaves what its path leads to. -/
theorem find_beside (hl : fs.Leads [] (parentSteps path))
    (hw : fs.put (temporary path) content = .ok fs') : fs'.find path = fs.find path := by
  obtain ⟨ht, mode, rfl⟩ := put_eq_ok hw
  have hwalk := walk_of_leads_parents hl
  rw [find_eq, find_eq, walk_mono (under_insert ht.node _) hwalk, hwalk, node?_insert ht.node,
    if_neg (normal_ne_of_writable hl ht)]

/-! ## What a replacement leaves that is stopped -/

theorem grows_makeParents (fs : Files) (path : String) (fault : Option FileFault) :
    Grows fs (fs.makeParents path fault).2 := by
  obtain ⟨done, _, _, hm⟩ := snd_makeParents path fault
  rw [hm]
  exact grows_makeSteps fs false [] done

/-- The trees that can be left when replacing a file is stopped before the new text is put in its
place: directories above it are made one after another, and then something is written beside it. -/
inductive Stopped (fs : Files) (path : String) : Files → Prop
  | parents {done rest} : parentSteps path = done ++ rest →
      Stopped fs path (fs.makeSteps false [] done).2
  | beside {made fs' content} : fs.makeParents path = (.ok (), made) →
      made.put (temporary path) content = .ok fs' → Stopped fs path fs'

/-- A file is missing still, if it is, once the directories above it are made as far as they can
be. -/
def Settled (fs : Files) (path : String) (fault : Option FileFault := none) : Prop :=
  fs.find path = .error .notFound → (fs.makeParents path fault).2.find path = .error .notFound

theorem Stopped.refl (fs : Files) (path : String) : Stopped fs path fs := by
  have h : Stopped fs path (fs.makeSteps false [] []).2 := .parents (List.nil_append _).symm
  exact h

theorem stopped_makeParents (fs : Files) (path : String) (fault : Option FileFault) :
    Stopped fs path (fs.makeParents path fault).2 := by
  obtain ⟨done, rest, hp, hm⟩ := snd_makeParents path fault
  rw [hm]
  exact .parents hp

theorem leads_of_makeParents {made : Files} (h : fs.makeParents path = (.ok (), made)) :
    made.Leads [] (parentSteps path) := by
  rw [makeParents] at h
  have hl := leads_of_makeSteps (congrArg Prod.fst h)
  rwa [h] at hl

/-- A replacement that fails was stopped, and what its path leads to then depends on the directories
alone. -/
theorem stopped_of_replace_error {e : ReplaceError}
    (h : fs.replace path text faults = (.error e, fs')) : Stopped fs path fs' ∧
      fs'.find path = (fs.makeParents path faults.parents).2.find path := by
  have hr := replacing fs path text faults
  rw [h] at hr
  cases hr with
  | parents hm =>
    have hs := stopped_makeParents fs path faults.parents
    rw [hm] at hs ⊢
    exact ⟨hs, rfl⟩
  | write hm hf hw =>
    rw [hf, hm]
    rcases write_eq_error hw with rfl | ⟨_, hp⟩
    · have hs := stopped_makeParents fs path none
      rw [hm] at hs
      exact ⟨hs, rfl⟩
    · exact ⟨.beside hm hp, find_beside (leads_of_makeParents hm) hp⟩
  | rename hm hf hw =>
    rw [hf, hm]
    exact ⟨.beside hm hw, find_beside (leads_of_makeParents hm) hw⟩

/-- Where a replacement fails, the path leads to what it led to exactly if that was settled. -/
theorem find_eq_iff_settled {e : ReplaceError}
    (h : fs.replace path text faults = (.error e, fs')) :
    fs'.find path = fs.find path ↔ fs.Settled path faults.parents := by
  rw [(stopped_of_replace_error h).2]
  exact (grows_makeParents fs path faults.parents).find_eq_iff

/-- A replacement that is stopped leaves what the path leads to, if that is settled without a
fault. -/
theorem Stopped.find_eq (h : Stopped fs path fs') (hs : fs.Settled path) :
    fs'.find path = fs.find path := by
  have hm := (grows_makeParents fs path none).find_eq_iff.mpr hs
  cases h with
  | @parents done rest hp =>
    refine find_of_between (grows_makeSteps fs false [] done)
      (grows_makeSteps_append fs false [] done rest) ?_
    rwa [← hp]
  | beside hmade hw =>
    rw [hmade] at hm
    exact (find_beside (leads_of_makeParents hmade) hw).trans hm

/-! ## Replacing the file after that -/

/-- Of two contents that are put in one place, the second one counts. -/
theorem put_put {mode : Nat} (h : fs.put path content mode = .ok fs') (content' : ByteArray) :
    fs'.put path content' mode = fs.put path content' mode := by
  obtain ⟨hp, -⟩ := put_eq_ok h
  obtain ⟨mode', hw⟩ := hp.put mode
  cases (hw content).symm.trans h
  rw [put, hp.find_insert, hw]
  exact congrArg (fun nodes => Except.ok (Files.mk nodes)) (Dict.insert_insert ..)

theorem makeSteps_of_put {made : Files} {done rest : List String}
    (hm : fs.makeParents path = (.ok (), made)) (hw : made.put (temporary path) content = .ok fs')
    (hp : parentSteps path = done ++ rest) : fs'.makeSteps false [] done = (.ok (), fs') := by
  obtain ⟨ht, mode, rfl⟩ := put_eq_ok hw
  have hl := (leads_of_makeParents hm).mono (under_insert ht.node (.file content mode))
  rw [hp, leads_append] at hl
  exact makeSteps_of_leads hl.1 false

theorem snd_makeParents_makeSteps {done rest : List String} (hp : parentSteps path = done ++ rest) :
    ((fs.makeSteps false [] done).2.makeParents path).2 = (fs.makeParents path).2 := by
  rw [makeParents, makeParents, hp, makeSteps_makeSteps_append]

theorem error_of_fault (fs : Files) (path : String) (fault : FileFault) :
    ∃ e, (fs.makeParents path (some fault)).1 = .error e := by
  rcases h : fs.makeParents path (some fault) with ⟨e | _, made⟩
  · exact ⟨e, rfl⟩
  · cases (makeParents_eq_ok h).1

/-- Directories that were made in part can be made as a whole exactly if they could be at first. -/
theorem makeParents_makeSteps_iff {made : Files} {done rest : List String}
    (hp : parentSteps path = done ++ rest) :
    (fs.makeSteps false [] done).2.makeParents path = (.ok (), made) ↔
      fs.makeParents path = (.ok (), made) := by
  have hmade := @snd_makeParents_makeSteps fs path done rest hp
  have hok : ((fs.makeSteps false [] done).2.makeParents path).1 = .ok () ↔
      (fs.makeParents path).1 = .ok () := by
    rw [Files.makeParents, Files.makeParents] at hmade ⊢
    rw [makeSteps_eq_ok_iff, makeSteps_eq_ok_iff, hmade]
  rw [Prod.ext_iff, Prod.ext_iff, hok, hmade]

/-- Making the directories once more after a replacement that was stopped: either they cannot be
made, as before, or they are there, and maybe what was written beside the file. -/
theorem Stopped.makeParents_again (h : Stopped fs path fs') :
    (∃ made, fs.makeParents path = (.ok (), made) ∧
      (fs'.makeParents path = (.ok (), made) ∨ fs'.makeParents path = (.ok (), fs') ∧
        ∃ content, made.put (temporary path) content = .ok fs')) ∨
    ∃ e e' left, fs.makeParents path = (.error e, left) ∧
      fs'.makeParents path = (.error e', left) := by
  cases h with
  | @parents done rest hp =>
    have hiff (made : Files) := @makeParents_makeSteps_iff fs path made done rest hp
    rcases hm : fs.makeParents path with ⟨e | _, made⟩
    · rcases hm' : (fs.makeSteps false [] done).2.makeParents path with ⟨e' | _, made'⟩
      · have hmade := @snd_makeParents_makeSteps fs path done rest hp
        rw [hm, hm'] at hmade
        cases hmade
        exact .inr ⟨e, e', made, rfl, rfl⟩
      · cases hm.symm.trans ((hiff made').mp hm')
    · exact .inl ⟨made, rfl, .inl ((hiff made).mpr hm)⟩
  | @beside made _ content hm hw =>
    exact .inl ⟨made, hm, .inr ⟨makeSteps_of_put hm hw (List.append_nil _).symm, content, hw⟩⟩

/-- Making some of the directories once more after a replacement that was stopped leaves another one
that was stopped. -/
theorem Stopped.makeSteps (h : Stopped fs path fs') (hf : fs'.find path = fs.find path)
    {again later : List String} (hp' : parentSteps path = again ++ later) :
    Stopped (fs.makeSteps false [] again).2 path (fs'.makeSteps false [] again).2 ∧
      (fs'.makeSteps false [] again).2.find path = (fs.makeSteps false [] again).2.find path := by
  cases h with
  | @parents done rest hp =>
    rcases List.append_eq_append_iff.mp (hp.symm.trans hp') with ⟨more, rfl, -⟩ | ⟨more, rfl, -⟩
    · -- the second time goes on behind the place where the first one was stopped
      rw [makeSteps_makeSteps_append]
      exact ⟨.refl .., rfl⟩
    · rw [makeSteps_makeSteps_take]
      have hstop : Stopped (fs.makeSteps false [] again).2 path
          ((fs.makeSteps false [] again).2.makeSteps false [] (again ++ more)).2 := .parents hp
      rw [makeSteps_makeSteps_append] at hstop
      exact ⟨hstop, hf.trans (find_of_between (grows_makeSteps fs false [] again)
        (grows_makeSteps_append fs false [] again more) hf).symm⟩
  | @beside made _ content hm hw =>
    rw [makeSteps_of_put hm hw hp']
    have hmade := (makeParents_makeSteps_iff hp').mpr hm
    have hgrows := grows_makeParents (fs.makeSteps false [] again).2 path none
    rw [hmade] at hgrows
    have hbetween : (fs.makeSteps false [] again).2.find path = fs.find path :=
      find_of_between (grows_makeSteps fs false [] again) hgrows
        ((find_beside (leads_of_makeParents hm) hw).symm.trans hf)
    exact ⟨.beside hmade hw, hf.trans hbetween.symm⟩

/-- Making the directories once more, with or without a fault: they are made as at first, or it ends
with an error as it would have at first, and what is left was stopped. -/
theorem Stopped.makeParents (h : Stopped fs path fs') (hf : fs'.find path = fs.find path)
    (fault : Option FileFault) :
    (∃ made, fs.makeParents path fault = (.ok (), made) ∧
      (fs'.makeParents path fault = (.ok (), made) ∨ fs'.makeParents path fault = (.ok (), fs') ∧
        ∃ content, made.put (temporary path) content = .ok fs')) ∨
    ∃ e e' left left', fs.makeParents path fault = (.error e, left) ∧
      fs'.makeParents path fault = (.error e', left') ∧ Stopped left path left' ∧
      left'.find path = left.find path := by
  cases fault with
  | none =>
    rcases h.makeParents_again with hmade | ⟨e, e', left, hm, hm'⟩
    · exact .inl hmade
    · exact .inr ⟨e, e', left, left, hm, hm', .refl .., rfl⟩
  | some fault =>
    obtain ⟨e, he⟩ := error_of_fault fs path fault
    obtain ⟨e', he'⟩ := error_of_fault fs' path fault
    obtain ⟨again, later, hp, hsnd⟩ := snd_makeParents path (some fault)
    exact .inr ⟨e, e', _, _, Prod.ext he (hsnd fs), Prod.ext he' (hsnd fs'), h.makeSteps hf hp⟩

/-- After a replacement that was stopped, the next one goes as if the first had never been begun:
the same comes of it, or it fails again and is stopped once more. -/
theorem Stopped.replace (h : Stopped fs path fs') (hf : fs'.find path = fs.find path)
    (text : String) (faults : ReplaceFaults) :
    fs'.replace path text faults = fs.replace path text faults ∨
    ∃ e e' left left', fs.replace path text faults = (.error e, left) ∧
      fs'.replace path text faults = (.error e', left') ∧ Stopped left path left' ∧
      left'.find path = left.find path := by
  rcases h.makeParents hf faults.parents with
    ⟨made, hm, hm' | ⟨hm', content, hp⟩⟩ | ⟨e, e', left, left', hm, hm', hstop, hfind⟩
  · exact .inl (by simp only [Files.replace, hm, hm'])
  · have hp' := put_put hp
    obtain ⟨-, hmade⟩ := makeParents_eq_ok hm
    have hl := leads_of_makeParents hmade
    simp only [Files.replace, hm, hm', write]
    obtain ⟨_, hput⟩ := (put_eq_ok hp).1.put 0o644
    rcases faults.write with _ | ⟨cause, _ | n⟩
    · exact .inl (by simp only [hp', hput])
    · exact .inr ⟨_, _, _, _, rfl, rfl, .beside (makeSteps_of_leads hl false) hp, find_beside hl hp⟩
    · exact .inl (by simp only [hp', hput])
  · exact .inr ⟨⟨.parents, e⟩, ⟨.parents, e'⟩, left, left', by simp only [Files.replace, hm],
      by simp only [Files.replace, hm'], hstop, hfind⟩

theorem Stopped.settled (h : Stopped fs path fs') (hs : fs.Settled path) : fs'.Settled path := by
  intro hf
  have hfind := h.find_eq hs
  cases h with
  | parents hp =>
    rw [snd_makeParents_makeSteps hp]
    exact hs (hfind.symm.trans hf)
  | beside hm hw =>
    rw [Files.makeParents, makeSteps_of_put hm hw (List.append_nil _).symm]
    exact hf

/-! ## Reading the file after that -/

theorem readText_congr (h : fs'.find path = fs.find path) :
    fs'.readText path = fs.readText path := by
  rw [readText, readText, Files.read, Files.read, h]

/-- A file that is not replaced holds its old text. -/
theorem readText_of_replace_error {e : ReplaceError} {old : String}
    (h : fs.replace path text faults = (.error e, fs')) (ho : fs.readText path = .ok old) :
    fs'.readText path = .ok old := by
  have hs : fs.Settled path := fun hf => by
    rw [readText_eq_notFound_iff.mpr hf] at ho
    cases ho
  exact (readText_congr ((stopped_of_replace_error h).1.find_eq hs)).trans ho

/-- A file is missing, and is so still when the directories above it are made as far as they can
be. -/
def Missing (fs : Files) (path : String) : Prop :=
  fs.readText path = .error .notFound ∧ (fs.makeParents path).2.readText path = .error .notFound

theorem missing_iff : fs.Missing path ↔ fs.find path = .error .notFound ∧ fs.Settled path := by
  rw [Missing, readText_eq_notFound_iff, readText_eq_notFound_iff]
  exact and_congr_right fun hf => ⟨fun h _ => h, fun h => h hf⟩

theorem missing_of_replace_error {e : ReplaceError}
    (h : fs.replace path text faults = (.error e, fs')) (hf : Missing fs path) :
    Missing fs' path := by
  obtain ⟨hf, hs⟩ := missing_iff.mp hf
  have hstop := (stopped_of_replace_error h).1
  exact missing_iff.mpr ⟨(hstop.find_eq hs).trans hf, hstop.settled hs⟩

end Files
end Interchange
