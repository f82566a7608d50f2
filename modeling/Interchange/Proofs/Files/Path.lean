import Interchange.Files.Replace
import Mathlib.Data.List.DropRight
import Mathlib.Data.String.Basic

/-! # Paths as steps

A path is read as the steps between its slashes. The file beside another one that a new text is
written to first has another name, and the same steps lead to its directory.
-/

namespace Interchange
namespace Path

variable {s : List Char} {cs : List Char} {here before trail steps : List String}
  {name step path : String}

/-! ## Cutting at slashes -/

theorem cut_cons_of_ne {c : Char} (h : c ≠ '/') (cs : List Char) :
    cut (c :: cs) = match cut cs with
      | [] => [[c]]
      | step :: steps => (c :: step) :: steps :=
  cut.eq_3 c cs h

theorem not_mem_of_mem_cut (h : s ∈ cut cs) : '/' ∉ s := by
  induction cs generalizing s with
  | nil =>
    rw [List.mem_singleton.mp h]
    exact List.not_mem_nil
  | cons c cs ih =>
    by_cases hc : c = '/'
    · subst hc
      rcases List.mem_cons.mp h with rfl | h
      · exact List.not_mem_nil
      · exact ih h
    · rw [cut_cons_of_ne hc] at h
      cases hcut : cut cs with
      | nil =>
        rw [hcut, List.mem_singleton] at h
        subst h
        simpa using Ne.symm hc
      | cons step rest =>
        rw [hcut] at h ih
        rcases List.mem_cons.mp h with rfl | h
        · simpa [Ne.symm hc] using ih List.mem_cons_self
        · exact ih (List.mem_cons_of_mem _ h)

theorem cut_append (h : '/' ∉ s) (cs : List Char) : cut (s ++ '/' :: cs) = s :: cut cs := by
  induction s with
  | nil => rfl
  | cons c s ih =>
    obtain ⟨hc, hs⟩ := List.ne_and_not_mem_of_not_mem_cons h
    rw [List.cons_append, cut_cons_of_ne (Ne.symm hc), ih hs]

theorem cut_of_not_mem (h : '/' ∉ s) : cut s = [s] := by
  induction s with
  | nil => rfl
  | cons c s ih =>
    obtain ⟨hc, hs⟩ := List.ne_and_not_mem_of_not_mem_cons h
    rw [cut_cons_of_ne (Ne.symm hc), ih hs]

theorem cut_intercalate {ss : List (List Char)} (hne : ss ≠ []) (h : ∀ s ∈ ss, '/' ∉ s) :
    cut (['/'].intercalate ss) = ss := by
  induction ss with
  | nil => exact absurd rfl hne
  | cons s ss ih =>
    obtain ⟨hs, hss⟩ := List.forall_mem_cons.mp h
    cases ss with
    | nil => rw [List.intercalate_singleton, cut_of_not_mem hs]
    | cons t ss =>
      rw [List.intercalate_cons_cons, List.append_assoc, List.singleton_append, cut_append hs,
        ih (List.cons_ne_nil _ _) hss]

theorem not_mem_of_mem_written (h : step ∈ written path) : '/' ∉ step.toList := by
  obtain ⟨s, hs, rfl⟩ := List.mem_map.mp h
  rw [String.toList_ofList]
  exact not_mem_of_mem_cut hs

theorem written_ofSteps (hne : steps ≠ []) (h : ∀ step ∈ steps, '/' ∉ step.toList) :
    written (ofSteps steps) = steps := by
  have hs : ∀ s ∈ steps.map String.toList, '/' ∉ s := by
    rintro _ hs
    obtain ⟨step, hstep, rfl⟩ := List.mem_map.mp hs
    exact h step hstep
  rw [written, ofSteps, String.toList_ofList, cut_intercalate (by simpa using hne) hs,
    List.map_map]
  exact (List.map_congr_left fun _ _ => String.ofList_toList).trans (List.map_id _)

/-! ## The last step -/

theorem foldl_advance_of_stays (h : trail.all stays) : trail.foldl advance here = here := by
  induction trail with
  | nil => rfl
  | cons step trail ih =>
    rw [List.all_cons, Bool.and_eq_true_iff] at h
    rw [List.foldl_cons, advance, if_pos h.1, ih h.2]

/-- A path that names something: its last step that does not stay where it is, and what stands
before and behind it. -/
structure Named (path : String) (before : List String) (name : String) (trail : List String) :
    Prop where
  written : written path = before ++ name :: trail
  name : stays name = false
  trail : trail.all stays

theorem exists_proper (steps : List String) :
    ∃ trail, steps = proper steps ++ trail ∧ trail.all stays := by
  refine ⟨(steps.reverse.takeWhile stays).reverse, ?_, ?_⟩
  · rw [proper, ← List.reverse_append, List.takeWhile_append_dropWhile, List.reverse_reverse]
  · rw [List.all_reverse]
    exact List.all_takeWhile

theorem proper_append (ht : trail.all stays) : proper (steps ++ trail) = proper steps := by
  have ht' : ∀ step ∈ trail.reverse, stays step = true := fun step hs =>
    List.all_eq_true.mp ht step (List.mem_reverse.mp hs)
  rw [proper, proper, List.reverse_append, List.dropWhile_append_of_pos ht']

theorem proper_concat (hn : stays name = false) : proper (before ++ [name]) = before ++ [name] := by
  simp [proper, hn]

theorem stays_of_proper_eq (h : proper steps = before ++ [name]) : stays name = false := by
  have hd : steps.reverse.dropWhile stays = name :: before.reverse := by
    rw [← List.reverse_reverse (steps.reverse.dropWhile stays), ← proper, h, List.reverse_concat]
  have hn := List.head?_dropWhile_not stays steps.reverse
  rw [hd] at hn
  exact hn

theorem stays_or_named (path : String) : (written path).all stays ∨
    ∃ before name trail, Named path before name trail := by
  obtain ⟨trail, hw, ht⟩ := exists_proper (written path)
  rcases List.eq_nil_or_concat (proper (written path)) with hp | ⟨before, name, hp⟩
  · rw [hw, hp]
    exact .inl ht
  · rw [List.concat_eq_append] at hp
    refine .inr ⟨before, name, trail, ?_, stays_of_proper_eq hp, ht⟩
    rw [hw, hp, List.append_assoc, List.singleton_append]

theorem exists_named (h : fileName path ≠ "") :
    ∃ before name trail, Named path before name trail := by
  refine (stays_or_named path).resolve_left fun hs => h ?_
  have hp : proper ([] ++ written path) = proper [] := proper_append hs
  rw [List.nil_append] at hp
  rw [fileName, hp]
  rfl

namespace Named

variable (h : Named path before name trail)
include h

theorem proper_written : proper (Path.written path) = before ++ [name] := by
  rw [h.written, ← List.singleton_append, ← List.append_assoc, proper_append h.trail,
    proper_concat h.name]

theorem fileName_eq : fileName path = name := by
  simp [fileName, h.proper_written]

theorem parentSteps_eq : parentSteps path = proper before := by
  rw [parentSteps, h.proper_written, List.dropLast_concat]

theorem normal_eq (hn : name ≠ "..") :
    normal path = ofSteps (before.foldl advance [] ++ [name]) := by
  rw [normal, Path.steps, h.written, List.foldl_append, List.foldl_cons,
    foldl_advance_of_stays h.trail, advance, if_neg (by simp [h.name]), if_neg hn]

end Named

theorem intercalate_concat_inj {sep : List Char} {ss : List (List Char)} {s t : List Char}
    (h : sep.intercalate (ss ++ [s]) = sep.intercalate (ss ++ [t])) : s = t := by
  induction ss with
  | nil => simpa using h
  | cons u ss ih =>
    rw [List.cons_append, List.cons_append, List.intercalate_cons_of_ne_nil (by simp),
      List.intercalate_cons_of_ne_nil (by simp)] at h
    exact ih (List.append_cancel_left h)

theorem ofSteps_concat_inj (h : ofSteps (here ++ [name]) = ofSteps (here ++ [step])) :
    name = step := by
  have h' := String.ofList_injective h
  rw [List.map_append, List.map_append] at h'
  exact String.toList_injective (intercalate_concat_inj h')

/-! ## The file beside -/

theorem splitName_cases (name : String) : (splitName name).1 = name ∨
    ∃ ext, name.toList = (splitName name).1.toList ++ '.' :: ext ∧ '.' ∉ ext := by
  have hall := List.takeWhile_append_dropWhile (p := (· ≠ '.')) (l := name.toList.reverse)
  have hdot := List.head?_dropWhile_not (· ≠ '.') name.toList.reverse
  unfold splitName
  dsimp only
  split
  · exact .inl rfl
  · next c stem hd =>
    split
    · exact .inl rfl
    · rw [hd] at hall hdot
      have hc : c = '.' := by simpa using hdot
      refine .inr ⟨(name.toList.reverse.takeWhile (· ≠ '.')).reverse, ?_, ?_⟩
      · have hname := congrArg List.reverse hall
        rw [List.reverse_reverse, List.reverse_append, List.reverse_cons, List.append_assoc,
          hc] at hname
        exact hname.symm.trans (by rw [String.toList_ofList, List.singleton_append])
      · intro hm
        simpa using List.mem_takeWhile_imp (List.mem_reverse.mp hm)

theorem mem_of_mem_splitName {c : Char} (h : c ∈ (splitName name).1.toList) : c ∈ name.toList := by
  rcases splitName_cases name with hs | ⟨ext, hs, -⟩
  · rwa [hs] at h
  · rw [hs]
    exact List.mem_append_left _ h

def beside (name : String) : String := (splitName name).1 ++ "." ++ "json.tmp"

theorem toList_beside (name : String) :
    (beside name).toList = (splitName name).1.toList ++ ".json.tmp".toList := by
  rw [beside, String.append_assoc, String.toList_append]
  rfl

theorem length_beside (name : String) : 9 ≤ (beside name).toList.length := by
  rw [toList_beside, List.length_append]
  exact Nat.le_add_left _ _

theorem stays_beside (name : String) : stays (beside name) = false := by
  refine Bool.eq_false_iff.mpr fun h => ?_
  have hl := length_beside name
  rcases of_decide_eq_true h with h | h <;> simp [h] at hl

theorem beside_ne_dots (name : String) : beside name ≠ ".." := by
  intro h
  have hl := length_beside name
  simp [h] at hl

theorem not_mem_beside (h : '/' ∉ name.toList) : '/' ∉ (beside name).toList := by
  rw [toList_beside, List.mem_append, not_or]
  exact ⟨fun hm => h (mem_of_mem_splitName hm), by decide⟩

theorem beside_ne (name : String) : beside name ≠ name := by
  intro h
  have h' := congrArg String.toList h
  rw [toList_beside] at h'
  rcases splitName_cases name with hs | ⟨ext, hs, hdot⟩
  · rw [hs] at h'
    simpa using congrArg List.length h'
  · -- what stands behind the last dot of a name has no dot in it, and `json.tmp` has one
    rw [hs] at h'
    have he := List.append_cancel_left h'
    exact hdot (List.cons.inj he |>.2 ▸ by decide)

/-- The temporary of a path that names a file lies beside that file. -/
theorem temporary_of_name (h : ¬ (fileName path = "" ∨ fileName path = "..")) :
    ∃ before name trail, Named path before name trail ∧ name ≠ ".." ∧
      Named (temporary path) before (beside name) [] := by
  unfold temporary withExtension
  dsimp only
  rw [if_neg h]
  obtain ⟨h0, hdots⟩ := not_or.mp h
  obtain ⟨before, name, trail, hp⟩ := exists_named h0
  rw [hp.fileName_eq] at hdots ⊢
  refine ⟨before, name, trail, hp, hdots, ?_, stays_beside name, rfl⟩
  rw [hp.proper_written, List.dropLast_concat]
  refine written_ofSteps (by simp) fun step hs => ?_
  have hw : ∀ step ∈ before ++ name :: trail, '/' ∉ step.toList := fun step hs =>
    not_mem_of_mem_written (hp.written ▸ hs)
  rcases List.mem_append.mp hs with hs | hs
  · exact hw step (List.mem_append_left _ hs)
  · rw [List.mem_singleton.mp hs]
    exact not_mem_beside (hw name (by simp))

theorem normal_temporary_ne_of_name (h : ¬ (fileName path = "" ∨ fileName path = "..")) :
    normal (temporary path) ≠ normal path := by
  obtain ⟨before, name, trail, hp, hn, ht⟩ := temporary_of_name h
  intro he
  rw [ht.normal_eq (beside_ne_dots name), hp.normal_eq hn] at he
  exact beside_ne name (ofSteps_concat_inj he)

end Path
end Interchange
