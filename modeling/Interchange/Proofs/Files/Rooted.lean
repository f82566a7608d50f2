import Interchange.Proofs.Files.Stopped

/-! # Paths that lead downward

In a tree where all that there is lies in directories, a path without double dots cannot lead to
anything through directories that are missing. So making those directories does not bring a missing
file to light.
-/

namespace Interchange
namespace Path

variable {here before steps : List String} {name step : String}

theorem length_le_foldl_advance (h : ".." ∉ steps) :
    here.length ≤ (steps.foldl advance here).length := by
  induction steps generalizing here with
  | nil => exact Nat.le_refl _
  | cons step rest ih =>
    obtain ⟨hs, hr⟩ := List.ne_and_not_mem_of_not_mem_cons h
    refine Nat.le_trans ?_ (ih hr)
    unfold advance
    split
    · exact Nat.le_refl _
    · rw [if_neg (Ne.symm hs), List.length_append]
      exact Nat.le_add_right _ _

theorem mem_foldl_advance (h : step ∈ steps.foldl advance here) : step ∈ here ∨ step ∈ steps := by
  induction steps generalizing here with
  | nil => exact .inl h
  | cons s rest ih =>
    rcases ih h with h | h
    · unfold advance at h
      split_ifs at h
      · exact .inl h
      · exact .inl (List.dropLast_subset _ h)
      · rcases List.mem_append.mp h with h | h
        · exact .inl h
        · exact .inr (List.mem_cons.mpr (.inl (List.mem_singleton.mp h)))
    · exact .inr (List.mem_cons_of_mem _ h)

/-- A way ends elsewhere than where its first steps lead, if its last one goes on. -/
theorem ofSteps_foldl_ne (hd : ".." ∉ before ++ steps ++ [name]) (hn : stays name = false)
    (hs : ∀ step ∈ before ++ steps ++ [name], '/' ∉ step.toList) :
    ofSteps ((before ++ steps ++ [name]).foldl advance []) ≠ ofSteps (before.foldl advance []) := by
  have hend : (before ++ steps ++ [name]).foldl advance [] =
      (before ++ steps).foldl advance [] ++ [name] := by
    have hname : name ≠ ".." := by
      rintro rfl
      exact hd (by simp)
    rw [List.foldl_append, List.foldl_cons, List.foldl_nil, advance, if_neg (by simp [hn]),
      if_neg hname]
  have hslash {part : List String} (hp : part ⊆ before ++ steps ++ [name]) :
      ∀ step ∈ part.foldl advance [], '/' ∉ step.toList := fun step hm =>
    hs step (hp ((mem_foldl_advance hm).resolve_left List.not_mem_nil))
  intro he
  have hwritten := written_ofSteps (by rw [hend]; simp) (hslash (List.Subset.refl _))
  rw [he, hend] at hwritten
  have hbefore : before ⊆ before ++ steps ++ [name] := by simp
  by_cases hnil : before.foldl advance [] = []
  · rw [hnil] at hwritten
    have hlast := congrArg List.getLast? hwritten
    rw [List.getLast?_concat] at hlast
    have hempty : "" = name := Option.some.inj hlast
    rw [← hempty] at hn
    exact absurd hn (by decide)
  · rw [written_ofSteps hnil (hslash hbefore)] at hwritten
    have hl := congrArg List.length hwritten
    have hle : (before.foldl advance []).length ≤ ((before ++ steps).foldl advance []).length := by
      rw [List.foldl_append]
      exact length_le_foldl_advance fun hm => hd (by simp [hm])
    rw [List.length_append, List.length_singleton] at hl
    omega

end Path

namespace Files

open Interchange.Path

variable {fs : Files} {path name : String} {here before steps trail : List String}

/-- All that there is in a tree lies in directories. -/
def Rooted (fs : Files) : Prop := ∀ steps name,
  fs.node? (ofSteps (steps ++ [name])) ≠ none → fs.node? (ofSteps steps) = some .directory

/-- There is nothing below a directory that is missing. -/
theorem Rooted.none_below (hr : fs.Rooted) (hn : fs.node? (ofSteps here) = none)
    (hd : ".." ∉ steps) : fs.node? (ofSteps (steps.foldl advance here)) = none := by
  induction steps generalizing here with
  | nil => exact hn
  | cons step rest ih =>
    obtain ⟨hs, hrest⟩ := List.ne_and_not_mem_of_not_mem_cons hd
    refine ih ?_ hrest
    unfold advance
    split
    · exact hn
    · rw [if_neg (Ne.symm hs)]
      by_contra hne
      rw [hr here step hne] at hn
      cases hn

theorem Rooted.no_file (hr : fs.Rooted) (hh : fs.node? (ofSteps here) = some .directory)
    (hd : ".." ∉ before) (hn : stays name = false)
    (hw : fs.walk here (before ++ name :: trail) ≠ .error .notDirectory) {done : List String}
    (hp : done <+: before) (content : ByteArray) (mode : Nat) :
    fs.node? (ofSteps (done.foldl advance here)) ≠ some (.file content mode) := by
  induction before generalizing here done with
  | nil =>
    rw [List.prefix_nil.mp hp]
    simp [hh]
  | cons step rest ih =>
    obtain ⟨-, hrest⟩ := List.ne_and_not_mem_of_not_mem_cons hd
    cases done with
    | nil => simp [hh]
    | cons s done =>
      obtain ⟨rfl, hpre⟩ := List.cons_prefix_cons.mp hp
      have hlast : (rest ++ name :: trail).all stays = false := by simp [hn]
      rw [List.cons_append, walk_cons] at hw
      simp only [hlast, Bool.false_eq_true, if_false] at hw
      rcases hnode : fs.node? (ofSteps (advance here s)) with _ | _ | _
      · have hnone := hr.none_below hnode fun hm => hrest (hpre.subset hm)
        simp [hnone]
      · rw [hnode] at hw
        exact ih hnode hrest hw hpre
      · rw [hnode] at hw
        exact absurd rfl hw

theorem exists_none_of_walk (hn : stays name = false) (ht : trail.all stays)
    (hw : fs.walk here (before ++ name :: trail) = .error .notFound) :
    ∃ done, done <+: before ∧ fs.node? (ofSteps (done.foldl advance here)) = none := by
  induction before generalizing here with
  | nil =>
    rw [List.nil_append, walk_cons, if_pos ht] at hw
    cases hw
  | cons step rest ih =>
    have hlast : (rest ++ name :: trail).all stays = false := by simp [hn]
    rw [List.cons_append, walk_cons] at hw
    simp only [hlast, Bool.false_eq_true, if_false] at hw
    rcases hnode : fs.node? (ofSteps (advance here step)) with _ | _ | _
    · exact ⟨[step], List.cons_prefix_cons.mpr ⟨rfl, List.nil_prefix⟩, hnode⟩
    · rw [hnode] at hw
      obtain ⟨done, hp, hnone⟩ := ih hw
      exact ⟨step :: done, List.cons_prefix_cons.mpr ⟨rfl, hp⟩, hnone⟩
    · rw [hnode] at hw
      cases hw

/-- Directories can be made where no file is in the way. -/
theorem makeSteps_eq_ok_of_no_file (h : ∀ done, done <+: steps → ∀ content mode,
    fs.node? (ofSteps (done.foldl advance here)) ≠ some (.file content mode)) (made : Bool) :
    (fs.makeSteps made here steps).1 = .ok () := by
  induction steps generalizing fs here made with
  | nil => rfl
  | cons step rest ih =>
    have hrest (done : List String) (hp : done <+: rest) :=
      h (step :: done) (List.cons_prefix_cons.mpr ⟨rfl, hp⟩)
    rw [makeSteps_cons]
    split
    · exact ih hrest _
    · next hf => exact absurd hf (hrest [] List.nil_prefix _ _)
    · next hn =>
      refine ih (fun done hp content mode => ?_) _
      rw [node?_insert (ne_directory_of_none hn)]
      split
      · simp
      · exact hrest done hp content mode

/-- Making directories adds nothing but those that the steps lead through. -/
theorem node?_makeSteps (fs : Files) (made : Bool) (here steps : List String) (key : String) :
    (fs.makeSteps made here steps).2.node? key = fs.node? key ∨
      ∃ done, done <+: steps ∧ key = ofSteps (done.foldl advance here) := by
  induction steps generalizing fs here made with
  | nil => exact .inl rfl
  | cons step rest ih =>
    have hrest : (∃ done, done <+: rest ∧ key = ofSteps (done.foldl advance (advance here step))) →
        ∃ done, done <+: step :: rest ∧ key = ofSteps (done.foldl advance here) := by
      rintro ⟨done, hp, hk⟩
      exact ⟨step :: done, List.cons_prefix_cons.mpr ⟨rfl, hp⟩, hk⟩
    rw [makeSteps_cons]
    split
    · exact (ih ..).imp_right hrest
    · exact .inl rfl
    · next hn =>
      rcases ih (Files.mk (fs.nodes.insert (ofSteps (advance here step)) .directory)) true
        (advance here step) with hk | hk
      · rw [hk, node?_insert (ne_directory_of_none hn)]
        split
        · next hkey => exact .inr (hrest ⟨[], List.nil_prefix, hkey.symm⟩)
        · exact .inl rfl
      · exact .inr (hrest hk)

/-- In a tree where all that there is lies in directories, a missing file at a path without double
dots is missing still when the directories above it have been made. -/
theorem Rooted.settled (hr : fs.Rooted) (hd : ".." ∉ written path) : fs.Settled path := by
  intro hf
  by_cases hempty : path = ""
  · exact find_eq_notFound_iff.mpr (.inl hempty)
  have hmissing := (find_eq_notFound_iff.mp hf).resolve_left hempty
  rcases stays_or_named path with hs | ⟨before, name, trail, hp⟩
  · have hnormal : normal path = "" := by
      rw [normal, Path.steps, foldl_advance_of_stays hs]
      rfl
    rw [walk_of_stays hs, hnormal] at hmissing
    rcases hmissing with h | ⟨-, h⟩ <;> cases h
  · have hw : written path = before ++ [name] ++ trail := by
      rw [hp.written, List.append_assoc, List.singleton_append]
    have hsub : before ++ [name] ⊆ written path := by
      rw [hw]
      exact List.subset_append_left ..
    have hdots : ".." ∉ before ++ [name] := fun hm => hd (hsub hm)
    have hnormal : normal path = ofSteps ((before ++ [name]).foldl advance []) := by
      rw [normal, Path.steps, hw, List.foldl_append, foldl_advance_of_stays hp.trail]
    -- nothing is in the place of the file before
    have hnone : fs.node? (normal path) = none := by
      rcases hmissing with hwalk | ⟨-, hn⟩
      · rw [hp.written] at hwalk
        obtain ⟨done, ⟨rest, rfl⟩, hn⟩ := exists_none_of_walk hp.name hp.trail hwalk
        rw [List.append_assoc] at hnormal hdots
        rw [hnormal, List.foldl_append]
        exact hr.none_below hn fun hm => hdots (List.mem_append_right _ hm)
      · exact hn
    -- and nothing is put there
    obtain ⟨trail', hbefore, -⟩ := exists_proper before
    have hok : (fs.makeParents path).1 = .ok () := by
      rw [makeParents, hp.parentSteps_eq]
      refine makeSteps_eq_ok_of_no_file (fun done hdone content mode => ?_) false
      have hwalk : fs.walk [] (before ++ name :: trail) ≠ .error .notDirectory := by
        rw [← hp.written]
        rcases hmissing with h | ⟨h, -⟩ <;> simp [h]
      exact hr.no_file rfl (fun hm => hdots (List.mem_append_left _ hm)) hp.name hwalk
        (hdone.trans ⟨trail', hbefore.symm⟩) content mode
    have hleads := leads_of_makeSteps hok
    refine find_eq_notFound_iff.mpr (.inr (.inr ⟨walk_of_leads_parents hleads, ?_⟩))
    rcases node?_makeSteps fs false [] (parentSteps path) (normal path) with hk | ⟨done, hdone, hk⟩
    · exact hk.trans hnone
    · rw [hp.parentSteps_eq] at hdone
      obtain ⟨rest, hrest⟩ := hdone.trans ⟨trail', hbefore.symm⟩
      rw [hnormal, ← hrest] at hk
      refine absurd hk (ofSteps_foldl_ne (hrest ▸ hdots) hp.name fun step hm => ?_)
      exact not_mem_of_mem_written (hsub (hrest ▸ hm))

end Files
end Interchange
