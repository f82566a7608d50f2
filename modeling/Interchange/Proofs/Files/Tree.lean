import Interchange.Proofs.Files.Path

/-! # Ways through a tree of files

A path leads somewhere when every step before its last one ends in a directory. Making directories
adds to a tree and takes nothing from it, and making them again changes nothing.
-/

namespace Interchange
namespace Files

open Interchange.Path

variable {fs fs' : Files} {here before trail steps : List String} {path name : String}
  {content : ByteArray} {mode : Nat}

/-! ## Nodes -/

theorem node?_ofSteps_nil (fs : Files) : fs.node? (ofSteps []) = some .directory := rfl

theorem ne_empty_of_node? {key : String} (h : fs.node? key ≠ some .directory) : key ≠ "" := by
  rintro rfl
  exact h rfl

/-- What is not a directory can be replaced, and that shows at its own path alone. -/
theorem node?_insert {key : String} (h : fs.node? key ≠ some .directory) (n : FileNode)
    (key' : String) :
    (Files.mk (fs.nodes.insert key n)).node? key' =
      if key = key' then some n else fs.node? key' := by
  by_cases h' : key' = ""
  · subst h'
    rw [if_neg (ne_empty_of_node? h)]
    rfl
  · simp only [node?, if_neg h', Dict.get?_insert]

theorem node?_insert_self {key : String} (h : fs.node? key ≠ some .directory) (n : FileNode) :
    (Files.mk (fs.nodes.insert key n)).node? key = some n := by
  rw [node?_insert h, if_pos rfl]

theorem ne_directory_of_none {key : String} (h : fs.node? key = none) :
    fs.node? key ≠ some .directory := by
  simp [h]

/-- Every directory of one tree is a directory of another. -/
def Under (fs fs' : Files) : Prop :=
  ∀ key, fs.node? key = some .directory → fs'.node? key = some .directory

/-- Whatever one tree holds, another one holds as well. -/
def Grows (fs fs' : Files) : Prop := ∀ key n, fs.node? key = some n → fs'.node? key = some n

theorem Grows.under (h : Grows fs fs') : Under fs fs' := fun key => h key .directory

theorem under_insert {key : String} (h : fs.node? key ≠ some .directory) (n : FileNode) :
    Under fs (Files.mk (fs.nodes.insert key n)) := by
  intro key' hk'
  have hne : key ≠ key' := fun he => h (he ▸ hk')
  rw [node?_insert h, if_neg hne, hk']

theorem grows_insert {key : String} (h : fs.node? key = none) (n : FileNode) :
    Grows fs (Files.mk (fs.nodes.insert key n)) := by
  intro key' n' hk'
  have hne : key ≠ key' := by
    rintro rfl
    rw [h] at hk'
    cases hk'
  rw [node?_insert (ne_directory_of_none h), if_neg hne, hk']

/-! ## Ways -/

/-- All steps of a way end in directories. -/
inductive Leads (fs : Files) : List String → List String → Prop
  | nil {here : List String} : Leads fs here []
  | cons {here : List String} {step : String} {rest : List String} :
      fs.node? (ofSteps (advance here step)) = some .directory →
      Leads fs (advance here step) rest → Leads fs here (step :: rest)

theorem leads_cons_iff {step : String} {rest : List String} : fs.Leads here (step :: rest) ↔
    fs.node? (ofSteps (advance here step)) = some .directory ∧
      fs.Leads (advance here step) rest := by
  constructor
  · rintro (_ | ⟨hd, hr⟩)
    exact ⟨hd, hr⟩
  · rintro ⟨hd, hr⟩
    exact .cons hd hr

theorem Leads.mono (h : Under fs fs') (hl : fs.Leads here steps) : fs'.Leads here steps := by
  induction hl with
  | nil => exact .nil
  | cons hd _ ih => exact .cons (h _ hd) ih

theorem leads_append (here before steps : List String) : fs.Leads here (before ++ steps) ↔
    fs.Leads here before ∧ fs.Leads (before.foldl advance here) steps := by
  induction before generalizing here with
  | nil => simp [Leads.nil]
  | cons step rest ih => simp [leads_cons_iff, ih, and_assoc]

theorem node?_of_leads (hh : fs.node? (ofSteps here) = some .directory)
    (hl : fs.Leads here steps) :
    fs.node? (ofSteps (steps.foldl advance here)) = some .directory := by
  induction hl with
  | nil => exact hh
  | cons hd _ ih => exact ih hd

theorem leads_of_stays (hh : fs.node? (ofSteps here) = some .directory) (ht : trail.all stays) :
    fs.Leads here trail := by
  induction trail with
  | nil => exact .nil
  | cons step trail ih =>
    rw [List.all_cons, Bool.and_eq_true_iff] at ht
    have ha : advance here step = here := if_pos ht.1
    exact .cons (ha.symm ▸ hh) (ha.symm ▸ ih ht.2)

theorem leads_of_proper (hl : fs.Leads [] (proper steps)) : fs.Leads [] steps := by
  obtain ⟨trail, hs, ht⟩ := exists_proper steps
  rw [hs, leads_append]
  exact ⟨hl, leads_of_stays (node?_of_leads (node?_ofSteps_nil fs) hl) ht⟩

theorem walk_eq_ok_iff (hn : stays name = false) (ht : trail.all stays) :
    fs.walk here (before ++ name :: trail) = .ok () ↔ fs.Leads here before := by
  induction before generalizing here with
  | nil => simp [walk_cons, ht, Leads.nil]
  | cons step rest ih =>
    have hr : (rest ++ name :: trail).all stays = false := by simp [hn]
    rw [List.cons_append, walk_cons, leads_cons_iff]
    simp only [hr, Bool.false_eq_true, if_false]
    cases hnode : fs.node? (ofSteps (advance here step)) with
    | none => simp
    | some node =>
      cases node with
      | directory => simpa using ih
      | file content mode => simp

theorem walk_mono (h : Under fs fs') (hw : fs.walk here steps = .ok ()) :
    fs'.walk here steps = .ok () := by
  induction steps generalizing here with
  | nil => rfl
  | cons step rest ih =>
    rw [walk_cons] at hw ⊢
    split at hw
    · next ht => rw [if_pos ht]
    · next ht =>
      rw [if_neg ht]
      split at hw
      · next hd =>
        rw [h _ hd]
        exact ih hw
      · cases hw
      · cases hw

/-! ## Making directories -/

theorem grows_makeSteps (fs : Files) (made : Bool) (here steps : List String) :
    Grows fs (fs.makeSteps made here steps).2 := by
  induction steps generalizing fs made here with
  | nil => exact fun _ _ h => h
  | cons step rest ih =>
    rw [makeSteps_cons]
    split
    · exact ih _ _ _
    · exact fun _ _ h => h
    · next hn => exact fun key n h => ih _ _ _ key n (grows_insert hn _ key n h)

theorem leads_of_makeSteps {made : Bool} (h : (fs.makeSteps made here steps).1 = .ok ()) :
    (fs.makeSteps made here steps).2.Leads here steps := by
  induction steps generalizing fs made here with
  | nil => exact .nil
  | cons step rest ih =>
    rw [makeSteps_cons] at h ⊢
    split at h
    · next hd => exact .cons (grows_makeSteps _ _ _ _ _ _ hd) (ih h)
    · cases h
    · next hn =>
      exact .cons (grows_makeSteps _ _ _ _ _ _ (node?_insert_self (ne_directory_of_none hn) _))
        (ih h)

theorem makeSteps_of_leads (h : fs.Leads here steps) (made : Bool) :
    fs.makeSteps made here steps = (.ok (), fs) := by
  induction h with
  | nil => rfl
  | cons hd _ ih =>
    rw [makeSteps_cons, hd]
    exact ih

theorem snd_makeSteps_made (fs : Files) (made made' : Bool) (here steps : List String) :
    (fs.makeSteps made here steps).2 = (fs.makeSteps made' here steps).2 := by
  induction steps generalizing fs made made' here with
  | nil => rfl
  | cons step rest ih =>
    rw [makeSteps_cons, makeSteps_cons]
    split
    · exact ih ..
    · rfl
    · rfl

/-- Making some directories first and then all of them comes to making all of them, also where that
fails. -/
theorem makeSteps_makeSteps_append (fs : Files) (made made' : Bool)
    (here before steps : List String) :
    ((fs.makeSteps made here before).2.makeSteps made' here (before ++ steps)).2 =
      (fs.makeSteps made here (before ++ steps)).2 := by
  -- nothing is taken away, so the second time finds a directory wherever the first one made one
  induction before generalizing fs made made' here with
  | nil => exact snd_makeSteps_made ..
  | cons step rest ih =>
    rw [List.cons_append, makeSteps_cons fs made, makeSteps_cons fs made]
    split
    · next hd =>
      rw [makeSteps_cons, grows_makeSteps _ _ _ _ _ _ hd]
      exact ih ..
    · next hf => rw [makeSteps_cons, hf]
    · next hn =>
      have hd := node?_insert_self (ne_directory_of_none hn) .directory
      rw [makeSteps_cons, grows_makeSteps _ _ _ _ _ _ hd]
      exact ih ..

/-- What was made with more steps is there when fewer of them are made again. -/
theorem makeSteps_makeSteps_take (fs : Files) (made made' : Bool)
    (here before steps : List String) :
    ((fs.makeSteps made here (before ++ steps)).2.makeSteps made' here before).2 =
      (fs.makeSteps made here (before ++ steps)).2 := by
  induction before generalizing fs made made' here with
  | nil => rfl
  | cons step rest ih =>
    rw [List.cons_append, makeSteps_cons fs made]
    split
    · next hd =>
      rw [makeSteps_cons, grows_makeSteps _ _ _ _ _ _ hd]
      exact ih ..
    · next hf => rw [makeSteps_cons, hf]
    · next hn =>
      have hd := node?_insert_self (ne_directory_of_none hn) .directory
      rw [makeSteps_cons, grows_makeSteps _ _ _ _ _ _ hd]
      exact ih ..

/-- Where directories cannot be made, more steps behind that are not reached. -/
theorem makeSteps_append_of_error {made : Bool} {e : FileError}
    (h : (fs.makeSteps made here before).1 = .error e) (steps : List String) :
    (∃ e, (fs.makeSteps made here (before ++ steps)).1 = .error e) ∧
      (fs.makeSteps made here (before ++ steps)).2 = (fs.makeSteps made here before).2 := by
  induction before generalizing fs made here with
  | nil => cases h
  | cons step rest ih =>
    rw [makeSteps_cons] at h
    rw [List.cons_append, makeSteps_cons fs made, makeSteps_cons fs made]
    split at h
    · exact ih h
    · exact ⟨⟨_, rfl⟩, rfl⟩
    · exact ih h

theorem grows_makeSteps_append (fs : Files) (made : Bool) (here before steps : List String) :
    Grows (fs.makeSteps made here before).2 (fs.makeSteps made here (before ++ steps)).2 := by
  rw [← makeSteps_makeSteps_append fs made made]
  exact grows_makeSteps _ _ _ _

/-- Directories can be made exactly if the way through them is there afterwards. -/
theorem makeSteps_eq_ok_iff {made : Bool} : (fs.makeSteps made here steps).1 = .ok () ↔
    (fs.makeSteps made here steps).2.Leads here steps := by
  refine ⟨leads_of_makeSteps, fun h => ?_⟩
  induction steps generalizing fs made here with
  | nil => rfl
  | cons step rest ih =>
    obtain ⟨hd, hl⟩ := leads_cons_iff.mp h
    cases hn : fs.node? (ofSteps (advance here step)) with
    | none =>
      simp only [makeSteps_cons, hn] at hl ⊢
      exact ih hl
    | some node =>
      cases node with
      | directory =>
        simp only [makeSteps_cons, hn] at hl ⊢
        exact ih hl
      | file content mode =>
        simp only [makeSteps_cons, hn] at hd
        cases hd

/-! ## Finding -/

/-- What a path leads to, case by case. -/
theorem find_eq (fs : Files) (path : String) : fs.find path =
    if path = "" then .error .notFound
    else match fs.walk [] (written path), fs.node? (normal path) with
      | .error e, _ => .error e
      | .ok _, none => .error .notFound
      | .ok _, some .directory => .ok .directory
      | .ok _, some (.file content mode) =>
        if endsInside path then .error .notDirectory else .ok (.file content mode) := by
  unfold find
  by_cases hp : path = ""
  · simp only [hp, if_true]
    rfl
  · simp only [hp, if_false]
    cases fs.walk [] (written path) with
    | error e => rfl
    | ok u => rcases fs.node? (normal path) with _ | _ | _ <;> rfl

theorem find_eq_file_iff : fs.find path = .ok (.file content mode) ↔ path ≠ "" ∧
    fs.walk [] (written path) = .ok () ∧ endsInside path = false ∧
      fs.node? (normal path) = some (.file content mode) := by
  rw [find_eq]
  by_cases hp : path = ""
  · simp [hp]
  · cases hw : fs.walk [] (written path) with
    | error e => simp [hp]
    | ok u =>
      rcases hn : fs.node? (normal path) with _ | _ | ⟨c, m⟩
      · simp [hp]
      · simp [hp]
      · cases he : endsInside path <;> simp [hp]

theorem find_eq_notFound_iff : fs.find path = .error .notFound ↔ path = "" ∨
    fs.walk [] (written path) = .error .notFound ∨
      fs.walk [] (written path) = .ok () ∧ fs.node? (normal path) = none := by
  rw [find_eq]
  by_cases hp : path = ""
  · simp [hp]
  · cases hw : fs.walk [] (written path) with
    | error e => simp [hp]
    | ok u =>
      rcases hn : fs.node? (normal path) with _ | _ | ⟨c, m⟩
      · simp [hp]
      · simp [hp]
      · cases he : endsInside path <;> simp [hp]

/-! ## Texts of files -/

theorem readText_eq_ok_iff {text : String} : fs.readText path = .ok text ↔
    ∃ content mode, fs.find path = .ok (.file content mode) ∧
      String.fromUTF8? content = some text := by
  unfold readText read
  rcases fs.find path with e | _ | ⟨c, m⟩
  · simp [bind, Except.bind]
  · simp [bind, Except.bind, throw, throwThe, MonadExceptOf.throw]
  · cases hc : String.fromUTF8? c <;>
      simp [bind, Except.bind, pure, Except.pure, throw, throwThe, MonadExceptOf.throw, hc]

theorem readText_eq_notFound_iff :
    fs.readText path = .error .notFound ↔ fs.find path = .error .notFound := by
  unfold readText read
  rcases fs.find path with e | _ | ⟨c, m⟩
  · simp [bind, Except.bind]
  · simp [bind, Except.bind, throw, throwThe, MonadExceptOf.throw]
  · cases hc : String.fromUTF8? c <;>
      simp [bind, Except.bind, pure, Except.pure, throw, throwThe, MonadExceptOf.throw, hc]

end Files
end Interchange
