import Interchange.Settings.Load
import Interchange.Proofs.Settings.Lines
import Interchange.Proofs.Text.Marks
import Mathlib.Data.List.Forall2

/-! # References to the environment

What becomes of a text of settings: references on lines that are no comments are replaced by the
values of their variables, and everything else stays. If a variable is not set, all names of such
variables are told instead, in the order in which they are first referred to.
-/

namespace Interchange

/-! ## Names in the order in which they occur first -/

section FirstOccurrence

variable {α : Type} [BEq α] [LawfulBEq α] {l as bs : List α} {a b : α}

/-- The items of a list, each once, in the order in which they occur in it first. -/
structure FirstOccurrences (l as : List α) : Prop where
  mem : ∀ a, a ∈ as ↔ a ∈ l
  ordered : as.Pairwise fun a b => l.idxOf a < l.idxOf b

theorem idxOf_lt_of_filter {p : α → Bool} (ha : p a = true) (hb : p b = true)
    (h : (l.filter p).idxOf a < (l.filter p).idxOf b) : l.idxOf a < l.idxOf b := by
  induction l with
  | nil => exact absurd h (Nat.lt_irrefl _)
  | cons c l ih =>
    by_cases hc : p c = true
    · rw [List.filter_cons_of_pos hc, List.idxOf_cons, List.idxOf_cons] at h
      rw [List.idxOf_cons, List.idxOf_cons]
      cases hcb : c == b with
      | true =>
        rw [hcb] at h
        exact absurd h (Nat.not_lt_zero _)
      | false =>
        cases hca : c == a with
        | true => exact Nat.succ_pos _
        | false =>
          rw [hca, hcb] at h
          exact Nat.succ_lt_succ (ih (Nat.lt_of_succ_lt_succ h))
    · have hca : (c == a) = false := beq_eq_false_iff_ne.mpr fun he => hc (he ▸ ha)
      have hcb : (c == b) = false := beq_eq_false_iff_ne.mpr fun he => hc (he ▸ hb)
      rw [List.filter_cons_of_neg hc] at h
      rw [List.idxOf_cons, List.idxOf_cons, hca, hcb]
      exact Nat.succ_lt_succ (ih h)

theorem pairwise_eraseDups (l : List α) :
    l.eraseDups.Pairwise fun a b => l.idxOf a < l.idxOf b := by
  induction hn : l.length using Nat.strongRecOn generalizing l with
  | ind n ih =>
    cases l with
    | nil => exact .nil
    | cons c l =>
      have hlen : (l.filter fun b => !b == c).length < n :=
        hn ▸ Nat.lt_succ_of_le (List.length_filter_le ..)
      have hne : ∀ {b}, b ∈ (l.filter fun b => !b == c).eraseDups → (c == b) = false := by
        intro b hb
        have hb' := (List.mem_filter.mp (List.mem_eraseDups.mp hb)).2
        rw [BEq.comm]
        simpa using hb'
      rw [List.eraseDups_cons]
      -- the head comes before all other items, and leaving it out keeps the order of these
      refine .cons (fun b hb => ?_) ((ih _ hlen _ rfl).imp_of_mem fun ha hb hab => ?_)
      · rw [List.idxOf_cons_self, List.idxOf_cons, hne hb]
        exact Nat.succ_pos _
      · rw [List.idxOf_cons, List.idxOf_cons, hne ha, hne hb]
        have hp : ∀ {b}, (c == b) = false → (!b == c) = true := by
          intro b hb
          rw [BEq.comm, hb]
          rfl
        exact Nat.succ_lt_succ
          (idxOf_lt_of_filter (hp (hne ha)) (hp (hne hb)) hab)

theorem firstOccurrences_eraseDups (l : List α) : FirstOccurrences l l.eraseDups :=
  ⟨fun _ => List.mem_eraseDups, pairwise_eraseDups l⟩

omit [LawfulBEq α] in
theorem FirstOccurrences.nodup (h : FirstOccurrences l as) : as.Nodup :=
  h.ordered.imp fun hlt he => by
    subst he
    exact Nat.lt_irrefl _ hlt

theorem firstOccurrences_iff : FirstOccurrences l as ↔ as = l.eraseDups := by
  constructor
  · intro h
    have h' := firstOccurrences_eraseDups l
    have hp : as.Perm l.eraseDups := (List.perm_ext_iff_of_nodup h.nodup h'.nodup).mpr
      fun a => (h.mem a).trans (h'.mem a).symm
    exact hp.eq_of_pairwise (fun _ _ _ _ hab hba => absurd hab (Nat.lt_asymm hba))
      h.ordered h'.ordered
  · rintro rfl
    exact firstOccurrences_eraseDups l

end FirstOccurrence

namespace Environment

open Text

variable {c : Char} {line cs name : List Char} {ps : List Part} {pss : List (List Part)}
  {env : Environment} {text : String} {names : List String}

/-! ## References -/

/-- A capital letter or an underscore, and then any number of these and of digits. -/
inductive IsName : List Char → Prop
  | mk {c : Char} {cs : List Char} : 'A' ≤ c ∧ c ≤ 'Z' ∨ c = '_' →
      (∀ d ∈ cs, ('A' ≤ d ∧ d ≤ 'Z' ∨ d = '_') ∨ '0' ≤ d ∧ d ≤ '9') → IsName (c :: cs)

theorem isNameStart_iff : isNameStart c = true ↔ 'A' ≤ c ∧ c ≤ 'Z' ∨ c = '_' := by
  simp [isNameStart]

theorem isNameChar_iff :
    isNameChar c = true ↔ ('A' ≤ c ∧ c ≤ 'Z' ∨ c = '_') ∨ '0' ≤ c ∧ c ≤ '9' := by
  simp [isNameChar, isNameStart_iff, isDigit]

theorem isName_iff :
    IsName name ↔ name.head?.any isNameStart = true ∧ ∀ c ∈ name, isNameChar c = true := by
  constructor
  · rintro ⟨hc, hcs⟩
    refine ⟨isNameStart_iff.mpr hc, List.forall_mem_cons.mpr ⟨isNameChar_iff.mpr (.inl hc), ?_⟩⟩
    exact fun d hd => isNameChar_iff.mpr (hcs d hd)
  · rintro ⟨hs, hn⟩
    cases name with
    | nil => cases hs
    | cons c cs =>
      refine .mk (isNameStart_iff.mp hs) fun d hd => ?_
      exact isNameChar_iff.mp (hn d (List.mem_cons_of_mem _ hd))

/-- A reference is a name between braces, behind a dollar sign. -/
def marking : Marking Part where
  plain := .plain
  mark := .reference
  opening := ['$', '{']
  IsName := IsName
  not_mem_name := fun _ hn hm => absurd ((isName_iff.mp hn).2 _ hm) (by decide)

theorem nameAt_eq_some_iff :
    nameAt cs = some name ↔ IsName name ∧ '{' :: (name ++ ['}']) <+: cs := by
  rw [isName_iff]
  cases cs with
  | nil => simp [nameAt]
  | cons c cs =>
    have hr := takeWhile_eq_iff isNameChar '}' cs name rfl
    rw [List.cons_prefix_cons]
    by_cases hc : c = '{'
    · subst hc
      simp only [nameAt, Option.ite_none_right_eq_some, Option.some.injEq, true_and]
      constructor
      · rintro ⟨⟨hs, hd⟩, rfl⟩
        obtain ⟨hn, hp⟩ := hr.mp ⟨rfl, hd⟩
        exact ⟨⟨hs, hn⟩, hp⟩
      · rintro ⟨⟨hs, hn⟩, hp⟩
        obtain ⟨rfl, hd⟩ := hr.mpr ⟨hn, hp⟩
        exact ⟨⟨hs, hd⟩, rfl⟩
    · have hn : nameAt (c :: cs) = none := by
        unfold nameAt
        split
        · next he => exact absurd (List.cons.inj he).1 hc
        · rfl
      rw [hn]
      exact ⟨nofun, fun h => absurd h.2.1.symm hc⟩

theorem starts_iff : marking.Starts (c :: cs) name ↔ c = '$' ∧ nameAt cs = some name := by
  have ht : marking.text name = '$' :: '{' :: (name ++ ['}']) := rfl
  rw [Marking.Starts, ht, List.cons_prefix_cons, nameAt_eq_some_iff]
  exact ⟨fun ⟨hn, hc, hp⟩ => ⟨hc.symm, hn, hp⟩, fun ⟨hc, hn, hp⟩ => ⟨hn, hc.symm, hp⟩⟩

theorem splits_partsFrom (cs : List Char) : marking.Splits cs (partsFrom 0 cs) :=
  Marking.splits_of_scan starts_iff (fun _ => rfl) (fun _ _ _ => rfl) (fun _ _ => rfl) 0 cs

/-! ## Lines -/

/-- The first character of a line that is not blank is `#`. -/
def Comment (line : List Char) : Prop :=
  ∃ blanks, (∀ c ∈ blanks, isBlank c = true) ∧ blanks ++ ['#'] <+: line

/-- The parts of a line: a comment is plain, and any other line is cut at its references. -/
inductive Parted : List Char → List Part → Prop
  | comment {line : List Char} : Comment line → Parted line (line.map .plain)
  | settings {line : List Char} {ps : List Part} :
      ¬ Comment line → marking.Splits line ps → Parted line ps

/-- The parts of the lines of a text. -/
def Reads (text : String) (pss : List (List Part)) : Prop :=
  ∃ ls, Lined text.toList ls ∧ List.Forall₂ Parted ls pss

theorem isComment_iff : isComment line = true ↔ Comment line := by
  have hr := fun blanks => takeWhile_eq_iff isBlank '#' line blanks rfl
  rw [isComment, decide_eq_true_iff, trimStart]
  constructor
  · exact fun h => ⟨_, (hr _).mp ⟨rfl, h⟩⟩
  · exact fun ⟨blanks, h⟩ => ((hr blanks).mpr h).2

theorem parted_iff : Parted line ps ↔ ps = parts line := by
  unfold parts
  split
  · next hc =>
    have hc' := isComment_iff.mp hc
    constructor
    · rintro (_ | ⟨hn, -⟩)
      · rfl
      · exact absurd hc' hn
    · rintro rfl
      exact .comment hc'
  · next hc =>
    have hc' : ¬ Comment line := fun h => hc (isComment_iff.mpr h)
    constructor
    · rintro (h | ⟨-, hs⟩)
      · exact absurd h hc'
      · exact (splits_partsFrom line).unique hs
    · rintro rfl
      exact .settings hc' (splits_partsFrom line)

theorem reads_iff : Reads text pss ↔ pss = (linesOf text.toList).map parts := by
  have hp : ∀ ls, List.Forall₂ Parted ls pss ↔ pss = ls.map parts := by
    intro ls
    have hq : Parted = fun line ps => parts line = ps := by
      funext line ps
      exact propext (parted_iff.trans eq_comm)
    rw [hq, eq_comm, ← List.forall₂_map_left_iff, List.forall₂_eq_eq_eq]
  simp only [Reads, lined_iff, hp, exists_eq_left]

/-! ## Replacing -/

def lineReferences (ps : List Part) : List String :=
  ps.filterMap fun
    | .plain _ => none
    | .reference name => some (String.ofList name)

/-- The names that a text refers to, in their order. -/
def references (pss : List (List Part)) : List String := pss.flatMap lineReferences

def replaced (value : String → String) : Part → List Char
  | .plain c => [c]
  | .reference name => (value (String.ofList name)).toList

/-- The text that lines make, each of them ended by a line feed. -/
def written (spell : Part → List Char) (pss : List (List Part)) : String :=
  String.ofList (pss.flatMap fun ps => ps.flatMap spell ++ ['\n'])

/-- The names that are not set, each once, in the order in which they are first referred to. -/
def Missing (env : Environment) (pss : List (List Part)) (names : List String) : Prop :=
  FirstOccurrences ((references pss).filter fun name => Dict.get? env name = none) names

theorem unset_eq_filter (env : Environment) (ps : List Part) :
    unset env ps = (lineReferences ps).filter fun name => Dict.get? env name = none := by
  rw [unset, lineReferences, List.filter_filterMap]
  refine List.filterMap_congr fun p _ => ?_
  cases p with
  | plain c => rfl
  | reference name =>
    cases hg : Dict.get? env (String.ofList name) <;> simp [Dict.contains, hg, Option.filter]

theorem written_fill {value : String → String}
    (h : ∀ name ∈ references pss, Dict.get? env name = some (value name)) :
    written (fill env) pss = written (replaced value) pss := by
  refine congrArg String.ofList (List.flatMap_congr fun ps hps => ?_)
  refine congrArg (· ++ ['\n']) (List.flatMap_congr fun p hp => ?_)
  cases p with
  | plain c => rfl
  | reference name =>
    have hn : String.ofList name ∈ references pss :=
      List.mem_flatMap.mpr ⟨ps, hps, List.mem_filterMap.mpr ⟨_, hp, rfl⟩⟩
    simp only [fill, replaced, h _ hn, Option.getD_some]

theorem intercalate_append (xs : List (List Char)) (h : xs ≠ []) :
    ['\n'].intercalate xs ++ ['\n'] = xs.flatMap (· ++ ['\n']) := by
  induction xs with
  | nil => exact absurd rfl h
  | cons x xs ih =>
    cases xs with
    | nil => simp
    | cons y ys =>
      rw [List.intercalate_cons_cons, List.append_assoc, ih (List.cons_ne_nil _ _)]
      simp only [List.flatMap_cons]

theorem linesOf_ne_nil (cs : List Char) : linesOf cs ≠ [] := by
  have h := lined_linesOf cs
  intro hn
  rw [hn] at h
  cases h

theorem substitute_eq (hr : Reads text pss) : env.substitute text =
    match ((references pss).filter fun name => Dict.get? env name = none).eraseDups with
    | [] => .ok (written (fill env) pss)
    | names => .error names := by
  have hu : (references pss).filter (fun name => Dict.get? env name = none) =
      pss.flatMap (unset env) := by
    rw [references, List.filter_flatMap]
    exact List.flatMap_congr fun ps _ => (unset_eq_filter env ps).symm
  rw [hu, reads_iff.mp hr]
  unfold substitute lines
  by_cases hn : text.toList = []
  · rw [hn]
    rfl
  · have hl : linesFrom [] text.toList = linesOf text.toList := (if_neg hn).symm
    have hw := intercalate_append ((linesOf text.toList).map
      fun line => (parts line).flatMap (fill env)) (by simpa using linesOf_ne_nil _)
    rw [hl]
    dsimp only
    cases (((linesOf text.toList).map parts).flatMap (unset env)).eraseDups with
    | nil => simp only [List.map_map, Function.comp_def, hw, written, List.flatMap_map]
    | cons name names => rfl

theorem substitute_eq_error_iff (hr : Reads text pss) :
    env.substitute text = .error names ↔ names ≠ [] ∧ Missing env pss names := by
  rw [substitute_eq hr, Missing, firstOccurrences_iff]
  split
  · next hn =>
    rw [hn]
    exact ⟨nofun, fun h => absurd h.2 h.1⟩
  · next hn =>
    rw [Except.error.injEq]
    exact ⟨fun h => ⟨h ▸ hn, h.symm⟩, fun h => h.2.symm⟩

theorem substitute_eq_ok_iff {out : String} (hr : Reads text pss) :
    env.substitute text = .ok out ↔ ∃ value : String → String,
      (∀ name ∈ references pss, Dict.get? env name = some (value name)) ∧
        out = written (replaced value) pss := by
  rw [substitute_eq hr]
  constructor
  · intro h
    split at h
    · next hn =>
      have hset : ∀ name ∈ references pss,
          Dict.get? env name = some ((Dict.get? env name).getD "") := by
        intro name hm
        cases hg : Dict.get? env name with
        | some v => rfl
        | none =>
          have hu := List.mem_filter (p := fun name => Dict.get? env name = none).mpr
            ⟨hm, decide_eq_true hg⟩
          exact absurd (hn ▸ List.mem_eraseDups.mpr hu) List.not_mem_nil
      exact ⟨_, hset, (Except.ok.inj h).symm.trans (written_fill hset)⟩
    · cases h
  · rintro ⟨value, hv, rfl⟩
    have hn : (references pss).filter (fun name => Dict.get? env name = none) = [] :=
      List.filter_eq_nil_iff.mpr fun name hm => by simp [hv name hm]
    rw [hn, written_fill hv]
    rfl

/-- A text of settings is read in one way. If some of the names that it refers to are not set, the
error lists these; otherwise each reference is replaced by the value of its variable, and nothing
else is changed but the line ends. -/
theorem substitute_exactly (text : String) : ∃ pss, Reads text pss ∧
    (∀ qss, Reads text qss → qss = pss) ∧
    ∀ env : Environment,
      (∀ names, env.substitute text = .error names ↔ names ≠ [] ∧ Missing env pss names) ∧
      (∀ names, env.substitute text = .error names → Settings.read env text = .error (.configuration
        ("Missing required environment variables: " ++ ", ".intercalate names))) ∧
      ∀ out, env.substitute text = .ok out ↔ ∃ value : String → String,
        (∀ name ∈ references pss, Dict.get? env name = some (value name)) ∧
          out = written (replaced value) pss := by
  refine ⟨_, reads_iff.mpr rfl, fun qss => reads_iff.mp, fun env => ⟨?_, ?_, ?_⟩⟩
  · exact fun names => substitute_eq_error_iff (reads_iff.mpr rfl)
  · intro names h
    rw [Settings.read, h]
    rfl
  · exact fun out => substitute_eq_ok_iff (reads_iff.mpr rfl)

/-! ## Texts without references -/

/-- A line that refers to nothing: a comment, or a line without a reference in it. -/
def Unreferring (line : List Char) : Prop :=
  Comment line ∨ ∀ name, IsName name → ¬ marking.text name <:+: line

theorem unreferring_iff_plain : Unreferring line ↔ parts line = line.map .plain := by
  rw [eq_comm, ← parted_iff]
  constructor
  · rintro (hc | hn)
    · exact .comment hc
    · by_cases hc : Comment line
      · exact .comment hc
      · exact .settings hc (Marking.splits_of_no_mark hn)
  · intro h
    by_cases hc : Comment line
    · exact .inl hc
    · refine .inr (Marking.Splits.no_mark (M := marking) (fun _ _ => nofun) ?_)
      generalize hq : line.map Part.plain = qs at h
      cases h with
      | comment hc' => exact absurd hc' hc
      | settings _ hs => exact hq ▸ hs

theorem lineReferences_plain (line : List Char) : lineReferences (line.map .plain) = [] := by
  rw [lineReferences, List.filterMap_map]
  exact List.filterMap_eq_nil_iff.mpr fun _ _ => rfl

theorem plain_of_splits (h : marking.Splits line ps) (hn : lineReferences ps = []) :
    ps = line.map .plain := by
  induction h with
  | nil => rfl
  | mark => cases hn
  | plain _ _ ih =>
    rw [ih hn]
    rfl

theorem unreferring_iff : Unreferring line ↔ lineReferences (parts line) = [] := by
  rw [unreferring_iff_plain]
  refine ⟨fun h => h ▸ lineReferences_plain line, fun h => ?_⟩
  generalize hp : parts line = ps at h ⊢
  cases parted_iff.mpr hp.symm with
  | comment => rfl
  | settings _ hs => exact plain_of_splits hs h

/-- A text that refers to nothing is taken as it is, but for its line ends. -/
theorem substitute_of_unreferring (hl : text.toList.getLast? = some '\n')
    (hn : ∀ line ∈ linesOf text.toList, Unreferring line) (env : Environment) :
    env.substitute text = .ok (String.ofList (withFeeds text.toList)) := by
  have hp : (linesOf text.toList).map parts = (linesOf text.toList).map (·.map .plain) :=
    List.map_congr_left fun line hm => unreferring_iff_plain.mp (hn line hm)
  refine (substitute_eq_ok_iff (reads_iff.mpr rfl)).mpr ⟨fun _ => "", fun name hm => ?_, ?_⟩
  · obtain ⟨ps, hps, hm⟩ := List.mem_flatMap.mp hm
    obtain ⟨line, hm', rfl⟩ := List.mem_map.mp hps
    rw [unreferring_iff.mp (hn line hm')] at hm
    cases hm
  · rw [hp, written, List.flatMap_map, ← flatMap_of_lined (lined_linesOf _) hl]
    refine congrArg String.ofList (List.flatMap_congr fun line _ => congrArg (· ++ ['\n']) ?_)
    rw [List.flatMap_map]
    exact (List.flatMap_singleton' line).symm

/-- Where no variable is set, a text must not refer to any. -/
theorem unreferring_of_substitute {out : String} (h : Environment.substitute [] text = .ok out) :
    ∀ line ∈ linesOf text.toList, Unreferring line := by
  obtain ⟨value, hv, -⟩ := (substitute_eq_ok_iff (reads_iff.mpr rfl)).mp h
  intro line hl
  rw [unreferring_iff, List.eq_nil_iff_forall_not_mem]
  intro name hn
  have hm : name ∈ references ((linesOf text.toList).map parts) :=
    List.mem_flatMap.mpr ⟨_, List.mem_map_of_mem hl, hn⟩
  cases hv name hm

end Environment
end Interchange
