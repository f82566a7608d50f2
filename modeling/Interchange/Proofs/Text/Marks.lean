import Mathlib.Data.List.TakeWhile

/-! # Marks in a text

A text may hold marks: a name behind an opening and in front of a closing brace. A way to write
marks cuts each text into pieces, and it does so in one way: from left to right, a mark is taken
wherever one starts, and a character where no mark starts is plain.
-/

namespace Interchange
namespace Text

variable {β : Type} {c : Char} {cs rest name name' : List Char} {ps qs : List β}

/-- A text is cut in one way at the first place where a character stands. -/
theorem append_cons_inj {xs ys xs' ys' : List Char} (h : c ∉ xs) (h' : c ∉ ys)
    (he : xs ++ c :: xs' = ys ++ c :: ys') : xs = ys ∧ xs' = ys' := by
  rcases List.append_eq_append_iff.mp he with ⟨zs, rfl, hz⟩ | ⟨zs, rfl, hz⟩
  all_goals
    rcases List.cons_eq_append_iff.mp hz with ⟨rfl, hz⟩ | ⟨zs, rfl, -⟩
    · simp_all
    · simp at h h'

/-- What a run of characters holds, if another character ends it. -/
theorem takeWhile_eq_iff (ok : Char → Bool) (c : Char) (cs name : List Char) (hc : ok c = false) :
    cs.takeWhile ok = name ∧ (cs.dropWhile ok).head? = some c ↔
      (∀ d ∈ name, ok d = true) ∧ name ++ [c] <+: cs := by
  constructor
  · rintro ⟨rfl, hh⟩
    obtain ⟨rest, hr⟩ := List.head?_eq_some_iff.mp hh
    refine ⟨fun d hd => List.mem_takeWhile_imp hd, rest, ?_⟩
    rw [List.append_assoc, List.singleton_append, ← hr, List.takeWhile_append_dropWhile]
  · rintro ⟨hn, rest, rfl⟩
    have ht : (c :: rest).takeWhile ok = [] := List.takeWhile_cons_of_neg (by simp [hc])
    have hd : (c :: rest).dropWhile ok = c :: rest := List.dropWhile_cons_of_neg (by simp [hc])
    rw [List.append_assoc, List.singleton_append, List.takeWhile_append_of_pos hn,
      List.dropWhile_append_of_pos hn, ht, hd, List.append_nil]
    exact ⟨rfl, rfl⟩

/-- A way to write marks, and the pieces that it cuts a text into. -/
structure Marking (β : Type) where
  plain : Char → β
  mark : List Char → β
  /-- What stands in front of a name. -/
  opening : List Char
  IsName : List Char → Prop
  not_mem_name : ∀ name, IsName name → '}' ∉ name

namespace Marking

variable {M : Marking β}

def text (M : Marking β) (name : List Char) : List Char := M.opening ++ name ++ ['}']

def Starts (M : Marking β) (cs name : List Char) : Prop := M.IsName name ∧ M.text name <+: cs

/-- The pieces of a text, from left to right. -/
inductive Splits (M : Marking β) : List Char → List β → Prop
  | nil : Splits M [] []
  | mark {name rest : List Char} {ps : List β} :
      M.IsName name → Splits M rest ps → Splits M (M.text name ++ rest) (M.mark name :: ps)
  | plain {c : Char} {cs : List Char} {ps : List β} :
      (∀ name, ¬ M.Starts (c :: cs) name) → Splits M cs ps → Splits M (c :: cs) (M.plain c :: ps)

theorem text_append (M : Marking β) (name rest : List Char) :
    M.text name ++ rest = M.opening ++ (name ++ '}' :: rest) := by
  simp [text]

theorem text_ne_nil (M : Marking β) (name : List Char) : M.text name ≠ [] := by
  simp [text]

theorem length_text (M : Marking β) (name : List Char) :
    (M.text name).length - 1 = name.length + M.opening.length := by
  simp [text, Nat.add_comm]

theorem starts_text_append (hn : M.IsName name) (rest : List Char) :
    M.Starts (M.text name ++ rest) name := ⟨hn, List.prefix_append ..⟩

theorem drop_of_append_eq {ds : List Char} (hne : ds ≠ []) (h : ds ++ rest = c :: cs) :
    cs.drop (ds.length - 1) = rest := by
  obtain ⟨d, ds, rfl⟩ := List.exists_cons_of_ne_nil hne
  obtain ⟨rfl, rfl⟩ := List.cons.inj h
  simp

theorem eq_of_append_eq {rest' : List Char} (hn : M.IsName name) (hn' : M.IsName name')
    (h : M.text name ++ rest = M.text name' ++ rest') : name = name' ∧ rest = rest' := by
  rw [text_append, text_append, List.append_cancel_left_eq] at h
  exact append_cons_inj (M.not_mem_name name hn) (M.not_mem_name name' hn') h

theorem Splits.of_mark (hn : M.IsName name) (h : M.Splits (M.text name ++ rest) qs) :
    ∃ ps, qs = M.mark name :: ps ∧ M.Splits rest ps := by
  generalize hc : M.text name ++ rest = cs at h
  cases h with
  | nil => exact absurd (List.append_eq_nil_iff.mp hc).1 (M.text_ne_nil name)
  | mark hn' h =>
    obtain ⟨rfl, rfl⟩ := eq_of_append_eq hn hn' hc
    exact ⟨_, rfl, h⟩
  | plain hp h => exact absurd (hc ▸ starts_text_append hn rest) (hp name)

theorem Splits.of_plain (hp : ∀ name, ¬ M.Starts (c :: cs) name) (h : M.Splits (c :: cs) qs) :
    ∃ ps, qs = M.plain c :: ps ∧ M.Splits cs ps := by
  generalize hc : c :: cs = ds at h
  cases h with
  | nil => cases hc
  | mark hn h => exact absurd (hc ▸ starts_text_append hn _) (hp _)
  | plain _ h =>
    cases hc
    exact ⟨_, rfl, h⟩

/-- A text is cut in one way only. -/
theorem Splits.unique (h : M.Splits cs ps) (h' : M.Splits cs qs) : qs = ps := by
  induction h generalizing qs with
  | nil =>
    generalize hc : ([] : List Char) = cs at h'
    cases h' with
    | nil => rfl
    | mark => exact absurd (List.append_eq_nil_iff.mp hc.symm).1 (M.text_ne_nil _)
    | plain => cases hc
  | mark hn _ ih =>
    obtain ⟨ps', rfl, hr⟩ := h'.of_mark hn
    rw [ih hr]
  | plain hp _ ih =>
    obtain ⟨ps', rfl, hr⟩ := h'.of_plain hp
    rw [ih hr]

theorem splits_of_no_mark (h : ∀ name, M.IsName name → ¬ M.text name <:+: cs) :
    M.Splits cs (cs.map M.plain) := by
  induction cs with
  | nil => exact .nil
  | cons c cs ih =>
    refine .plain (fun name hs => h name hs.1 hs.2.isInfix) (ih fun name hn hi => ?_)
    exact h name hn (List.infix_cons_iff.mpr (.inr hi))

theorem Splits.no_mark (hne : ∀ c name, M.plain c ≠ M.mark name)
    (h : M.Splits cs (cs.map M.plain)) : ∀ name, M.IsName name → ¬ M.text name <:+: cs := by
  induction cs with
  | nil => exact fun name _ hi => M.text_ne_nil name (List.eq_nil_of_infix_nil hi)
  | cons c cs ih =>
    intro name hn hi
    by_cases hs : ∃ name, M.Starts (c :: cs) name
    · obtain ⟨name', hn', rest, hr⟩ := hs
      rw [← hr] at h
      obtain ⟨ps, hps, -⟩ := h.of_mark hn'
      rw [hr] at hps
      exact hne c name' (List.cons.inj hps).1
    · obtain ⟨ps, hps, hcs⟩ := h.of_plain (not_exists.mp hs)
      obtain ⟨-, rfl⟩ := List.cons.inj hps
      rcases List.infix_cons_iff.mp hi with hp | hi
      · exact hs ⟨name, hn, hp⟩
      · exact ih hcs name hn hi

/-- Reading from left to right, with a count of the characters that a mark still covers, cuts a text
into its pieces. -/
theorem splits_of_scan {f : Nat → List Char → List β} {first : Char}
    {nameAt : List Char → Option (List Char)}
    (hstarts : ∀ {c cs name}, M.Starts (c :: cs) name ↔ c = first ∧ nameAt cs = some name)
    (hnil : ∀ skip, f skip [] = []) (hskip : ∀ skip c cs, f (skip + 1) (c :: cs) = f skip cs)
    (hstep : ∀ c cs, f 0 (c :: cs) = if c = first then
        match nameAt cs with
        | some name => M.mark name :: f (name.length + M.opening.length) cs
        | none => M.plain c :: f 0 cs
      else M.plain c :: f 0 cs) (skip : Nat) (cs : List Char) :
    M.Splits (cs.drop skip) (f skip cs) := by
  induction cs generalizing skip with
  | nil =>
    rw [hnil, List.drop_nil]
    exact .nil
  | cons c cs ih =>
    cases skip with
    | succ skip =>
      rw [hskip, List.drop_succ_cons]
      exact ih skip
    | zero =>
      have hplain : (c = first → nameAt cs = none) →
          M.Splits (c :: cs) (M.plain c :: f 0 cs) := by
        refine fun hn => .plain (fun name hs => ?_) (ih 0)
        obtain ⟨hc, hs⟩ := hstarts.mp hs
        exact absurd ((hn hc).symm.trans hs) nofun
      rw [List.drop_zero, hstep]
      split
      · next hc =>
        cases hn : nameAt cs with
        | none => exact hplain fun _ => hn
        | some name =>
          obtain ⟨hname, rest, hr⟩ := hstarts.mpr ⟨hc, hn⟩
          rw [← hr]
          refine .mark hname (drop_of_append_eq (M.text_ne_nil name) hr ▸ ?_)
          rw [length_text]
          exact ih _
      · next hc => exact hplain fun he => absurd he hc

end Marking
end Text
end Interchange
