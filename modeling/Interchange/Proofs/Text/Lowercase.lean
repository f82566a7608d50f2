import Interchange.Text.Lowercase
import Interchange.Proofs.Text.Trim

/-! # Lower case, taken twice

A text in lower case is its own lower-case form. For the table of letters this says that no run of
upper-case letters leads to a letter of another run; white space is not lower-case either, so a text
stays without white space around it.
-/

namespace Interchange
namespace Text

variable {c : Char} {cs : List Char} {n : Nat}

/-! ## Runs of code points -/

/-- A code point is one of a run: first, last, distance between two of them. -/
def InRun (r : Nat × Nat × Nat) (n : Nat) : Prop :=
  r.1 ≤ n ∧ n ≤ r.2.1 ∧ (n - r.1) % r.2.2 = 0

/-- Two runs have nothing in common: one ends before the other starts, or one has the even and the
other the odd numbers. -/
def apart (r s : Nat × Nat × Nat) : Bool :=
  Nat.blt r.2.1 s.1 || Nat.blt s.2.1 r.1 ||
    ((r.1 == r.2.1 || r.2.2 == 2) && s.2.2 == 2 && (r.1 + s.1) % 2 == 1)

theorem InRun.not_of_apart {r s : Nat × Nat × Nat} (hn : InRun r n) (h : apart r s = true) :
    ¬ InRun s n := by
  obtain ⟨first, last, step⟩ := r
  obtain ⟨first', last', step'⟩ := s
  obtain ⟨hfirst, hlast, hstep⟩ := hn
  rintro ⟨hfirst', hlast', hstep'⟩
  simp only [apart, Bool.or_eq_true, Bool.and_eq_true, Nat.blt_eq, beq_iff_eq] at *
  rcases h with (h | h) | ⟨⟨rfl | rfl, rfl⟩, h⟩ <;> omega

def upperRun (r : Nat × Nat × Nat × Int) : Nat × Nat × Nat := (r.1, r.2.1, r.2.2.1)

def lowerRun (r : Nat × Nat × Nat × Int) : Nat × Nat × Nat :=
  ((r.1 + r.2.2.2).toNat, (r.2.1 + r.2.2.2).toNat, r.2.2.1)

def blankRuns : List (Nat × Nat × Nat) :=
  [(9, 13, 1), (0x20, 0x20, 1), (0x85, 0x85, 1), (0xa0, 0xa0, 1), (0x1680, 0x1680, 1),
    (0x2000, 0x200a, 1), (0x2028, 0x2029, 1), (0x202f, 0x202f, 1), (0x205f, 0x205f, 1),
    (0x3000, 0x3000, 1)]

/-- The two letters whose lower-case forms are not looked up, and what is no character. -/
def otherRuns : List (Nat × Nat × Nat) :=
  [(0x130, 0x130, 1), (0x3a3, 0x3a3, 1), (0xd800, 0xdfff, 1)]

theorem lowerRun_apart : ∀ r ∈ lowerRuns, 0 ≤ r.1 + r.2.2.2 ∧ (lowerRun r).2.1 < 0x110000 ∧
    (lowerRuns.all fun s => apart (lowerRun r) (upperRun s)) ∧
    (blankRuns ++ otherRuns).all (apart (lowerRun r)) := by
  decide +kernel

theorem upperRun_apart : ∀ r ∈ lowerRuns, blankRuns.all fun s => apart s (upperRun r) := by
  decide +kernel

theorem isBlank_iff : isBlank c = true ↔ ∃ s ∈ blankRuns, InRun s c.toNat := by
  simp only [isBlank, blankRuns, InRun, List.mem_cons, List.not_mem_nil, or_false,
    exists_eq_or_imp, exists_eq_left, Nat.mod_one, and_true, Bool.or_eq_true, Bool.and_eq_true,
    decide_eq_true_eq, beq_iff_eq]
  omega

/-- Of the runs only that of the ASCII letters starts below 128. -/
theorem lowerRun_ascii : ∀ r ∈ lowerRuns, r = (0x41, 0x5a, 1, 32) ∨ 0x80 ≤ r.1 := by
  decide +kernel

/-! ## One character -/

/-- A character that lower case leaves as it is. -/
def Lower (c : Char) : Prop :=
  (∀ r ∈ lowerRuns, ¬ InRun (upperRun r) c.toNat) ∧ c.toNat ≠ 0x130 ∧ c.toNat ≠ 0x3a3

instance (r : Nat × Nat × Nat) (n : Nat) : Decidable (InRun r n) :=
  inferInstanceAs (Decidable (r.1 ≤ n ∧ n ≤ r.2.1 ∧ (n - r.1) % r.2.2 = 0))

instance (c : Char) : Decidable (Lower c) :=
  inferInstanceAs (Decidable ((∀ r ∈ lowerRuns, ¬ InRun (upperRun r) c.toNat) ∧
    c.toNat ≠ 0x130 ∧ c.toNat ≠ 0x3a3))

theorem lowerChar_cases (c : Char) :
    ((∀ r ∈ lowerRuns, ¬ InRun (upperRun r) c.toNat) ∧ lowerChar c = c) ∨
      ∃ r ∈ lowerRuns, InRun (upperRun r) c.toNat ∧
        lowerChar c = Char.ofNat (c.toNat + r.2.2.2).toNat := by
  simp only [lowerChar]
  split
  · next ha =>
    split
    · next hu => exact .inr ⟨(0x41, 0x5a, 1, 32), by decide, ⟨hu.1, hu.2, Nat.mod_one _⟩, rfl⟩
    · next hu =>
      refine .inl ⟨fun r hr hn => ?_, rfl⟩
      rcases lowerRun_ascii r hr with rfl | hr
      · exact hu ⟨hn.1, hn.2.1⟩
      · exact absurd hn.1 (Nat.not_le.mpr (Nat.lt_of_lt_of_le ha hr))
  · have hrun (r : Nat × Nat × Nat × Int) :
        (r.1 ≤ c.toNat && c.toNat ≤ r.2.1 && (c.toNat - r.1) % r.2.2.1 == 0) = true ↔
          InRun (upperRun r) c.toNat := by
      simp [InRun, upperRun, and_assoc]
    split
    · next r hr =>
      have hn := (hrun r).mp (by simpa using List.find?_some hr)
      exact .inr ⟨r, List.mem_of_find?_eq_some hr, hn, rfl⟩
    · next hr =>
      exact .inl ⟨fun r hm hn => List.find?_eq_none.mp hr r hm ((hrun r).mpr hn), rfl⟩

theorem Lower.lowerChar_eq (h : Lower c) : lowerChar c = c := by
  rcases lowerChar_cases c with ⟨-, he⟩ | ⟨r, hr, hn, -⟩
  · exact he
  · exact absurd hn (h.1 r hr)

theorem InRun.shift {r : Nat × Nat × Nat × Int} (h : InRun (upperRun r) n)
    (hr : 0 ≤ r.1 + r.2.2.2) : InRun (lowerRun r) (n + r.2.2.2).toNat := by
  obtain ⟨first, last, step, offset⟩ := r
  obtain ⟨hfirst, hlast, hstep⟩ := h
  simp only [upperRun, lowerRun, InRun] at *
  have hd : (n + offset).toNat - (first + offset).toNat = n - first := by omega
  exact ⟨by omega, by omega, hd ▸ hstep⟩

/-- What a run leads to is a lower-case letter. -/
theorem lower_of_inRun {r : Nat × Nat × Nat × Int} (hr : r ∈ lowerRuns)
    (hn : InRun (upperRun r) n) : Lower (Char.ofNat (n + r.2.2.2).toNat) ∧
      isBlank (Char.ofNat (n + r.2.2.2).toNat) = false := by
  obtain ⟨hpos, hlast, hupper, hother⟩ := lowerRun_apart r hr
  have hm := hn.shift hpos
  generalize (n + r.2.2.2).toNat = m at *
  obtain ⟨hblank, hother⟩ := List.forall_mem_append.mp fun s hs =>
    hm.not_of_apart (List.all_eq_true.mp hother s hs)
  simp only [otherRuns, List.forall_mem_cons, InRun, Nat.mod_one, and_true] at hother
  have hv : m.isValidChar := by
    have hl := Nat.lt_of_le_of_lt hm.2.1 hlast
    simp only [Nat.isValidChar]
    omega
  have hc : (Char.ofNat m).toNat = m := by
    rw [Char.ofNat, dif_pos hv]
    rfl
  refine ⟨⟨fun s hs => ?_, by omega, by omega⟩, Bool.eq_false_iff.mpr fun hb => ?_⟩
  · rw [hc]
    exact hm.not_of_apart (List.all_eq_true.mp hupper s hs)
  · obtain ⟨s, hs, hin⟩ := isBlank_iff.mp hb
    exact hblank s hs (hc ▸ hin)

theorem lower_of_isBlank (h : isBlank c = true) : Lower c := by
  obtain ⟨s, hs, hin⟩ := isBlank_iff.mp h
  refine ⟨fun r hr => hin.not_of_apart (List.all_eq_true.mp (upperRun_apart r hr) s hs), ?_, ?_⟩
  all_goals
    rintro hc
    have hf := (isBlank_iff (c := c)).mpr ⟨s, hs, hin⟩
    simp [isBlank, hc] at hf

/-! ## A whole text -/

/-- A character becomes one or two characters that lower case leaves as they are, and these are
blank if it is. -/
theorem lowerFrom_cons (before : List Char) (c : Char) (cs : List Char) :
    ∃ ds, ds ≠ [] ∧ (∀ d ∈ ds, Lower d ∧ isBlank d = isBlank c) ∧
      lowerFrom before (c :: cs) = ds ++ lowerFrom (c :: before) cs := by
  refine ⟨_, ?_, ?_, rfl⟩
  · split
    · exact List.cons_ne_nil _ _
    · split <;> exact List.cons_ne_nil _ _
  · split
    · next h130 =>
      have hc : isBlank c = false := by simp [isBlank, h130]
      rw [hc]
      exact List.forall_mem_cons.mpr ⟨by decide +kernel,
        List.forall_mem_singleton.mpr (by decide +kernel)⟩
    split
    · next h3a3 =>
      have hc : isBlank c = false := by simp [isBlank, h3a3]
      rw [hc]
      refine List.forall_mem_singleton.mpr ?_
      generalize (reachesCased before && !reachesCased cs) = final
      cases final <;> decide +kernel
    next h130 h3a3 =>
    refine List.forall_mem_singleton.mpr ?_
    rcases lowerChar_cases c with ⟨hc, he⟩ | ⟨r, hr, hn, he⟩
    · rw [he]
      exact ⟨⟨hc, h130, h3a3⟩, rfl⟩
    · have hc : isBlank c = false :=
        Bool.eq_false_iff.mpr fun hb => (lower_of_isBlank hb).1 r hr hn
      rw [he, hc]
      exact lower_of_inRun hr hn

theorem lower_of_mem_lowerFrom (before cs : List Char) : ∀ d ∈ lowerFrom before cs, Lower d := by
  induction cs generalizing before with
  | nil => nofun
  | cons c cs ih =>
    obtain ⟨ds, -, hd, he⟩ := lowerFrom_cons before c cs
    rw [he]
    exact List.forall_mem_append.mpr ⟨fun d hm => (hd d hm).1, ih _⟩

theorem lowerFrom_of_lower (h : ∀ c ∈ cs, Lower c) (before : List Char) :
    lowerFrom before cs = cs := by
  induction cs generalizing before with
  | nil => rfl
  | cons c cs ih =>
    obtain ⟨hc, hcs⟩ := List.forall_mem_cons.mp h
    rw [lowerFrom, ih hcs, if_neg hc.2.1, if_neg hc.2.2, hc.lowerChar_eq]
    rfl

theorem lowercase_lowercase (s : String) : lowercase (lowercase s) = lowercase s := by
  rw [lowercase, lowercase, String.toList_ofList,
    lowerFrom_of_lower (lower_of_mem_lowerFrom [] s.toList)]

theorem head?_lowerFrom (before cs : List Char) :
    (lowerFrom before cs).head?.map isBlank = cs.head?.map isBlank := by
  cases cs with
  | nil => rfl
  | cons c cs =>
    obtain ⟨ds, hne, hd, he⟩ := lowerFrom_cons before c cs
    obtain ⟨d, ds, rfl⟩ := List.exists_cons_of_ne_nil hne
    rw [he]
    exact congrArg some (hd d List.mem_cons_self).2

theorem getLast?_lowerFrom (before cs : List Char) :
    (lowerFrom before cs).getLast?.map isBlank = cs.getLast?.map isBlank := by
  induction cs generalizing before with
  | nil => rfl
  | cons c cs ih =>
    obtain ⟨ds, hne, hd, he⟩ := lowerFrom_cons before c cs
    have hlast : ds.getLast?.map isBlank = some (isBlank c) := by
      rw [List.getLast?_eq_some_getLast hne]
      exact congrArg some (hd _ (List.getLast_mem hne)).2
    rw [he, List.getLast?_append, Option.map_or, ih, hlast, ← List.singleton_append,
      List.getLast?_append, Option.map_or]
    rfl

theorem tight_iff_map : Tight cs ↔
    cs.head?.map isBlank ≠ some true ∧ cs.getLast?.map isBlank ≠ some true := by
  simp [Tight]

/-- White space around a text stays around its lower-case form, and none comes up. -/
theorem tight_lowerFrom : Tight (lowerFrom [] cs) ↔ Tight cs := by
  rw [tight_iff_map, tight_iff_map, head?_lowerFrom, getLast?_lowerFrom]

theorem trim_lowercase_iff {s : String} : trim (lowercase s) = lowercase s ↔ trim s = s := by
  rw [trim_eq_self_iff, trim_eq_self_iff, lowercase, String.toList_ofList, tight_lowerFrom]

end Text
end Interchange
