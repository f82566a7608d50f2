import Interchange.Text.Ascii
import Interchange.Text.Trim
import Mathlib.Data.List.DropRight
import Mathlib.Data.List.TakeWhile

/-! # Trimming and cutting

A text without the white space around it, and the two parts of a text around the first place where a
character stands.
-/

namespace Interchange
namespace Text

variable {c : Char} {cs text before after front rest : List Char}

/-! ## White space around a text -/

theorem isAlphanumeric_iff : isAlphanumeric c = true ↔
    (48 ≤ c.toNat ∧ c.toNat ≤ 57) ∨ (97 ≤ c.toNat ∧ c.toNat ≤ 122) ∨
      65 ≤ c.toNat ∧ c.toNat ≤ 90 := by
  simp only [isAlphanumeric, isDigit, isLetter, Bool.or_eq_true, Bool.and_eq_true,
    decide_eq_true_iff]
  rfl

theorem isBlank_of_isAlphanumeric (h : isAlphanumeric c = true) : isBlank c = false := by
  have hc := isAlphanumeric_iff.mp h
  simp only [isBlank, Bool.or_eq_false_iff, Bool.and_eq_false_iff, decide_eq_false_iff_not,
    beq_eq_false_iff_ne]
  omega

theorem dropWhile_isBlank (h : ∀ c ∈ cs.head?, isBlank c = false) : cs.dropWhile isBlank = cs := by
  cases cs with
  | nil => rfl
  | cons c cs => exact List.dropWhile_cons_of_neg (by simp [h c rfl])

/-- A text with no white space around it. -/
def Tight (cs : List Char) : Prop :=
  (∀ c ∈ cs.head?, isBlank c = false) ∧ ∀ c ∈ cs.getLast?, isBlank c = false

theorem tight_of_not_blank (h : ∀ c ∈ cs, isBlank c = false) : Tight cs :=
  ⟨fun c hc => h c (List.mem_of_mem_head? hc), fun c hc => h c (List.mem_of_mem_getLast? hc)⟩

theorem Tight.reverse (h : Tight cs) : Tight cs.reverse :=
  ⟨by rw [List.head?_reverse]; exact h.2, by rw [List.getLast?_reverse]; exact h.1⟩

theorem tight_trimmed (cs : List Char) : Tight (trimmed cs) := by
  refine ⟨fun c hc => ?_, fun c hc => ?_⟩
  · have hp : trimmed cs <+: trimStart cs := List.rdropWhile_prefix isBlank _
    have hs := List.head?_dropWhile_not isBlank cs
    obtain ⟨rest, hr⟩ := List.head?_eq_some_iff.mp hc
    obtain ⟨after, ha⟩ := hp
    rw [← trimStart, ← ha, hr] at hs
    exact hs
  · obtain ⟨front, hf⟩ := List.getLast?_eq_some_iff.mp hc
    have hs := List.head?_dropWhile_not isBlank (trimStart cs).reverse
    rw [← List.reverse_reverse (List.dropWhile _ _), ← trimEnd, ← trimmed, hf] at hs
    simpa using hs

theorem Tight.trimmed_eq (h : Tight cs) : trimmed cs = cs := by
  rw [trimmed, trimStart, dropWhile_isBlank h.1, trimEnd, dropWhile_isBlank h.reverse.1,
    List.reverse_reverse]

theorem trimmed_of_not_blank (h : ∀ c ∈ cs, isBlank c = false) : trimmed cs = cs :=
  (tight_of_not_blank h).trimmed_eq

theorem trim_eq_self_iff {s : String} : trim s = s ↔ Tight s.toList := by
  rw [← String.toList_inj, trim, String.toList_ofList]
  exact ⟨fun h => h ▸ tight_trimmed s.toList, Tight.trimmed_eq⟩

theorem trim_trim (s : String) : trim (trim s) = trim s := by
  rw [trim_eq_self_iff, trim, String.toList_ofList]
  exact tight_trimmed s.toList

theorem all_trimmed (cs : List Char) : (trimmed cs).all isBlank = cs.all isBlank := by
  have hd (cs : List Char) : (cs.dropWhile isBlank).all isBlank = cs.all isBlank := by
    induction cs with
    | nil => rfl
    | cons c cs ih => cases hc : isBlank c <;> simp [hc, ih]
  rw [trimmed, trimEnd, List.all_reverse, hd, List.all_reverse, trimStart, hd]

theorem allBlank_trim (s : String) : allBlank (trim s) = allBlank s := by
  rw [allBlank, trim, String.toList_ofList, all_trimmed, allBlank]

/-- What is left of a text without the white space around it is not blank, if it is anything. -/
theorem allBlank_trimmed (h : trimmed cs ≠ []) :
    allBlank (String.ofList (trimmed cs)) = false := by
  rw [allBlank, String.toList_ofList, all_trimmed]
  refine Bool.eq_false_iff.mpr fun hb => h ?_
  have hd : cs.dropWhile isBlank = [] := List.dropWhile_eq_nil_iff.mpr (List.all_eq_true.mp hb)
  rw [trimmed, trimStart, hd]
  rfl

theorem exists_trimmed (cs : List Char) : ∃ before after, cs = before ++ trimmed cs ++ after ∧
    (∀ c ∈ before, isBlank c = true) ∧ ∀ c ∈ after, isBlank c = true := by
  refine ⟨cs.takeWhile isBlank, ((trimStart cs).reverse.takeWhile isBlank).reverse, ?_, ?_, ?_⟩
  · have hs : trimmed cs ++ ((trimStart cs).reverse.takeWhile isBlank).reverse = trimStart cs := by
      rw [trimmed, trimEnd, ← List.reverse_append, List.takeWhile_append_dropWhile,
        List.reverse_reverse]
    rw [List.append_assoc, hs, trimStart, List.takeWhile_append_dropWhile]
  · intro c hc
    exact List.mem_takeWhile_imp hc
  · intro c hc
    exact List.mem_takeWhile_imp (List.mem_reverse.mp hc)

theorem trimmed_append (hb : ∀ c ∈ before, isBlank c = true) (ht : Tight text)
    (ha : ∀ c ∈ after, isBlank c = true) : trimmed (before ++ text ++ after) = text := by
  rw [trimmed, trimStart, List.append_assoc, List.dropWhile_append_of_pos hb]
  cases text with
  | nil =>
    rw [List.nil_append, List.dropWhile_eq_nil_iff.mpr ha]
    rfl
  | cons c cs =>
    have hs : (c :: cs ++ after).dropWhile isBlank = c :: cs ++ after := dropWhile_isBlank ht.1
    rw [hs, trimEnd, List.reverse_append,
      List.dropWhile_append_of_pos fun d hd => ha d (List.mem_reverse.mp hd),
      dropWhile_isBlank ht.reverse.1, List.reverse_reverse]

/-! ## The text in front of a character -/

theorem cutAt_eq_none (h : c ∉ cs) : cutAt c cs = none := by
  have hd : cs.dropWhile (· ≠ c) = [] := by
    rw [← List.append_nil cs, List.dropWhile_append_of_pos]
    · rfl
    · exact fun d hd => decide_eq_true fun he => h (he ▸ hd)
  rw [cutAt, hd]

theorem cutAt_append (h : c ∉ front) : cutAt c (front ++ c :: rest) = some (front, rest) := by
  have hp : ∀ d ∈ front, decide (d ≠ c) = true := fun d hd =>
    decide_eq_true fun he => h (he ▸ hd)
  have hd : (c :: rest).dropWhile (· ≠ c) = c :: rest := List.dropWhile_cons_of_neg (by simp)
  have ht : (c :: rest).takeWhile (· ≠ c) = [] := List.takeWhile_cons_of_neg (by simp)
  rw [cutAt, List.dropWhile_append_of_pos hp, List.takeWhile_append_of_pos hp, hd, ht,
    List.append_nil]

theorem eq_of_cutAt (h : cutAt c cs = some (front, rest)) : cs = front ++ c :: rest := by
  unfold cutAt at h
  split at h
  · cases h
  · next d tail hd =>
    cases h
    have hc := List.head?_dropWhile_not (· ≠ c) cs
    simp only [hd, List.head?_cons, decide_eq_false_iff_not, not_not] at hc
    calc cs = cs.takeWhile (· ≠ c) ++ cs.dropWhile (· ≠ c) := List.takeWhile_append_dropWhile.symm
      _ = cs.takeWhile (· ≠ c) ++ c :: rest := by rw [hd, hc]

end Text
end Interchange
