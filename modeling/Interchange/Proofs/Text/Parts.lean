import Interchange.Rule.Template
import Interchange.Proofs.Text.Marks
import Mathlib.Data.List.Infix

/-! # Parts of a text

A text is cut at a delimiter from left to right: each part goes up to the first place where the
delimiter stands, and cutting goes on behind it. A text has its parts in one way; none of them holds
the delimiter, and with delimiters between them they are the text again.
-/

namespace Interchange
namespace Text

variable {delimiter text : List Char} {parts parts' : List (List Char)}

/-- The parts of a text; the last one is what is left where the delimiter stands no more. -/
inductive Parts (delimiter : List Char) : List Char → List (List Char) → Prop
  | last {text : List Char} : ¬ delimiter <:+: text → Parts delimiter text [text]
  | next {front rest : List Char} {parts : List (List Char)} :
      (∀ before, before ++ delimiter <+: front ++ delimiter ++ rest →
        front.length ≤ before.length) →
      Parts delimiter rest parts → Parts delimiter (front ++ delimiter ++ rest) (front :: parts)

theorem Parts.ne_nil (h : Parts delimiter text parts) : parts ≠ [] := by
  cases h <;> exact List.cons_ne_nil _ _

theorem Parts.unique (h : Parts delimiter text parts) (h' : Parts delimiter text parts') :
    parts' = parts := by
  induction h generalizing parts' with
  | last hn =>
    cases h' with
    | last => rfl
    | next => exact absurd (List.infix_append _ _ _) hn
  | @next front rest parts hf _ ih =>
    generalize ht : front ++ delimiter ++ rest = text at h'
    cases h' with
    | last hn => exact absurd (ht ▸ List.infix_append _ _ _) hn
    | @next front' rest' parts' hf' h' =>
      have hle := hf front' (ht ▸ List.prefix_append _ _)
      have hge := hf' front (ht ▸ List.prefix_append _ _)
      rw [List.append_assoc, List.append_assoc] at ht
      obtain ⟨rfl, hr⟩ := List.append_inj ht (Nat.le_antisymm hle hge)
      obtain rfl := (List.append_right_inj delimiter).mp hr
      rw [ih h']

theorem Parts.not_infix (hd : delimiter ≠ []) (h : Parts delimiter text parts) :
    ∀ part ∈ parts, ¬ delimiter <:+: part := by
  induction h with
  | last hn => exact List.forall_mem_singleton.mpr hn
  | @next front rest parts hf _ ih =>
    refine List.forall_mem_cons.mpr ⟨?_, ih⟩
    rintro ⟨before, after, rfl⟩
    -- the delimiter would stand in the text before its first place
    have hle := hf before ((List.prefix_append _ after).trans
      ((List.prefix_append _ delimiter).trans (List.prefix_append _ rest)))
    have hpos := List.length_pos_iff.mpr hd
    simp only [List.length_append] at hle
    omega

theorem Parts.intercalate_eq (h : Parts delimiter text parts) :
    delimiter.intercalate parts = text := by
  induction h with
  | last => exact List.intercalate_singleton
  | next _ h ih =>
    obtain ⟨part, parts, rfl⟩ := List.exists_cons_of_ne_nil h.ne_nil
    rw [List.intercalate_cons_cons, ih]

/-- Cutting from left to right finds the parts of what was read of the present one and what is left
behind the characters to skip, if the delimiter does not stand in what was read. -/
theorem parts_cutFrom (hd : delimiter ≠ []) (skip : Nat) (acc cs : List Char)
    (h : ∀ before, before ++ delimiter <+: acc.reverse ++ cs.drop skip →
      acc.length ≤ before.length) :
    Parts delimiter (acc.reverse ++ cs.drop skip) (cutFrom delimiter skip acc cs) := by
  induction cs generalizing skip acc with
  | nil =>
    rw [List.drop_nil, List.append_nil] at h ⊢
    refine .last ?_
    rintro ⟨before, after, ht⟩
    have hle := h before ⟨after, ht⟩
    have hlen := congrArg List.length ht
    have hpos := List.length_pos_iff.mpr hd
    simp only [List.length_append, List.length_reverse] at hlen
    omega
  | cons c cs ih =>
    cases skip with
    | succ skip => exact ih skip acc h
    | zero =>
      rw [List.drop_zero] at h ⊢
      rw [cutFrom]
      split
      · next hp =>
        obtain ⟨rest, hr⟩ := List.isPrefixOf_iff_prefix.mp hp
        have hnext := ih (delimiter.length - 1) [] fun _ _ => Nat.zero_le _
        rw [Marking.drop_of_append_eq hd hr] at hnext
        rw [← hr, ← List.append_assoc] at h ⊢
        exact .next (by simpa only [List.length_reverse] using h) hnext
      · next hp =>
        have ht : acc.reverse ++ c :: cs = (c :: acc).reverse ++ cs.drop 0 := by simp
        rw [ht] at h ⊢
        refine ih 0 (c :: acc) fun before hb => ?_
        -- the delimiter does not stand at the character that was read last
        refine (h before hb).lt_of_ne fun hlen => hp (List.isPrefixOf_iff_prefix.mpr ?_)
        rw [← ht] at hb
        obtain ⟨after, ha⟩ := hb
        rw [List.append_assoc] at ha
        obtain ⟨-, ha⟩ := List.append_inj ha (by simpa using hlen.symm)
        exact ⟨after, ha⟩

theorem parts_cut (hd : delimiter ≠ []) (text : List Char) :
    Parts delimiter text (cut delimiter text) :=
  parts_cutFrom hd 0 [] text fun _ _ => Nat.zero_le _

end Text
end Interchange
