import Interchange.Settings.Environment
import Mathlib.Data.List.Basic

/-! # The lines of a text

A line feed ends a line, and so does a carriage return with a line feed behind it. Each text has its
lines in one way only, and these are the ones that are looked at for references.
-/

namespace Interchange
namespace Environment

variable {line cs rest acc : List Char} {ls ms : List (List Char)}

inductive Ended (line : List Char) : List Char → Prop
  | feed : line.getLast? ≠ some '\r' → Ended line (line ++ ['\n'])
  | returnFeed : Ended line (line ++ ['\r', '\n'])

/-- A text and its lines. The last line may lack its end, and nothing at all is one empty line. -/
inductive Lined : List Char → List (List Char) → Prop
  | last {line : List Char} : '\n' ∉ line → Lined line [line]
  | ended {line text : List Char} : '\n' ∉ line → Ended line text → Lined text [line]
  | cons {line text rest : List Char} {ls : List (List Char)} : '\n' ∉ line → Ended line text →
      rest ≠ [] → Lined rest ls → Lined (text ++ rest) (line :: ls)

/-! ## Reading lines -/

theorem linesFrom_of_not_mem (h : '\n' ∉ cs) (acc : List Char) :
    linesFrom acc cs = if acc = [] ∧ cs = [] then [] else [acc.reverse ++ cs] := by
  induction cs generalizing acc with
  | nil => simp [linesFrom]
  | cons c cs ih =>
    obtain ⟨hc, hcs⟩ := not_or.mp (List.mem_cons.not.mp h)
    rw [linesFrom, if_neg (Ne.symm hc), ih hcs]
    simp

theorem linesFrom_append (h : '\n' ∉ cs) (acc rest : List Char) :
    linesFrom acc (cs ++ '\n' :: rest) =
      withoutReturn (acc.reverse ++ cs) :: linesFrom [] rest := by
  induction cs generalizing acc with
  | nil => simp [linesFrom]
  | cons c cs ih =>
    obtain ⟨hc, hcs⟩ := not_or.mp (List.mem_cons.not.mp h)
    rw [List.cons_append, linesFrom, if_neg (Ne.symm hc), ih hcs]
    simp

theorem linesFrom_ended {text : List Char} (h : '\n' ∉ line) (he : Ended line text)
    (rest : List Char) : linesFrom [] (text ++ rest) = line :: linesFrom [] rest := by
  cases he with
  | feed hr =>
    rw [List.append_assoc, List.singleton_append, linesFrom_append h, withoutReturn,
      List.reverse_nil, List.nil_append, if_neg hr]
  | returnFeed =>
    have hm : '\n' ∉ line ++ ['\r'] := by simp [h]
    have hl : line ++ ['\r', '\n'] ++ rest = line ++ ['\r'] ++ '\n' :: rest := by simp
    rw [hl, linesFrom_append hm, withoutReturn, List.reverse_nil, List.nil_append,
      List.getLast?_concat, if_pos rfl, List.dropLast_concat]

/-- Every line is ended in some way, if a line feed follows. -/
theorem exists_ended (h : '\n' ∉ cs) : ∃ line, '\n' ∉ line ∧ Ended line (cs ++ ['\n']) := by
  by_cases hr : cs.getLast? = some '\r'
  · obtain ⟨line, rfl⟩ := List.getLast?_eq_some_iff.mp hr
    refine ⟨line, fun hm => h (List.mem_append_left _ hm), ?_⟩
    rw [List.append_assoc]
    exact .returnFeed
  · exact ⟨cs, h, .feed hr⟩

def linesOf (cs : List Char) : List (List Char) :=
  if cs = [] then [[]] else linesFrom [] cs

theorem Lined.eq_linesOf (h : Lined cs ls) : ls = linesOf cs := by
  induction h with
  | @last line hl =>
    rw [linesOf, linesFrom_of_not_mem hl]
    split
    · next hn => rw [hn]
    · next hn => simp [hn]
  | ended hl he =>
    have hf := linesFrom_ended hl he []
    rw [List.append_nil] at hf
    rw [linesOf, if_neg, hf]
    · rfl
    · cases he <;> simp
  | cons hl he hr _ ih =>
    rw [linesOf, if_neg (by simp [hr]), linesFrom_ended hl he, ih, linesOf, if_neg hr]

theorem lined_linesOf (cs : List Char) : Lined cs (linesOf cs) := by
  suffices h : ∃ ls, Lined cs ls by
    obtain ⟨ls, h⟩ := h
    exact h.eq_linesOf ▸ h
  -- what stands behind the end of the first line is shorter than the text
  induction hn : cs.length using Nat.strongRecOn generalizing cs with
  | ind n ih =>
    by_cases hm : '\n' ∈ cs
    · obtain ⟨start, rest, rfl, hs⟩ := List.eq_append_cons_of_mem hm
      obtain ⟨line, hl, he⟩ := exists_ended hs
      rw [← List.singleton_append, ← List.append_assoc]
      by_cases hr : rest = []
      · subst hr
        rw [List.append_nil]
        exact ⟨_, .ended hl he⟩
      · obtain ⟨ls, hls⟩ := ih rest.length (by simp at hn; omega) rest rfl
        exact ⟨_, .cons hl he hr hls⟩
    · exact ⟨_, .last hm⟩

theorem lined_iff : Lined cs ls ↔ ls = linesOf cs :=
  ⟨Lined.eq_linesOf, fun h => h ▸ lined_linesOf cs⟩

/-! ## Line feeds alone -/

/-- A text with a line feed at the end of each line, and no carriage return in front of it. -/
def withFeeds : List Char → List Char
  | '\r' :: '\n' :: cs => '\n' :: withFeeds cs
  | c :: cs => c :: withFeeds cs
  | [] => []

theorem withFeeds_cons {c : Char} (h : c = '\r' → cs.head? ≠ some '\n') :
    withFeeds (c :: cs) = c :: withFeeds cs :=
  withFeeds.eq_2 c cs fun _ hc he => h hc (he ▸ rfl)

theorem withFeeds_append (cs : List Char) (h : rest.head? ≠ some '\n') :
    withFeeds (cs ++ rest) = withFeeds cs ++ withFeeds rest := by
  fun_induction withFeeds cs with
  | case1 cs ih => exact congrArg ('\n' :: ·) ih
  | case2 c cs hne ih =>
    have hc : c = '\r' → (cs ++ rest).head? ≠ some '\n' := by
      rintro rfl
      cases cs with
      | nil => exact h
      | cons d cs =>
        rintro ⟨⟩
        exact hne cs rfl rfl
    rw [List.cons_append, withFeeds_cons hc, ih, List.cons_append]
  | case3 => rfl

theorem withFeeds_append_of_not_mem (h : '\r' ∉ cs) (rest : List Char) :
    withFeeds (cs ++ rest) = cs ++ withFeeds rest := by
  induction cs with
  | nil => rfl
  | cons c cs ih =>
    obtain ⟨hc, hcs⟩ := not_or.mp (List.mem_cons.not.mp h)
    rw [List.cons_append, withFeeds_cons fun he => absurd he.symm hc, ih hcs, List.cons_append]

theorem withFeeds_of_not_mem (h : '\r' ∉ cs) : withFeeds cs = cs := by
  have hf := withFeeds_append_of_not_mem h []
  rwa [List.append_nil, withFeeds, List.append_nil] at hf

theorem length_withFeeds_le (cs : List Char) : (withFeeds cs).length ≤ cs.length := by
  fun_induction withFeeds cs with
  | case1 cs ih => exact Nat.le_succ_of_le (Nat.succ_le_succ ih)
  | case2 c cs _ ih => exact Nat.succ_le_succ ih
  | case3 => exact Nat.le_refl _

theorem withFeeds_line (h : '\n' ∉ line) : withFeeds line = line := by
  induction line with
  | nil => rfl
  | cons c line ih =>
    obtain ⟨-, hl⟩ := not_or.mp (List.mem_cons.not.mp h)
    rw [withFeeds_cons fun _ hh => hl (List.mem_of_head? hh), ih hl]

theorem withFeeds_ended {text : List Char} (h : '\n' ∉ line) (he : Ended line text)
    (rest : List Char) : withFeeds (text ++ rest) = line ++ '\n' :: withFeeds rest := by
  have hf : withFeeds ('\n' :: rest) = '\n' :: withFeeds rest := withFeeds_cons nofun
  cases he with
  | feed hr =>
    rw [List.append_assoc, List.singleton_append]
    -- the last character of the line decides whether the line feed is taken by itself
    rcases List.eq_nil_or_concat line with rfl | ⟨start, c, rfl⟩
    · exact hf
    · rw [List.concat_eq_append] at h hr ⊢
      obtain ⟨hs, hc⟩ := not_or.mp (List.mem_append.not.mp h)
      have hc' : (c :: '\n' :: rest).head? ≠ some '\n' := fun hh => hc (by simpa using hh.symm)
      rw [List.append_assoc, List.singleton_append, withFeeds_append _ hc', withFeeds_line hs,
        withFeeds_cons fun hr' => absurd (hr' ▸ List.getLast?_concat) hr, hf, List.append_assoc]
      rfl
  | returnFeed =>
    have hr : ('\r' :: '\n' :: rest).head? ≠ some '\n' := by simp
    rw [List.append_assoc, List.cons_append, List.singleton_append, withFeeds_append _ hr,
      withFeeds_line h, withFeeds]

/-- The lines of a text, each of them ended by a line feed. -/
theorem flatMap_of_lined (h : Lined cs ls) (hn : cs.getLast? = some '\n') :
    ls.flatMap (· ++ ['\n']) = withFeeds cs := by
  induction h with
  | last hl => exact absurd (List.mem_of_getLast? hn) hl
  | ended hl he =>
    have hf := withFeeds_ended hl he []
    rw [List.append_nil] at hf
    rw [hf]
    simp [withFeeds]
  | cons hl he hr _ ih =>
    rw [List.getLast?_append_of_ne_nil _ hr] at hn
    rw [List.flatMap_cons, ih hn, withFeeds_ended hl he, List.append_assoc]
    rfl

end Environment
end Interchange
