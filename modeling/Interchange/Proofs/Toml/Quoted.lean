import Interchange.Toml.Reader
import Mathlib.Data.List.Infix

/-! # Texts between quotes

What stands between quotes is never shorter than the text that it spells, and it is as long only if
it is that text, without an escape in it.
-/

namespace Interchange
namespace Toml

variable {c e : Char} {n skip : Nat} {cs raw rest s : List Char} {text : String}

/-! ## Escapes -/

theorem length_and_isSome_of_mapM {α β : Type} {g : α → Option β} {as : List α} {bs : List β}
    (h : as.mapM g = some bs) : bs.length = as.length ∧ ∀ a ∈ as, (g a).isSome := by
  induction as generalizing bs with
  | nil =>
    cases h
    exact ⟨rfl, nofun⟩
  | cons a as ih =>
    simp only [List.mapM_cons, Option.bind_eq_bind, Option.bind_eq_some_iff] at h
    obtain ⟨b, hb, bs', hbs, h⟩ := h
    cases h
    obtain ⟨hl, has⟩ := ih hbs
    exact ⟨congrArg Nat.succ hl, List.forall_mem_cons.mpr ⟨hb ▸ rfl, has⟩⟩

theorem hexChar?_spec (h : hexChar? n cs = some c) : n ≤ cs.length ∧ '\n' ∉ cs.take n := by
  obtain ⟨ds, hds, h⟩ := Option.bind_eq_some_iff.mp h
  obtain ⟨hl, hsome⟩ := length_and_isSome_of_mapM hds
  obtain ⟨⟨hn, -⟩, -⟩ := Option.ite_none_right_eq_some.mp h
  refine ⟨?_, fun hm => absurd (hsome _ hm) (by decide)⟩
  rw [hn, List.length_take] at hl
  omega

theorem escape?_spec (h : escape? cs = some (c, n)) :
    0 < n ∧ n ≤ cs.length ∧ '\n' ∉ cs.take n := by
  unfold escape? at h
  split at h
  case h_8 | h_9 =>
    obtain ⟨d, hd, h⟩ := Option.map_eq_some_iff.mp h
    obtain ⟨hl, hm⟩ := hexChar?_spec hd
    cases h
    exact ⟨Nat.succ_pos _, Nat.succ_le_succ hl, by simpa using hm⟩
  case h_10 => cases h
  all_goals
    cases h
    simp

/-! ## One line -/

/-- A character that stands for itself between quotes. -/
def Verbatim (c : Char) : Prop := isPlain c = true ∧ c ≠ '"' ∧ c ≠ '\\'

instance (c : Char) : Decidable (Verbatim c) :=
  inferInstanceAs (Decidable (_ ∧ _))

theorem Verbatim.ne_newline (h : Verbatim c) : c ≠ '\n' := by
  rintro rfl
  exact absurd h.1 (by decide)

/-- What stands between quotes on one line, and the text that it spells. -/
inductive Spells : List Char → List Char → Prop
  | nil : Spells [] []
  | verbatim {c : Char} {raw s : List Char} : Verbatim c → Spells raw s →
      Spells (c :: raw) (c :: s)
  | escape {code more raw s : List Char} {e : Char} :
      escape? (code ++ more) = some (e, code.length) → Spells raw s →
      Spells ('\\' :: (code ++ raw)) (e :: s)

theorem Spells.length_le (h : Spells raw s) : s.length ≤ raw.length := by
  induction h with
  | nil => exact Nat.le_refl _
  | verbatim _ _ ih => exact Nat.succ_le_succ ih
  | escape _ _ ih =>
    simp only [List.length_cons, List.length_append]
    omega

theorem Spells.eq_of_length_le (h : Spells raw s) (hl : raw.length ≤ s.length) :
    raw = s ∧ ∀ c ∈ s, Verbatim c := by
  induction h with
  | nil => exact ⟨rfl, nofun⟩
  | verbatim hc _ ih =>
    obtain ⟨rfl, hs⟩ := ih (Nat.le_of_succ_le_succ hl)
    exact ⟨rfl, List.forall_mem_cons.mpr ⟨hc, hs⟩⟩
  | escape he hr _ =>
    -- an escape takes more than one character for one
    have hpos := (escape?_spec he).1
    have hle := hr.length_le
    simp only [List.length_cons, List.length_append] at hl
    omega

theorem Spells.newline_not_mem (h : Spells raw s) : '\n' ∉ raw := by
  induction h with
  | nil => exact List.not_mem_nil
  | verbatim hc _ ih => exact fun hm => (List.mem_cons.mp hm).elim hc.ne_newline.symm ih
  | escape he _ ih =>
    have hm := (escape?_spec he).2.2
    rw [List.take_left] at hm
    simp [hm, ih]

theorem spells_of_quotedFrom (h : quotedFrom '"' skip cs = some (s, rest)) :
    ∃ raw, cs.drop skip = raw ++ '"' :: rest ∧ Spells raw s := by
  induction cs generalizing skip s with
  | nil => cases h
  | cons c cs ih =>
    cases skip with
    | succ skip => exact ih h
    | zero =>
      rw [quotedFrom] at h
      split at h
      · next hq =>
        cases h
        exact ⟨[], congrArg (· :: _) hq, .nil⟩
      · next hq =>
        split at h
        · next hb =>
          split at h
          · next e n he =>
            obtain ⟨⟨s', rest'⟩, hr, h⟩ := Option.map_eq_some_iff.mp h
            cases h
            obtain ⟨raw, hd, hs⟩ := ih hr
            obtain ⟨-, hn, -⟩ := escape?_spec he
            have he' : escape? (cs.take n ++ cs.drop n) = some (e, (cs.take n).length) := by
              rw [List.take_append_drop, he, List.length_take, Nat.min_eq_left hn]
            refine ⟨'\\' :: (cs.take n ++ raw), ?_, .escape he' hs⟩
            rw [List.drop_zero, List.cons_append, List.append_assoc, ← hd,
              List.take_append_drop, hb.1]
          · cases h
        · next hb =>
          split at h
          · next hp =>
            obtain ⟨⟨s', rest'⟩, hr, h⟩ := Option.map_eq_some_iff.mp h
            cases h
            obtain ⟨raw, hd, hs⟩ := ih hr
            refine ⟨c :: raw, congrArg (c :: ·) hd, .verbatim ⟨hp, hq, fun he => hb ⟨he, rfl⟩⟩ hs⟩
          · cases h

theorem quotedFrom_of_verbatim (h : ∀ c ∈ s, Verbatim c) (rest : List Char) :
    quotedFrom '"' 0 (s ++ '"' :: rest) = some (s, rest) := by
  induction s with
  | nil => rfl
  | cons c s ih =>
    obtain ⟨⟨hp, hq, hb⟩, hs⟩ := List.forall_mem_cons.mp h
    rw [List.cons_append, quotedFrom, if_neg hq, if_neg fun he => hb he.1, if_pos hp, ih hs]
    rfl

/-! ## Several lines -/

/-- Three quotes, which end a text over several lines. -/
def threeQuotes : List Char := ['"', '"', '"']

theorem eq_replicate_append_drop {k : Nat} (hk : k ≤ (cs.takeWhile (· = '"')).length) :
    cs = List.replicate k '"' ++ cs.drop k := by
  induction cs generalizing k with
  | nil =>
    cases Nat.le_zero.mp hk
    rfl
  | cons c cs ih =>
    cases k with
    | zero => rfl
    | succ k =>
      rw [List.takeWhile_cons] at hk
      split at hk
      · next hc =>
        rw [of_decide_eq_true hc, List.replicate_succ, List.cons_append, List.drop_succ_cons]
        exact congrArg ('"' :: ·) (ih (Nat.le_of_succ_le_succ hk))
      · exact absurd hk (Nat.not_succ_le_zero k)

/-- Three quotes end a text, and up to two in front of them belong to it. -/
theorem quotes_eq {more : Nat} (hm : 2 ≤ more)
    (hle : more ≤ (cs.takeWhile (· = '"')).length) : '"' :: cs =
      List.replicate (min (more - 2) 2) '"' ++ threeQuotes ++ cs.drop (min more 4) := by
  have hk : min more 4 + 1 = min (more - 2) 2 + 3 := by omega
  have hcs := eq_replicate_append_drop (Nat.le_trans (Nat.min_le_left more 4) hle)
  have ht : threeQuotes = List.replicate 3 '"' := rfl
  rw [ht, List.replicate_append_replicate, ← hk, List.replicate_succ, List.cons_append, ← hcs]

theorem raw_of_quotedLinesFrom (h : quotedLinesFrom '"' skip cs = some (s, rest)) :
    ∃ raw, cs.drop skip = raw ++ threeQuotes ++ rest ∧ s.length ≤ raw.length := by
  induction cs generalizing skip s with
  | nil => cases h
  | cons c cs ih =>
    -- what a character and those skipped with it add to a text that is read behind them
    have hpush : ∀ {e n s' }, push e (quotedLinesFrom '"' n cs) = some (s', rest) →
        ∃ raw, c :: cs = raw ++ threeQuotes ++ rest ∧ s'.length ≤ raw.length := by
      intro e n s' h
      obtain ⟨⟨s', rest'⟩, hr, h⟩ := Option.map_eq_some_iff.mp h
      cases h
      obtain ⟨raw, hd, hs⟩ := ih hr
      refine ⟨c :: (cs.take n ++ raw), ?_, ?_⟩
      · simp only [List.cons_append, List.append_assoc] at hd ⊢
        rw [← hd, List.take_append_drop]
      · simp only [List.length_cons, List.length_append]
        omega
    have hskip : ∀ {n s'}, quotedLinesFrom '"' n cs = some (s', rest) →
        ∃ raw, c :: cs = raw ++ threeQuotes ++ rest ∧ s'.length ≤ raw.length := by
      intro n s' h
      obtain ⟨raw, hr, hl⟩ := hpush (e := c) (n := n) (by rw [h]; rfl)
      exact ⟨raw, hr, Nat.le_of_succ_le hl⟩
    cases skip with
    | succ skip => exact ih h
    | zero =>
      rw [quotedLinesFrom] at h
      rw [List.drop_zero]
      split at h
      · next hq =>
        dsimp only at h
        split at h
        · exact hpush h
        · next hm =>
          cases h
          subst hq
          exact ⟨_, quotes_eq (Nat.le_of_not_lt hm) (Nat.le_refl _), Nat.le_refl _⟩
      · split at h
        · split at h
          · exact hskip h
          · split at h
            · exact hpush h
            · cases h
        · split_ifs at h
          · exact hpush h
          · exact hskip h
          · exact hpush h

/-! ## On one line or over several -/

theorem suffix_newline? (cs : List Char) : ∃ skipped, cs = skipped ++ (newline? cs).getD cs := by
  unfold newline?
  split
  · exact ⟨['\n'], rfl⟩
  · exact ⟨['\r', '\n'], rfl⟩
  · exact ⟨[], rfl⟩

theorem quoted?_eq (cs : List Char) : quoted? ('"' :: cs) =
    (quotedFrom '"' 0 cs).map fun r => (String.ofList r.1, r.2) := by
  rw [quoted?, if_pos (.inl rfl)]

/-- A text stands on one line or over several. -/
theorem raw_of_text? (h : text? ('"' :: cs) = some (text, rest)) :
    (∃ raw, cs = raw ++ '"' :: rest ∧ Spells raw text.toList) ∨
      ∃ raw, cs = '"' :: '"' :: (raw ++ threeQuotes ++ rest) ∧
        text.toList.length ≤ raw.length := by
  have hone : quoted? ('"' :: cs) = some (text, rest) →
      ∃ raw, cs = raw ++ '"' :: rest ∧ Spells raw text.toList := by
    intro h
    rw [quoted?_eq] at h
    obtain ⟨⟨s, rest'⟩, hq, h⟩ := Option.map_eq_some_iff.mp h
    cases h
    rw [String.toList_ofList]
    exact spells_of_quotedFrom hq
  unfold text? at h
  split at h
  · next d e cs hc =>
    obtain ⟨rfl, rfl⟩ := List.cons.inj hc
    split at h
    · next hd =>
      obtain ⟨rfl, rfl, -⟩ := hd
      obtain ⟨⟨s, rest'⟩, hq, h⟩ := Option.map_eq_some_iff.mp h
      cases h
      obtain ⟨raw, hr, hl⟩ := raw_of_quotedLinesFrom hq
      obtain ⟨skipped, hs⟩ := suffix_newline? cs
      rw [List.drop_zero] at hr
      refine .inr ⟨skipped ++ raw, ?_, ?_⟩
      · rw [List.append_assoc, List.append_assoc, ← List.append_assoc raw, ← hr, ← hs]
      · rw [String.toList_ofList, List.length_append]
        exact Nat.le_add_left_of_le hl
    · exact .inl (hone h)
  · exact .inl (hone h)

/-- A text of characters that stand for themselves is read as it is. -/
theorem text?_of_verbatim (h : ∀ c ∈ s, Verbatim c) (hr : rest.head? ≠ some '"') :
    text? ('"' :: (s ++ '"' :: rest)) = some (String.ofList s, rest) := by
  have hq := quoted?_eq (s ++ '"' :: rest)
  rw [quotedFrom_of_verbatim h] at hq
  unfold text?
  split
  · next c d e cs hcs =>
    obtain ⟨hc, hcs⟩ := List.cons.inj hcs
    have hthree : ¬ (c = d ∧ d = e ∧ (c = '"' ∨ c = '\'')) := by
      rintro ⟨hd, he, -⟩
      cases s with
      | nil => exact hr (by rw [(List.cons.inj hcs).2, ← he, ← hd, ← hc]; rfl)
      | cons c' s =>
        exact (h c' List.mem_cons_self).2.1 ((List.cons.inj hcs).1.trans (hd.symm.trans hc.symm))
    rw [if_neg hthree, ← hcs, ← hc]
    exact hq
  · exact hq

/-- What is read from quotes around characters, if a line end follows and no text over several lines
ends behind it: nothing longer than these characters, and nothing else of their length. -/
theorem eq_of_text? (h : text? ('"' :: (s ++ '"' :: '\n' :: cs)) = some (text, rest))
    (hcs : ¬ threeQuotes <:+: '"' :: '\n' :: cs) (hl : s.length ≤ text.toList.length) :
    text.toList = s ∧ ∀ c ∈ s, Verbatim c := by
  rcases raw_of_text? h with ⟨raw, hr, hs⟩ | ⟨raw, hr, hlr⟩
  · -- if it were longer than `s`, it would reach over the line end
    have hraw : raw <+: s := by
      rcases List.append_eq_append_iff.mp hr with ⟨zs, rfl, hz⟩ | ⟨zs, rfl, -⟩
      · rcases List.cons_eq_append_iff.mp hz with ⟨rfl, -⟩ | ⟨zs, rfl, hc⟩
        · rw [List.append_nil]
        · rcases List.cons_eq_append_iff.mp hc with ⟨rfl, hc⟩ | ⟨zs, rfl, -⟩
          · cases (List.cons.inj hc).1
          · exact absurd hs.newline_not_mem (by simp)
      · exact List.prefix_append ..
    have hle := hs.length_le
    obtain rfl := hraw.eq_of_length (by have := hraw.length_le; omega)
    obtain ⟨he, hv⟩ := hs.eq_of_length_le hl
    exact ⟨he.symm, he ▸ hv⟩
  · refine absurd ?_ hcs
    have hd := congrArg (List.drop s.length) hr
    rw [List.drop_left, List.append_assoc, ← List.cons_append, ← List.cons_append,
      List.drop_append_of_le_length] at hd
    · rw [hd]
      exact ⟨_, rest, List.append_assoc ..⟩
    · simp only [List.length_cons]
      omega

/-! ## Values -/

theorem field?_quote (low high : Nat) (cs : List Char) :
    field? (n + 1) low high ('"' :: cs) = none := by
  rw [field?, if_neg]
  rintro ⟨-, ha, -⟩
  exact absurd (List.all_eq_true.mp ha '"' List.mem_cons_self) (by decide)

theorem scalar?_quote (cs : List Char) : scalar? ('"' :: cs) = none := by
  have hm : moment? ('"' :: cs) = none := by
    rw [moment?, date?, time?, field?_quote, field?_quote]
    rfl
  unfold scalar?
  split
  · next he => cases (List.cons.inj he).1
  · next he => cases (List.cons.inj he).1
  · rw [hm]
    rfl

theorem value?_quote (fuel depth : Nat) (cs : List Char) : value? (fuel + 1) depth ('"' :: cs) =
    (text? ('"' :: cs)).map fun r => (.string r.1, r.2) := by
  unfold value?
  split
  · next he => cases (List.cons.inj he).1
  · next he => cases (List.cons.inj he).1
  · cases text? ('"' :: cs) with
    | none => exact scalar?_quote cs
    | some r => rfl

end Toml
end Interchange
