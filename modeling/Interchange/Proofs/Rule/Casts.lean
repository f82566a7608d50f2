import Interchange.Rule.Transform
import Interchange.Proofs.Binary64.Wide
import Interchange.Proofs.Json.Numbers
import Interchange.Proofs.Text.Trim

/-! # Whole numbers as texts

A whole number is cast to a text and back to a number. Main statement: it comes back as it was
exactly if 64 bits with a sign hold it; a larger one comes back as the float nearest to it.
-/

namespace Interchange

open Text

/-! ## Reading digits -/

namespace Json

variable {ds : List Char} {n : Int}

theorem digitsValue_digitsOf (n : Nat) : digitsValue (digitsOf n) = n :=
  Nat.ofDigitChars_ten_toDigits

theorem text_of_neg (h : n < 0) : (Number.int n).text.toList = '-' :: digitsOf n.natAbs := by
  simp [Number.text, h]

theorem text_of_nonneg (h : 0 ≤ n) : (Number.int n).text.toList = digitsOf n.natAbs := by
  simp [Number.text, Int.not_lt.mpr h]

theorem sign_of_digits {p : Bool × List Char} (hp : (match ds with
      | '-' :: ds => (true, ds)
      | '+' :: ds => (false, ds)
      | ds => (false, ds)) = p) (hd : ds.all isDigit) : p = (false, ds) := by
  split at hp
  · simp [isDigit] at hd
  · simp [isDigit] at hd
  · exact hp.symm

/-- The whole numbers that 64 bits with a sign hold are read from their texts, and no others. -/
theorem readInt64?_text (n : Int) : readInt64? (Number.int n).text.toList =
    if -Nat.pow 2 63 ≤ n ∧ n < Nat.pow 2 63 then some n else none := by
  have hd := all_isDigit_digitsOf n.natAbs
  have hds : digitsOf n.natAbs ≠ [] ∧ (digitsOf n.natAbs).all isDigit := ⟨Nat.toDigits_ne_nil, hd⟩
  rcases Int.lt_or_le n 0 with hn | hn
  · have hv : -(n.natAbs : Int) = n := by omega
    rw [text_of_neg hn, readInt64?]
    simp only [if_pos hds, digitsValue_digitsOf, hv, if_true]
  · have hv : (n.natAbs : Int) = n := by omega
    rw [text_of_nonneg hn]
    unfold readInt64?
    split
    next negative ds heq =>
    cases sign_of_digits heq hd
    rw [if_pos hds, digitsValue_digitsOf, hv]
    rfl

theorem ofDecimal_whole {n : Nat} (h : 0 < n) :
    Binary64.ofDecimal false n 0 = Binary64.nearest false n 1 := by
  have hlow : ¬ (0 : Int) + (n.log2 + 1 : Nat) < -1100 := by omega
  have hpow : n * Nat.pow 10 (0 : Int).toNat = n := Nat.mul_one n
  have hhigh : ¬ (310 : Int) < 0 := by decide
  simp only [Binary64.ofDecimal, h.ne', hlow, hhigh, hpow, Int.le_refl, if_false, if_true]

theorem readFloat?_digitsOf {n : Nat} (h : 0 < n) :
    readFloat? (digitsOf n) = Binary64.nearest false n 1 := by
  have hd := all_isDigit_digitsOf n
  have hne : ¬ (digitsOf n = [] ∧ ([] : List Char) = []) := fun hn => Nat.toDigits_ne_nil hn.1
  unfold readFloat?
  split
  next negative ds heq =>
  cases sign_of_digits heq hd
  rw [readUnsigned_digits false hd, Option.bind_some]
  refine (if_neg hne).trans ?_
  change Binary64.ofDecimal false (digitsValue (digitsOf n ++ [])) 0 = _
  rw [List.append_nil, digitsValue_digitsOf, ofDecimal_whole h]

end Json

/-! ## Casting -/

namespace ValueTransform

open Json

variable {n : Int} {before after : String}

theorem not_isBlank_text (n : Int) : ∀ c ∈ (Number.int n).text.toList, isBlank c = false := by
  have hd : ∀ c ∈ digitsOf n.natAbs, isBlank c = false := by
    intro c hc
    have hdigit := List.all_eq_true.mp (all_isDigit_digitsOf n.natAbs) c hc
    exact isBlank_of_isAlphanumeric (by simp [isAlphanumeric, hdigit])
  rcases Int.lt_or_le n 0 with hn | hn
  · rw [text_of_neg hn]
    exact List.forall_mem_cons.mpr ⟨by decide, hd⟩
  · rwa [text_of_nonneg hn]

theorem castText_int (n : Int) : castText (.ofInt n) = (Number.int n).text := by
  simp [castText, Value.ofInt, Value.compact, Value.compactOnto]

/-- A text with white space around it is cast as the text itself. -/
theorem castNumber_int (hb : allBlank before) (ha : allBlank after) (n : Int) :
    castNumber (.string (before ++ (Number.int n).text ++ after)) =
      if -Nat.pow 2 63 ≤ n ∧ n < Nat.pow 2 63 then .int n
      else (readFloat? (Number.int n).text.toList).elim (.int 0) .float := by
  have ht : trimmed (before ++ (Number.int n).text ++ after).toList =
      (Number.int n).text.toList := by
    rw [String.toList_append, String.toList_append]
    exact trimmed_append (List.all_eq_true.mp hb) (tight_of_not_blank (not_isBlank_text n))
      (List.all_eq_true.mp ha)
  by_cases hn : -Nat.pow 2 63 ≤ n ∧ n < Nat.pow 2 63
  · have hi : readInt64? (Number.int n).text.toList = some n := by
      rw [readInt64?_text, if_pos hn]
    simp only [castNumber, ht, hi, if_pos hn]
  · have hi : readInt64? (Number.int n).text.toList = none := by
      rw [readInt64?_text, if_neg hn]
    simp only [castNumber, ht, hi, if_neg hn]
    cases readFloat? (Number.int n).text.toList <;> rfl

/-- A whole number that 64 bits hold, cast to a text and back, with white space around the text: it
is the same number exactly if 64 bits with a sign hold it. Otherwise it is a float, the multiple of
2048 nearest to the number. -/
theorem number_string_iff (h : Number.InRange n) (hb : allBlank before) (ha : allBlank after) :
    (∀ record, string.apply (.ofInt n) record = .ok (.string (Number.int n).text)) ∧
    ∃ m, (∀ record, number.apply (.string (before ++ (Number.int n).text ++ after)) record =
        .ok (.number m)) ∧
      (m = .int n ↔ n < 2 ^ 63) ∧
      (2 ^ 63 ≤ n → ∃ x, m = .float x ∧ x.NearestMultiple n.toNat) := by
  refine ⟨fun record => by rw [apply, castText_int], _, fun record => rfl, ?_⟩
  have hpow : ((Nat.pow 2 63 : Nat) : Int) = 2 ^ 63 := by norm_cast
  have hpow' : ((Nat.pow 2 64 : Nat) : Int) = 2 ^ 64 := by norm_cast
  obtain ⟨hlo, hhi⟩ := h
  rw [hpow'] at hhi
  rw [castNumber_int hb ha]
  rcases Int.lt_or_le n (2 ^ 63) with hn | hn
  · rw [if_pos ⟨hlo, hpow ▸ hn⟩]
    exact ⟨⟨fun _ => hn, fun _ => rfl⟩, fun hge => absurd hn (Int.not_lt.mpr hge)⟩
  · have hnat : n.natAbs = n.toNat := by omega
    obtain ⟨x, hx, hnear⟩ := Binary64.nearest_of_wide (n := n.toNat) (by omega) (by omega)
    rw [if_neg fun hs => Int.not_lt.mpr hn (hpow ▸ hs.2), text_of_nonneg (by omega), hnat,
      readFloat?_digitsOf (by omega), hx]
    exact ⟨⟨nofun, fun hlt => absurd hlt (Int.not_lt.mpr hn)⟩, fun _ => ⟨x, rfl, hnear⟩⟩

/-- The least whole number, with a line feed behind its text. -/
theorem number_string_iff_least : Number.InRange (-9223372036854775808) ∧
    string.apply (.ofInt (-9223372036854775808)) [] = .ok (.string "-9223372036854775808") ∧
    number.apply (.string " -9223372036854775808\n") [] = .ok (.ofInt (-9223372036854775808)) := by
  have h : Number.InRange (-9223372036854775808) := by decide
  have hb : allBlank " " := rfl
  have ha : allBlank "\n" := rfl
  obtain ⟨hs, m, hm, hiff, -⟩ := number_string_iff h hb ha
  obtain rfl := hiff.mpr (by decide)
  exact ⟨h, hs [], hm []⟩

/-- An identifier above the numbers with a sign is not kept. -/
theorem wide_identifier_lost : Number.InRange 9223372036854775809 ∧
    string.apply (.ofInt 9223372036854775809) [] = .ok (.string "9223372036854775809") ∧
    number.apply (.string "9223372036854775809") [] ≠ .ok (.ofInt 9223372036854775809) := by
  decide +kernel

end ValueTransform
end Interchange
