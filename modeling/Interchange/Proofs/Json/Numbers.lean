import Interchange.Json.Printer
import Interchange.Json.Reader
import Mathlib.Data.List.TakeWhile
import Mathlib.Tactic.Common

/-! # Numbers, written and read back

What is read as a number is one word: no character in it ends a word. Main statement: the whole
numbers that fit 64 bits are read back from their texts.
-/

namespace Interchange
namespace Json

open Text

variable {c : Char} {cs ds : List Char}

/-! ## The characters of numbers -/

/-- The characters that end a bare word. -/
def EndsWord (c : Char) : Prop :=
  isSpace c ∨ c = '[' ∨ c = ']' ∨ c = '{' ∨ c = '}' ∨ c = ',' ∨ c = ':' ∨ c = '"'

instance (c : Char) : Decidable (EndsWord c) :=
  inferInstanceAs (Decidable (isSpace c ∨ c = '[' ∨ c = ']' ∨ c = '{' ∨ c = '}' ∨ c = ',' ∨ c = ':'
    ∨ c = '"'))

/-- The characters that numbers are written with. -/
def Numeric (c : Char) : Prop := isDigit c ∨ c ∈ ['-', '+', '.', 'e', 'E']

instance (c : Char) : Decidable (Numeric c) :=
  inferInstanceAs (Decidable (isDigit c ∨ c ∈ ['-', '+', '.', 'e', 'E']))

theorem EndsWord.not_numeric (h : EndsWord c) : ¬ Numeric c := by
  simp only [EndsWord, isSpace, Bool.or_eq_true, beq_iff_eq] at h
  rcases h with (((rfl | rfl) | rfl) | rfl) | rfl | rfl | rfl | rfl | rfl | rfl | rfl <;> decide

theorem numeric_of_all (h : ds.all isDigit) : ∀ c ∈ ds, Numeric c :=
  fun c hc => .inl (List.all_eq_true.mp h c hc)

theorem numeric_of_readExponent {e : Option (Bool × List Char)} (h : readExponent cs = some e) :
    ∀ c ∈ cs, Numeric c := by
  rcases cs with _ | ⟨mark, cs⟩
  · nofun
  by_cases hm : mark = 'e' ∨ mark = 'E'
  · have hmark : Numeric mark := by rcases hm with rfl | rfl <;> decide
    refine List.forall_mem_cons.mpr ⟨hmark, ?_⟩
    simp only [readExponent, if_pos hm] at h
    -- a sign may stand before the digits
    split at h <;> obtain ⟨⟨-, hd⟩, -⟩ := Option.ite_none_right_eq_some.mp h
    · exact List.forall_mem_cons.mpr ⟨by decide, numeric_of_all hd⟩
    · exact List.forall_mem_cons.mpr ⟨by decide, numeric_of_all hd⟩
    · exact numeric_of_all hd
  · simp [readExponent, hm] at h

theorem numeric_of_readUnsigned {negative : Bool} {l : Literal}
    (h : readUnsigned negative cs = some l) : ∀ c ∈ cs, Numeric c := by
  have hspan (cs : List Char) (hd : ∀ c ∈ cs.dropWhile isDigit, Numeric c) :
      ∀ c ∈ cs, Numeric c := by
    intro c hc
    rw [← List.takeWhile_append_dropWhile (p := isDigit) (l := cs)] at hc
    rcases List.mem_append.mp hc with hc | hc
    · exact .inl (List.mem_takeWhile_imp hc)
    · exact hd c hc
  refine hspan cs ?_
  simp only [readUnsigned, spanDigits] at h
  split at h
  · next rest hr =>
    obtain ⟨e, he, -⟩ := Option.map_eq_some_iff.mp h
    rw [hr]
    exact List.forall_mem_cons.mpr ⟨by decide, hspan rest (numeric_of_readExponent he)⟩
  · obtain ⟨e, he, -⟩ := Option.map_eq_some_iff.mp h
    exact numeric_of_readExponent he

/-- What is read as a number is written with the characters of numbers. -/
theorem numeric_of_readNumber? {n : Number} (h : readNumber? cs = some n) :
    ∀ c ∈ cs, Numeric c := by
  unfold readNumber? at h
  obtain ⟨l, hl, -⟩ := Option.bind_eq_some_iff.mp h
  split at hl
  · exact List.forall_mem_cons.mpr ⟨by decide, numeric_of_readUnsigned hl⟩
  · exact numeric_of_readUnsigned hl

/-! ## Whole numbers -/

instance (n : Int) : Decidable (Number.InRange n) :=
  inferInstanceAs (Decidable (-Nat.pow 2 63 ≤ n ∧ n < Nat.pow 2 64))

/-- A number that is read back from its text. -/
def Number.Legible (n : Number) : Prop := readNumber? n.text.toList = some n

instance (n : Number) : Decidable n.Legible :=
  inferInstanceAs (Decidable (readNumber? n.text.toList = some n))

theorem all_isDigit_digitsOf (n : Nat) : (digitsOf n).all isDigit := by
  refine List.all_eq_true.mpr fun c hc => ?_
  have hd := Nat.isDigit_of_mem_toDigits (by decide) (by decide) hc
  simpa [isDigit, Char.isDigit, Char.le_def] using hd

theorem head?_digitsOf_ne {n : Nat} (h : 0 < n) : (digitsOf n).head? ≠ some '0' := by
  induction n using Nat.strongRecOn with
  | ind n ih =>
    rw [digitsOf, Nat.toDigits_eq_if (by decide)]
    split
    · simp [h.ne']
    · rw [List.head?_append, Option.or_of_isSome]
      · exact ih (n / 10) (by omega) (by omega)
      · exact List.isSome_head?.mpr Nat.toDigits_ne_nil

theorem le_ofDigitChars (ds : List Char) (n : Nat) : n ≤ Nat.ofDigitChars 10 ds n := by
  have h := Nat.le_mul_of_pos_left n (Nat.pow_pos (n := ds.length) (by decide : 0 < 10))
  rw [Nat.ofDigitChars_eq_ofDigitChars_zero]
  omega

theorem takeDigits_of_lt {significand : Nat}
    (h : Nat.ofDigitChars 10 ds significand < Nat.pow 2 64) :
    takeDigits significand ds = (Nat.ofDigitChars 10 ds significand, []) := by
  induction ds generalizing significand with
  | nil => rfl
  | cons d ds ih =>
    rw [Nat.ofDigitChars_cons] at h ⊢
    rw [takeDigits, if_pos ((le_ofDigitChars ds _).trans_lt h), ih h]

theorem readUnsigned_digits (negative : Bool) (h : ds.all isDigit) :
    readUnsigned negative ds = some ⟨negative, ds, none, none⟩ := by
  rw [List.all_eq_true] at h
  simp [readUnsigned, spanDigits, List.takeWhile_eq_self_iff.mpr h,
    List.dropWhile_eq_nil_iff.mpr h, readExponent]

theorem number?_digitsOf {negative : Bool} {n : Nat} (h : n < Nat.pow 2 64)
    (hn : negative = true → 0 < n ∧ n ≤ Nat.pow 2 63) :
    (Literal.mk negative (digitsOf n) none none).number? =
      some (.int (if negative then -(n : Int) else n)) := by
  have hv : Nat.ofDigitChars 10 (digitsOf n) 0 = n := Nat.ofDigitChars_ten_toDigits
  have ht : takeDigits 0 (digitsOf n) = (n, []) := by rw [takeDigits_of_lt (hv.symm ▸ h), hv]
  have hin : ¬ (negative = true ∧ (n = 0 ∨ Nat.pow 2 63 < n)) := by
    rintro ⟨hneg, hout⟩
    have := hn hneg
    omega
  simp only [Literal.number?, ht]
  rw [if_pos ⟨trivial, trivial, trivial, hin⟩]

theorem digitsOf_ne_zero_cons (n : Nat) (d : Char) (ds : List Char) :
    digitsOf n ≠ '0' :: d :: ds := by
  intro h
  rcases Nat.eq_zero_or_pos n with rfl | hn
  · simp [digitsOf] at h
  · exact head?_digitsOf_ne hn (by rw [h]; rfl)

theorem readNumber?_digitsOf (negative : Bool) {n : Nat} (h : n < Nat.pow 2 64)
    (hn : negative = true → 0 < n ∧ n ≤ Nat.pow 2 63)
    (hcs : cs = '-' :: digitsOf n ∧ negative = true ∨ cs = digitsOf n ∧ negative = false) :
    readNumber? cs = some (.int (if negative then -(n : Int) else n)) := by
  have hd := all_isDigit_digitsOf n
  have hsign (rest : List Char) : digitsOf n ≠ '-' :: rest := by
    intro hc
    rw [hc] at hd
    simp [isDigit] at hd
  unfold readNumber?
  split
  next negative' rest heq =>
    obtain ⟨rfl, rfl⟩ : negative = negative' ∧ digitsOf n = rest := by
      rcases hcs with ⟨rfl, rfl⟩ | ⟨rfl, rfl⟩
      · cases heq
        exact ⟨rfl, rfl⟩
      · split at heq
        · next hc => exact absurd hc (hsign _)
        · cases heq
          exact ⟨rfl, rfl⟩
    rw [readUnsigned_digits negative hd, Option.bind_some]
    refine (if_pos ⟨?_, by simp⟩).trans (number?_digitsOf h hn)
    dsimp only
    split
    · next hc => exact absurd hc Nat.toDigits_ne_nil
    · next hc => exact absurd hc (digitsOf_ne_zero_cons n _ _)
    · rfl

/-- The whole numbers that fit 64 bits are read back from their texts. -/
theorem Number.legible_int {n : Int} (h : InRange n) : Legible (.int n) := by
  obtain ⟨hlo, hhi⟩ := h
  have hpow : Nat.pow 2 64 = 2 * Nat.pow 2 63 := by decide
  by_cases hn : n < 0
  · have ht : (int n).text.toList = '-' :: digitsOf n.natAbs := by simp [text, hn]
    have hr := readNumber?_digitsOf true (by omega) (fun _ => by omega) (.inl ⟨ht, rfl⟩)
    have hv : -(n.natAbs : Int) = n := by omega
    rwa [if_pos rfl, hv] at hr
  · have ht : (int n).text.toList = digitsOf n.natAbs := by simp [text, hn]
    have hr := readNumber?_digitsOf false (by omega) nofun (.inr ⟨ht, rfl⟩)
    have hv : (n.natAbs : Int) = n := by omega
    rwa [if_neg nofun, hv] at hr

end Json
end Interchange
