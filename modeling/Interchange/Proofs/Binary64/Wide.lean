import Interchange.Binary64.Basic
import Mathlib.Data.Nat.Bitwise
import Mathlib.Data.Nat.Log

/-! # Whole numbers that are wider than a mantissa

A number of 64 bits has 11 more than a mantissa holds. Main statement: a float nearest to such a
number is its nearest multiple of 2048, so the number is kept only if it is such a multiple itself.
-/

namespace Interchange
namespace Binary64

variable {n : Nat} {x : Binary64}

/-! ## Bits and fields -/

theorem toNat_exponentField (b : UInt64) :
    ((b >>> 52) &&& 0x7ff).toNat = b.toNat / 2 ^ 52 % 2 ^ 11 := by
  rw [UInt64.toNat_and, UInt64.toNat_shiftRight, Nat.shiftRight_eq_div_pow]
  exact Nat.and_two_pow_sub_one_eq_mod _ 11

theorem toNat_fractionField (b : UInt64) : (b &&& 0xfffffffffffff).toNat = b.toNat % 2 ^ 52 := by
  rw [UInt64.toNat_and]
  exact Nat.and_two_pow_sub_one_eq_mod _ 52

theorem negative_eq_false (h : x.bits.toNat < 2 ^ 63) : x.negative = false := by
  have hs : x.bits >>> 63 = 0 := by
    rw [← UInt64.toNat_inj, UInt64.toNat_shiftRight, Nat.shiftRight_eq_div_pow]
    exact Nat.div_eq_of_lt h
  rw [negative, hs]
  rfl

/-- The bits of a finite number, by their fields. -/
theorem ofBits?_of_toNat {b : UInt64} {e m : Nat} (he : e < 2047) (hm : m < 2 ^ 52)
    (hb : b.toNat = e * 2 ^ 52 + m) : ∃ x, ofBits? b = some x ∧ x.negative = false ∧
      x.exponentField = e ∧ x.fractionField = m := by
  have hexp : ((b >>> 52) &&& 0x7ff).toNat = e := by
    rw [toNat_exponentField]
    omega
  have hfin : (b >>> 52) &&& 0x7ff ≠ 0x7ff := fun h => by
    rw [h] at hexp
    exact absurd hexp (Nat.ne_of_gt he)
  refine ⟨⟨b, hfin⟩, dif_pos hfin, negative_eq_false (x := ⟨b, hfin⟩) ?_, hexp, ?_⟩
  · rw [hb]
    omega
  · change (b &&& 0xfffffffffffff).toNat = m
    rw [toNat_fractionField]
    omega

/-! ## Rounding -/

/-- A quotient is rounded to a nearest whole number, to the even one of two. -/
theorem roundDiv_near (num : Nat) {den : Nat} (hd : 0 < den) :
    2 * (den * roundDiv num den) ≤ 2 * num + den ∧ 2 * num ≤ 2 * (den * roundDiv num den) + den ∧
      (2 * (den * roundDiv num den) = 2 * num + den ∨
        2 * num = 2 * (den * roundDiv num den) + den → roundDiv num den % 2 = 0) := by
  have hn := Nat.div_add_mod num den
  have hr := Nat.mod_lt num hd
  have hs : den * (num / den + 1) = den * (num / den) + den := Nat.mul_succ ..
  simp only [roundDiv]
  split_ifs <;> omega

/-- A float that is the multiple of 2048 nearest to a whole number, the even one of two. -/
structure NearestMultiple (x : Binary64) (n : Nat) : Prop where
  positive : x.negative = false
  whole : x.den = 1
  multiple : 2048 ∣ x.num
  le : x.num ≤ n + 1024
  ge : n ≤ x.num + 1024
  even : x.num = n + 1024 ∨ n = x.num + 1024 → 4096 ∣ x.num

theorem unitExponent_of_wide (h : 2 ^ 63 ≤ n) (h' : n < 2 ^ 64) : unitExponent n 1 = 11 := by
  have hl : n.log2 = 63 := (Nat.log2_eq_iff (by omega)).mpr ⟨h, h'⟩
  have ho : Nat.log2 1 = 0 := by decide
  have hn : decide (n < 1 * Nat.pow 2 63) = false := by
    rw [Nat.one_mul]
    exact decide_eq_false (Nat.not_lt.mpr h)
  rw [unitExponent, hl, ho]
  change max (if decide (n < 1 * Nat.pow 2 63) then (63 : Int) - 53 else 63 - 52) (-1074) = 11
  rw [hn]
  rfl

/-- The mantissa and the exponent of a number of 64 bits. -/
theorem num_of_fields {e m : Nat} (he : 1075 ≤ e) (hx : x.exponentField = e)
    (hf : x.fractionField = m) : x.den = 1 ∧ x.num = (2 ^ 52 + m) * 2 ^ (e - 1075) := by
  have hexp : x.exponent = (e - 1075 : Nat) := by
    rw [exponent, hx]
    omega
  have hman : x.mantissa = 2 ^ 52 + m := by
    rw [mantissa, hx, hf, if_neg (by omega)]
    rfl
  constructor
  · rw [den, hexp, Int.toNat_neg_natCast]
  · rw [num, hexp, hman, Int.toNat_natCast]
    rfl

/-- The float `m * 2048`. When `m` has 54 bits, the carry goes into the exponent. -/
theorem ofBits?_of_mantissa {m : Nat} (h : 2 ^ 52 ≤ m) (h' : m ≤ 2 ^ 53) :
    ∃ x, ofBits? (1085 * 2 ^ 52 + m).toUInt64 = some x ∧ x.negative = false ∧ x.den = 1 ∧
      x.num = 2048 * m := by
  have hb : (1085 * 2 ^ 52 + m).toUInt64.toNat = 1085 * 2 ^ 52 + m := Nat.mod_eq_of_lt (by omega)
  rcases Nat.lt_or_eq_of_le h' with hm | hm
  · obtain ⟨x, hx, hneg, he, hf⟩ := ofBits?_of_toNat (b := (1085 * 2 ^ 52 + m).toUInt64)
      (e := 1086) (m := m - 2 ^ 52) (by decide) (by omega) (by omega)
    obtain ⟨hden, hnum⟩ := num_of_fields (by decide) he hf
    exact ⟨x, hx, hneg, hden, by omega⟩
  · obtain ⟨x, hx, hneg, he, hf⟩ := ofBits?_of_toNat (b := (1085 * 2 ^ 52 + m).toUInt64)
      (e := 1087) (m := 0) (by decide) (by decide) (by omega)
    obtain ⟨hden, hnum⟩ := num_of_fields (by decide) he hf
    exact ⟨x, hx, hneg, hden, by omega⟩

/-- The float nearest to a number of 64 bits is its nearest multiple of 2048. -/
theorem nearest_of_wide (h : 2 ^ 63 ≤ n) (h' : n < 2 ^ 64) :
    ∃ x, nearest false n 1 = some x ∧ x.NearestMultiple n := by
  obtain ⟨hle, hge, heven⟩ := roundDiv_near n (show 0 < 2048 by decide)
  obtain ⟨x, hx, hneg, hden, hnum⟩ :=
    ofBits?_of_mantissa (m := roundDiv n 2048) (by omega) (by omega)
  refine ⟨x, ?_, hneg, hden, ⟨_, hnum⟩, by omega, by omega, by omega⟩
  have hm : (11 + 1074 : Int).toNat * Nat.pow 2 52 + roundDiv n 2048 < 0x7ff0000000000000 := by
    change 1085 * 2 ^ 52 + roundDiv n 2048 < 0x7ff0000000000000
    omega
  rw [nearest, if_neg (by omega), unitExponent_of_wide h h']
  exact (if_pos hm).trans ((congrArg ofBits? (UInt64.zero_or ..)).trans hx)

end Binary64
end Interchange
