import Interchange.Bytes.Encoding

/-! # Base 64 is canonical

Reading undoes writing, and a text that can be read is the one that is written for its bytes. So a
text without padding, or with bits behind its last byte, cannot be read.
-/

namespace Interchange
namespace Base64

variable {a b c d : Char} {n w x y z : Nat} {bs : List UInt8} {cs : List Char}

/-! ## Digits -/

theorem value?_digit : ∀ n < 64, value? standard (digit standard n) = some n := by decide

theorem digit_ne_pad (h : n < 64) : digit standard n ≠ '=' := by
  intro he
  have hn := value?_digit n h
  rw [he] at hn
  cases hn

theorem digit_of_value? (h : value? standard c = some n) : n < 64 ∧ c = digit standard n := by
  unfold value? at h
  split at h
  · next hc =>
    cases h
    have hle : 65 ≤ c.toNat ∧ c.toNat ≤ 90 := hc
    rw [digit, if_pos (by omega), show 65 + (c.toNat - 65) = c.toNat by omega, Char.ofNat_toNat]
    exact ⟨by omega, rfl⟩
  split at h
  · next hc =>
    cases h
    have hle : 97 ≤ c.toNat ∧ c.toNat ≤ 122 := hc
    rw [digit, if_neg (by omega), if_pos (by omega),
      show 71 + (c.toNat - 71) = c.toNat by omega, Char.ofNat_toNat]
    exact ⟨by omega, rfl⟩
  split at h
  · next hc =>
    cases h
    have hle : 48 ≤ c.toNat ∧ c.toNat ≤ 57 := hc
    rw [digit, if_neg (by omega), if_neg (by omega), if_pos (by omega),
      show c.toNat + 4 - 4 = c.toNat by omega, Char.ofNat_toNat]
    exact ⟨by omega, rfl⟩
  split at h
  · next hc =>
    cases h
    exact ⟨by decide, hc⟩
  split at h
  · next hc =>
    cases h
    exact ⟨by decide, hc⟩
  · cases h

/-! ## Groups of four -/

theorem decodeLast?_one (hw : w < 64) (hx : x < 64) (h : x % 16 = 0) :
    decodeLast? (digit standard w) (digit standard x) '=' '=' =
      some [UInt8.ofNat (w * 4 + x / 16)] := by
  simp [decodeLast?, value?_digit w hw, value?_digit x hx, h]

theorem decodeLast?_two (hw : w < 64) (hx : x < 64) (hy : y < 64) (h : y % 4 = 0) :
    decodeLast? (digit standard w) (digit standard x) (digit standard y) '=' =
      some [UInt8.ofNat (w * 4 + x / 16), UInt8.ofNat (x % 16 * 16 + y / 4)] := by
  simp [decodeLast?, value?_digit w hw, value?_digit x hx, value?_digit y hy, digit_ne_pad hy, h]

theorem decodeLast?_three (hw : w < 64) (hx : x < 64) (hy : y < 64) (hz : z < 64) :
    decodeLast? (digit standard w) (digit standard x) (digit standard y) (digit standard z) =
      some [UInt8.ofNat (w * 4 + x / 16), UInt8.ofNat (x % 16 * 16 + y / 4),
        UInt8.ofNat (y % 4 * 64 + z)] := by
  simp [decodeLast?, value?_digit w hw, value?_digit x hx, value?_digit y hy, value?_digit z hz,
    digit_ne_pad hy, digit_ne_pad hz]

/-- A last group that can be read is the one that is written for its bytes. -/
theorem eq_encode_of_decodeLast? (h : decodeLast? a b c d = some bs) :
    [a, b, c, d] = encode bs := by
  simp only [decodeLast?, Option.bind_eq_bind, Option.bind_eq_some_iff] at h
  obtain ⟨w, ha, x, hb, h⟩ := h
  obtain ⟨hw, rfl⟩ := digit_of_value? ha
  obtain ⟨hx, rfl⟩ := digit_of_value? hb
  have hwx : (UInt8.ofNat (w * 4 + x / 16)).toNat = w * 4 + x / 16 :=
    UInt8.toNat_ofNat_of_lt' (show _ < 256 by omega)
  by_cases hc : c = '='
  · rw [if_pos hc] at h
    obtain ⟨⟨hd, hz⟩, h⟩ := Option.ite_none_right_eq_some.mp h
    cases h
    simp only [encode, encodeWith, hwx, List.singleton_append, List.cons.injEq, and_true]
    refine ⟨?_, ?_, hc, hd⟩ <;> congr 1 <;> omega
  · rw [if_neg hc, Option.bind_eq_some_iff] at h
    obtain ⟨y, hc, h⟩ := h
    obtain ⟨hy, rfl⟩ := digit_of_value? hc
    have hxy : (UInt8.ofNat (x % 16 * 16 + y / 4)).toNat = x % 16 * 16 + y / 4 :=
      UInt8.toNat_ofNat_of_lt' (show _ < 256 by omega)
    by_cases hd : d = '='
    · rw [if_pos hd] at h
      obtain ⟨hz, h⟩ := Option.ite_none_right_eq_some.mp h
      cases h
      simp only [encode, encodeWith, hwx, hxy, List.cons.injEq, and_true]
      refine ⟨?_, ?_, ?_, hd⟩ <;> congr 1 <;> omega
    · rw [if_neg hd, Option.bind_eq_some_iff] at h
      obtain ⟨z, hd, h⟩ := h
      obtain ⟨hz, rfl⟩ := digit_of_value? hd
      have hyz : (UInt8.ofNat (y % 4 * 64 + z)).toNat = y % 4 * 64 + z :=
        UInt8.toNat_ofNat_of_lt' (show _ < 256 by omega)
      cases h
      simp only [encode, encodeWith, hwx, hxy, hyz, List.cons.injEq, and_true]
      refine ⟨?_, ?_, ?_, ?_⟩ <;> congr 1 <;> omega

/-! ## Whole texts -/

theorem encode_ne_nil (x : UInt8) (bs : List UInt8) : encode (x :: bs) ≠ [] := by
  unfold encode
  rcases bs with _ | ⟨y, _ | ⟨z, rest⟩⟩ <;> simp [encodeWith]

theorem decode?_encode (bs : List UInt8) : decode? (encode bs) = some bs := by
  unfold encode
  induction bs using encodeWith.induct with
  | case1 => rfl
  | case2 x =>
    have hx := x.toNat_lt
    simp only [encodeWith, List.singleton_append, decode?]
    rw [decodeLast?_one (by omega) (by omega) (by omega),
      show x.toNat * 16 / 64 * 4 + x.toNat * 16 % 64 / 16 = x.toNat by omega]
    simp
  | case3 x y =>
    have hx := x.toNat_lt
    have hy := y.toNat_lt
    simp only [encodeWith, decode?]
    rw [decodeLast?_two (by omega) (by omega) (by omega) (by omega)]
    generalize hn : (x.toNat * 256 + y.toNat) * 4 = n
    rw [show n / 4096 * 4 + n / 64 % 64 / 16 = x.toNat by omega,
      show n / 64 % 64 % 16 * 16 + n % 64 / 4 = y.toNat by omega]
    simp
  | case4 x y z rest ih =>
    have hx := x.toNat_lt
    have hy := y.toNat_lt
    have hz := z.toNat_lt
    simp only [encodeWith, decode?]
    generalize hn : (x.toNat * 256 + y.toNat) * 256 + z.toNat = n
    rw [ decodeLast?_three (by omega) (by omega) (by omega) (by omega),
      show n / 262144 * 4 + n / 4096 % 64 / 16 = x.toNat by omega,
      show n / 4096 % 64 % 16 * 16 + n / 64 % 64 / 4 = y.toNat by omega,
      show n / 64 % 64 % 4 * 64 + n % 64 = z.toNat by omega]
    cases rest with
    | nil => simp [encodeWith]
    | cons w rest =>
      have hne : encodeWith standard ['='] (w :: rest) ≠ [] := encode_ne_nil w rest
      simp [hne, ih]

theorem encode_append_of_length_eq {more : List UInt8} (h : bs.length = 3) :
    encode (bs ++ more) = encode bs ++ encode more := by
  match bs, h with
  | [x, y, z], _ => simp [encode, encodeWith]

theorem eq_encode_of_decode? (h : decode? cs = some bs) : cs = encode bs := by
  induction cs using decode?.induct generalizing bs with
  | case1 => cases h; rfl
  | case2 a b c d rest ih =>
    rw [decode?] at h
    obtain ⟨group, hg, h⟩ := Option.bind_eq_some_iff.mp h
    have he := eq_encode_of_decodeLast? hg
    split at h
    · next hr =>
      cases h
      rw [hr, he]
    split at h
    · next hl =>
      obtain ⟨more, hm, h⟩ := Option.bind_eq_some_iff.mp h
      cases h
      rw [encode_append_of_length_eq hl, ← he, ← ih hm]
      rfl
    · cases h
  | case3 cs hn hc => rw [decode?.eq_3 cs hn hc] at h; cases h

/-- Reading accepts exactly what writing produces. -/
theorem decode?_eq_some_iff : decode? cs = some bs ↔ cs = encode bs := by
  constructor
  · exact eq_encode_of_decode?
  · rintro rfl
    exact decode?_encode bs

end Base64
end Interchange
