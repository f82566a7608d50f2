import Interchange.Proofs.Webhook.Signature

/-! # What signatures look like

A text is accepted as the signature of a payload exactly if it is that signature, with its letters
in either case, perhaps behind a name and an equals sign, and with nothing but white space around
it. Every other text is refused, be it hexadecimal or not.
-/

namespace Interchange

open Json

/-! ## Digits of either case -/

namespace Bytes

variable {c : Char} {n : Nat} {cs : List Char} {bs : List UInt8}

def lowerDigit (c : Char) : Char := if 'A' ≤ c ∧ c ≤ 'F' then Char.ofNat (c.toNat + 32) else c

theorem lt_of_hexValue? (h : hexValue? c = some n) : c.toNat < 103 := by
  have hle {d : Char} (hd : c ≤ d) (hn : d.toNat < 103) : c.toNat < 103 :=
    Nat.lt_of_le_of_lt hd hn
  unfold hexValue? at h
  split at h
  · next hc => exact hle hc.2 (by decide)
  split at h
  · next hc => exact hle hc.2 (by decide)
  split at h
  · next hc => exact hle hc.2 (by decide)
  · cases h

theorem hexValue?_ofNat : ∀ m < 103, ∀ n ∈ hexValue? (Char.ofNat m),
    n < 16 ∧ lowerDigit (Char.ofNat m) = hexDigit n := by decide

theorem hexValue?_lower_of_upper : ∀ m < 71, 65 ≤ m →
    hexValue? (Char.ofNat (m + 32)) = hexValue? (Char.ofNat m) := by decide

theorem hexValue?_lowerDigit (c : Char) : hexValue? (lowerDigit c) = hexValue? c := by
  unfold lowerDigit
  split
  · next h =>
    obtain ⟨ha, hf⟩ := h
    have ha' : 65 ≤ c.toNat := ha
    have hf' : c.toNat ≤ 70 := hf
    rw [hexValue?_lower_of_upper c.toNat (by omega) ha', Char.ofNat_toNat]
  · rfl

/-- A character has a value if it is the digit of that value, in either case. -/
theorem hexValue?_eq_some_iff : hexValue? c = some n ↔ n < 16 ∧ lowerDigit c = hexDigit n := by
  constructor
  · intro h
    have hd := hexValue?_ofNat c.toNat (lt_of_hexValue? h)
    rw [Char.ofNat_toNat] at hd
    exact hd n h
  · rintro ⟨hn, hc⟩
    rw [← hexValue?_lowerDigit, hc, hexValue?_hexDigit n hn]

theorem ofHex?_map_lowerDigit (cs : List Char) : ofHex? (cs.map lowerDigit) = ofHex? cs := by
  induction cs using ofHex?.induct with
  | case1 => rfl
  | case2 => rfl
  | case3 a b cs ih => simp only [List.map_cons, ofHex?, hexValue?_lowerDigit, ih]

theorem isAlphanumeric_of_lowerDigit (h : Text.isAlphanumeric (lowerDigit c) = true) :
    Text.isAlphanumeric c = true := by
  unfold lowerDigit at h
  split at h
  · next hc =>
    have ha : 65 ≤ c.toNat := hc.1
    have hf : c.toNat ≤ 70 := hc.2
    rw [Text.isAlphanumeric_iff]
    omega
  · exact h

/-- Text is read as bytes exactly if it is the hexadecimal text of these, up to the case of
letters. -/
theorem ofHex?_eq_some_iff : ofHex? cs = some bs ↔ cs.map lowerDigit = toHex bs := by
  constructor
  · intro h
    induction cs using ofHex?.induct generalizing bs with
    | case1 =>
      cases h
      rfl
    | case2 => cases h
    | case3 a b cs ih =>
      obtain ⟨x, hx, h⟩ := Option.bind_eq_some_iff.mp h
      obtain ⟨y, hy, h⟩ := Option.bind_eq_some_iff.mp h
      obtain ⟨rest, hr, h⟩ := Option.bind_eq_some_iff.mp h
      cases h
      obtain ⟨hx, ha⟩ := hexValue?_eq_some_iff.mp hx
      obtain ⟨hy, hb⟩ := hexValue?_eq_some_iff.mp hy
      have hp : hexPair (UInt8.ofNat (16 * x + y)) = [hexDigit x, hexDigit y] := by
        have hn : (UInt8.ofNat (16 * x + y)).toNat = 16 * x + y := Nat.mod_eq_of_lt (by omega)
        have hd : (16 * x + y) / 16 = x := by omega
        have hm : (16 * x + y) % 16 = y := by omega
        rw [hexPair, hn, hd, hm]
      rw [List.map_cons, List.map_cons, ha, hb, ih hr, toHex, toHex, List.flatMap_cons, hp]
      rfl
  · intro h
    rw [← ofHex?_map_lowerDigit, h, ofHex?_toHex]

end Bytes

/-! ## Signatures -/

namespace Webhook

variable {a : SignatureAlgorithm} {secret payload : List UInt8} {signature : String}
  {h text : List Char}

/-- A text gives digits: these alone, or behind a name and an equals sign. -/
inductive Written (h : List Char) : List Char → Prop
  | plain : Written h h
  | named {name : List Char} :
      (∀ c ∈ name, Text.isAlphanumeric c = true) → Written h (name ++ '=' :: h)

/-- A signature bears digits if these are written in it, with white space only around them. -/
def Bears (signature : String) (h : List Char) : Prop :=
  ∃ before text after, signature.toList = before ++ text ++ after ∧
    (∀ c ∈ before, Text.isBlank c = true) ∧ (∀ c ∈ after, Text.isBlank c = true) ∧ Written h text

theorem written_digits (text : List Char) : Written (digits text) text := by
  unfold digits
  split
  · next name rest hc =>
    split
    · next hn =>
      rw [Text.eq_of_cutAt hc]
      exact .named (List.all_eq_true.mp hn)
    · exact .plain
  · exact .plain

theorem digits_of_written (hw : Written h text) (he : '=' ∉ h) : digits text = h := by
  cases hw with
  | plain => rw [digits, Text.cutAt_eq_none he]
  | @named name hn =>
    have he' : '=' ∉ name := fun hm => absurd (hn _ hm) (by decide)
    simp only [digits, Text.cutAt_append he', List.all_eq_true.mpr hn, if_true]

theorem verify_iff_digits : verify a secret payload signature = true ↔
    (digits (Text.trimmed signature.toList)).map Bytes.lowerDigit =
      (sign a secret payload).toList := by
  rw [sign, String.toList_ofList, ← Bytes.ofHex?_eq_some_iff, verify]
  split
  · next hn => simp [hn]
  · next bytes hb => simp [hb]

theorem not_isBlank_of_written (hh : ∀ c ∈ h, Text.isAlphanumeric c = true)
    (hw : Written h text) : ∀ c ∈ text, Text.isBlank c = false := by
  intro c hc
  cases hw with
  | plain => exact Text.isBlank_of_isAlphanumeric (hh c hc)
  | named hn =>
    rcases List.mem_append.mp hc with hc | hc
    · exact Text.isBlank_of_isAlphanumeric (hn c hc)
    rcases List.mem_cons.mp hc with rfl | hc
    · rfl
    · exact Text.isBlank_of_isAlphanumeric (hh c hc)

theorem bears_digits (signature : String) :
    Bears signature (digits (Text.trimmed signature.toList)) := by
  obtain ⟨before, after, hs, hb, ha⟩ := Text.exists_trimmed signature.toList
  exact ⟨before, _, after, hs, hb, ha, written_digits _⟩

theorem digits_of_bears (hh : ∀ c ∈ h, Text.isAlphanumeric c = true) (hb : Bears signature h) :
    digits (Text.trimmed signature.toList) = h := by
  obtain ⟨before, text, after, hs, hb, ha, hw⟩ := hb
  rw [hs, Text.trimmed_append hb (Text.tight_of_not_blank (not_isBlank_of_written hh hw)) ha]
  exact digits_of_written hw fun he => absurd (hh _ he) (by decide)

theorem verify_iff_of_bears (hh : ∀ c ∈ h, Text.isAlphanumeric c = true) (hb : Bears signature h) :
    verify a secret payload signature = true ↔
      h.map Bytes.lowerDigit = (sign a secret payload).toList := by
  rw [verify_iff_digits, digits_of_bears hh hb]

theorem isAlphanumeric_sign : ∀ c ∈ (sign a secret payload).toList,
    Text.isAlphanumeric c = true := by
  rw [sign, String.toList_ofList]
  exact fun c hc => Bytes.isAlphanumeric_of_mem_toHex hc

theorem map_lowerDigit_sign :
    (sign a secret payload).toList.map Bytes.lowerDigit = (sign a secret payload).toList := by
  rw [sign, String.toList_ofList]
  exact Bytes.ofHex?_eq_some_iff.mp (Bytes.ofHex?_toHex _)

/-- A signature is accepted exactly if it bears the digits of the payload's own signature, in either
case. So that signature is accepted in each of its forms, and no other run of letters and digits in
any. -/
theorem verify_grammar (a : SignatureAlgorithm) (secret payload : List UInt8) :
    (∀ signature, verify a secret payload signature = true ↔
      ∃ h, Bears signature h ∧ h.map Bytes.lowerDigit = (sign a secret payload).toList) ∧
    (∀ signature, Bears signature (sign a secret payload).toList →
      verify a secret payload signature = true) ∧
    ∀ signature h, (∀ c ∈ h, Text.isAlphanumeric c = true) → Bears signature h →
      h.map Bytes.lowerDigit ≠ (sign a secret payload).toList →
      verify a secret payload signature = false := by
  refine ⟨fun signature => ?_, fun signature hb => ?_, fun signature h hh hb hn => ?_⟩
  · constructor
    · intro hv
      exact ⟨_, bears_digits signature, verify_iff_digits.mp hv⟩
    · rintro ⟨h, hb, hs⟩
      have hh : ∀ c ∈ h, Text.isAlphanumeric c = true := by
        intro c hc
        have hl : Bytes.lowerDigit c ∈ (sign a secret payload).toList :=
          hs ▸ List.mem_map_of_mem hc
        exact Bytes.isAlphanumeric_of_lowerDigit (isAlphanumeric_sign _ hl)
      exact (verify_iff_of_bears hh hb).mpr hs
  · exact (verify_iff_of_bears isAlphanumeric_sign hb).mpr map_lowerDigit_sign
  · rw [Bool.eq_false_iff]
    intro hv
    exact hn ((verify_iff_of_bears hh hb).mp hv)

end Webhook
end Interchange
