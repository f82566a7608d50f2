import Interchange.Webhook.Signature
import Interchange.Proofs.Json.Tokens
import Interchange.Proofs.Text.Trim

/-! # Signatures in headers

Where no two headers have one name, whatever the case of its letters, the signature of a webhook
does not depend on the order of the headers. A payload's own signature is always accepted.
-/

namespace Interchange

/-! ## Hexadecimal text -/

namespace Bytes

open Json

theorem ofHex?_toHex (bs : List UInt8) : ofHex? (toHex bs) = some bs := by
  induction bs with
  | nil => rfl
  | cons b bs ih =>
    have hb := b.toNat_lt
    have hx := hexValue?_hexDigit (b.toNat / 16) (by omega)
    have hy := hexValue?_hexDigit (b.toNat % 16) (by omega)
    change ofHex? (hexDigit _ :: hexDigit _ :: toHex bs) = _
    simp only [ofHex?, hx, hy, ih, Option.bind_eq_bind, Option.bind_some]
    rw [Nat.div_add_mod, UInt8.ofNat_toNat]
    rfl

theorem isAlphanumeric_hexDigit : ∀ n < 16, Text.isAlphanumeric (hexDigit n) = true := by decide

theorem isAlphanumeric_of_mem_toHex {bs : List UInt8} {c : Char} (h : c ∈ toHex bs) :
    Text.isAlphanumeric c = true := by
  obtain ⟨b, _, hc⟩ := List.mem_flatMap.mp h
  have hb := b.toNat_lt
  simp only [hexPair, List.mem_cons, List.not_mem_nil, or_false] at hc
  rcases hc with rfl | rfl
  · exact isAlphanumeric_hexDigit _ (by omega)
  · exact isAlphanumeric_hexDigit _ (by omega)

end Bytes

namespace Webhook

theorem verify_sign (a : SignatureAlgorithm) (secret payload : List UInt8) :
    verify a secret payload (sign a secret payload) = true := by
  have hd : ∀ c ∈ Bytes.toHex (a.mac secret payload), Text.isAlphanumeric c = true :=
    fun c hc => Bytes.isAlphanumeric_of_mem_toHex hc
  have hc : '=' ∉ Bytes.toHex (a.mac secret payload) := fun h => absurd (hd _ h) (by decide)
  rw [verify, sign, String.toList_ofList,
    Text.trimmed_of_not_blank fun c hc => Text.isBlank_of_isAlphanumeric (hd c hc), digits,
    Text.cutAt_eq_none hc]
  simp [Bytes.ofHex?_toHex]

/-! ## Headers -/

/-- No two headers have the same name, whatever the case of its letters. -/
def Distinct (headers : Dict String) : Prop :=
  headers.Pairwise fun h h' => ¬ Text.sameIgnoringCase h.1 h'.1

instance (headers : Dict String) : Decidable (Distinct headers) :=
  inferInstanceAs (Decidable (headers.Pairwise _))

/-- A header with a value is there. -/
def Carries (headers : Dict String) (name v : String) : Prop :=
  ∃ h ∈ headers, Text.sameIgnoringCase h.1 name ∧ h.2 = v

/-- The headers carry a signature: the configured one if there is one, and else the first of the
usual ones that is there. -/
inductive Signed (headers : Dict String) : Option String → String → Prop
  | configured {name v : String} : Carries headers name v → Signed headers (some name) v
  | usual {name v : String} {before after : List String} :
      signatureHeaders = before ++ name :: after → (∀ n ∈ before, ∀ w, ¬ Carries headers n w) →
      Carries headers name v → Signed headers none v

variable {headers : Dict String} {name v : String}

theorem header?_eq_none_iff : header? headers name = none ↔ ∀ w, ¬ Carries headers name w := by
  simp only [header?, Option.map_eq_none_iff, List.find?_eq_none, Carries]
  constructor
  · rintro h w ⟨p, hp, hn, -⟩
    exact h p hp hn
  · exact fun h p hp hn => h p.2 ⟨p, hp, hn, rfl⟩

theorem header?_eq_some_iff (hd : Distinct headers) :
    header? headers name = some v ↔ Carries headers name v := by
  constructor
  · intro h
    obtain ⟨p, hp, rfl⟩ := Option.map_eq_some_iff.mp h
    have hn := List.find?_some hp
    exact ⟨p, List.mem_of_find?_eq_some hp, hn, rfl⟩
  · rintro ⟨p, hp, hn, rfl⟩
    -- no header before this one has the name, or the two would not be distinct
    obtain ⟨before, after, rfl⟩ := List.append_of_mem hp
    have hb : ∀ q ∈ before, ¬ Text.sameIgnoringCase q.1 name := by
      intro q hq hqn
      refine (List.pairwise_append.mp hd).2.2 q hq p List.mem_cons_self ?_
      simp only [Text.sameIgnoringCase, beq_iff_eq] at hqn hn ⊢
      rw [hqn, hn]
    rw [header?, List.find?_append, List.find?_eq_none.mpr hb, Option.none_or, List.find?, hn]
    rfl

/-- The signature that is checked is the one that the headers carry. -/
theorem signature?_eq_some_iff (hd : Distinct headers) {configured : Option String} :
    signature? headers configured = some v ↔ Signed headers configured v := by
  cases configured with
  | some name =>
    rw [signature?, header?_eq_some_iff hd]
    constructor
    · exact .configured
    · rintro ⟨h⟩
      exact h
  | none =>
    rw [signature?, List.findSome?_eq_some_iff]
    constructor
    · rintro ⟨before, name, after, hs, hv, hb⟩
      exact .usual hs (fun n hn => header?_eq_none_iff.mp (hb n hn))
        ((header?_eq_some_iff hd).mp hv)
    · rintro (_ | ⟨hs, hb, hv⟩)
      exact ⟨_, _, _, hs, (header?_eq_some_iff hd).mpr hv,
        fun n hn => header?_eq_none_iff.mpr (hb n hn)⟩

end Webhook
end Interchange
