import Interchange.Secret.Encryptor
import Interchange.Proofs.Bytes.Base64
import Interchange.Proofs.Crypto.Aead
import Interchange.Proofs.Text.Trim

/-! # Sealed texts

Main statement: under every master key a text can be opened exactly when, without the white space
around it, it is a sealing of the secret that comes out. All other texts are refused with a
decryption error.
-/

namespace Interchange

/-! ## Texts as bytes -/

theorem Bytes.toText?_eq_some_iff {bs : List UInt8} {s : String} :
    toText? bs = some s ↔ bs = ofText s := by
  constructor
  · intro h
    unfold toText? String.fromUTF8? at h
    obtain ⟨hv, hs⟩ := Option.dite_none_right_eq_some.mp h
    cases hs
    rfl
  · rintro rfl
    unfold toText? String.fromUTF8?
    exact dif_pos s.isValidUTF8

/-! ## White space around base 64 -/

namespace Base64

theorem not_isBlank_digit : ∀ n < 64, Text.isBlank (digit standard n) = false := by decide

theorem not_isBlank_of_mem_encode (bs : List UInt8) :
    ∀ c ∈ encode bs, Text.isBlank c = false := by
  have hpad : Text.isBlank '=' = false := by decide
  unfold encode
  induction bs using encodeWith.induct with
  | case1 => simp [encodeWith]
  | case2 x =>
    have hx := x.toNat_lt
    simp only [encodeWith, List.singleton_append, List.forall_mem_cons]
    exact ⟨not_isBlank_digit _ (by omega), not_isBlank_digit _ (by omega), hpad, hpad, by simp⟩
  | case3 x y =>
    have hx := x.toNat_lt
    have hy := y.toNat_lt
    simp only [encodeWith, List.forall_mem_cons]
    exact ⟨not_isBlank_digit _ (by omega), not_isBlank_digit _ (by omega),
      not_isBlank_digit _ (by omega), hpad, by simp⟩
  | case4 x y z rest ih =>
    have hx := x.toNat_lt
    have hy := y.toNat_lt
    have hz := z.toNat_lt
    simp only [encodeWith, List.forall_mem_cons]
    exact ⟨not_isBlank_digit _ (by omega), not_isBlank_digit _ (by omega),
      not_isBlank_digit _ (by omega), not_isBlank_digit _ (by omega), ih⟩

end Base64

/-! ## Sealing and opening -/

namespace Encryptor

variable {e : Encryptor} {nonce : List UInt8} {c secret : String}

/-- A text that is a sealing of a secret, up to white space around it. -/
def Seals (e : Encryptor) (c secret : String) : Prop :=
  ∃ nonce : List UInt8, nonce.length = nonceLength ∧ Text.trim c = e.encrypt nonce secret

theorem regular_ofMasterKey (k : MasterKey) : (ofMasterKey k).cipher.Regular :=
  Aead.regular_gcm (Hmac.length_derive _ _ _)

theorem trimmed_encrypt (e : Encryptor) (nonce : List UInt8) (secret : String) :
    Text.trimmed (e.encrypt nonce secret).toList = (e.encrypt nonce secret).toList := by
  refine Text.trimmed_of_not_blank ?_
  rw [encrypt, String.toList_ofList]
  exact Base64.not_isBlank_of_mem_encode _

/-- The bytes of a sealing come apart into the nonce and the sealed bytes. -/
theorem decode?_of_trim_eq (h : Text.trim c = e.encrypt nonce secret) :
    Base64.decode? (Text.trimmed c.toList) =
      some (nonce ++ e.cipher.sealed nonce (Bytes.ofText secret)) := by
  have hc : Text.trimmed c.toList = (e.encrypt nonce secret).toList := by
    rw [← h, Text.trim, String.toList_ofList]
  rw [hc, encrypt, String.toList_ofList, Base64.decode?_encode]

theorem decrypt_of_seals (hr : e.cipher.Regular) (h : e.Seals c secret) :
    e.decrypt c = .ok secret := by
  obtain ⟨nonce, hn, h⟩ := h
  have hlen : 0 < (e.cipher.sealed nonce (Bytes.ofText secret)).length := by
    rw [Aead.sealed, List.length_append, hr.length_tag _ _ hn]
    exact Nat.lt_add_left _ (by decide)
  have hopen := hr.opened?_sealed hn (Bytes.ofText secret)
  have htext : Bytes.toText? (Bytes.ofText secret) = some secret :=
    Bytes.toText?_eq_some_iff.mpr rfl
  have hlong : ¬ (nonce ++ e.cipher.sealed nonce (Bytes.ofText secret)).length ≤ nonce.length := by
    rw [List.length_append]
    omega
  simp only [decrypt, decode?_of_trim_eq h, ← hn, if_neg hlong, List.take_left, List.drop_left,
    hopen, htext]

theorem seals_of_decrypt (hr : e.cipher.Regular) (h : e.decrypt c = .ok secret) :
    e.Seals c secret := by
  unfold decrypt at h
  split at h
  · cases h
  · next bytes hb =>
    split at h
    · cases h
    · next hlong =>
      have hn : (bytes.take nonceLength).length = nonceLength := by
        rw [List.length_take]
        omega
      refine ⟨bytes.take nonceLength, hn, ?_⟩
      split at h
      · cases h
      · next plain hp =>
        split at h
        · cases h
        · next s hs =>
          cases h
          have hbytes := hr.eq_sealed_of_opened? hn hp
          rw [Bytes.toText?_eq_some_iff.mp hs] at hbytes
          rw [encrypt, ← hbytes, List.take_append_drop, Text.trim,
            Base64.eq_encode_of_decode? hb]

theorem decrypt_encrypt (hr : e.cipher.Regular) (hn : nonce.length = nonceLength)
    (secret : String) : e.decrypt (e.encrypt nonce secret) = .ok secret := by
  refine decrypt_of_seals hr ⟨nonce, hn, ?_⟩
  rw [Text.trim, trimmed_encrypt, String.ofList_toList]

/-- A text that cannot be opened is refused with a decryption error. -/
theorem decrypt_cases (e : Encryptor) (c : String) :
    (∃ secret, e.decrypt c = .ok secret) ∨ ∃ detail, e.decrypt c = .error (.decryption detail) := by
  unfold decrypt
  split
  · exact .inr ⟨_, rfl⟩
  split
  · exact .inr ⟨_, rfl⟩
  split
  · exact .inr ⟨_, rfl⟩
  split
  · exact .inr ⟨_, rfl⟩
  · exact .inl ⟨_, rfl⟩

/--
Under every master key, a text opens to a secret exactly when it is a sealing of that secret under
some nonce, up to white space around it. So opening undoes sealing, and every text that is no
sealing is refused with a decryption error.
-/
theorem decrypt_exactly (k : MasterKey) :
    (∀ c secret, (ofMasterKey k).decrypt c = .ok secret ↔ (ofMasterKey k).Seals c secret) ∧
    (∀ (nonce : List UInt8) secret, nonce.length = nonceLength →
      (ofMasterKey k).decrypt ((ofMasterKey k).encrypt nonce secret) = .ok secret) ∧
    ∀ c, (¬ ∃ secret, (ofMasterKey k).Seals c secret) →
      ∃ detail, (ofMasterKey k).decrypt c = .error (.decryption detail) := by
  have hr := regular_ofMasterKey k
  refine ⟨fun c secret => ⟨seals_of_decrypt hr, decrypt_of_seals hr⟩,
    fun nonce secret hn => decrypt_encrypt hr hn secret, fun c h => ?_⟩
  rcases decrypt_cases (ofMasterKey k) c with ⟨secret, hs⟩ | hd
  · exact absurd ⟨secret, seals_of_decrypt hr hs⟩ h
  · exact hd

/-- A sealed secret opens again under its key, and a text that is too short does not. -/
theorem decrypt_exactly_secret :
    (List.replicate 12 (0 : UInt8)).length = nonceLength ∧
    (ofMasterKey ⟨"key"⟩).decrypt ((ofMasterKey ⟨"key"⟩).encrypt (List.replicate 12 0) "secret") =
      .ok "secret" ∧
    ¬ ∃ secret, (ofMasterKey ⟨"key"⟩).Seals "AAAA" secret := by
  refine ⟨rfl, (decrypt_exactly ⟨"key"⟩).2.1 _ _ rfl, ?_⟩
  rintro ⟨secret, h⟩
  cases ((decrypt_exactly ⟨"key"⟩).1 "AAAA" secret).mpr h

end Encryptor
end Interchange
