import Interchange.Crypto.Aead
import Interchange.Crypto.Hmac
import Interchange.Proofs.Crypto.Aes

/-! # Sealed bytes

A cipher whose key stream is as long as it is asked for and whose tags are sixteen bytes long opens
exactly what it seals: the tag decides on the encrypted bytes, and adding the stream twice gives
back the message. AES-256-GCM under a derived key is such a cipher.
-/

namespace Interchange
namespace Aead

/-- A cipher with key streams and tags of the right lengths. -/
structure Regular (a : Aead) : Prop where
  length_stream : ∀ nonce n, nonce.length = 12 → (a.stream nonce n).length = n
  length_tag : ∀ nonce bytes, nonce.length = 12 → (a.tag nonce bytes).length = tagLength

variable {a : Aead} {nonce plain bytes : List UInt8}

theorem Regular.length_mask (h : a.Regular) (hn : nonce.length = 12) :
    (a.mask nonce bytes).length = bytes.length := by
  rw [mask, List.length_zipWith, h.length_stream _ _ hn, Nat.min_self]

theorem xor_xor_cancel {bs ks : List UInt8} (h : bs.length = ks.length) :
    List.zipWith (· ^^^ ·) (List.zipWith (· ^^^ ·) bs ks) ks = bs := by
  induction bs generalizing ks with
  | nil => rfl
  | cons b bs ih =>
    cases ks with
    | nil => cases h
    | cons k ks =>
      rw [List.zipWith_cons_cons, List.zipWith_cons_cons, ih (Nat.succ.inj h), UInt8.xor_assoc,
        UInt8.xor_self, UInt8.xor_zero]

/-- Adding the key stream twice changes nothing. -/
theorem Regular.mask_mask (h : a.Regular) (hn : nonce.length = 12) :
    a.mask nonce (a.mask nonce bytes) = bytes := by
  rw [mask, h.length_mask hn, mask]
  exact xor_xor_cancel (h.length_stream _ _ hn).symm

theorem Regular.opened?_sealed (h : a.Regular) (hn : nonce.length = 12) (plain : List UInt8) :
    a.opened? nonce (a.sealed nonce plain) = some plain := by
  have ht := h.length_tag nonce (a.mask nonce plain) hn
  have hlen : (a.sealed nonce plain).length - tagLength = (a.mask nonce plain).length := by
    rw [sealed, List.length_append, ht, Nat.add_sub_cancel]
  unfold opened?
  rw [if_neg (by rw [sealed, List.length_append, ht]; omega), hlen, sealed, List.take_left,
    List.drop_left, if_pos rfl, h.mask_mask hn]

theorem Regular.eq_sealed_of_opened? (h : a.Regular) (hn : nonce.length = 12)
    (ho : a.opened? nonce bytes = some plain) : bytes = a.sealed nonce plain := by
  unfold opened? at ho
  obtain ⟨_, ho⟩ := Option.ite_none_left_eq_some.mp ho
  obtain ⟨htag, ho⟩ := Option.ite_none_right_eq_some.mp ho
  cases ho
  rw [sealed, h.mask_mask hn, ← htag, List.take_append_drop]

theorem Regular.opened?_eq_some_iff (h : a.Regular) (hn : nonce.length = 12) :
    a.opened? nonce bytes = some plain ↔ bytes = a.sealed nonce plain := by
  constructor
  · exact h.eq_sealed_of_opened? hn
  · rintro rfl
    exact h.opened?_sealed hn _

/-! ## AES-256-GCM -/

theorem length_counterBlock (hn : nonce.length = 12) (i : Nat) :
    (Gcm.counterBlock nonce i).length = 16 := by
  simp [Gcm.counterBlock, hn]

theorem length_flatMap_blocks {f : Nat → List UInt8} (hf : ∀ i, (f i).length = 16) (n : Nat) :
    ((List.range n).flatMap f).length = 16 * n := by
  simp only [List.length_flatMap, hf, List.map_const', List.sum_replicate_nat, List.length_range,
    Nat.mul_comm]

theorem regular_gcm {key : List UInt8} (h : key.length = 32) : (gcm key).Regular where
  length_stream nonce n hn := by
    have hb (i : Nat) := Aes.length_encrypt (Aes.keys_roundKeys h) (length_counterBlock hn (i + 2))
    simp only [gcm, List.length_take, length_flatMap_blocks hb, Gcm.blockCount]
    omega
  length_tag nonce bytes hn := by
    have hb := Aes.length_encrypt (Aes.keys_roundKeys h) (length_counterBlock hn 1)
    simp [gcm, Aes.length_add, hb, Gcm.numberBlock, tagLength]

end Aead

/-- A derived key has the length that the cipher needs. -/
theorem Hmac.length_derive (password salt : List UInt8) (iterations : Nat) :
    (derive password salt iterations).length = 32 := rfl

end Interchange
