import Interchange.Crypto.Aes
import Mathlib.Data.List.GetD
import Mathlib.Tactic.SplitIfs

/-! # Lengths in AES

Round keys have sixteen bytes each, and under such keys a block of sixteen bytes is encrypted to
sixteen bytes.
-/

namespace Interchange
namespace Aes

variable {n : Nat} {words : List (List UInt8)}

theorem length_add (a b : List UInt8) : (add a b).length = min a.length b.length :=
  List.length_zipWith

theorem length_quads (n : Nat) (bs : List UInt8) : (quads n bs).length = n := by
  induction n generalizing bs with
  | zero => rfl
  | succ n ih => simp [quads, ih]

theorem length_of_mem_quads {bs q : List UInt8} (h : 4 * n ≤ bs.length) (hq : q ∈ quads n bs) :
    q.length = 4 := by
  induction n generalizing bs with
  | zero => cases hq
  | succ n ih =>
    rcases List.mem_cons.mp hq with rfl | hq
    · rw [List.length_take]
      omega
    · exact ih (by rw [List.length_drop]; omega) hq

/-! ## Round keys -/

/-- The words of an expanded key: at least as many as a key has, four bytes each. -/
structure Expanded (words : List (List UInt8)) : Prop where
  many : 8 ≤ words.length
  length : ∀ w ∈ words, w.length = 4

theorem Expanded.length_nextWord (h : Expanded words) : (nextWord words).length = 4 := by
  have hlast : (words.headD []).length = 4 := by
    cases words with
    | nil => cases h.many
    | cons w ws => exact h.length w List.mem_cons_self
  have hold : (words.getD 7 []).length = 4 := by
    have hlt : 7 < words.length := h.many
    rw [List.getD_eq_getElem _ _ hlt]
    exact h.length _ (List.getElem_mem hlt)
  unfold nextWord
  rw [length_add, hold]
  generalize words.headD [] = last at hlast ⊢
  split_ifs <;> simp [length_add, hlast]

theorem Expanded.extend (h : Expanded words) (n : Nat) : Expanded (extend n words) := by
  induction n generalizing words with
  | zero => exact h
  | succ n ih =>
    refine ih ⟨Nat.le_succ_of_le h.many, fun w hw => ?_⟩
    rcases List.mem_cons.mp hw with rfl | hw
    · exact h.length_nextWord
    · exact h.length w hw

theorem expanded_quads {key : List UInt8} (h : key.length = 32) :
    Expanded (quads 8 key).reverse := by
  refine ⟨by simp [length_quads], fun w hw => ?_⟩
  exact length_of_mem_quads (by omega) (List.mem_reverse.mp hw)

theorem length_of_mem_roundKeysOf (h : ∀ w ∈ words, w.length = 4) :
    ∀ k ∈ roundKeysOf words, k.length = 16 := by
  induction words using roundKeysOf.induct with
  | case1 a b c d rest ih =>
    simp only [List.forall_mem_cons] at h
    obtain ⟨ha, hb, hc, hd, hr⟩ := h
    rw [roundKeysOf]
    exact List.forall_mem_cons.mpr ⟨by simp [ha, hb, hc, hd], ih hr⟩
  | case2 words hn => simp [roundKeysOf.eq_2 words hn]

/-- Round keys as encryption takes them. -/
structure Keys (keys : List (List UInt8)) : Prop where
  ne_nil : keys ≠ []
  length : ∀ k ∈ keys, k.length = 16

theorem keys_roundKeys {key : List UInt8} (h : key.length = 32) : Keys (roundKeys key) := by
  have he := (expanded_quads h).extend 52
  refine ⟨?_, length_of_mem_roundKeysOf fun w hw => he.length w (List.mem_reverse.mp hw)⟩
  have hm := he.many
  unfold roundKeys
  rw [← List.length_reverse] at hm
  match (Aes.extend 52 (quads 8 key).reverse).reverse, hm with
  | a :: b :: c :: d :: rest, _ => simp [roundKeysOf]

/-! ## Blocks -/

theorem length_shiftRows (block : List UInt8) : (shiftRows block).length = 16 := by
  simp [shiftRows]

theorem length_mixColumn (column : List UInt8) : (mixColumn column).length = column.length := by
  unfold mixColumn
  split <;> rfl

theorem length_mixColumns {block : List UInt8} (h : block.length = 16) :
    (mixColumns block).length = 16 := by
  have hq : (quads 4 block).map (List.length ∘ mixColumn) = (quads 4 block).map fun _ => 4 :=
    List.map_congr_left fun q hq =>
      (length_mixColumn q).trans (length_of_mem_quads (by omega) hq)
  rw [mixColumns, List.length_flatMap, ← Function.comp_def, hq, List.map_const', length_quads]
  rfl

theorem length_rounds {keys : List (List UInt8)} {block : List UInt8}
    (hk : ∀ k ∈ keys, k.length = 16) (h : block.length = 16) :
    (rounds keys block).length = 16 := by
  induction keys, block using rounds.induct with
  | case1 block => exact h
  | case2 key block =>
    rw [rounds, length_add, length_shiftRows, hk key (List.mem_singleton_self key)]
    rfl
  | case3 key keys block hn ih =>
    obtain ⟨hkey, hkeys⟩ := List.forall_mem_cons.mp hk
    rw [rounds.eq_3 block key keys hn]
    refine ih hkeys ?_
    rw [length_add, length_mixColumns (length_shiftRows _), hkey]
    rfl

theorem length_encrypt {keys : List (List UInt8)} {block : List UInt8} (hk : Keys keys)
    (h : block.length = 16) : (encrypt keys block).length = 16 := by
  cases keys with
  | nil => exact absurd rfl hk.ne_nil
  | cons key keys =>
    obtain ⟨hkey, hkeys⟩ := List.forall_mem_cons.mp hk.length
    refine length_rounds hkeys ?_
    rw [length_add, h, List.headD_cons, hkey]
    rfl

end Aes
end Interchange
