import Interchange.Proofs.Secret.Category
import Interchange.Proofs.Text.Trim

/-! # Written keys

A key is printed with colons between its parts, and a text is read back by cutting it at its first
two colons. Main statement: between the keys that are accepted and the texts that are read, printing
and reading undo one another, and what a key starts with tells its system and its category.
-/

namespace Interchange
namespace SecretKey

variable {systemId category name s : String} {k : SecretKey}

theorem make_eq_ok_iff :
    make systemId category name = .ok k ↔ k = ⟨systemId, category, name⟩ ∧ k.Valid := by
  constructor
  · intro h
    have hk : k = ⟨systemId, category, name⟩ := by
      unfold make at h
      split_ifs at h
      exact (Except.ok.inj h).symm
    exact ⟨hk, by rw [hk] at h ⊢; exact h⟩
  · rintro ⟨rfl, h⟩
    exact h

/-- A key is accepted exactly if no part is blank and there is no colon in front of the name. -/
theorem valid_iff : k.Valid ↔ Text.allBlank k.systemId = false ∧ Text.allBlank k.category = false ∧
    Text.allBlank k.name = false ∧ ':' ∉ k.systemId.toList ∧ ':' ∉ k.category.toList := by
  unfold Valid make
  split_ifs with hs hc hn hcolon
  · simp [hs]
  · simp [hc]
  · simp [hn]
  · simp only [List.contains_iff_mem] at hcolon
    exact ⟨nofun, fun h => absurd hcolon (not_or.mpr h.2.2.2)⟩
  · simp only [List.contains_iff_mem] at hcolon
    exact ⟨fun _ => ⟨Bool.eq_false_iff.mpr hs, Bool.eq_false_iff.mpr hc, Bool.eq_false_iff.mpr hn,
      not_or.mp hcolon⟩, fun _ => rfl⟩

theorem toList_text (k : SecretKey) : k.text.toList =
    k.systemId.toList ++ ':' :: (k.category.toList ++ ':' :: k.name.toList) := by
  simp [text, start]

theorem parse_text (h : k.Valid) : parse k.text = .ok k := by
  obtain ⟨hs, hc⟩ := h.colon_not_mem
  rw [parse, toList_text]
  simp only [Text.cutAt_append hs, Text.cutAt_append hc, String.ofList_toList]
  exact h

theorem parse_eq_ok_iff : parse s = .ok k ↔ k.Valid ∧ k.text = s := by
  constructor
  · intro h
    unfold parse at h
    split at h
    · cases h
    next systemId rest hs =>
    split at h
    · cases h
    next category name hc =>
    obtain ⟨rfl, hv⟩ := make_eq_ok_iff.mp h
    refine ⟨hv, String.toList_injective ?_⟩
    rw [toList_text, Text.eq_of_cutAt hs, Text.eq_of_cutAt hc]
    simp only [String.toList_ofList]
  · rintro ⟨hv, rfl⟩
    exact parse_text hv

/-- The keys that are accepted are those with no blank part and no colon in front of the name. Each
is read back from its text, and each text that is read is the text of the key that comes out. A key
has the start of a system and a category exactly if it is a key of these. -/
theorem text_parse_inverse :
    (∀ systemId category name, (∃ k, make systemId category name = .ok k) ↔
      Text.allBlank systemId = false ∧ Text.allBlank category = false ∧
        Text.allBlank name = false ∧ ':' ∉ systemId.toList ∧ ':' ∉ category.toList) ∧
    (∀ systemId category name k, make systemId category name = .ok k →
      k = ⟨systemId, category, name⟩ ∧ parse k.text = .ok k) ∧
    (∀ s k, parse s = .ok k →
      make k.systemId k.category k.name = .ok k ∧ k.text = s) ∧
    ∀ (k : SecretKey) systemId category, k.Valid → Accepted systemId category →
      (Text.startsWith k.text (start systemId category) ↔
        k.systemId = systemId ∧ k.category = category) := by
  refine ⟨fun systemId category name => ?_, fun systemId category name k h => ?_,
    fun s k h => parse_eq_ok_iff.mp h, fun k systemId category hk ha => startsWith_start_iff ha hk⟩
  · rw [← valid_iff (k := ⟨systemId, category, name⟩)]
    simp only [make_eq_ok_iff]
    exact ⟨fun ⟨k, hk, hv⟩ => hk ▸ hv, fun hv => ⟨_, rfl, hv⟩⟩
  · obtain ⟨hk, hv⟩ := make_eq_ok_iff.mp h
    exact ⟨hk, parse_text hv⟩

/-- A key with blanks around its parts and colons in its name, and a system whose id is the start of
the key's. -/
theorem text_parse_inverse_blanks :
    make "s 1" " auth" ":a:b " = .ok ⟨"s 1", " auth", ":a:b "⟩ ∧
      parse "s 1: auth::a:b " = .ok ⟨"s 1", " auth", ":a:b "⟩ ∧
      Accepted "s" " auth" ∧ ¬ Text.startsWith "s 1: auth::a:b " (start "s" " auth") := by
  obtain ⟨-, hmake, -, hstart⟩ := text_parse_inverse
  have hv : make "s 1" " auth" ":a:b " = .ok ⟨"s 1", " auth", ":a:b "⟩ := by decide
  have ha : Accepted "s" " auth" := ⟨"a", by decide⟩
  have hs := hstart ⟨"s 1", " auth", ":a:b "⟩ "s" " auth" hv ha
  exact ⟨hv, (hmake _ _ _ _ hv).2, ha, fun h => absurd (hs.mp h).1 (by decide)⟩

end SecretKey
end Interchange
