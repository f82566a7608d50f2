import Interchange.Rule.Transform
import Interchange.Proofs.Text.Marks
import Mathlib.Data.List.Basic

/-! # What a template gives

A template is cut into placeholders and plain characters in one way, whatever the value and the
record are. Each placeholder is replaced by what it stands for, everything else stays as it is, and
the first placeholder that stands for nothing is the one that is complained of.
-/

namespace Interchange

open Json

namespace Template

variable {c : Char} {cs name : List Char} {ps : List Piece} {lookup : String → Option String}
  {template s n : String}

/-! ## Placeholders -/

/-- One or more digits, letters, underscores, dots and hyphens. -/
def IsName (name : List Char) : Prop := name ≠ [] ∧ ∀ c ∈ name,
  '0' ≤ c ∧ c ≤ '9' ∨ 'a' ≤ c ∧ c ≤ 'z' ∨ 'A' ≤ c ∧ c ≤ 'Z' ∨ c = '_' ∨ c = '.' ∨ c = '-'

theorem isName_iff : IsName name ↔ name ≠ [] ∧ ∀ c ∈ name, isNameChar c = true := by
  simp only [IsName, isNameChar, Text.isAlphanumeric, Text.isDigit, Text.isLetter,
    Bool.or_eq_true, Bool.and_eq_true, decide_eq_true_eq, beq_iff_eq, or_assoc]

/-- A placeholder is a name between braces. -/
def marking : Text.Marking Piece where
  plain := .plain
  mark := .placeholder
  opening := ['{']
  IsName := IsName
  not_mem_name := fun _ hn hm => absurd ((isName_iff.mp hn).2 _ hm) (by decide)

theorem nameAt_eq_some_iff : nameAt cs = some name ↔ IsName name ∧ name ++ ['}'] <+: cs := by
  have hr := Text.takeWhile_eq_iff isNameChar '}' cs name rfl
  simp only [nameAt, Option.ite_none_right_eq_some, Option.some.injEq, isName_iff]
  constructor
  · rintro ⟨⟨hne, hd⟩, rfl⟩
    obtain ⟨hn, hp⟩ := hr.mp ⟨rfl, hd⟩
    exact ⟨⟨hne, hn⟩, hp⟩
  · rintro ⟨⟨hne, hn⟩, hp⟩
    obtain ⟨rfl, hd⟩ := hr.mpr ⟨hn, hp⟩
    exact ⟨⟨hne, hd⟩, rfl⟩

theorem starts_iff : marking.Starts (c :: cs) name ↔ c = '{' ∧ nameAt cs = some name := by
  have ht : marking.text name = '{' :: (name ++ ['}']) := rfl
  rw [Text.Marking.Starts, ht, List.cons_prefix_cons, nameAt_eq_some_iff]
  exact ⟨fun ⟨hn, hc, hp⟩ => ⟨hc.symm, hn, hp⟩, fun ⟨hc, hn, hp⟩ => ⟨hn, hc.symm, hp⟩⟩

theorem splits_pieces (cs : List Char) : marking.Splits cs (pieces cs) :=
  Text.Marking.splits_of_scan starts_iff (fun _ => rfl) (fun _ _ _ => rfl) (fun _ _ => rfl) 0 cs

/-! ## Rendering -/

def placeholders (ps : List Piece) : List String :=
  ps.filterMap fun
    | .plain _ => none
    | .placeholder name => some (String.ofList name)

def filled (text : String → String) : Piece → List Char
  | .plain c => [c]
  | .placeholder name => (text (String.ofList name)).toList

theorem unknown_eq_filter (lookup : String → Option String) (ps : List Piece) :
    unknown lookup ps = (placeholders ps).filter fun n => (lookup n).isNone := by
  rw [unknown, placeholders, List.filter_filterMap]
  refine List.filterMap_congr fun p _ => ?_
  cases p with
  | plain c => rfl
  | placeholder name => cases hl : lookup (String.ofList name) <;> simp [hl, Option.filter]

theorem flatMap_fill {text : String → String}
    (h : ∀ n ∈ placeholders ps, lookup n = some (text n)) :
    ps.flatMap (fill lookup) = ps.flatMap (filled text) := by
  refine List.flatMap_congr fun p hp => ?_
  cases p with
  | plain c => rfl
  | placeholder name =>
    have hn : String.ofList name ∈ placeholders ps := List.mem_filterMap.mpr ⟨_, hp, rfl⟩
    simp only [fill, filled, h _ hn, Option.getD_some]

/-- A template is rendered if each placeholder has a text, and then with these texts. -/
theorem render_eq_ok_iff : render lookup template = .ok s ↔ ∃ text : String → String,
    (∀ n ∈ placeholders (pieces template.toList), lookup n = some (text n)) ∧
      s = String.ofList ((pieces template.toList).flatMap (filled text)) := by
  simp only [render, unknown_eq_filter]
  split
  · next n rest hu =>
    have hn : n ∈ (placeholders (pieces template.toList)).filter fun n => (lookup n).isNone := by
      rw [hu]
      exact List.mem_cons_self
    obtain ⟨hm, hn⟩ := List.mem_filter.mp hn
    refine ⟨nofun, fun ⟨text, ht, _⟩ => ?_⟩
    rw [ht n hm] at hn
    cases hn
  · next hu =>
    have hk : ∀ n ∈ placeholders (pieces template.toList),
        lookup n = some ((lookup n).getD "") := by
      intro n hn
      have hs : (lookup n).isNone ≠ true := List.filter_eq_nil_iff.mp hu n hn
      cases hl : lookup n with
      | none => exact absurd (hl ▸ rfl) hs
      | some t => rfl
    constructor
    · rintro h
      cases h
      exact ⟨fun n => (lookup n).getD "", hk, congrArg String.ofList (flatMap_fill hk)⟩
    · rintro ⟨text, ht, rfl⟩
      rw [flatMap_fill ht]

/-- Otherwise the first placeholder without a text is named. -/
theorem render_eq_error_iff : render lookup template = .error n ↔ ∃ before after,
    placeholders (pieces template.toList) = before ++ n :: after ∧
      (∀ m ∈ before, lookup m ≠ none) ∧ lookup n = none := by
  simp only [render, unknown_eq_filter]
  generalize placeholders (pieces template.toList) = ns
  constructor
  · intro h
    split at h
    · next m rest hu =>
      cases h
      obtain ⟨before, after, rfl, hb, hn, -⟩ := List.filter_eq_cons_iff.mp hu
      refine ⟨before, after, rfl, fun m hm he => hb m hm (he ▸ rfl), ?_⟩
      exact Option.isNone_iff_eq_none.mp hn
    · cases h
  · rintro ⟨before, after, rfl, hb, hn⟩
    have hu : (before ++ n :: after).filter (fun n => (lookup n).isNone) =
        n :: after.filter fun n => (lookup n).isNone := by
      have hf : before.filter (fun n => (lookup n).isNone) = [] :=
        List.filter_eq_nil_iff.mpr fun m hm he => hb m hm (Option.isNone_iff_eq_none.mp he)
      rw [List.filter_append, hf, List.nil_append, List.filter_cons, hn]
      rfl
    rw [hu]

end Template

/-! ## Formats -/

namespace ValueTransform

variable {value : Value} {record : Object} {name text : String}

/-- What a name in a template stands for: `value` for the value itself, whatever the record holds,
and any other name for the field of the record. -/
inductive StandsFor (value : Value) (record : Object) : String → String → Prop
  | value : StandsFor value record "value" value.display
  | field {name : String} {v : Value} : name ≠ "value" → record.get? name = some v →
      StandsFor value record name v.display

/-- A name is `value` or a key of the record. -/
def Known (record : Object) (name : String) : Prop :=
  name = "value" ∨ ∃ v, record.get? name = some v

theorem placeholderText_eq_some_iff :
    placeholderText value record name = some text ↔ StandsFor value record name text := by
  unfold placeholderText
  split
  · next hn =>
    subst hn
    constructor
    · rintro h
      cases h
      exact .value
    · rintro (_ | ⟨hn, -⟩)
      · rfl
      · exact absurd rfl hn
  · next hn =>
    rw [Option.map_eq_some_iff]
    constructor
    · rintro ⟨v, hv, rfl⟩
      exact .field hn hv
    · rintro (_ | ⟨-, hv⟩)
      · exact absurd rfl hn
      · exact ⟨_, hv, rfl⟩

theorem placeholderText_ne_none_iff (value : Value) :
    placeholderText value record name ≠ none ↔ Known record name := by
  unfold placeholderText Known
  split
  · next hn => simp [hn]
  · next hn => simp [hn, Option.ne_none_iff_exists']

theorem apply_format_eq_ok_iff {template : String} {v : Value} :
    (format template).apply value record = .ok v ↔
      ∃ s, Template.render (placeholderText value record) template = .ok s ∧ v = .string s := by
  simp only [apply]
  cases Template.render (placeholderText value record) template with
  | error name => exact ⟨nofun, nofun⟩
  | ok s => simp [eq_comm]

theorem apply_format_eq_error_iff {template : String} {e : TransformError} :
    (format template).apply value record = .error e ↔ ∃ name,
      Template.render (placeholderText value record) template = .error name ∧
        e = .unknownPlaceholder name := by
  simp only [apply]
  cases Template.render (placeholderText value record) template with
  | error name => simp [eq_comm]
  | ok s => exact ⟨nofun, nofun⟩

theorem apply_format_known {template : String} :
    (∃ v, (format template).apply value record = .ok v) ↔
      ∀ name ∈ Template.placeholders (Template.pieces template.toList), Known record name := by
  simp only [apply_format_eq_ok_iff, Template.render_eq_ok_iff]
  constructor
  · rintro ⟨v, s, ⟨text, ht, -⟩, -⟩ name hn
    exact (placeholderText_ne_none_iff value).mp (ht name hn ▸ Option.some_ne_none _)
  · intro hk
    refine ⟨_, _, ⟨fun name => (placeholderText value record name).getD "", fun name hn => ?_,
      rfl⟩, rfl⟩
    obtain ⟨text, ht⟩ := Option.ne_none_iff_exists'.mp
      ((placeholderText_ne_none_iff value).mpr (hk name hn))
    simp only [ht, Option.getD_some]

/-- A template is cut in one way into placeholders and plain characters. A format succeeds exactly
if all placeholders are known, and then gives the plain characters as they are and the texts that
the placeholders stand for; otherwise it names the first one that is not known. -/
theorem format_renders (template : String) : ∃ ps, Template.marking.Splits template.toList ps ∧
    (∀ qs, Template.marking.Splits template.toList qs → qs = ps) ∧
    ∀ value record,
      ((∃ v, (format template).apply value record = .ok v) ↔
        ∀ name ∈ Template.placeholders ps, Known record name) ∧
      (∀ v, (format template).apply value record = .ok v ↔ ∃ text : String → String,
        (∀ name ∈ Template.placeholders ps, StandsFor value record name (text name)) ∧
          v = .string (String.ofList (ps.flatMap (Template.filled text)))) ∧
      ∀ e, (format template).apply value record = .error e ↔ ∃ before name after,
        Template.placeholders ps = before ++ name :: after ∧
          (∀ n ∈ before, Known record n) ∧ ¬ Known record name ∧ e = .unknownPlaceholder name := by
  have hs := Template.splits_pieces template.toList
  refine ⟨_, hs, fun qs => hs.unique, fun value record => ⟨apply_format_known, fun v => ?_,
    fun e => ?_⟩⟩
  · simp only [apply_format_eq_ok_iff, Template.render_eq_ok_iff, placeholderText_eq_some_iff]
    constructor
    · rintro ⟨_, ⟨text, ht, rfl⟩, rfl⟩
      exact ⟨text, ht, rfl⟩
    · rintro ⟨text, ht, rfl⟩
      exact ⟨_, ⟨text, ht, rfl⟩, rfl⟩
  · simp only [apply_format_eq_error_iff, Template.render_eq_error_iff,
      placeholderText_ne_none_iff]
    constructor
    · rintro ⟨name, ⟨before, after, hp, hb, hn⟩, rfl⟩
      exact ⟨before, name, after, hp, hb, fun hk => (placeholderText_ne_none_iff _).mpr hk hn, rfl⟩
    · rintro ⟨before, name, after, hp, hb, hn, rfl⟩
      refine ⟨name, ⟨before, after, hp, hb, ?_⟩, rfl⟩
      exact not_not.mp fun hk => hn ((placeholderText_ne_none_iff _).mp hk)

end ValueTransform
end Interchange
