import Interchange.Proofs.Transform.Inbound
import Mathlib.Data.List.Lex

/-! # Results, place by place

What a system answers can be arrays in arrays, with objects and other values in them. Main
statement: it is brought in exactly if each object in it is that is reached through arrays alone.
Then all arrays keep their places and their lengths, each such object stands where the one stood
that it was made of, and every other value is as it was. Else the error is that of the first such
object, from left to right, that is not brought in.
-/

namespace Interchange

open Json Result

/-! ## Values in arrays -/

namespace Json.Value

variable {v w : Value} {items : List Value} {path : List Nat} {i : Nat}

@[simp]
theorem item?_nil (v : Value) : v.item? [] = some v := by
  cases v <;> rfl

theorem item?_array_cons (items : List Value) (i : Nat) (path : List Nat) :
    (Value.array items).item? (i :: path) = items[i]?.bind fun v => v.item? path := rfl

theorem item?_of_getElem? (h : items[i]? = some w) (path : List Nat) :
    (Value.array items).item? (i :: path) = w.item? path := by
  rw [item?_array_cons, h, Option.bind_some]

theorem item?_array_eq_some_iff {o : Object} :
    (Value.array items).item? path = some (.object o) ↔
      ∃ i rest w, path = i :: rest ∧ items[i]? = some w ∧ w.item? rest = some (.object o) := by
  constructor
  · intro h
    cases path with
    | nil => simp at h
    | cons i rest =>
      obtain ⟨w, hw, ho⟩ := Option.bind_eq_some_iff.mp h
      exact ⟨i, rest, w, rfl, hw, ho⟩
  · rintro ⟨i, rest, w, rfl, hw, ho⟩
    rwa [item?_of_getElem? hw]

end Json.Value

namespace Transformer

variable {t : Transformer} {schemas : SchemaRegistry} {v r r' w : Value} {items : List Value}
  {e : Error}

/-! ## What is brought in -/

/-- Each object of a value that is reached through arrays alone can be brought in. -/
def Admits (t : Transformer) (schemas : SchemaRegistry) (v : Value) : Prop :=
  ∀ path o, v.item? path = some (.object o) → ∃ x, t.toInternal schemas (.object o) = .ok x

/-- One value is made of another place by place: arrays keep their lengths, and objects are brought
in. -/
structure Brings (t : Transformer) (schemas : SchemaRegistry) (v r : Value) : Prop where
  arrays : ∀ path items, v.item? path = some (.array items) →
    ∃ results, r.item? path = some (.array results) ∧ results.length = items.length
  objects : ∀ path o, v.item? path = some (.object o) →
    ∃ x, t.toInternal schemas (.object o) = .ok x ∧ r.item? path = some x
  scalars : ∀ path w, w.Scalar → v.item? path = some w → r.item? path = some w

/-- The first object that cannot be brought in, of those that are reached through arrays alone,
fails with this error. A place is to the left of another one if it comes before it word for word. -/
def FirstRefused (t : Transformer) (schemas : SchemaRegistry) (v : Value) (e : Error) : Prop :=
  ∃ path o, v.item? path = some (.object o) ∧ t.toInternal schemas (.object o) = .error e ∧
    ∀ path' < path, ∀ o', v.item? path' = some (.object o') →
      ∃ x, t.toInternal schemas (.object o') = .ok x

theorem fromResult_of_scalar (h : v.Scalar) : t.fromResult schemas v = .ok v := by
  cases v with
  | array | object => exact h.elim
  | _ => rfl

theorem fromResult_array_eq_error_iff :
    t.fromResult schemas (.array items) = .error e ↔
      FirstError (t.fromResult schemas) items e := by
  rw [← mapM_eq_error_iff, ← t.fromResults_eq_mapM, fromResult]
  cases t.fromResults schemas items with
  | error e' => rw [error_bind, Except.error.injEq, Except.error.injEq]
  | ok results => exact iff_of_false nofun nofun

theorem admits_of_fromResult (h : t.fromResult schemas v = .ok r) : t.Admits schemas v := by
  intro path o ho
  have hp := fromResult_item h path
  rw [ho] at hp
  obtain ⟨x, -, hx⟩ := Option.map_eq_some_iff.mp hp
  exact ⟨x, hx.symm⟩

theorem firstRefused_of_fromResult (h : t.fromResult schemas v = .error e) :
    t.FirstRefused schemas v e := by
  induction v using Value.array_induction with
  | array items ih =>
    obtain ⟨i, w, hw, he, hd⟩ := firstError_iff.mp (fromResult_array_eq_error_iff.mp h)
    obtain ⟨path, o, ho, hoe, hp⟩ := ih w (List.mem_of_getElem? hw) he
    refine ⟨i :: path, o, by rwa [Value.item?_of_getElem? hw], hoe, ?_⟩
    intro path' hlt o' ho'
    obtain ⟨j, rest, w', rfl, hw', ho'⟩ := Value.item?_array_eq_some_iff.mp ho'
    -- an object to the left is in an item before this one, or to the left in the same item
    rcases List.cons_lt_cons_iff.mp hlt with hj | ⟨rfl, hrest⟩
    · obtain ⟨x, hx⟩ := hd j w' hj hw'
      exact admits_of_fromResult hx rest o' ho'
    · cases hw.symm.trans hw'
      exact hp rest hrest o' ho'
  | object o => exact ⟨[], o, rfl, h, fun path hlt => absurd hlt (List.not_lt_nil path)⟩
  | scalar v hv =>
    rw [fromResult_of_scalar hv] at h
    cases h

theorem FirstRefused.unique {e' : Error} (h : t.FirstRefused schemas v e)
    (h' : t.FirstRefused schemas v e') : e = e' := by
  obtain ⟨path, o, ho, he, hp⟩ := h
  obtain ⟨path', o', ho', he', hp'⟩ := h'
  rcases lt_trichotomy path path' with hlt | rfl | hlt
  · obtain ⟨x, hx⟩ := hp' path hlt o ho
    cases he.symm.trans hx
  · cases ho.symm.trans ho'
    cases he.symm.trans he'
    rfl
  · obtain ⟨x, hx⟩ := hp path' hlt o' ho'
    cases he'.symm.trans hx

theorem Admits.not_firstRefused (h : t.Admits schemas v) : ¬ t.FirstRefused schemas v e := by
  rintro ⟨path, o, ho, he, -⟩
  obtain ⟨x, hx⟩ := h path o ho
  cases he.symm.trans hx

theorem fromResult_isOk_iff :
    (∃ r, t.fromResult schemas v = .ok r) ↔ t.Admits schemas v := by
  constructor
  · rintro ⟨r, hr⟩
    exact admits_of_fromResult hr
  · intro h
    cases hr : t.fromResult schemas v with
    | ok r => exact ⟨r, rfl⟩
    | error e => exact absurd (firstRefused_of_fromResult hr) h.not_firstRefused

theorem fromResult_eq_error_iff :
    t.fromResult schemas v = .error e ↔ t.FirstRefused schemas v e := by
  constructor
  · exact firstRefused_of_fromResult
  · intro h
    cases hr : t.fromResult schemas v with
    | ok r => exact absurd h (admits_of_fromResult hr).not_firstRefused
    | error e' => rw [h.unique (firstRefused_of_fromResult hr)]

/-! ## What it is brought into -/

theorem brings_of_fromResult (h : t.fromResult schemas v = .ok r) : t.Brings schemas v r := by
  have hitem {path w} (hw : v.item? path = some w) :
      ∃ x, t.fromResult schemas w = .ok x ∧ r.item? path = some x := by
    have hp := fromResult_item h path
    rw [hw] at hp
    obtain ⟨x, hx, hwx⟩ := Option.map_eq_some_iff.mp hp
    exact ⟨x, hwx.symm, hx⟩
  constructor
  case arrays =>
    intro path items hi
    obtain ⟨x, hx, hr⟩ := hitem hi
    obtain ⟨results, hres, rfl⟩ := fromResult_array_iff.mp hx
    rw [t.fromResults_eq_mapM, mapM_eq_ok_iff] at hres
    exact ⟨results, hr, hres.length_eq.symm⟩
  case objects =>
    intro path o ho
    obtain ⟨x, hx, hr⟩ := hitem ho
    exact ⟨x, hx, hr⟩
  case scalars =>
    intro path w hs hw
    obtain ⟨x, hx, hr⟩ := hitem hw
    rw [fromResult_of_scalar hs] at hx
    cases hx
    exact hr

theorem Brings.item {items results : List Value}
    (h : t.Brings schemas (.array items) (.array results)) {i : Nat} {w x : Value}
    (hw : items[i]? = some w) (hx : results[i]? = some x) : t.Brings schemas w x := by
  constructor
  case arrays =>
    intro path items' hi
    rw [← Value.item?_of_getElem? hw] at hi
    obtain ⟨results', hr, hlen⟩ := h.arrays (i :: path) items' hi
    exact ⟨results', by rwa [Value.item?_of_getElem? hx] at hr, hlen⟩
  case objects =>
    intro path o ho
    rw [← Value.item?_of_getElem? hw] at ho
    obtain ⟨y, hy, hr⟩ := h.objects (i :: path) o ho
    exact ⟨y, hy, by rwa [Value.item?_of_getElem? hx] at hr⟩
  case scalars =>
    intro path w' hs hw'
    rw [← Value.item?_of_getElem? hw] at hw'
    have hr := h.scalars (i :: path) w' hs hw'
    rwa [Value.item?_of_getElem? hx] at hr

/-- There is one value only that another one is brought into. -/
theorem Brings.unique (h : t.Brings schemas v r) (h' : t.Brings schemas v r') : r = r' := by
  induction v using Value.array_induction generalizing r r' with
  | array items ih =>
    obtain ⟨results, hr, hlen⟩ := h.arrays [] items rfl
    obtain ⟨results', hr', hlen'⟩ := h'.arrays [] items rfl
    rw [Value.item?_nil, Option.some.injEq] at hr hr'
    subst hr hr'
    refine congrArg Value.array (List.ext_getElem (hlen.trans hlen'.symm) fun i hi hi' => ?_)
    have hw : items[i]? = some items[i] := List.getElem?_eq_getElem (hlen ▸ hi)
    exact ih _ (List.getElem_mem _) (h.item hw (List.getElem?_eq_getElem hi))
      (h'.item hw (List.getElem?_eq_getElem hi'))
  | object o =>
    obtain ⟨x, hx, hr⟩ := h.objects [] o rfl
    obtain ⟨x', hx', hr'⟩ := h'.objects [] o rfl
    cases hx.symm.trans hx'
    rw [Value.item?_nil, Option.some.injEq] at hr hr'
    rw [hr, hr']
  | scalar v hv =>
    have hr := h.scalars [] v hv (Value.item?_nil v)
    have hr' := h'.scalars [] v hv (Value.item?_nil v)
    rw [Value.item?_nil, Option.some.injEq] at hr hr'
    rw [hr, hr']

theorem Brings.admits (h : t.Brings schemas v r) : t.Admits schemas v := fun path o ho =>
  have ⟨x, hx, _⟩ := h.objects path o ho
  ⟨x, hx⟩

theorem fromResult_eq_ok_iff :
    t.fromResult schemas v = .ok r ↔ t.Brings schemas v r := by
  constructor
  · exact brings_of_fromResult
  · intro h
    obtain ⟨r', hr'⟩ := fromResult_isOk_iff.mpr h.admits
    rw [hr', h.unique (brings_of_fromResult hr')]

/-- What a system answers is brought in exactly if each object is that is reached through arrays
alone, and then place by place; else it fails like the first such object, from left to right, that
is not. -/
theorem fromResult_structural (t : Transformer) (schemas : SchemaRegistry) (v : Value) :
    ((∃ r, t.fromResult schemas v = .ok r) ↔ t.Admits schemas v) ∧
      (∀ r, t.fromResult schemas v = .ok r ↔ t.Brings schemas v r) ∧
      ∀ e, t.fromResult schemas v = .error e ↔ t.FirstRefused schemas v e :=
  ⟨fromResult_isOk_iff, fun _ => fromResult_eq_ok_iff, fun _ => fromResult_eq_error_iff⟩

end Transformer
end Interchange
