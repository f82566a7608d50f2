import Interchange.Error
import Mathlib.Data.List.Forall2

/-! # Results

What comes of results that follow one another, and when two results are alike.
-/

namespace Interchange
namespace Result

@[simp] theorem ok_bind {α β : Type} (a : α) (f : α → Result β) :
    ((.ok a : Result α) >>= f) = f a := rfl

@[simp] theorem error_bind {α β : Type} (e : Error) (f : α → Result β) :
    ((.error e : Result α) >>= f) = .error e := rfl

theorem bind_eq_ok_iff {α β : Type} {x : Result α} {f : α → Result β} {b : β} :
    (x >>= f) = .ok b ↔ ∃ a, x = .ok a ∧ f a = .ok b := by
  cases x with
  | error e => simp
  | ok a => simp

/-! ## One after another -/

section InTurn

variable {α β : Type} {f : α → Result β} {as : List α} {bs : List β} {e : Error}

/-- The first of a list that fails does so with this error. -/
def FirstError (f : α → Result β) (as : List α) (e : Error) : Prop :=
  ∃ done a rest, as = done ++ a :: rest ∧ (∀ a ∈ done, ∃ b, f a = .ok b) ∧ f a = .error e

theorem firstError_iff : FirstError f as e ↔ ∃ (i : Nat) (a : α), as[i]? = some a ∧ f a = .error e ∧
    ∀ (j : Nat) (b : α), j < i → as[j]? = some b → ∃ r, f b = .ok r := by
  constructor
  · rintro ⟨done, a, rest, rfl, hd, he⟩
    refine ⟨done.length, a, by simp, he, ?_⟩
    intro j b hj hb
    rw [List.getElem?_append_left hj] at hb
    exact hd b (List.mem_of_getElem? hb)
  · rintro ⟨i, a, ha, he, hd⟩
    obtain ⟨hi, rfl⟩ := List.getElem?_eq_some_iff.mp ha
    refine ⟨as.take i, as[i], as.drop (i + 1), ?_, ?_, he⟩
    · rw [List.getElem_cons_drop, List.take_append_drop]
    · intro b hb
      obtain ⟨j, hj, rfl⟩ := List.mem_iff_getElem.mp hb
      rw [List.length_take] at hj
      rw [List.getElem_take]
      exact hd j _ (by omega) (List.getElem?_eq_getElem (by omega))

theorem mapM_eq_ok_iff : as.mapM f = .ok bs ↔ List.Forall₂ (fun a b => f a = .ok b) as bs := by
  induction as generalizing bs with
  | nil =>
    rw [List.mapM_nil, List.forall₂_nil_left_iff]
    exact ⟨fun h => (Except.ok.inj h).symm, fun h => h ▸ rfl⟩
  | cons a as ih =>
    rw [List.mapM_cons, bind_eq_ok_iff, List.forall₂_cons_left_iff]
    constructor
    · rintro ⟨b, hb, h⟩
      obtain ⟨bs', hbs, h⟩ := bind_eq_ok_iff.mp h
      cases h
      exact ⟨b, bs', hb, ih.mp hbs, rfl⟩
    · rintro ⟨b, bs', hb, hbs, rfl⟩
      exact ⟨b, hb, bind_eq_ok_iff.mpr ⟨bs', ih.mpr hbs, rfl⟩⟩

theorem mapM_eq_error_iff : as.mapM f = .error e ↔ FirstError f as e := by
  constructor
  · intro h
    induction as with
    | nil => cases h
    | cons a as ih =>
      rw [List.mapM_cons] at h
      cases ha : f a with
      | error e' =>
        rw [ha] at h
        cases h
        exact ⟨[], a, as, rfl, nofun, ha⟩
      | ok b =>
        rw [ha, ok_bind] at h
        cases has : as.mapM f with
        | ok bs =>
          rw [has] at h
          cases h
        | error e' =>
          rw [has] at h
          cases h
          obtain ⟨done, a', rest, rfl, hd, he⟩ := ih has
          exact ⟨a :: done, a', rest, rfl, List.forall_mem_cons.mpr ⟨⟨b, ha⟩, hd⟩, he⟩
  · rintro ⟨done, a, rest, rfl, hd, he⟩
    induction done with
    | nil => rw [List.nil_append, List.mapM_cons, he, error_bind]
    | cons a' done ih =>
      obtain ⟨⟨b, hb⟩, hd⟩ := List.forall_mem_cons.mp hd
      rw [List.cons_append, List.mapM_cons, hb, ok_bind, ih hd, error_bind]

end InTurn

/-! ## Likeness -/

/-- Two results are alike: values that `R` relates, or the same error. -/
inductive Alike {ε α β : Type} (R : α → β → Prop) : Except ε α → Except ε β → Prop
  | ok {a : α} {b : β} : R a b → Alike R (.ok a) (.ok b)
  | error (e : ε) : Alike R (.error e) (.error e)

theorem alike_eq_iff {ε α : Type} {r r' : Except ε α} : Alike Eq r r' ↔ r = r' := by
  constructor
  · rintro (rfl | e) <;> rfl
  · rintro rfl
    cases r with
    | ok a => exact .ok rfl
    | error e => exact .error e

end Result
end Interchange
