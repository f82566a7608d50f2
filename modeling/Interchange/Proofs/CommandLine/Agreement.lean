import Interchange.CommandLine.Console
import Interchange.Proofs.Result

/-! # Programs that agree

Two programs agree if, on files that a relation holds of, they print the same lines and end in the
same way. There is one rule for each way of putting programs together.
-/

namespace Interchange
namespace CommandLine
namespace Printing

variable {α β γ δ : Type} {P S E : Files → Files → Prop} {Q : α → β → Files → Files → Prop}
  {T : γ → δ → Files → Files → Prop}

/-- Two programs have printed the same: both have a value, or both were stopped in the same way. -/
inductive Agreed (Q : α → β → Files → Files → Prop) (E : Files → Files → Prop) :
    Except Stop α × Console → Except Stop β × Console → Prop
  | value {a : α} {b : β} {lines : List String} {fs fs' : Files} : Q a b fs fs' →
      Agreed Q E (.ok a, ⟨lines, fs⟩) (.ok b, ⟨lines, fs'⟩)
  | stop (x : Stop) {lines : List String} {fs fs' : Files} : E fs fs' →
      Agreed Q E (.error x, ⟨lines, fs⟩) (.error x, ⟨lines, fs'⟩)

/-- On files that `P` relates two programs print the same and end in the same way: with values and
files that `Q` relates, or stopped with files that `E` relates. -/
def Agree (P : Files → Files → Prop) (Q : α → β → Files → Files → Prop) (E : Files → Files → Prop)
    (p : Printing α) (p' : Printing β) : Prop :=
  ∀ lines fs fs', P fs fs' → Agreed Q E (p.run.run ⟨lines, fs⟩) (p'.run.run ⟨lines, fs'⟩)

theorem Agree.mono {Q' : α → β → Files → Files → Prop} {E' : Files → Files → Prop}
    {p : Printing α} {p' : Printing β} (h : Agree P Q E p p')
    (hq : ∀ a b fs fs', Q a b fs fs' → Q' a b fs fs') (he : ∀ fs fs', E fs fs' → E' fs fs') :
    Agree P Q' E' p p' := by
  intro lines fs fs' hp
  have hr := h lines fs fs' hp
  revert hr
  generalize p.run.run _ = x, p'.run.run _ = x'
  rintro (h | ⟨x, h⟩)
  · exact .value (hq _ _ _ _ h)
  · exact .stop x (he _ _ h)

theorem agree_pure {a : α} {b : β} (h : ∀ fs fs', P fs fs' → Q a b fs fs') :
    Agree P Q E (pure a) (pure b) := fun _ _ _ hp => .value (h _ _ hp)

theorem agree_throw (x : Stop) (h : ∀ fs fs', P fs fs' → E fs fs') :
    Agree P Q E (throw x) (throw x) := fun _ _ _ hp => .stop x (h _ _ hp)

theorem Agree.bind {p : Printing α} {p' : Printing β} {f : α → Printing γ} {f' : β → Printing δ}
    (hp : Agree P Q E p p') (hf : ∀ a b, Agree (Q a b) T E (f a) (f' b)) :
    Agree P T E (p >>= f) (p' >>= f') := by
  intro lines fs fs' h
  have hr := hp lines fs fs' h
  rw [ExceptT.run_bind, ExceptT.run_bind, StateT.run_bind, StateT.run_bind]
  revert hr
  generalize p.run.run _ = x, p'.run.run _ = x'
  rintro (hq | ⟨x, he⟩)
  · exact hf _ _ _ _ _ hq
  · exact .stop x he

theorem agree_line (s : String) : Agree P (fun _ _ => P) E (line s) (line s) :=
  fun _ _ _ hp => .value hp

theorem agree_files : Agree P (fun a b fs fs' => a = fs ∧ b = fs' ∧ P fs fs') E files files :=
  fun _ _ _ hp => .value ⟨rfl, rfl, hp⟩

theorem agree_ofResult {R : α → β → Prop} {r : Result α} {r' : Result β} (hr : Result.Alike R r r')
    (he : ∀ fs fs', P fs fs' → E fs fs') :
    Agree P (fun a b fs fs' => R a b ∧ P fs fs') E (ofResult r) (ofResult r') := by
  cases hr with
  | ok h => exact agree_pure fun _ _ hp => ⟨h, hp⟩
  | error e => exact agree_throw _ he

theorem agree_commit {R : α → β → Prop} {f : Files → Result α × Files}
    {f' : Files → Result β × Files}
    (h : ∀ fs fs', P fs fs' → Result.Alike R (f fs).1 (f' fs').1 ∧ S (f fs).2 (f' fs').2)
    (he : ∀ fs fs', S fs fs' → E fs fs') :
    Agree P (fun a b fs fs' => R a b ∧ S fs fs') E (commit f) (commit f') := by
  intro lines fs fs' hp
  obtain ⟨hr, hs⟩ := h fs fs' hp
  exact agree_ofResult hr he lines _ _ hs

theorem agree_forIn {as : List γ} {f : γ → PUnit → Printing (ForInStep PUnit)}
    (h : ∀ a, Agree P (fun r r' fs fs' => r = .yield ⟨⟩ ∧ r' = .yield ⟨⟩ ∧ P fs fs') E
      (f a ⟨⟩) (f a ⟨⟩)) :
    Agree P (fun _ _ => P) E (forIn as PUnit.unit f) (forIn as PUnit.unit f) := by
  induction as with
  | nil => exact agree_pure fun _ _ hp => hp
  | cons a as ih =>
    rw [List.forIn_cons]
    refine (h a).bind fun r r' => ?_
    rintro lines fs fs' ⟨rfl, rfl, hp⟩
    exact ih lines fs fs' hp

theorem Agree.onFiles {p p' : Printing Nat} {fs fs' : Files}
    (h : Agree P (fun a b fs fs' => a = b ∧ E fs fs') E p p') (hp : P fs fs') :
    (p.onFiles fs).1 = (p'.onFiles fs').1 ∧ (p.onFiles fs).2.lines = (p'.onFiles fs').2.lines ∧
      E (p.onFiles fs).2.files (p'.onFiles fs').2.files := by
  have hr := h [] fs fs' hp
  unfold Printing.onFiles
  revert hr
  generalize p.run.run _ = x, p'.run.run _ = x'
  rintro (⟨rfl, he⟩ | ⟨x, he⟩)
  · exact ⟨rfl, rfl, he⟩
  · exact ⟨rfl, rfl, he⟩

end Printing
end CommandLine
end Interchange
