import Interchange.Call

/-! # Calls that run alone

A call that runs while no other call does anything: where it has to wait, the outside gives what the
call waits for, and the call is polled again.
-/

namespace Interchange
namespace Call

variable {σ α β : Type} {serve : σ → σ} {c : Call σ α} {s s' : σ} {a : α}

/-- The result of a call that runs alone, with the state that it leaves. Where it has to wait the
state is changed by `serve`; nothing comes of a call that still has to wait then. -/
def alone (serve : σ → σ) : Call σ α → σ → Option (α × σ)
  | done a, s => some (a, s)
  | act f next, s => alone serve (next s) (f s)
  | wait ready _ next, s =>
    if ready s then alone serve next s
    else if ready (serve s) then alone serve next (serve s) else none

@[simp] theorem alone_step (f : σ → α × σ) (s : σ) : (step f).alone serve s = some (f s) := rfl

theorem alone_await {ready : σ → Bool} {abandon : σ → σ} :
    (await ready abandon).alone serve s =
      if ready s then some ((), s) else if ready (serve s) then some ((), serve s) else none := rfl

theorem alone_andThen (c : Call σ α) (k : α → Call σ β) (s : σ) :
    (c.andThen k).alone serve s = (c.alone serve s).bind fun r => (k r.1).alone serve r.2 := by
  induction c generalizing s with
  | done a => rfl
  | act f next ih => exact ih s (f s)
  | wait ready abandon next ih =>
    simp only [andThen, alone, ih]
    split
    · rfl
    · split <;> rfl

theorem alone_onAbandon (f : σ → σ) (c : Call σ α) (s : σ) :
    (c.onAbandon f).alone serve s = c.alone serve s := by
  induction c generalizing s with
  | done a => rfl
  | act g next ih => exact ih s (g s)
  | wait ready abandon next ih => simp only [onAbandon, alone, ih]

/-! ## By polling -/

/-- A call is polled until it ends, and the outside serves it before each further poll. -/
inductive Served (serve : σ → σ) : Call σ α → σ → α → σ → Prop
  | ended {c : Call σ α} {s s' : σ} {a : α} : c.poll s = (done a, s') → Served serve c s a s'
  | again {c : Call σ α} {s s' : σ} {a : α} :
      Served serve (c.poll s).1 (serve (c.poll s).2) a s' → Served serve c s a s'

theorem Served.of_poll_eq {d : Call σ α} {t : σ} (h : Served serve d t a s')
    (hp : c.poll s = d.poll t) : Served serve c s a s' := by
  cases h with
  | ended h => exact .ended (hp.trans h)
  | again h => exact .again (hp ▸ h)

/-- A call that runs alone is one that is polled until it ends. -/
theorem served_of_alone (h : c.alone serve s = some (a, s')) : Served serve c s a s' := by
  induction c generalizing s with
  | done b =>
    cases h
    exact .ended rfl
  | act f next ih => exact (ih s h).of_poll_eq rfl
  | wait ready abandon next ih =>
    rw [alone] at h
    by_cases hs : ready s
    · rw [if_pos hs] at h
      exact (ih h).of_poll_eq (by simp [poll, hs])
    · rw [if_neg hs] at h
      by_cases hd : ready (serve s)
      · rw [if_pos hd] at h
        refine .again ?_
        rw [show (wait ready abandon next).poll s = (wait ready abandon next, s) by simp [poll, hs]]
        exact (ih h).of_poll_eq (by simp [poll, hd])
      · rw [if_neg hd] at h
        cases h

end Call
end Interchange
