import Interchange.Call

/-! # Courses of calls

Between two steps of a call other calls may change the state in any way. A call that ends has met
some state at each of its steps, and these decide what it did and what it came to: its course. Calls
that are polled until they end follow such a course.
-/

namespace Interchange
namespace Call

variable {σ α β : Type}

/-- What is left of a list of states, from a position on. -/
def later (met : Nat → σ) (n : Nat) : Nat → σ := fun i => met (n + i)

@[simp] theorem later_apply (met : Nat → σ) (n i : Nat) : later met n i = met (n + i) := rfl

@[simp] theorem later_zero (met : Nat → σ) : later met 0 = met := by
  funext i
  simp

@[simp] theorem later_later (met : Nat → σ) (m n : Nat) :
    later (later met m) n = later met (m + n) := by
  funext i
  simp [Nat.add_assoc]

/-- What a call did, as the states before and after each of its steps, and its result, when `met i`
is the state that its step number `i` meets. -/
def course : Call σ α → (Nat → σ) → List (σ × σ) × α
  | done a, _ => ([], a)
  | act f next, met =>
    let c := course (next (met 0)) (later met 1)
    ((met 0, f (met 0)) :: c.1, c.2)
  | wait _ _ next, met => course next met

@[simp] theorem course_pure (a : α) (met : Nat → σ) :
    (pure a : Call σ α).course met = ([], a) := rfl

@[simp] theorem course_step (f : σ → α × σ) (met : Nat → σ) :
    (step f).course met = ([(met 0, (f (met 0)).2)], (f (met 0)).1) := rfl

@[simp] theorem course_await (ready : σ → Bool) (abandon : σ → σ) (met : Nat → σ) :
    (await ready abandon).course met = ([], ()) := rfl

theorem course_andThen (c : Call σ α) (k : α → Call σ β) (met : Nat → σ) :
    (c.andThen k).course met =
      let d := c.course met
      let e := (k d.2).course (later met d.1.length)
      (d.1 ++ e.1, e.2) := by
  induction c generalizing met with
  | done a => simp [andThen, course]
  | act f next ih => simp [andThen, course, ih, Nat.add_comm]
  | wait ready abandon next ih => exact ih met

theorem course_onAbandon (f : σ → σ) (c : Call σ α) (met : Nat → σ) :
    (c.onAbandon f).course met = c.course met := by
  induction c generalizing met with
  | done a => rfl
  | act g next ih => simp [onAbandon, course, ih]
  | wait ready abandon next ih => exact ih met

/-- The steps of a course meet the given states. -/
theorem course_met (c : Call σ α) (met : Nat → σ) :
    ∀ (i : Nat) m, (c.course met).1[i]? = some m → m.1 = met i := by
  induction c generalizing met with
  | done a => simp [course]
  | act f next ih =>
    intro i m h
    cases i with
    | zero =>
      obtain rfl : (met 0, f (met 0)) = m := by simpa [course] using h
      rfl
    | succ i =>
      have hm := ih (met 0) (later met 1) i m (by simpa [course] using h)
      rw [hm, later_apply, Nat.add_comm]
  | wait ready abandon next ih => exact ih met

/-! ## Polled calls -/

/-- States that are met first, and those that are met then. -/
def meet : List σ → (Nat → σ) → Nat → σ
  | [], met, i => met i
  | s :: _, _, 0 => s
  | _ :: states, met, i + 1 => meet states met i

theorem later_meet (s : σ) (states : List σ) (met : Nat → σ) :
    later (meet (s :: states) met) 1 = meet states met := by
  funext i
  rw [later_apply, Nat.add_comm]
  rfl

/-- The states before and after each step that a poll makes. -/
def polled : Call σ α → σ → List (σ × σ)
  | done _, _ => []
  | act f next, s => (s, f s) :: polled (next s) (f s)
  | wait ready _ next, s => if ready s then polled next s else []

theorem course_poll (c : Call σ α) (s : σ) (met : Nat → σ) :
    c.course (meet ((c.polled s).map Prod.fst) met) =
      (c.polled s ++ ((c.poll s).1.course met).1, ((c.poll s).1.course met).2) := by
  induction c generalizing s with
  | done a => rfl
  | act f next ih => simp [course, polled, poll, later_meet, meet, ih]
  | wait ready abandon next ih =>
    by_cases h : ready s
    · simpa [course, polled, poll, h] using ih s
    · simp [polled, poll, h, meet]

/-- A call ends: it is polled, each time at some state that others left, until it has a result. -/
inductive Ends : Call σ α → List (σ × σ) → α → Prop
  | done (a : α) : Ends (done a) [] a
  | poll {c : Call σ α} {l : List (σ × σ)} {a : α} (s : σ) :
      Ends (c.poll s).1 l a → Ends c (c.polled s ++ l) a

theorem meet_append (l m : List σ) (met : Nat → σ) : meet (l ++ m) met = meet l (meet m met) := by
  induction l with
  | nil => rfl
  | cons s l ih =>
    funext i
    cases i with
    | zero => rfl
    | succ i => exact congrFun ih i

/-- Whatever a call that ends has done is its course at the states that it met. -/
theorem Ends.course_eq {c : Call σ α} {l : List (σ × σ)} {a : α} (h : c.Ends l a)
    (met : Nat → σ) : c.course (meet (l.map Prod.fst) met) = (l, a) := by
  induction h with
  | done a => rfl
  | poll s h ih => rw [List.map_append, meet_append, course_poll, ih]

/-! ## Calls that are held up nowhere -/

/-- A call that goes through all its waits as long as the state has a property, which it keeps. -/
inductive Prompt (P : σ → Prop) : Call σ α → Prop
  | done (a : α) : Prompt P (done a)
  | act {f : σ → σ} {next : σ → Call σ α} : (∀ s, P s → P (f s)) → (∀ s, Prompt P (next s)) →
      Prompt P (act f next)
  | wait {ready : σ → Bool} {abandon : σ → σ} {next : Call σ α} : (∀ s, P s → ready s = true) →
      Prompt P next → Prompt P (wait ready abandon next)

theorem Prompt.andThen {P : σ → Prop} {c : Call σ α} {k : α → Call σ β} (hc : c.Prompt P)
    (hk : ∀ a, (k a).Prompt P) : (c.andThen k).Prompt P := by
  induction hc with
  | done a => exact hk a
  | act hf _ ih => exact .act hf ih
  | wait hr _ ih => exact .wait hr ih

theorem Prompt.poll_eq {P : σ → Prop} {c : Call σ α} {s : σ} (h : c.Prompt P) (hs : P s) :
    ∃ a, (c.poll s).1 = Call.done a := by
  induction h generalizing s with
  | done a => exact ⟨a, rfl⟩
  | act hf _ ih => exact ih s (hf s hs)
  | wait hr _ ih =>
    rw [poll, if_pos (hr s hs)]
    exact ih hs

end Call
end Interchange
