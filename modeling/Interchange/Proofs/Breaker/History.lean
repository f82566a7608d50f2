import Mathlib.Data.List.DropRight
import Interchange.Proofs.Breaker.Step

/-! # Histories of runs

A history lists the moments of a run: each event with the run that it met. What a step preserves
holds after every list of events.
-/

namespace Interchange

/-- A configuration that is accepted: it passes its check, and its threshold has 32 bits. -/
structure BreakerConfig.Accepted (c : BreakerConfig) : Prop where
  valid : c.validate = .ok ()
  fits : c.failureThreshold ≤ Breaker.maxFailures

theorem BreakerConfig.validate_eq_ok_iff {c : BreakerConfig} :
    c.validate = .ok () ↔ 0 < c.failureThreshold ∧ 0 < c.resetTimeout.nanos := by
  unfold validate
  split_ifs with h₁ h₂
  · simp [h₁]
  · simp [h₂]
  · simp only [true_iff]
    omega

theorem BreakerConfig.Accepted.threshold_pos {c : BreakerConfig} (h : c.Accepted) :
    0 < c.failureThreshold := (validate_eq_ok_iff.mp h.valid).1

namespace Breaker

/-- An event, and the run that it meets. -/
structure Moment where
  before : Run
  event : Event

namespace Moment

def after (m : Moment) : Run := (m.before.step m.event).1

theorem step (m : Moment) : Run.Step m.before m.event m.after := m.before.step_spec m.event

/-- A call in flight completes with a success. -/
def succeeds (m : Moment) : Bool :=
  match m.event with
  | .succeed call => m.before.flights.contains call
  | _ => false

/-- A call in flight completes with a failure. -/
def fails (m : Moment) : Bool :=
  match m.event with
  | .fail call => m.before.flights.contains call
  | _ => false

theorem succeeds_iff {m : Moment} : m.succeeds = true ↔
    ∃ call f, m.event = .succeed call ∧ m.before.flights.get? call = some f := by
  obtain ⟨r, e⟩ := m
  cases e <;> simp [succeeds, Dict.contains, Option.isSome_iff_exists]

theorem fails_iff {m : Moment} : m.fails = true ↔
    ∃ call f, m.event = .fail call ∧ m.before.flights.get? call = some f := by
  obtain ⟨r, e⟩ := m
  cases e <;> simp [fails, Dict.contains, Option.isSome_iff_exists]

/-- The end of a call that is not in flight is no completion. -/
theorem not_completes_of_absent {r : Run} {e : Event} {call : String}
    (he : e.ended? = some call) (hf : r.flights.get? call = none) :
    (⟨r, e⟩ : Moment).succeeds = false ∧ (⟨r, e⟩ : Moment).fails = false := by
  cases e <;> cases he <;> simp [succeeds, fails, Dict.contains, hf]

end Moment

namespace Run

def history (r : Run) : List Event → List Moment
  | [] => []
  | e :: es => ⟨r, e⟩ :: history (r.step e).1 es

variable {r r' : Run} {e : Event} {es ds : List Event} {m : Moment}

@[simp] theorem steps_nil (r : Run) : r.steps [] = r := rfl
@[simp] theorem steps_cons (r : Run) (e : Event) (es : List Event) :
    r.steps (e :: es) = (r.step e).1.steps es := rfl

theorem steps_append (r : Run) (es ds : List Event) :
    r.steps (es ++ ds) = (r.steps es).steps ds := by
  simp [steps]

theorem history_append (r : Run) (es ds : List Event) :
    r.history (es ++ ds) = r.history es ++ (r.steps es).history ds := by
  induction es generalizing r with
  | nil => rfl
  | cons e es ih => simp [history, ih]

theorem steps_concat (r : Run) (es : List Event) (e : Event) :
    r.steps (es ++ [e]) = ((r.steps es).step e).1 := by
  simp [steps_append]

theorem history_concat (r : Run) (es : List Event) (e : Event) :
    r.history (es ++ [e]) = r.history es ++ [⟨r.steps es, e⟩] := by
  simp [history_append, history]

theorem mem_history_iff : m ∈ r.history es ↔
    ∃ pre post, es = pre ++ m.event :: post ∧ m.before = r.steps pre := by
  constructor
  · intro h
    induction es generalizing r with
    | nil => simp [history] at h
    | cons e es ih =>
      rcases List.mem_cons.mp h with rfl | h
      · exact ⟨[], es, rfl, rfl⟩
      · obtain ⟨pre, post, rfl, hb⟩ := ih h
        exact ⟨e :: pre, post, rfl, hb⟩
  · rintro ⟨pre, post, rfl, hb⟩
    rw [history_append, history, ← hb]
    exact List.mem_append_right _ List.mem_cons_self

theorem forall_history_concat {P : Moment → Prop} :
    (∀ m ∈ r.history (es ++ [e]), P m) ↔ (∀ m ∈ r.history es, P m) ∧ P ⟨r.steps es, e⟩ := by
  simp [history_concat, or_imp, forall_and]

/-- What every step preserves holds after all events. -/
theorem steps_induction {P : Run → Prop} (hr : P r)
    (hs : ∀ {r e r'}, Step r e r' → P r → P r') (es : List Event) : P (r.steps es) := by
  induction es generalizing r with
  | nil => exact hr
  | cons e es ih => exact ih (hs (r.step_spec e) hr)

theorem Step.config_eq (h : Step r e r') : r'.breaker.config = r.breaker.config := by
  cases h with
  | refused | tried | observed => exact observed_config
  | _ => rfl

variable {name : String} {config : BreakerConfig} {now : Instant}

@[simp] theorem steps_config (es : List Event) :
    ((init name config now).steps es).breaker.config = config :=
  steps_induction (P := fun r => r.breaker.config = config) rfl
    (fun h hr => h.config_eq.trans hr) es

end Run
end Breaker
end Interchange
