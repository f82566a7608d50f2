import Interchange.Proofs.Breaker.Admissions
import Interchange.Proofs.Breaker.Rejection

/-! # Late outcomes

A call that was let through a closed circuit can end when the circuit is open or half open. Main
statement: such an end moves neither the state nor the slot; an open circuit is left only after its
timeout or by a reset, and a half-open one only by the outcome of a trial or by a reset.
-/

namespace Interchange
namespace Breaker

theorem release_of_not_trial {b : Breaker} {p : Permit} (h : p.trial = false) :
    b.release p = b := by
  simp [release, h]

namespace Run

variable {r r' : Run} {e : Event} {call : String} {past : List Moment}

/-! ## One event -/

/-- A look at an open circuit leaves it open or finds its timeout passed. -/
theorem looked_of_opened (hs : r.breaker.state = .opened)
    (hl : r.looked.breaker.state ≠ .opened) :
    r.breaker.timeoutElapsed r.now = true ∧ r.looked.breaker.state = .halfOpen := by
  rcases observed_cases r.breaker r.now with ⟨ht, he⟩ | ⟨_, he⟩
  · exact ⟨ht, by rw [looked_breaker, he, turned_state]⟩
  · rw [looked_breaker, he] at hl
    exact absurd hs hl

/-- An open circuit is left by a look after its timeout, be it that of a call, or by a reset. -/
theorem Step.leaves_opened (h : Step r e r') (hs : r.breaker.state = .opened)
    (hs' : r'.breaker.state ≠ .opened) :
    (r.breaker.timeoutElapsed r.now = true ∧ r'.breaker.state = .halfOpen) ∨
      (e = .reset ∧ r'.breaker.state = .closed) := by
  cases h with
  | refused | observed => exact .inl (looked_of_opened hs hs')
  | admitted call hc => cases hs.symm.trans hc
  | tried call hh ht =>
    exact .inl ⟨(looked_of_opened hs (by rw [hh]; decide)).1, hh⟩
  | trialSucceeded call f hf ht hh => cases hs.symm.trans hh
  | trialCancelled call f hf ht hh => cases hs.symm.trans hh
  | trialFailed | tripped => exact absurd rfl hs'
  | absent | succeeded | failed | cancelled | advanced => exact absurd hs hs'
  | cleared hc => cases hs.symm.trans hc
  | reset => exact .inr ⟨rfl, rfl⟩

/-- The end of a call that is no trial moves neither the state nor the slot, unless it is a failure
that opens a closed circuit. -/
theorem Step.late (h : Step r e r') (he : e.ended? = some call)
    (ht : ∀ f, r.flights.get? call = some f → f.permit.trial = false)
    (hs : r.breaker.state ≠ .closed) :
    r'.breaker.state = r.breaker.state ∧
      r'.breaker.trialInFlight = r.breaker.trialInFlight := by
  cases h with
  | absent | succeeded | failed | cancelled => exact ⟨rfl, rfl⟩
  | tripped _ _ _ hc => exact absurd hc hs
  | trialSucceeded _ f hf htrue | trialFailed _ f hf htrue | trialCancelled _ f hf htrue =>
    cases he
    cases htrue.symm.trans (ht f hf)
  | _ => cases he

/-- Nothing is given back for a call that is no trial when its name is taken over. -/
theorem step_start_of_not_trial
    (ht : ∀ f, r.flights.get? call = some f → f.permit.trial = false) :
    (r.step (.start call)).1 = (r.start call).2.1 := by
  simp only [step]
  split
  · next f hf _ => rw [release_of_not_trial (ht f hf)]
  · rfl

/-! ## Whole runs -/

/-- What one event may do to a circuit with this past. -/
structure Harmless (past : List Moment) (r : Run) (e : Event) : Prop where
  opened : r.breaker.state = .opened → (r.step e).1.breaker.state ≠ .opened →
    (e = .reset ∧ (r.step e).1.breaker.state = .closed) ∨
      ((r.step e).1.breaker.state = .halfOpen ∧
        ∃ t, lastFailed past = some t ∧ r.breaker.config.resetTimeout.nanos < r.now - t)
  halfOpen : r.breaker.state = .halfOpen → (r.step e).1.breaker.state ≠ .halfOpen →
    e = .reset ∨ ∃ call m, (e = .succeed call ∨ e = .fail call) ∧ r.flights.contains call ∧
      lastAdmission past call = some m ∧ m.granted? call = some ⟨true⟩
  /-- The call that ends was let through a closed circuit. -/
  late : ∀ call m, e.ended? = some call → lastAdmission past call = some m →
    m.before.breaker.state = .closed → r.breaker.state ≠ .closed →
    (r.step e).1.breaker.state = r.breaker.state ∧
      (r.step e).1.breaker.trialInFlight = r.breaker.trialInFlight
  /-- The call whose name is taken over was let through a closed circuit. -/
  replaced : ∀ call m, e = .start call → lastAdmission past call = some m →
    m.before.breaker.state = .closed → (r.step e).1 = (r.start call).2.1

theorem Traced.not_trial (h : r.Traced past) {m : Moment} (hl : lastAdmission past call = some m)
    (hc : m.before.breaker.state = .closed) (f : Flight) (hf : r.flights.get? call = some f) :
    f.permit.trial = false := by
  obtain ⟨n, hl', hg, -⟩ := h call f hf
  cases hl.symm.trans hl'
  exact Moment.granted?_of_closed hg hc

variable {name : String} {config : BreakerConfig} {now : Instant}

/--
Late outcomes are harmless. An open circuit becomes half open, more than the timeout after the
latest failed call, or is closed by a reset; a half-open one is left by the success or the failure
of a call that was let through as a trial, or by a reset. A call that was let through a closed
circuit and ends while it is open or half open moves neither the state nor the slot.
-/
theorem late_outcomes_harmless (es : List Event) (e : Event) :
    Harmless ((init name config now).history es) ((init name config now).steps es) e := by
  have htraced := @traced_steps name config now es
  have hstep := ((init name config now).steps es).step_spec e
  constructor
  case opened =>
    intro hs hs'
    rcases hstep.leaves_opened hs hs' with ⟨ht, hh⟩ | hr
    · obtain ⟨t, hl⟩ := exists_lastFailed es hs
      exact .inr ⟨hh, t, hl, (timeoutElapsed_iff.mp ht).2 t ((lastFailure_steps es).trans hl)⟩
    · exact .inl hr
  case halfOpen =>
    intro hs hs'
    refine (hstep.leaves hs hs').imp_right ?_
    rintro ⟨call, p, he, ht⟩
    obtain ⟨m, hl, hg, -⟩ := htraced call _ ht
    exact ⟨call, m, he, Option.isSome_iff_exists.mpr ⟨_, ht⟩, hl, hg⟩
  case late => exact fun call m he hl hc hs => hstep.late he (htraced.not_trial hl hc) hs
  case replaced =>
    rintro call m rfl hl hc
    exact step_start_of_not_trial (htraced.not_trial hl hc)

end Run
end Breaker
end Interchange
