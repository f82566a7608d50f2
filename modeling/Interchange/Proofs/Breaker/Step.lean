import Interchange.Breaker.Run

/-! # What one event does

A relation lists every way in which an event can change a breaker and its calls in flight, with the
conditions under which it does. The step function follows it, so an invariant of runs needs one case
for each way.
-/

namespace Interchange
namespace Breaker

/-! ## The breaker alone -/

def turned (b : Breaker) (target : CircuitState) : Breaker := (b.transition target .manualReset).1

def counted (b : Breaker) (now : Instant) : Breaker :=
  { b with
    failureCount := min (b.failureCount + 1) maxFailures
    lastFailure := some now }

def observed (b : Breaker) (now : Instant) : Breaker := (b.observe now).1

variable {b : Breaker} {now : Instant} {target : CircuitState}

@[simp] theorem turned_state : (b.turned target).state = target := rfl
@[simp] theorem turned_config : (b.turned target).config = b.config := rfl
@[simp] theorem turned_name : (b.turned target).name = b.name := rfl
@[simp] theorem turned_lastFailure : (b.turned target).lastFailure = b.lastFailure := rfl
@[simp] theorem turned_trialInFlight : (b.turned target).trialInFlight = false := rfl
@[simp] theorem turned_transitionCount :
    (b.turned target).transitionCount = b.transitionCount + 1 := rfl
@[simp] theorem turned_failureCount :
    (b.turned target).failureCount = if target = .closed then 0 else b.failureCount := rfl

@[simp] theorem transition_fst (reason : TransitionReason) :
    (b.transition target reason).1 = b.turned target := rfl

theorem counted_failureCount (now : Instant) (h : b.failureCount < maxFailures) :
    (b.counted now).failureCount = b.failureCount + 1 := by
  simp only [counted]
  omega

theorem timeoutElapsed_iff : b.timeoutElapsed now = true ↔
    b.state = .opened ∧ ∀ t, b.lastFailure = some t → b.config.resetTimeout.nanos < now - t := by
  unfold timeoutElapsed
  cases b.lastFailure <;> simp

theorem observed_cases (b : Breaker) (now : Instant) :
    (b.timeoutElapsed now = true ∧ b.observed now = b.turned .halfOpen) ∨
      (b.timeoutElapsed now = false ∧ b.observed now = b) := by
  unfold observed observe
  cases h : b.timeoutElapsed now <;> simp

theorem observed_of_elapsed (h : b.timeoutElapsed now = true) :
    b.observed now = b.turned .halfOpen := by
  rcases observed_cases b now with ⟨_, he⟩ | ⟨hn, _⟩
  · exact he
  · simp [h] at hn

theorem observed_of_not_elapsed (h : b.timeoutElapsed now = false) : b.observed now = b := by
  rcases observed_cases b now with ⟨hn, _⟩ | ⟨_, he⟩
  · simp [h] at hn
  · exact he

theorem observed_of_ne_opened (h : b.state ≠ .opened) : b.observed now = b := by
  refine observed_of_not_elapsed (Bool.eq_false_iff.mpr fun he => ?_)
  exact h (timeoutElapsed_iff.mp he).1

/-- A look keeps whatever a change to half open keeps. -/
theorem apply_observed {α : Type} (f : Breaker → α) (h : f (b.turned .halfOpen) = f b) :
    f (b.observed now) = f b := by
  rcases observed_cases b now with ⟨_, he⟩ | ⟨_, he⟩
  · rw [he, h]
  · rw [he]

@[simp] theorem observed_config : (b.observed now).config = b.config :=
  apply_observed Breaker.config rfl

@[simp] theorem observed_lastFailure : (b.observed now).lastFailure = b.lastFailure :=
  apply_observed Breaker.lastFailure rfl

@[simp] theorem observed_failureCount : (b.observed now).failureCount = b.failureCount :=
  apply_observed Breaker.failureCount rfl

/-- Only an open circuit changes when it is looked at. -/
theorem observed_state_closed_iff : (b.observed now).state = .closed ↔ b.state = .closed := by
  rcases observed_cases b now with ⟨ht, he⟩ | ⟨_, he⟩
  · simp [he, (timeoutElapsed_iff.mp ht).1]
  · rw [he]

/-- No call is let through: the circuit is open, or its trial is under way. -/
def Refusing (b : Breaker) : Prop :=
  b.state = .opened ∨ (b.state = .halfOpen ∧ b.trialInFlight = true)

theorem Refusing.ne_closed (h : b.Refusing) : b.state ≠ .closed := by
  rcases h with h | ⟨h, _⟩ <;> simp [h]

theorem acquire_eq (b : Breaker) (now : Instant) : ∃ ts, b.acquire now =
    match (b.observed now).state with
    | .closed => (some ⟨false⟩, b.observed now, ts)
    | .opened => (none, b.observed now, ts)
    | .halfOpen =>
      if (b.observed now).trialInFlight then (none, b.observed now, ts)
      else (some ⟨true⟩, { b.observed now with trialInFlight := true }, ts) :=
  ⟨(b.observe now).2, rfl⟩

theorem acquire_closed (now : Instant) (h : b.state = .closed) :
    ∃ ts, b.acquire now = (some ⟨false⟩, b, ts) := by
  obtain ⟨ts, hq⟩ := acquire_eq b now
  have ho : b.observed now = b := observed_of_ne_opened (by simp [h])
  exact ⟨ts, by rw [hq, ho, h]⟩

theorem acquire_refusing (h : (b.observed now).Refusing) :
    ∃ ts, b.acquire now = (none, b.observed now, ts) := by
  obtain ⟨ts, hq⟩ := acquire_eq b now
  rcases h with h | ⟨h, ht⟩
  · exact ⟨ts, by rw [hq, h]⟩
  · exact ⟨ts, by rw [hq, h, if_pos ht]⟩

theorem acquire_trial (h : (b.observed now).state = .halfOpen)
    (ht : (b.observed now).trialInFlight = false) :
    ∃ ts, b.acquire now = (some ⟨true⟩, { b.observed now with trialInFlight := true }, ts) := by
  obtain ⟨ts, hq⟩ := acquire_eq b now
  exact ⟨ts, by rw [hq, h, if_neg (by simp [ht])]⟩

theorem acquire_fst_trial_iff : (b.acquire now).1 = some ⟨true⟩ ↔
    (b.observed now).state = .halfOpen ∧ (b.observed now).trialInFlight = false := by
  obtain ⟨ts, hq⟩ := acquire_eq b now
  rw [hq]
  cases hs : (b.observed now).state with
  | closed => simp
  | opened => simp
  | halfOpen => cases ht : (b.observed now).trialInFlight <;> simp

theorem fail_closed (h : b.state = .closed) (p : Permit) :
    (b.fail now p).1 =
      if b.config.failureThreshold ≤ (b.counted now).failureCount then
        (b.counted now).turned .opened
      else b.counted now := by
  simp only [fail, counted, h]
  split <;> rfl

theorem fail_opened (h : b.state = .opened) (p : Permit) : (b.fail now p).1 = b.counted now := by
  simp only [fail, counted, h]

theorem fail_halfOpen (h : b.state = .halfOpen) (p : Permit) :
    (b.fail now p).1 =
      if p.trial = true then (b.counted now).turned .opened else b.counted now := by
  simp only [fail, counted, h]
  split <;> rfl

/-! ## The breaker with its calls -/

def Event.ended? : Event → Option String
  | .succeed call | .fail call | .cancel call => some call
  | _ => none

namespace Run

def looked (r : Run) : Run := { r with breaker := r.breaker.observed r.now }

/-- A trial of a period is in flight under a name. -/
def Trial (r : Run) (period : Nat) (call : String) : Prop :=
  r.flights.get? call = some ⟨⟨true⟩, period⟩

def holdsTrial (r : Run) (call : String) : Bool :=
  (r.flights.get? call).any (·.permit.trial)

/-- The ways in which an event changes a run. -/
inductive Step (r : Run) : Event → Run → Prop
  | refused (call : String) : r.looked.breaker.Refusing → Step r (.start call) r.looked
  | admitted (call : String) : r.breaker.state = .closed →
      Step r (.start call)
        { r with flights := r.flights.insert call ⟨⟨false⟩, r.breaker.transitionCount⟩ }
  /-- The slot is lost at once when the name belonged to another trial. -/
  | tried (call : String) : r.looked.breaker.state = .halfOpen →
      r.looked.breaker.trialInFlight = false →
      Step r (.start call)
        { r with
          breaker := { r.looked.breaker with trialInFlight := !r.holdsTrial call }
          flights := r.flights.insert call ⟨⟨true⟩, r.looked.breaker.transitionCount⟩ }
  | absent {e : Event} (call : String) : e.ended? = some call → r.flights.get? call = none →
      Step r e r
  | trialSucceeded (call : String) (f : Flight) : r.flights.get? call = some f →
      f.permit.trial = true → r.breaker.state = .halfOpen →
      Step r (.succeed call)
        { r with
          breaker := { r.breaker with failureCount := 0 }.turned .closed
          flights := r.flights.erase call }
  | succeeded (call : String) (f : Flight) : r.flights.get? call = some f →
      ¬ (f.permit.trial = true ∧ r.breaker.state = .halfOpen) →
      Step r (.succeed call)
        { r with
          breaker := { r.breaker with failureCount := 0 }
          flights := r.flights.erase call }
  | trialFailed (call : String) (f : Flight) : r.flights.get? call = some f →
      f.permit.trial = true → r.breaker.state = .halfOpen →
      Step r (.fail call)
        { r with
          breaker := (r.breaker.counted r.now).turned .opened
          flights := r.flights.erase call }
  | tripped (call : String) (f : Flight) : r.flights.get? call = some f →
      r.breaker.state = .closed →
      r.breaker.config.failureThreshold ≤ (r.breaker.counted r.now).failureCount →
      Step r (.fail call)
        { r with
          breaker := (r.breaker.counted r.now).turned .opened
          flights := r.flights.erase call }
  | failed (call : String) (f : Flight) : r.flights.get? call = some f →
      ¬ (f.permit.trial = true ∧ r.breaker.state = .halfOpen) →
      (r.breaker.state = .closed →
        (r.breaker.counted r.now).failureCount < r.breaker.config.failureThreshold) →
      Step r (.fail call)
        { r with breaker := r.breaker.counted r.now, flights := r.flights.erase call }
  | trialCancelled (call : String) (f : Flight) : r.flights.get? call = some f →
      f.permit.trial = true → r.breaker.state = .halfOpen →
      Step r (.cancel call)
        { r with
          breaker := { r.breaker with trialInFlight := false }
          flights := r.flights.erase call }
  | cancelled (call : String) (f : Flight) : r.flights.get? call = some f →
      ¬ (f.permit.trial = true ∧ r.breaker.state = .halfOpen) →
      Step r (.cancel call) { r with flights := r.flights.erase call }
  | advanced (time : Duration) : Step r (.advance time) { r with now := r.now + time.nanos }
  | observed : Step r .observe r.looked
  | cleared : r.breaker.state = .closed →
      Step r .reset { r with breaker := { r.breaker with failureCount := 0 } }
  | reset : r.breaker.state ≠ .closed →
      Step r .reset { r with breaker := r.breaker.turned .closed }

variable {r : Run}

@[simp] theorem looked_now : r.looked.now = r.now := rfl
@[simp] theorem looked_flights : r.looked.flights = r.flights := rfl
@[simp] theorem looked_breaker : r.looked.breaker = r.breaker.observed r.now := rfl

theorem looked_cases (r : Run) :
    (r.breaker.state = .opened ∧ r.looked = { r with breaker := r.breaker.turned .halfOpen }) ∨
      r.looked = r := by
  unfold looked
  rcases observed_cases r.breaker r.now with ⟨ht, he⟩ | ⟨_, he⟩
  · exact .inl ⟨(timeoutElapsed_iff.mp ht).1, by rw [he]⟩
  · exact .inr (by rw [he])

theorem looked_of_ne_opened (h : r.breaker.state ≠ .opened) : r.looked = r := by
  rcases r.looked_cases with ⟨ho, _⟩ | he
  · exact absurd ho h
  · exact he

theorem step_start_refused {b : Breaker} {ts : List Transition} (call : String)
    (h : r.breaker.acquire r.now = (none, b, ts)) :
    (r.step (.start call)).1 = { r with breaker := b } := by
  have hs : r.start call = (false, { r with breaker := b }, ts) := by unfold start; rw [h]
  simp only [step, hs]
  cases r.flights.get? call <;> rfl

theorem step_start_granted {p : Permit} {b : Breaker} {ts : List Transition} (call : String)
    (h : r.breaker.acquire r.now = (some p, b, ts)) :
    (r.step (.start call)).1 =
      { r with
        breaker := ((r.flights.get? call).map fun f => b.release f.permit).getD b
        flights := r.flights.insert call ⟨p, b.transitionCount⟩ } := by
  have hs : r.start call = (true, { r with
      breaker := b
      flights := r.flights.insert call ⟨p, b.transitionCount⟩ }, ts) := by unfold start; rw [h]
  simp only [step, hs]
  cases r.flights.get? call <;> rfl

theorem release_closed {b : Breaker} (h : b.state = .closed) (p : Permit) : b.release p = b := by
  simp [release, h]

theorem release_halfOpen {b : Breaker} (h : b.state = .halfOpen) (p : Permit) :
    b.release p = { b with trialInFlight := b.trialInFlight && !p.trial } := by
  obtain ⟨trial⟩ := p
  cases trial with
  | false => simp [release]
  | true => simp [release, h]

theorem step_start (r : Run) (call : String) : Step r (.start call) (r.step (.start call)).1 := by
  cases hs : (r.breaker.observed r.now).state with
  | closed =>
    have hc := observed_state_closed_iff.mp hs
    obtain ⟨ts, hq⟩ := acquire_closed r.now hc
    rw [step_start_granted call hq]
    have he : ((r.flights.get? call).map fun f => r.breaker.release f.permit).getD r.breaker =
        r.breaker := by
      cases r.flights.get? call with
      | none => rfl
      | some f => exact release_closed hc f.permit
    rw [he]
    exact .admitted call hc
  | opened =>
    have hr : r.looked.breaker.Refusing := .inl hs
    obtain ⟨ts, hq⟩ := acquire_refusing hr
    rw [step_start_refused call hq]
    exact .refused call hr
  | halfOpen =>
    cases ht : (r.breaker.observed r.now).trialInFlight with
    | true =>
      have hr : r.looked.breaker.Refusing := .inr ⟨hs, ht⟩
      obtain ⟨ts, hq⟩ := acquire_refusing hr
      rw [step_start_refused call hq]
      exact .refused call hr
    | false =>
      obtain ⟨ts, hq⟩ := acquire_trial hs ht
      have he : ((r.flights.get? call).map fun f =>
            { r.breaker.observed r.now with trialInFlight := true }.release f.permit).getD
            { r.breaker.observed r.now with trialInFlight := true } =
          { r.looked.breaker with trialInFlight := !r.holdsTrial call } := by
        unfold holdsTrial
        cases r.flights.get? call with
        | none => rfl
        | some f =>
          exact release_halfOpen
            (b := { r.breaker.observed r.now with trialInFlight := true }) hs f.permit
      rw [step_start_granted call hq, he]
      exact .tried call hs ht

theorem finish_absent {call : String} (settle : Permit → Breaker × List Transition)
    (h : r.flights.get? call = none) : (r.finish call settle).1 = r := by
  unfold finish
  rw [h]

theorem finish_present {call : String} {f : Flight} (settle : Permit → Breaker × List Transition)
    (h : r.flights.get? call = some f) :
    (r.finish call settle).1 =
      { r with breaker := (settle f.permit).1, flights := r.flights.erase call } := by
  unfold finish
  rw [h]

theorem step_succeed (r : Run) (call : String) :
    Step r (.succeed call) (r.step (.succeed call)).1 := by
  simp only [step]
  cases hf : r.flights.get? call with
  | none =>
    rw [finish_absent _ hf]
    exact .absent call rfl hf
  | some f =>
    rw [finish_present _ hf]
    by_cases h : f.permit.trial = true ∧ r.breaker.state = .halfOpen
    · simp only [Breaker.succeed, if_pos h, transition_fst]
      exact .trialSucceeded call f hf h.1 h.2
    · simp only [Breaker.succeed, if_neg h]
      exact .succeeded call f hf h

theorem step_fail (r : Run) (call : String) : Step r (.fail call) (r.step (.fail call)).1 := by
  simp only [step]
  cases hf : r.flights.get? call with
  | none =>
    rw [finish_absent _ hf]
    exact .absent call rfl hf
  | some f =>
    rw [finish_present _ hf]
    cases hs : r.breaker.state with
    | closed =>
      rw [fail_closed hs]
      by_cases ht : r.breaker.config.failureThreshold ≤ (r.breaker.counted r.now).failureCount
      · rw [if_pos ht]
        exact .tripped call f hf hs ht
      · rw [if_neg ht]
        exact .failed call f hf (by simp [hs]) fun _ => Nat.lt_of_not_le ht
    | opened =>
      rw [fail_opened hs]
      exact .failed call f hf (by simp [hs]) (by simp [hs])
    | halfOpen =>
      rw [fail_halfOpen hs]
      cases hp : f.permit.trial with
      | true => exact .trialFailed call f hf hp hs
      | false => exact .failed call f hf (by simp [hp]) (by simp [hs])

theorem step_cancel (r : Run) (call : String) :
    Step r (.cancel call) (r.step (.cancel call)).1 := by
  simp only [step]
  cases hf : r.flights.get? call with
  | none =>
    rw [finish_absent _ hf]
    exact .absent call rfl hf
  | some f =>
    rw [finish_present _ hf]
    by_cases h : f.permit.trial = true ∧ r.breaker.state = .halfOpen
    · simp only [release, if_pos h]
      exact .trialCancelled call f hf h.1 h.2
    · simp only [release, if_neg h]
      exact .cancelled call f hf h

theorem step_reset (r : Run) : Step r .reset (r.step .reset).1 := by
  by_cases h : r.breaker.state = .closed
  · have he : (r.step .reset).1 = { r with breaker := { r.breaker with failureCount := 0 } } := by
      simp [step, Breaker.reset, h]
    exact he ▸ .cleared h
  · have he : (r.step .reset).1 = { r with breaker := r.breaker.turned .closed } := by
      simp [step, Breaker.reset, h, turned, transition]
    exact he ▸ .reset h

/-- The step function follows the relation. -/
theorem step_spec (r : Run) : ∀ e, Step r e (r.step e).1
  | .start call => step_start r call
  | .succeed call => step_succeed r call
  | .fail call => step_fail r call
  | .cancel call => step_cancel r call
  | .advance time => .advanced time
  | .observe => .observed
  | .reset => step_reset r

end Run
end Breaker
end Interchange
