import Interchange.Proofs.Breaker.History
import Interchange.Proofs.Gateway.Course

/-! # Rejection while open

The time that an open circuit counts from is that of the latest failed call, whether that call
opened the circuit or ended later, and however often the circuit was closed or reset since. Until
more than the timeout has passed an attempt is rejected and leaves no trace; from then on it is the
trial.
-/

namespace Interchange
namespace Breaker

/-- The time of the latest failed call in a history. -/
def lastFailed (h : List Moment) : Option Instant :=
  (h.reverse.find? Moment.fails).map (·.before.now)

theorem lastFailed_concat (h : List Moment) (m : Moment) :
    lastFailed (h ++ [m]) = if m.fails then some m.before.now else lastFailed h := by
  unfold lastFailed
  rw [List.reverse_concat, List.find?_cons]
  cases m.fails <;> rfl

namespace Run

variable {r r' : Run} {e : Event} {call : String} {t : Instant}

/-! ## The last failure time -/

theorem Step.now_le (h : Step r e r') : r.now ≤ r'.now := by
  cases h with
  | advanced time => exact Nat.le_add_right _ _
  | _ => exact le_rfl

/-- Failed calls, and nothing else, move the last failure time. -/
theorem Step.lastFailure_eq (h : Step r e r') : r'.breaker.lastFailure =
    if (⟨r, e⟩ : Moment).fails then some r.now else r.breaker.lastFailure := by
  cases h with
  | refused | tried | observed => exact observed_lastFailure
  | admitted | trialSucceeded | succeeded | trialCancelled | cancelled | advanced | cleared
  | reset => rfl
  | absent call he hf => rw [(Moment.not_completes_of_absent he hf).2]; rfl
  | trialFailed call f hf | tripped call f hf | failed call f hf =>
    rw [if_pos (Moment.fails_iff.mpr ⟨call, f, rfl, hf⟩)]
    rfl

/-- A circuit is opened by a failed call. -/
theorem Step.opened_cause (h : Step r e r') (hs : r'.breaker.state = .opened) :
    r.breaker.state = .opened ∨ (⟨r, e⟩ : Moment).fails = true := by
  have hl : r.looked.breaker.state = .opened → r.breaker.state = .opened := by
    rcases r.looked_cases with ⟨ho, _⟩ | he
    · exact fun _ => ho
    · rw [he]
      exact id
  cases h with
  | refused | observed => exact .inl (hl hs)
  | tried call hh => cases hh.symm.trans hs
  | trialSucceeded | reset => cases hs
  | admitted | absent | succeeded | trialCancelled | cancelled | advanced | cleared =>
    exact .inl hs
  | trialFailed call f hf | tripped call f hf | failed call f hf =>
    exact .inr (Moment.fails_iff.mpr ⟨call, f, rfl, hf⟩)

variable {name : String} {config : BreakerConfig} {now : Instant}

theorem lastFailure_steps (es : List Event) :
    ((init name config now).steps es).breaker.lastFailure =
      lastFailed ((init name config now).history es) := by
  induction es using List.reverseRecOn with
  | nil => rfl
  | append_singleton es e ih =>
    rw [steps_concat, history_concat, lastFailed_concat, (step_spec _ e).lastFailure_eq, ih]

theorem lastFailed_le (es : List Event)
    (h : lastFailed ((init name config now).history es) = some t) :
    t ≤ ((init name config now).steps es).now := by
  induction es using List.reverseRecOn with
  | nil => cases h
  | append_singleton es e ih =>
    have hle := (((init name config now).steps es).step_spec e).now_le
    rw [history_concat, lastFailed_concat] at h
    rw [steps_concat]
    by_cases hf : (⟨(init name config now).steps es, e⟩ : Moment).fails
    · rw [if_pos hf] at h
      cases h
      exact hle
    · rw [if_neg hf] at h
      exact (ih h).trans hle

/-- In every reachable open state there is a last failure time. -/
theorem exists_lastFailed (es : List Event)
    (hs : ((init name config now).steps es).breaker.state = .opened) :
    ∃ t, lastFailed ((init name config now).history es) = some t := by
  induction es using List.reverseRecOn with
  | nil => cases hs
  | append_singleton es e ih =>
    rw [steps_concat] at hs
    rw [history_concat, lastFailed_concat]
    rcases (((init name config now).steps es).step_spec e).opened_cause hs with ho | hf
    · split_ifs
      · exact ⟨_, rfl⟩
      · exact ih ho
    · exact ⟨_, if_pos hf⟩

/-! ## Attempts -/

/--
An attempt is rejected and leaves no trace: the breaker and the calls in flight stay as they are,
and a call through the gateway ends with the error before any step of what it was to run.
-/
structure Rejects (r : Run) (call : String) : Prop where
  start : r.start call = (false, r, [])
  step : r.step (.start call) = (r, [])
  grant : r.breaker.grant r.now = (.error (.circuitOpen r.breaker.name), r.breaker, [])
  guarded : ∀ {α : Type} (systemId : String) (body : GatewayCall α) (met : Nat → Gateway),
    (met 0).breakers.get systemId = r.breaker → (met 0).now = r.now →
    (Gateway.guarded systemId body).run.course met =
      ([(met 0, { met 0 with breakers := (met 0).breakers.put systemId r.breaker })],
        .error (.circuitOpen r.breaker.name))

/-- An attempt is let through as the trial of a new half-open period. -/
def Tries (r : Run) (call : String) : Prop :=
  r.start call =
    (true,
      { r with
        breaker :=
          { r.breaker with
            state := .halfOpen
            trialInFlight := true
            transitionCount := r.breaker.transitionCount + 1 }
        flights := r.flights.insert call ⟨⟨true⟩, r.breaker.transitionCount + 1⟩ },
      [⟨.opened, .halfOpen, r.breaker.failureCount, .timeoutElapsed⟩])

theorem rejects_of_acquire (h : r.breaker.acquire r.now = (none, r.breaker, [])) :
    r.Rejects call := by
  have hstart : r.start call = (false, r, []) := by
    unfold start
    rw [h]
  have hgrant : r.breaker.grant r.now =
      (.error (.circuitOpen r.breaker.name), r.breaker, []) := by
    unfold grant
    rw [h]
  refine ⟨hstart, ?_, hgrant, fun systemId body met hb hn => ?_⟩
  · simp only [step, hstart]
    cases r.flights.get? call <;> rfl
  · exact Gateway.course_guarded_refused body (by rw [hb, hn]; exact hgrant)

theorem rejects_of_opened (hs : r.breaker.state = .opened)
    (he : r.breaker.timeoutElapsed r.now = false) : r.Rejects call := by
  refine rejects_of_acquire ?_
  simp [acquire, observe, he, hs]

theorem tries_of_opened (hs : r.breaker.state = .opened)
    (he : r.breaker.timeoutElapsed r.now = true) : r.Tries call := by
  simp [Tries, start, acquire, observe, he, hs, transition]

theorem Rejects.not_tries (h : r.Rejects call) : ¬ r.Tries call := by
  intro ht
  have hne := congrArg Prod.fst (h.start.symm.trans ht)
  cases hne

/--
An open circuit has a last failure time, that of the latest failed call. An attempt is rejected,
without a trace, exactly when no more than the timeout has passed since then, and is let through as
the trial exactly when more has.
-/
theorem rejects_exactly (es : List Event)
    (hs : ((init name config now).steps es).breaker.state = .opened) :
    ∃ t, ((init name config now).steps es).breaker.lastFailure = some t ∧
      lastFailed ((init name config now).history es) = some t ∧
      t ≤ ((init name config now).steps es).now ∧
      ∀ call,
        (((init name config now).steps es).now - t ≤ config.resetTimeout.nanos ↔
          ((init name config now).steps es).Rejects call) ∧
        (config.resetTimeout.nanos < ((init name config now).steps es).now - t ↔
          ((init name config now).steps es).Tries call) := by
  obtain ⟨t, ht⟩ := exists_lastFailed es hs
  have hl := (lastFailure_steps es).trans ht
  refine ⟨t, hl, ht, lastFailed_le es ht, fun call => ?_⟩
  generalize hr : (init name config now).steps es = r at *
  have hcfg : r.breaker.config = config := hr ▸ steps_config es
  have helapsed : r.breaker.timeoutElapsed r.now = true ↔
      config.resetTimeout.nanos < r.now - t := by
    rw [timeoutElapsed_iff, hcfg, hl]
    simp [hs]
  by_cases hlt : config.resetTimeout.nanos < r.now - t
  · have htries : r.Tries call := tries_of_opened hs (helapsed.mpr hlt)
    exact ⟨iff_of_false (Nat.not_le.mpr hlt) fun h => h.not_tries htries, iff_of_true hlt htries⟩
  · have hrejects : r.Rejects call :=
      rejects_of_opened hs (Bool.eq_false_iff.mpr (mt helapsed.mp hlt))
    exact ⟨iff_of_true (Nat.not_lt.mp hlt) hrejects, iff_of_false hlt hrejects.not_tries⟩

/-- A call that fails late keeps the circuit open for a whole timeout more. -/
theorem rejects_exactly_late :
    ((init "svc" ⟨1, .ofMillis 1000⟩ 0).steps
        [.start "a", .start "b", .fail "a", .advance (.ofMillis 600), .fail "b",
          .advance (.ofMillis 1000)]).breaker.state = .opened ∧
      ((init "svc" ⟨1, .ofMillis 1000⟩ 0).steps
        [.start "a", .start "b", .fail "a", .advance (.ofMillis 600), .fail "b",
          .advance (.ofMillis 1000)]).Rejects "c" := by
  obtain ⟨t, hl, _, _, h⟩ := @rejects_exactly "svc" ⟨1, .ofMillis 1000⟩ 0
    [.start "a", .start "b", .fail "a", .advance (.ofMillis 600), .fail "b",
      .advance (.ofMillis 1000)] rfl
  have ht : 600000000 = t := Option.some.inj hl
  exact ⟨rfl, (h "c").1.mp (by rw [← ht]; decide)⟩

end Run
end Breaker
end Interchange
