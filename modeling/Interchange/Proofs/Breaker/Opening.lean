import Interchange.Proofs.Breaker.History

/-! # The opening law

While a circuit is closed its failure count is the number of calls that failed since the failures
were last cleared: by a success, a reset, the last entry into this state or the start. The number is
below the threshold, and the circuit opens at the failure that would bring it there.
-/

namespace Interchange
namespace Breaker

namespace Moment

/-- Earlier failures do not count any more. -/
def clears (m : Moment) : Bool :=
  m.succeeds || m.event = .reset ||
    (m.before.breaker.state ≠ .closed && m.after.breaker.state = .closed)

end Moment

/-- The number of failed calls in a history since the failures were last cleared. -/
def failureRun (h : List Moment) : Nat := (h.rtakeWhile fun m => !m.clears).countP Moment.fails

theorem failureRun_concat (h : List Moment) (m : Moment) :
    failureRun (h ++ [m]) =
      if m.clears then 0 else failureRun h + if m.fails then 1 else 0 := by
  unfold failureRun
  rw [List.rtakeWhile_concat]
  cases m.clears <;> simp [List.countP_append, List.countP_singleton]

namespace Run

variable {r r' : Run} {e : Event}

/-- A closed circuit counts: one more for a failure, from zero after a success or a reset. -/
theorem Step.count (h : Step r e r') (hs : r'.breaker.state = .closed)
    (hlt : r.breaker.state = .closed →
      r.breaker.failureCount < r.breaker.config.failureThreshold)
    (hfit : r.breaker.config.failureThreshold ≤ maxFailures) :
    (((⟨r, e⟩ : Moment).succeeds = true ∨ e = .reset) ∧ r'.breaker.failureCount = 0) ∨
      (((⟨r, e⟩ : Moment).succeeds = false ∧ e ≠ .reset) ∧ r.breaker.state = .closed ∧
        r'.breaker.failureCount =
          r.breaker.failureCount + if (⟨r, e⟩ : Moment).fails then 1 else 0) := by
  cases h with
  | refused call hr => exact absurd hs hr.ne_closed
  | admitted call hc => exact .inr ⟨⟨rfl, by simp⟩, hc, rfl⟩
  | tried call hl => cases hl.symm.trans hs
  | absent call he hf =>
    obtain ⟨hn, hn'⟩ := Moment.not_completes_of_absent he hf
    refine .inr ⟨⟨hn, ?_⟩, hs, by simp [hn']⟩
    rintro rfl
    cases he
  | trialSucceeded call f hf => exact .inl ⟨.inl (Moment.succeeds_iff.mpr ⟨call, f, rfl, hf⟩), rfl⟩
  | succeeded call f hf => exact .inl ⟨.inl (Moment.succeeds_iff.mpr ⟨call, f, rfl, hf⟩), rfl⟩
  | trialFailed | tripped => simp at hs
  | failed call f hf =>
    have hc : r.breaker.state = .closed := hs
    have hcount := counted_failureCount (b := r.breaker) r.now (by have := hlt hc; omega)
    refine .inr ⟨⟨rfl, by simp⟩, hc, ?_⟩
    rw [if_pos (Moment.fails_iff.mpr ⟨call, f, rfl, hf⟩)]
    exact hcount
  | trialCancelled call f hf ht hh => cases hh.symm.trans hs
  | cancelled => exact .inr ⟨⟨rfl, by simp⟩, hs, rfl⟩
  | advanced => exact .inr ⟨⟨rfl, by simp⟩, hs, rfl⟩
  | observed =>
    have hc : r.breaker.state = .closed := observed_state_closed_iff.mp hs
    refine .inr ⟨⟨rfl, by simp⟩, hc, ?_⟩
    change (r.breaker.observed r.now).failureCount = r.breaker.failureCount + 0
    rw [observed_of_ne_opened (by simp [hc]), Nat.add_zero]
  | cleared | reset => exact .inl ⟨.inr rfl, rfl⟩

/-- What keeps a circuit closed keeps its count below the threshold. -/
theorem Step.count_lt (h : Step r e r') (hs : r'.breaker.state = .closed)
    (hlt : r.breaker.state = .closed →
      r.breaker.failureCount < r.breaker.config.failureThreshold)
    (hpos : 0 < r.breaker.config.failureThreshold) :
    r'.breaker.failureCount < r.breaker.config.failureThreshold := by
  cases h with
  | refused call hr => exact absurd hs hr.ne_closed
  | admitted | absent | cancelled | advanced => exact hlt hs
  | tried call hl => cases hl.symm.trans hs
  | trialSucceeded | succeeded | cleared | reset => exact hpos
  | trialFailed | tripped => simp at hs
  | failed call f hf hn ht => exact ht hs
  | trialCancelled call f hf ht hh => cases hh.symm.trans hs
  | observed =>
    have hc : r.breaker.state = .closed := observed_state_closed_iff.mp hs
    change (r.breaker.observed r.now).failureCount < _
    rw [observed_of_ne_opened (by simp [hc])]
    exact hlt hc

/-- A closed circuit opens at a failure that brings its count to the threshold. -/
theorem Step.opens_iff (h : Step r e r') (hs : r.breaker.state = .closed)
    (hlt : r.breaker.failureCount < r.breaker.config.failureThreshold)
    (hfit : r.breaker.config.failureThreshold ≤ maxFailures) :
    r'.breaker.state = .opened ↔
      (⟨r, e⟩ : Moment).fails = true ∧
        r.breaker.failureCount + 1 = r.breaker.config.failureThreshold := by
  have hl : r.looked = r := looked_of_ne_opened (by simp [hs])
  have hcount := counted_failureCount (b := r.breaker) r.now (by omega)
  have hfails : (⟨r, e⟩ : Moment).fails = true →
      r.breaker.failureCount + 1 = r.breaker.config.failureThreshold →
      r'.breaker.state = .opened := by
    intro hf he
    obtain ⟨call, f, rfl, hf⟩ := Moment.fails_iff.mp hf
    cases h with
    | absent c hc hn =>
      cases hc
      cases hn.symm.trans hf
    | trialFailed | tripped => rfl
    | failed _ _ _ _ ht =>
      have := ht hs
      omega
  refine ⟨fun ho => ?_, fun ⟨hf, he⟩ => hfails hf he⟩
  cases h with
  | refused | observed => cases hs.symm.trans (hl ▸ ho)
  | admitted | absent | succeeded | failed | cancelled | advanced => cases hs.symm.trans ho
  | tried call hh => cases hh.symm.trans ho
  | trialSucceeded | reset => simp at ho
  | trialFailed call f hf ht hh => cases hs.symm.trans hh
  | tripped call f hf hc ht => exact ⟨Moment.fails_iff.mpr ⟨call, f, rfl, hf⟩, by omega⟩
  | trialCancelled call f hf ht hh => cases hs.symm.trans hh
  | cleared => cases hs.symm.trans ho

/-- Calls that are given up or refused are not counted, nor are those that are let through. -/
theorem Step.count_eq {call : String} (h : Step r e r') (he : e = .cancel call ∨ e = .start call) :
    r'.breaker.failureCount = r.breaker.failureCount := by
  rcases he with rfl | rfl
  · cases h <;> rfl
  · cases h with
    | refused | tried => exact observed_failureCount
    | admitted | absent => rfl

variable {name : String} {config : BreakerConfig} {now : Instant}

theorem count_steps (hc : config.Accepted) (es : List Event)
    (hs : ((init name config now).steps es).breaker.state = .closed) :
    ((init name config now).steps es).breaker.failureCount =
        failureRun ((init name config now).history es) ∧
      ((init name config now).steps es).breaker.failureCount < config.failureThreshold := by
  induction es using List.reverseRecOn with
  | nil => exact ⟨rfl, hc.threshold_pos⟩
  | append_singleton es e ih =>
    set r := (init name config now).steps es with hr
    have hcfg : r.breaker.config = config := steps_config es
    have hlt : r.breaker.state = .closed →
        r.breaker.failureCount < r.breaker.config.failureThreshold := by
      rw [hcfg]
      exact fun hs => (ih hs).2
    have hfit : r.breaker.config.failureThreshold ≤ maxFailures := hcfg ▸ hc.fits
    have hpos : 0 < r.breaker.config.failureThreshold := hcfg ▸ hc.threshold_pos
    have hstep := r.step_spec e
    rw [steps_concat, ← hr] at hs ⊢
    refine ⟨?_, hcfg ▸ hstep.count_lt hs hlt hpos⟩
    rw [history_concat, failureRun_concat, ← hr]
    rcases hstep.count hs hlt hfit with ⟨hclear, h0⟩ | ⟨⟨hn, hne⟩, hb, hk⟩
    · have hclears : (⟨r, e⟩ : Moment).clears = true := by
        rcases hclear with h | rfl
        · simp [Moment.clears, h]
        · simp [Moment.clears]
      rw [if_pos hclears, h0]
    · have hclears : (⟨r, e⟩ : Moment).clears = false := by
        simp [Moment.clears, hn, hne, hb]
      rw [if_neg (by simp [hclears]), hk, (ih hb).1]

/--
While a circuit is closed it has counted the calls that failed since the failures were last cleared,
fewer than the threshold, and it opens at exactly the failure that brings their number there. In any
state, calls that are given up, refused or let through leave the count alone.
-/
theorem opening_law (hc : config.Accepted) (es : List Event) :
    (((init name config now).steps es).breaker.state = .closed →
      ((init name config now).steps es).breaker.failureCount =
          failureRun ((init name config now).history es) ∧
        failureRun ((init name config now).history es) < config.failureThreshold ∧
        ∀ e, (((init name config now).steps es).step e).1.breaker.state = .opened ↔
          (⟨(init name config now).steps es, e⟩ : Moment).fails = true ∧
            failureRun ((init name config now).history es) + 1 = config.failureThreshold) ∧
      ∀ e call, e = .cancel call ∨ e = .start call →
        (((init name config now).steps es).step e).1.breaker.failureCount =
          ((init name config now).steps es).breaker.failureCount := by
  refine ⟨fun hs => ?_, fun e call he => (step_spec _ e).count_eq he⟩
  obtain ⟨hk, hlt⟩ := count_steps hc es hs
  refine ⟨hk, hk ▸ hlt, fun e => ?_⟩
  have h := ((init name config now).steps es).step_spec e
  have hopens := h.opens_iff hs (by simpa using hlt) (by simpa using hc.fits)
  rwa [steps_config, hk] at hopens

/-- The second failure in a row opens a circuit with a threshold of two. -/
theorem opening_law_two :
    BreakerConfig.Accepted ⟨2, .ofMillis 1000⟩ ∧
      (((init "svc" ⟨2, .ofMillis 1000⟩ 0).steps
        [.start "a", .fail "a", .start "b", .succeed "b", .start "c", .start "d", .cancel "d",
          .fail "c", .start "e"]).step (.fail "e")).1.breaker.state = .opened := by
  have hc : BreakerConfig.Accepted ⟨2, .ofMillis 1000⟩ :=
    ⟨BreakerConfig.validate_eq_ok_iff.mpr (by decide), by decide⟩
  exact ⟨hc, (((opening_law hc _).1 rfl).2.2 _).mpr ⟨rfl, rfl⟩⟩

end Run
end Breaker
end Interchange
