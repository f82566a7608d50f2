import Interchange.Proofs.Breaker.Admissions
import Interchange.Proofs.Breaker.Rejection

/-! # The trial slot

The slot of a half-open period is taken by a trial of this very period that is in flight, however
many trials of earlier periods end meanwhile. Main statement: a half-open breaker that rejects a
call has such a trial, so once the timeout has passed a breaker without one lets the next call
through.
-/

namespace Interchange
namespace Breaker
namespace Run

variable {r r' : Run} {e : Event} {call : String}

/-- The slot is taken only while the circuit is half open, and then a trial of this period is in
flight. -/
def Slotted (r : Run) : Prop :=
  r.breaker.trialInFlight = true → r.breaker.state = .halfOpen ∧ ∃ c, r.Trial r.period c

theorem Slotted.looked (h : r.Slotted) : r.looked.Slotted := by
  rcases r.looked_cases with ⟨_, he⟩ | he
  · rw [he]
    exact nofun
  · rwa [he]

/-- A trial stays in flight when a call ends that is no trial of a half-open period. -/
theorem Slotted.of_erase {f : Flight} {b : Breaker} (h : r.Slotted)
    (hf : r.flights.get? call = some f)
    (hn : ¬ (f.permit.trial = true ∧ r.breaker.state = .halfOpen))
    (ht : b.trialInFlight = r.breaker.trialInFlight) (hs : b.state = r.breaker.state)
    (hp : b.transitionCount = r.period) :
    Slotted { r with breaker := b, flights := r.flights.erase call } := by
  intro htrue
  obtain ⟨hh, c, hc⟩ := h (ht.symm.trans htrue)
  refine ⟨hs.trans hh, c, trial_erase_iff.mpr ⟨?_, ?_⟩⟩
  · rintro rfl
    cases hf.symm.trans hc
    exact hn ⟨rfl, hh⟩
  · change r.Trial b.transitionCount c
    rwa [hp]

theorem Step.slotted (h : Step r e r') (hr : r.Slotted) : r'.Slotted := by
  cases h with
  | refused | observed => exact hr.looked
  | admitted call hs =>
    intro ht
    cases hs.symm.trans (hr ht).1
  | tried call hs _ =>
    -- the name may have been that of another trial, but the slot is taken only if it was not
    exact fun _ => ⟨hs, call, trial_insert_iff.mpr (if_pos rfl ▸ rfl)⟩
  | absent | advanced => exact hr
  | trialSucceeded | trialFailed | tripped | reset | trialCancelled => exact nofun
  | succeeded call f hf hn | failed call f hf hn | cancelled call f hf hn =>
    exact hr.of_erase hf hn rfl rfl rfl
  | cleared hs =>
    intro ht
    cases hs.symm.trans (hr ht).1

/-- A breaker that lets no call through turns a call away, and is left as a look leaves it. -/
theorem start_of_refusing (h : r.looked.breaker.Refusing) (call : String) :
    ∃ ts, r.start call = (false, r.looked, ts) := by
  obtain ⟨ts, hq⟩ := acquire_refusing h
  exact ⟨ts, by rw [start, hq]; rfl⟩

theorem refusing_of_start (h : (r.start call).1 = false) : r.looked.breaker.Refusing := by
  obtain ⟨ts, hq⟩ := acquire_eq r.breaker r.now
  cases hs : (r.breaker.observed r.now).state with
  | closed => simp [start, hq, hs] at h
  | opened => exact .inl hs
  | halfOpen =>
    cases ht : (r.breaker.observed r.now).trialInFlight with
    | true => exact .inr ⟨hs, ht⟩
    | false => simp [start, hq, hs, ht] at h

/-- A slot that a look finds taken was taken before. -/
theorem Slotted.trial (h : r.Slotted) (ht : r.looked.breaker.trialInFlight = true) :
    ∃ c, r.Trial r.period c := by
  rcases r.looked_cases with ⟨_, he⟩ | he
  · rw [he] at ht
    cases ht
  · rw [he] at ht
    exact (h ht).2

variable {name : String} {config : BreakerConfig} {now : Instant}

theorem slotted_init : (init name config now).Slotted := by
  simp [Slotted, init]

theorem slotted_steps (es : List Event) : ((init name config now).steps es).Slotted :=
  steps_induction slotted_init (fun h hr => h.slotted hr) es

/-- A circuit is not open any more for a call that comes when more than the timeout has passed since
the latest failed call. -/
theorem looked_ne_opened (es : List Event)
    (h : ∀ t, lastFailed ((init name config now).history es) = some t →
      config.resetTimeout.nanos < ((init name config now).steps es).now - t) :
    ((init name config now).steps es).looked.breaker.state ≠ .opened := by
  intro ho
  have hl := @lastFailure_steps name config now es
  have hcfg : ((init name config now).steps es).breaker.config = config := steps_config es
  generalize (init name config now).steps es = r at *
  by_cases hs : r.breaker.state = .opened
  · have he : r.breaker.timeoutElapsed r.now = true := by
      refine timeoutElapsed_iff.mpr ⟨hs, fun t ht => ?_⟩
      rw [hcfg]
      exact h t (hl ▸ ht)
    rw [looked_breaker, observed_of_elapsed he] at ho
    cases ho
  · rw [looked_of_ne_opened hs] at ho
    exact hs ho

/--
Whenever a breaker that is half open turns a call away, a call is in flight that was let through as
a trial in this half-open period. So in a run with no such call in flight, and all the more in one
with no call in flight at all, the next call is let through as soon as more than the timeout has
passed since the latest failed call.
-/
theorem slot_never_leaked (es : List Event) :
    (∀ call, (((init name config now).steps es).start call).1 = false →
      (((init name config now).steps es).start call).2.1.breaker.state = .halfOpen →
        ∃ trial, ((init name config now).steps es).OwnTrial ((init name config now).history es)
          trial) ∧
      ((∀ trial, ¬ ((init name config now).steps es).OwnTrial ((init name config now).history es)
          trial) →
        (∀ t, lastFailed ((init name config now).history es) = some t →
          config.resetTimeout.nanos < ((init name config now).steps es).now - t) →
        ∀ call, (((init name config now).steps es).start call).1 = true) := by
  have htraced := @traced_steps name config now es
  have hslotted := @slotted_steps name config now es
  have hturned : ∀ call, (((init name config now).steps es).start call).1 = false →
      (((init name config now).steps es).start call).2.1.breaker.state = .halfOpen →
      ∃ trial, ((init name config now).steps es).OwnTrial ((init name config now).history es)
        trial := by
    intro call hf hh
    have hr := refusing_of_start hf
    obtain ⟨ts, he⟩ := start_of_refusing hr call
    rw [he] at hh
    rcases hr with ho | ⟨-, ht⟩
    · cases hh.symm.trans ho
    · obtain ⟨c, hc⟩ := hslotted.trial ht
      exact ⟨c, (ownTrial_iff htraced).mpr hc⟩
  refine ⟨hturned, fun hn ht call => ?_⟩
  by_contra hf
  have hf := Bool.eq_false_iff.mpr hf
  have hr := refusing_of_start hf
  obtain ⟨ts, he⟩ := start_of_refusing hr call
  rcases hr with ho | ⟨hh, -⟩
  · exact looked_ne_opened es ht ho
  · obtain ⟨trial, htrial⟩ := hturned call hf (by rwa [he])
    exact hn trial htrial

end Run
end Breaker
end Interchange
