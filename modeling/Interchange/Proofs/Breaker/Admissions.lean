import Interchange.Proofs.Breaker.Trials

/-! # How calls in flight were let through

A call in flight holds the permit that it was given when it was last let through, and names the
period of that moment.
-/

namespace Interchange
namespace Breaker

namespace Moment

def granted? (m : Moment) (call : String) : Option Permit :=
  if m.event = .start call then (m.before.breaker.acquire m.before.now).1 else none

theorem granted?_of_ne {m : Moment} {call : String} (h : m.event ≠ .start call) :
    m.granted? call = none := if_neg h

theorem granted?_start (r : Run) (call : String) :
    (⟨r, .start call⟩ : Moment).granted? call = (r.breaker.acquire r.now).1 := if_pos rfl

/-- A call that is let through a closed circuit is no trial. -/
theorem granted?_of_closed {m : Moment} {call : String} {p : Permit}
    (h : m.granted? call = some p) (hs : m.before.breaker.state = .closed) : p.trial = false := by
  unfold granted? at h
  split at h
  · obtain ⟨ts, hq⟩ := acquire_closed m.before.now hs
    rw [hq] at h
    cases h
    rfl
  · cases h

end Moment

def lastAdmission (h : List Moment) (call : String) : Option Moment :=
  h.reverse.find? fun m => (m.granted? call).isSome

theorem lastAdmission_concat (h : List Moment) (m : Moment) (call : String) :
    lastAdmission (h ++ [m]) call =
      if (m.granted? call).isSome then some m else lastAdmission h call := by
  unfold lastAdmission
  rw [List.reverse_concat, List.find?_cons]
  cases (m.granted? call).isSome <;> rfl

namespace Run

/-- A call in flight was let through at a moment of a past, and has its permit and its period. -/
def Recorded (past : List Moment) (call : String) (f : Flight) : Prop :=
  ∃ m, lastAdmission past call = some m ∧ m.granted? call = some f.permit ∧
    m.after.period = f.period

variable {past : List Moment} {m : Moment} {call : String} {f : Flight}

theorem Recorded.concat (h : Recorded past call f) (hn : m.granted? call = none) :
    Recorded (past ++ [m]) call f := by
  obtain ⟨n, hl, hg, hp⟩ := h
  refine ⟨n, ?_, hg, hp⟩
  rw [lastAdmission_concat, hn]
  exact hl

theorem recorded_of_granted (hg : m.granted? call = some f.permit)
    (hp : m.after.period = f.period) : Recorded (past ++ [m]) call f := by
  refine ⟨m, ?_, hg, hp⟩
  rw [lastAdmission_concat, hg]
  rfl

/-- Every call in flight is recorded. -/
def Traced (r : Run) (past : List Moment) : Prop :=
  ∀ call f, r.flights.get? call = some f → Recorded past call f

/-- Calls that were in flight before an event that lets none through are recorded still. -/
theorem Traced.of_flights {r' : Run} (h : m.before.Traced past)
    (hn : ∀ call, m.granted? call = none)
    (hf : ∀ call f, r'.flights.get? call = some f → m.before.flights.get? call = some f) :
    r'.Traced (past ++ [m]) :=
  fun call f hg => (h call f (hf call f hg)).concat (hn call)

/-- One more call is recorded when it is let through. -/
theorem Traced.of_insert {r' : Run} (h : m.before.Traced past) (he : m.event = .start call)
    (hg : m.granted? call = some f.permit) (hp : m.after.period = f.period)
    (hf : r'.flights = m.before.flights.insert call f) : r'.Traced (past ++ [m]) := by
  intro other g hother
  rw [hf, Dict.get?_insert] at hother
  split at hother
  · next hc =>
    cases hother
    subst hc
    exact recorded_of_granted hg hp
  · next hc =>
    refine (h other g hother).concat (Moment.granted?_of_ne ?_)
    rw [he]
    exact fun hs => hc (Event.start.inj hs)

theorem flights_erase {r : Run} {c : String} (other : String) (g : Flight)
    (h : (r.flights.erase c).get? other = some g) : r.flights.get? other = some g := by
  rw [Dict.get?_erase] at h
  split at h
  · cases h
  · exact h

theorem Traced.step (h : m.before.Traced past) : m.after.Traced (past ++ [m]) := by
  obtain ⟨r, e⟩ := m
  have hs := r.step_spec e
  -- the run after the event is named, so that the cases can put what it is in its place
  have ha : (⟨r, e⟩ : Moment).after = (r.step e).1 := rfl
  generalize hr' : (r.step e).1 = r' at hs ha
  rw [ha]
  have hnone : (∀ c, e ≠ .start c) → ∀ c, (⟨r, e⟩ : Moment).granted? c = none :=
    fun hne c => Moment.granted?_of_ne (hne c)
  cases hs with
  | refused c hr =>
    refine h.of_flights (fun other => ?_) fun _ _ hg => hg
    obtain ⟨ts, hq⟩ := acquire_refusing hr
    unfold Moment.granted?
    split
    · rw [hq]
    · rfl
  | admitted c hc =>
    obtain ⟨ts, hq⟩ := acquire_closed r.now hc
    refine h.of_insert rfl (f := ⟨⟨false⟩, r.period⟩) ?_ ?_ rfl
    · rw [Moment.granted?_start, hq]
    · rw [ha]
  | tried c hh ht =>
    obtain ⟨ts, hq⟩ := acquire_trial hh ht
    refine h.of_insert rfl (f := ⟨⟨true⟩, r.looked.period⟩) ?_ ?_ rfl
    · rw [Moment.granted?_start, hq]
    · rw [ha]
  | absent c he hn =>
    refine h.of_flights (hnone fun d hd => ?_) fun _ _ hg => hg
    rw [hd] at he
    cases he
  | trialSucceeded | succeeded | trialFailed | tripped | failed | trialCancelled | cancelled =>
    exact h.of_flights (hnone nofun) flights_erase
  | advanced | observed | cleared | reset => exact h.of_flights (hnone nofun) fun _ _ hg => hg

variable {name : String} {config : BreakerConfig} {now : Instant}

/-- Every call in flight was let through at a moment of the run, with the permit that it holds. -/
theorem traced_steps (es : List Event) :
    ((init name config now).steps es).Traced ((init name config now).history es) := by
  induction es using List.reverseRecOn with
  | nil => exact fun _ _ h => nomatch h
  | append_singleton es e ih =>
    rw [steps_concat, history_concat]
    exact ih.step (m := ⟨_, e⟩)

/-- A call in flight that was let through as a trial, with no change of state since. -/
def OwnTrial (r : Run) (past : List Moment) (call : String) : Prop :=
  r.flights.contains call ∧ ∃ m, lastAdmission past call = some m ∧
    m.granted? call = some ⟨true⟩ ∧ m.after.period = r.period

theorem ownTrial_iff {r : Run} (h : r.Traced past) :
    r.OwnTrial past call ↔ r.Trial r.period call := by
  constructor
  · rintro ⟨hc, m, hl, hg, hp⟩
    obtain ⟨f, hf⟩ := Option.isSome_iff_exists.mp hc
    obtain ⟨n, hl', hg', hp'⟩ := h call f hf
    cases hl.symm.trans hl'
    have ht := Option.some.inj (hg.symm.trans hg')
    have hr := hp.symm.trans hp'
    obtain ⟨permit, period⟩ := f
    cases ht
    cases hr
    exact hf
  · intro ht
    obtain ⟨m, hl, hg, hp⟩ := h call _ ht
    exact ⟨Option.isSome_iff_exists.mpr ⟨_, ht⟩, m, hl, hg, hp⟩

end Run
end Breaker
end Interchange
