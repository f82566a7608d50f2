import Interchange.Proofs.Breaker.Slots

/-! # Looking at a breaker

Whoever asks for the state or the figures of a breaker looks at it, and a look makes an open circuit
whose timeout has passed half open. Two runs that differ in looks alone can part: the end of a late
call finds the circuit open in one and half open in the other. Main statement: they part exactly
when a call that is no trial fails, or a trial succeeds, at an open circuit whose timeout has passed
and at which nobody has looked since.
-/

namespace Interchange
namespace Breaker

/-! ## Without the numbers of periods -/

/-- A breaker without the number of its changes of state, which looks add to. -/
def unnumbered (b : Breaker) : Breaker := { b with transitionCount := 0 }

section Unnumbered

variable {b c : Breaker} {now : Instant} {p : Permit}

theorem observed_unnumbered :
    (b.unnumbered.observed now).unnumbered = (b.observed now).unnumbered := by
  have ht : b.unnumbered.timeoutElapsed now = b.timeoutElapsed now := rfl
  cases h : b.timeoutElapsed now with
  | false =>
    rw [observed_of_not_elapsed h, observed_of_not_elapsed (ht.trans h)]
    rfl
  | true =>
    rw [observed_of_elapsed h, observed_of_elapsed (ht.trans h)]
    rfl

theorem acquire_unnumbered : (b.unnumbered.acquire now).1 = (b.acquire now).1 ∧
    (b.unnumbered.acquire now).2.1.unnumbered = (b.acquire now).2.1.unnumbered := by
  have ht : b.unnumbered.timeoutElapsed now = b.timeoutElapsed now := rfl
  unfold acquire observe
  rw [ht]
  cases b.timeoutElapsed now <;> cases hs : b.state <;> cases hf : b.trialInFlight <;>
    simp [unnumbered, hs, hf, transition]

theorem succeed_unnumbered :
    (b.unnumbered.succeed p).1.unnumbered = (b.succeed p).1.unnumbered := by
  by_cases h : p.trial = true ∧ b.state = .halfOpen <;> simp [succeed, unnumbered, h, transition]

theorem fail_unnumbered :
    (b.unnumbered.fail now p).1.unnumbered = (b.fail now p).1.unnumbered := by
  cases hs : b.state with
  | closed =>
    rw [fail_closed hs, fail_closed (b := b.unnumbered) hs, apply_ite unnumbered,
      apply_ite unnumbered]
    rfl
  | opened =>
    rw [fail_opened hs, fail_opened (b := b.unnumbered) hs]
    rfl
  | halfOpen =>
    rw [fail_halfOpen hs, fail_halfOpen (b := b.unnumbered) hs, apply_ite unnumbered,
      apply_ite unnumbered]
    rfl

theorem release_unnumbered : (b.unnumbered.release p).unnumbered = (b.release p).unnumbered := by
  by_cases h : p.trial = true ∧ b.state = .halfOpen <;> simp [release, unnumbered, h]

theorem reset_unnumbered : b.unnumbered.reset.1.unnumbered = b.reset.1.unnumbered := by
  by_cases h : b.state = .closed <;> simp [reset, unnumbered, h, transition]

/-- What does not depend on the number is the same for breakers that differ in it alone. -/
theorem congr_unnumbered {α : Type} {f : Breaker → α} (hf : ∀ b : Breaker, f b.unnumbered = f b)
    (h : b.unnumbered = c.unnumbered) : f b = f c := by
  rw [← hf b, h, hf c]

end Unnumbered

section Observed

variable {b : Breaker} {now : Instant} {p : Permit}

theorem observed_observed : (b.observed now).observed now = b.observed now := by
  rcases observed_cases b now with ⟨_, he⟩ | ⟨_, he⟩
  · rw [he]
    exact observed_of_ne_opened (by simp)
  · rw [he, he]

/-- A call is let through or not as if nobody had looked before. -/
theorem acquire_observed : ((b.observed now).acquire now).1 = (b.acquire now).1 ∧
    ((b.observed now).acquire now).2.1 = (b.acquire now).2.1 := by
  obtain ⟨ts, hq⟩ := acquire_eq b now
  obtain ⟨ts', hq'⟩ := acquire_eq (b.observed now) now
  rw [hq, hq', observed_observed]
  cases (b.observed now).state with
  | closed | opened => exact ⟨rfl, rfl⟩
  | halfOpen => cases (b.observed now).trialInFlight <;> exact ⟨rfl, rfl⟩

theorem timeoutElapsed_mono {later : Instant} (h : b.timeoutElapsed now = true)
    (hle : now ≤ later) : b.timeoutElapsed later = true := by
  obtain ⟨hs, ht⟩ := timeoutElapsed_iff.mp h
  refine timeoutElapsed_iff.mpr ⟨hs, fun t hl => (ht t hl).trans_le ?_⟩
  exact Nat.sub_le_sub_right hle t

end Observed

namespace Run

variable {r s t : Run} {e : Event} {call : String}

/-! ## Runs that differ in numbers alone -/

/-- Two runs are the same but for the numbers of their periods. -/
structure Alike (r s : Run) : Prop where
  now : r.now = s.now
  breaker : r.breaker.unnumbered = s.breaker.unnumbered
  permits : ∀ call,
    (r.flights.get? call).map Flight.permit = (s.flights.get? call).map Flight.permit

namespace Alike

theorem refl (r : Run) : Alike r r := ⟨rfl, rfl, fun _ => rfl⟩

theorem trans (h : Alike r s) (h' : Alike s t) : Alike r t :=
  ⟨h.now.trans h'.now, h.breaker.trans h'.breaker, fun c => (h.permits c).trans (h'.permits c)⟩

/-- An operation on the breaker that does not depend on the numbers keeps runs alike. -/
theorem withBreaker (h : Alike r s) {f : Breaker → Breaker}
    (hf : ∀ b : Breaker, (f b.unnumbered).unnumbered = (f b).unnumbered) :
    Alike { r with breaker := f r.breaker } { s with breaker := f s.breaker } :=
  ⟨h.now, congr_unnumbered (f := fun b => (f b).unnumbered) hf h.breaker, h.permits⟩

theorem looked (h : Alike r s) : Alike r.looked s.looked := by
  have hl := h.withBreaker (f := fun b => b.observed r.now) fun _ => observed_unnumbered
  simpa only [Run.looked, h.now] using hl

theorem acquire_eq (h : Alike r s) : (r.breaker.acquire r.now).1 = (s.breaker.acquire s.now).1 := by
  rw [← h.now]
  exact congr_unnumbered (f := fun b => (b.acquire r.now).1) (fun _ => acquire_unnumbered.1)
    h.breaker

theorem start_fst (r : Run) (call : String) :
    (r.start call).1 = (r.breaker.acquire r.now).1.isSome := by
  unfold start
  split <;> simp [*]

theorem start_eq (h : Alike r s) (call : String) : (r.start call).1 = (s.start call).1 := by
  rw [start_fst, start_fst, h.acquire_eq]

theorem finish (h : Alike r s) (call : String) {f : Breaker → Permit → Breaker × List Transition}
    (hf : ∀ b p, (f b.unnumbered p).1.unnumbered = (f b p).1.unnumbered) :
    Alike (r.finish call (f r.breaker)).1 (s.finish call (f s.breaker)).1 := by
  have hp := h.permits call
  cases hr : r.flights.get? call with
  | none =>
    have hs : s.flights.get? call = none := by simpa [hr] using hp.symm
    rwa [finish_absent _ hr, finish_absent _ hs]
  | some x =>
    obtain ⟨y, hs, hxy⟩ : ∃ y, s.flights.get? call = some y ∧ y.permit = x.permit := by
      simpa [hr] using hp.symm
    rw [finish_present _ hr, finish_present _ hs, hxy]
    refine ⟨h.now, congr_unnumbered (f := fun b => (f b x.permit).1.unnumbered)
      (fun b => hf b x.permit) h.breaker, fun c => ?_⟩
    simp only [Dict.get?_erase]
    split
    · rfl
    · exact h.permits c

/-- An attempt leaves runs alike when both breakers answer it in the same way. -/
theorem of_acquire (hn : r.now = s.now)
    (hp : ∀ call, (r.flights.get? call).map Flight.permit = (s.flights.get? call).map Flight.permit)
    (hq : (r.breaker.acquire r.now).1 = (s.breaker.acquire s.now).1)
    (hb : (r.breaker.acquire r.now).2.1.unnumbered = (s.breaker.acquire s.now).2.1.unnumbered)
    (call : String) : Alike (r.step (.start call)).1 (s.step (.start call)).1 := by
  rcases hr : r.breaker.acquire r.now with ⟨_ | p, b, ts⟩ <;>
    rcases hs : s.breaker.acquire s.now with ⟨_ | q, c, us⟩ <;> rw [hr, hs] at hq hb
  · rw [step_start_refused call hr, step_start_refused call hs]
    exact ⟨hn, hb, hp⟩
  · cases hq
  · cases hq
  · cases hq
    rw [step_start_granted call hr, step_start_granted call hs]
    refine ⟨hn, ?_, fun d => ?_⟩
    · -- what the older call of this name gives back is the same as well
      have hx := hp call
      cases hr : r.flights.get? call <;> cases hs : s.flights.get? call <;> rw [hr, hs] at hx
      · exact hb
      · cases hx
      · cases hx
      · simp only [Option.map_some, Option.some.injEq] at hx
        simp only [Option.map_some, Option.getD_some, hx]
        exact congr_unnumbered (f := fun b => (b.release _).unnumbered)
          (fun _ => release_unnumbered) hb
    · simp only [Dict.get?_insert]
      split
      · rfl
      · exact hp d

theorem step_start (h : Alike r s) (call : String) :
    Alike (r.step (.start call)).1 (s.step (.start call)).1 := by
  refine of_acquire h.now h.permits h.acquire_eq ?_ call
  rw [← h.now]
  exact congr_unnumbered (f := fun b => (b.acquire r.now).2.1.unnumbered)
    (fun _ => acquire_unnumbered.2) h.breaker

/-- Whatever happens, runs that are alike stay alike. -/
theorem step (h : Alike r s) : ∀ e, Alike (r.step e).1 (s.step e).1
  | .start call => h.step_start call
  | .succeed call => h.finish call (f := fun b p => b.succeed p) fun _ _ => succeed_unnumbered
  | .fail call => by
    have hf := h.finish call (f := fun b p => b.fail r.now p) fun _ _ => fail_unnumbered
    simpa only [Run.step, h.now] using hf
  | .cancel call =>
    h.finish call (f := fun b p => (b.release p, [])) fun _ _ => release_unnumbered
  | .advance time => ⟨congrArg (· + time.nanos) h.now, h.breaker, h.permits⟩
  | .observe => h.looked
  | .reset => h.withBreaker (f := fun b => b.reset.1) fun _ => reset_unnumbered

end Alike

/-! ## Runs that differ in looks -/

def reported (r : Run) : CircuitState := r.looked.breaker.state

theorem looked_looked : r.looked.looked = r.looked := by
  simp only [looked, observed_observed]

theorem looked_of_elapsed (h : r.breaker.timeoutElapsed r.now = true) :
    r.looked = { r with breaker := r.breaker.turned .halfOpen } := by
  simp only [looked, observed_of_elapsed h]

theorem start_looked (call : String) : (r.looked.start call).1 = (r.start call).1 := by
  rw [Alike.start_fst, Alike.start_fst]
  exact congrArg Option.isSome acquire_observed.1

theorem step_start_looked (r : Run) (call : String) :
    Alike (r.step (.start call)).1 (r.looked.step (.start call)).1 :=
  .of_acquire (r := r) (s := r.looked) rfl (fun _ => rfl) acquire_observed.1.symm
    (congrArg unnumbered acquire_observed.2.symm) call

/-- One run is the other one, or the other one once it has been looked at. -/
def Watched (r s : Run) : Prop := Alike r s ∨ Alike r.looked s

theorem Watched.trans_alike (h : Watched r s) (h' : Alike s t) : Watched r t :=
  h.imp (·.trans h') (·.trans h')

theorem Watched.look (h : Watched r s) : Watched r s.looked := by
  rcases h with h | h
  · exact .inr h.looked
  · have hl := h.looked
    rw [looked_looked] at hl
    exact .inr hl

theorem Watched.start_eq (h : Watched r s) (call : String) :
    (r.start call).1 = (s.start call).1 := by
  rcases h with h | h
  · exact h.start_eq call
  · rw [← start_looked, h.start_eq]

theorem Watched.reported_eq (h : Watched r s) : r.reported = s.reported := by
  have hl : Alike r.looked s.looked := by
    rcases h with h | h
    · exact h.looked
    · have hl := h.looked
      rwa [looked_looked] at hl
  exact congr_unnumbered (f := Breaker.state) (fun _ => rfl) hl.breaker

theorem Watched.failureCount_eq (h : Watched r s) :
    r.breaker.failureCount = s.breaker.failureCount := by
  rcases h with h | h
  · exact congr_unnumbered (f := Breaker.failureCount) (fun _ => rfl) h.breaker
  · rw [← congr_unnumbered (f := Breaker.failureCount) (fun _ => rfl) h.breaker, looked_breaker,
      observed_failureCount]

end Run

namespace Moment

/-- Whether the call that is attempted, if one is, is let through. -/
def admitted? (m : Moment) : Option Bool :=
  match m.event with
  | .start call => some (m.before.start call).1
  | _ => none

/-- At an open circuit whose timeout has passed, and at which nobody has looked since, a call ends
in a way that would be taken otherwise if somebody had: no trial, and it fails, or a trial, and it
succeeds. -/
def Overdue (m : Moment) : Prop :=
  m.before.breaker.timeoutElapsed m.before.now = true ∧
    ∃ call f, m.before.flights.get? call = some f ∧
      (m.event = .fail call ∧ f.permit.trial = false ∨
        m.event = .succeed call ∧ f.permit.trial = true)

end Moment

namespace Run

variable {r s : Run} {e : Event} {call : String}

theorem succeed_of_not {b : Breaker} {p : Permit} (h : ¬ (p.trial = true ∧ b.state = .halfOpen)) :
    (b.succeed p).1 = { b with failureCount := 0 } := by
  simp [Breaker.succeed, h]

theorem step_reset_of_ne (h : r.breaker.state ≠ .closed) :
    (r.step .reset).1 = { r with breaker := r.breaker.turned .closed } := by
  simp [step, Breaker.reset, h, turned, transition]

/-- The end of a call that is not in flight is nothing, before a look or after it. -/
theorem watched_of_absent {settle settle' : Permit → Breaker × List Transition}
    (hf : r.flights.get? call = none) :
    Watched (r.finish call settle).1 (r.looked.finish call settle').1 := by
  rw [finish_absent _ hf, finish_absent (r := r.looked) _ hf]
  exact .inr (.refl _)

/-- The end of a call in flight, with the breaker that it leaves and the one that it leaves after a
look. -/
theorem watched_of_present {settle settle' : Permit → Breaker × List Transition} {f : Flight}
    (hf : r.flights.get? call = some f)
    (h : (settle f.permit).1.unnumbered = (settle' f.permit).1.unnumbered ∨
      ((settle f.permit).1.observed r.now).unnumbered = (settle' f.permit).1.unnumbered) :
    Watched (r.finish call settle).1 (r.looked.finish call settle').1 := by
  rw [finish_present _ hf, finish_present (r := r.looked) _ hf]
  exact h.imp (fun hb => ⟨rfl, hb, fun _ => rfl⟩) fun hb => ⟨rfl, hb, fun _ => rfl⟩

theorem Slotted.free (h : r.Slotted) (hs : r.breaker.state = .opened) :
    r.breaker.trialInFlight = false := by
  refine Bool.eq_false_iff.mpr fun ht => ?_
  cases hs.symm.trans (h ht).1

theorem watched_succeed (ht : r.breaker.timeoutElapsed r.now = true)
    (hm : ¬ (⟨r, .succeed call⟩ : Moment).Overdue) :
    Watched (r.step (.succeed call)).1 (r.looked.step (.succeed call)).1 := by
  cases hf : r.flights.get? call with
  | none => exact watched_of_absent hf
  | some f =>
    have hp : f.permit.trial ≠ true := fun hp => hm ⟨ht, call, f, hf, .inr ⟨rfl, hp⟩⟩
    refine watched_of_present hf (.inr ?_)
    rw [looked_of_elapsed ht, succeed_of_not (by simp [hp]), succeed_of_not (by simp [hp]),
      observed_of_elapsed (b := { r.breaker with failureCount := 0 }) ht]
    rfl

theorem watched_fail (hr : r.Slotted) (ht : r.breaker.timeoutElapsed r.now = true)
    (hm : ¬ (⟨r, .fail call⟩ : Moment).Overdue) :
    Watched (r.step (.fail call)).1 (r.looked.step (.fail call)).1 := by
  have hs := (timeoutElapsed_iff.mp ht).1
  cases hf : r.flights.get? call with
  | none => exact watched_of_absent hf
  | some f =>
    have hp : f.permit.trial = true := by
      by_contra hp
      exact hm ⟨ht, call, f, hf, .inl ⟨rfl, Bool.eq_false_iff.mpr hp⟩⟩
    -- a trial opens the circuit again, which is what it is already without a look
    refine watched_of_present hf (.inl ?_)
    rw [looked_of_elapsed ht, fail_opened hs, fail_halfOpen rfl, if_pos hp]
    simp [counted, unnumbered, turned, transition, hs, hr.free hs]

theorem watched_cancel (ht : r.breaker.timeoutElapsed r.now = true) :
    Watched (r.step (.cancel call)).1 (r.looked.step (.cancel call)).1 := by
  have hs := (timeoutElapsed_iff.mp ht).1
  cases hf : r.flights.get? call with
  | none => exact watched_of_absent hf
  | some f =>
    refine watched_of_present hf (.inr ?_)
    have hb : r.breaker.release f.permit = r.breaker := by simp [release, hs]
    rw [looked_of_elapsed ht, hb, observed_of_elapsed ht]
    by_cases hp : f.permit.trial = true <;> simp [release, hp, unnumbered, turned, transition]

/-- A look that comes before an event can come after it as well, unless the event is overdue. -/
theorem watched_step_looked (hr : r.Slotted) (he : e ≠ .observe)
    (hm : ¬ (⟨r, e⟩ : Moment).Overdue) : Watched (r.step e).1 (r.looked.step e).1 := by
  rcases observed_cases r.breaker r.now with ⟨ht, -⟩ | ⟨-, ho⟩
  · have hs := (timeoutElapsed_iff.mp ht).1
    cases e with
    | start call => exact .inl (step_start_looked r call)
    | succeed call => exact watched_succeed ht hm
    | fail call => exact watched_fail hr ht hm
    | cancel call => exact watched_cancel ht
    | advance time =>
      have ht' := timeoutElapsed_mono ht (Nat.le_add_right r.now time.nanos)
      have hl : (r.step (.advance time)).1.looked = (r.looked.step (.advance time)).1 := by
        rw [looked_of_elapsed ht, looked_of_elapsed (r := (r.step (.advance time)).1) ht']
        rfl
      exact .inr (hl ▸ .refl _)
    | observe => exact absurd rfl he
    | reset =>
      rw [looked_of_elapsed ht, step_reset_of_ne (by simp [hs]), step_reset_of_ne (by simp)]
      exact .inl ⟨rfl, rfl, fun _ => rfl⟩
  · have hl : r.looked = r := by simp only [looked, ho]
    rw [hl]
    exact .inl (.refl _)

theorem Watched.step (h : Watched r s) (hr : r.Slotted) (he : e ≠ .observe)
    (hm : ¬ (⟨r, e⟩ : Moment).Overdue) : Watched (r.step e).1 (s.step e).1 := by
  rcases h with h | h
  · exact .inl (h.step e)
  · exact (watched_step_looked hr he hm).trans_alike (h.step e)

theorem reported_finish {settle : Permit → Breaker × List Transition} {f : Flight}
    (hf : r.flights.get? call = some f) :
    (r.finish call settle).1.reported = ((settle f.permit).1.observed r.now).state := by
  rw [finish_present _ hf]
  rfl

/-- Without a look the late failure starts the wait of the open circuit again; after one it does
nothing. -/
theorem reported_ne_of_fail {f : Flight} (ht : r.breaker.timeoutElapsed r.now = true)
    (hf : r.flights.get? call = some f) (hp : f.permit.trial = false) :
    (r.step (.fail call)).1.reported ≠ (r.looked.step (.fail call)).1.reported := by
  have hs := (timeoutElapsed_iff.mp ht).1
  have he : (r.breaker.counted r.now).timeoutElapsed r.now = false := by
    refine Bool.eq_false_iff.mpr fun he => ?_
    have hlt := (timeoutElapsed_iff.mp he).2 r.now rfl
    omega
  have hr : (r.step (.fail call)).1.reported = .opened := by
    refine (reported_finish hf).trans ?_
    rw [fail_opened hs, observed_of_not_elapsed he]
    exact hs
  have hl : (r.looked.step (.fail call)).1.reported = .halfOpen := by
    refine (reported_finish (r := r.looked) hf).trans ?_
    rw [looked_of_elapsed ht, fail_halfOpen rfl, if_neg (by simp [hp]),
      observed_of_ne_opened (by simp [counted])]
    rfl
  rw [hr, hl]
  decide

/-- Without a look the late success of a trial leaves the circuit open; after one it closes it. -/
theorem reported_ne_of_succeed {f : Flight} (ht : r.breaker.timeoutElapsed r.now = true)
    (hf : r.flights.get? call = some f) (hp : f.permit.trial = true) :
    (r.step (.succeed call)).1.reported ≠ (r.looked.step (.succeed call)).1.reported := by
  have hs := (timeoutElapsed_iff.mp ht).1
  have hr : (r.step (.succeed call)).1.reported = .halfOpen := by
    refine (reported_finish hf).trans ?_
    rw [succeed_of_not (by simp [hs]),
      observed_of_elapsed (b := { r.breaker with failureCount := 0 }) ht, turned_state]
  have hl : (r.looked.step (.succeed call)).1.reported = .closed := by
    refine (reported_finish (r := r.looked) hf).trans (observed_state_closed_iff.mpr ?_)
    rw [looked_of_elapsed ht]
    simp [Breaker.succeed, hp]
  rw [hr, hl]
  decide

/-- A look before an overdue end of a call shows in the state that is reported after it. -/
theorem reported_ne_of_overdue (h : (⟨r, e⟩ : Moment).Overdue) :
    (r.step e).1.reported ≠ (r.looked.step e).1.reported := by
  obtain ⟨ht, call, f, hf, ⟨rfl, hp⟩ | ⟨rfl, hp⟩⟩ := h
  · exact reported_ne_of_fail ht hf hp
  · exact reported_ne_of_succeed ht hf hp

/-! ## Whole runs -/

def acts (es : List Event) : List Event := es.filter (· ≠ .observe)

/-- Which of the attempts of a run are let through, in their order. -/
def admissions (r : Run) (es : List Event) : List Bool := (r.history es).filterMap Moment.admitted?

/-- After two lists of events the same attempts have been let through, and the same state and the
same number of failures are reported. -/
structure Agree (r : Run) (es ds : List Event) : Prop where
  admissions : r.admissions es = r.admissions ds
  state : (r.steps es).reported = (r.steps ds).reported
  failureCount : (r.steps es).breaker.failureCount = (r.steps ds).breaker.failureCount

theorem acts_concat (es : List Event) (e : Event) :
    acts (es ++ [e]) = if e = .observe then acts es else acts es ++ [e] := by
  by_cases h : e = .observe <;> simp [acts, h]

theorem admissions_concat (r : Run) (es : List Event) (e : Event) :
    r.admissions (es ++ [e]) =
      r.admissions es ++ (⟨r.steps es, e⟩ : Moment).admitted?.toList := by
  rw [admissions, history_concat, List.filterMap_append, ← admissions]
  cases h : (⟨r.steps es, e⟩ : Moment).admitted? <;> simp [h]

theorem Watched.admitted?_eq (h : Watched r s) (e : Event) :
    (⟨r, e⟩ : Moment).admitted? = (⟨s, e⟩ : Moment).admitted? := by
  cases e with
  | start call => exact congrArg some (h.start_eq call)
  | _ => rfl

variable {name : String} {config : BreakerConfig} {now : Instant}

/-- Looks do not matter as long as nothing is overdue without them. -/
theorem watched_steps (ds : List Event)
    (hm : ∀ m ∈ (init name config now).history (acts ds), ¬ m.Overdue) :
    Watched ((init name config now).steps (acts ds)) ((init name config now).steps ds) ∧
      (init name config now).admissions (acts ds) = (init name config now).admissions ds := by
  induction ds using List.reverseRecOn with
  | nil => exact ⟨.inl (.refl _), rfl⟩
  | append_singleton ds d ih =>
    rw [acts_concat] at hm ⊢
    split at hm
    · next he =>
      obtain ⟨hw, ha⟩ := ih hm
      rw [if_pos he, admissions_concat, steps_concat, he, ha]
      exact ⟨hw.look, (List.append_nil _).symm⟩
    · next he =>
      obtain ⟨hm, hd⟩ := forall_history_concat.mp hm
      obtain ⟨hw, ha⟩ := ih hm
      rw [if_neg he, admissions_concat, admissions_concat, steps_concat, steps_concat, ha,
        hw.admitted?_eq]
      exact ⟨hw.step (slotted_steps _) he hd, rfl⟩

theorem acts_of_prefix {pre es : List Event} (h : pre <+: acts es) : acts pre = pre :=
  List.filter_eq_self.mpr fun _ he => (List.mem_filter.mp (h.subset he)).2

/--
Looks do not matter if and only if nothing is overdue without them. The first says that wherever
looks are put into a run, up to any moment the same attempts are let through and the same state and
number of failures are reported; the second that in the run without looks no call that is no trial
fails, and no trial succeeds, at an open circuit whose timeout has passed.
-/
theorem looks_harmless_iff (es : List Event) :
    (∀ pre, pre <+: acts es → ∀ xs ys, acts xs = pre → acts ys = pre →
        (init name config now).Agree xs ys) ↔
      ∀ m ∈ (init name config now).history (acts es), ¬ m.Overdue := by
  constructor
  · intro h m hm ho
    obtain ⟨pre, post, hes, hb⟩ := mem_history_iff.mp hm
    have hpre : pre ++ [m.event] <+: acts es := ⟨post, by simp [hes]⟩
    have hacts := acts_of_prefix hpre
    have hne : m.event ≠ .observe := by
      obtain ⟨-, call, f, -, ⟨he, -⟩ | ⟨he, -⟩⟩ := ho <;> simp [he]
    have hlook : acts (pre ++ [.observe] ++ [m.event]) = pre ++ [m.event] := by
      rw [acts_concat, if_neg hne, acts_concat, if_pos rfl,
        acts_of_prefix ((List.prefix_append pre _).trans hpre)]
    have hstate := (h _ hpre _ _ hacts hlook).state
    rw [steps_concat, steps_concat, steps_concat, ← hb] at hstate
    exact reported_ne_of_overdue ho hstate
  · rintro hm pre ⟨post, hes⟩ xs ys rfl hy
    have hx : ∀ m ∈ (init name config now).history (acts xs), ¬ m.Overdue := fun m hmem =>
      hm m (by rw [← hes, history_append]; exact List.mem_append_left _ hmem)
    obtain ⟨hwx, hax⟩ := watched_steps xs hx
    obtain ⟨hwy, hay⟩ := watched_steps ys (hy ▸ hx)
    rw [hy] at hwy hay
    exact ⟨hax.symm.trans hay, hwx.reported_eq.symm.trans hwy.reported_eq,
      hwx.failureCount_eq.symm.trans hwy.failureCount_eq⟩

/-- Somebody looks before a call that was let through long ago fails. The next attempt is let
through then, and rejected if nobody looks. -/
theorem look_lets_trial_through :
    BreakerConfig.Accepted ⟨1, .ofMillis 1000⟩ ∧
      acts [.start "a", .start "b", .fail "a", .advance (.ofMillis 1001), .fail "b", .start "c"] =
        acts [.start "a", .start "b", .fail "a", .advance (.ofMillis 1001), .observe, .fail "b",
          .start "c"] ∧
      ¬ (init "svc" ⟨1, .ofMillis 1000⟩ 0).Agree
        [.start "a", .start "b", .fail "a", .advance (.ofMillis 1001), .fail "b", .start "c"]
        [.start "a", .start "b", .fail "a", .advance (.ofMillis 1001), .observe, .fail "b",
          .start "c"] := by
  refine ⟨⟨BreakerConfig.validate_eq_ok_iff.mpr (by decide), by decide⟩, rfl, fun h => ?_⟩
  have ha : [true, true, false] = [true, true, true] := h.admissions
  exact absurd ha (by decide)

end Run
end Breaker
end Interchange
