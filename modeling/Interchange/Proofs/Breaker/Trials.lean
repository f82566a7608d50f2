import Interchange.Proofs.Breaker.History

/-! # The single-trial rule

In a half-open period one trial at a time is in flight, and the period ends by the outcome of its
own trial or by a reset. A permit does not say which period it was given in, so a trial that
outlives its period counts as one of a later period. The rule holds in exactly the runs where no
such late trial ends a half-open period and no call comes after one has freed the slot of the trial
under way. As long as no reset finds a trial in flight there are no late trials.
-/

namespace Interchange
namespace Breaker

namespace Run

/-- The number of the period between two changes of state. -/
abbrev period (r : Run) : Nat := r.breaker.transitionCount

/-- No two trials of one period are in flight. -/
def Single (r : Run) : Prop := ∀ p c d, r.Trial p c → r.Trial p d → c = d

/-- A trial is in flight whose period has ended. -/
def Late (r : Run) (call : String) : Prop := ∃ p, r.Trial p call ∧ p ≠ r.period

/-- The trial of a half-open period is in flight without holding the slot. -/
def Exposed (r : Run) : Prop :=
  r.breaker.state = .halfOpen ∧ r.breaker.trialInFlight = false ∧ ∃ c, r.Trial r.period c

/-- Periods are numbered upwards, and only a half-open one has trials. -/
structure Dated (r : Run) : Prop where
  le : ∀ p c, r.Trial p c → p ≤ r.period
  halfOpen : ∀ c, r.Trial r.period c → r.breaker.state = .halfOpen

/-- Every trial in flight belongs to the present half-open period and holds its slot. -/
def Held (r : Run) : Prop := ∀ p c, r.Trial p c →
  p = r.period ∧ r.breaker.state = .halfOpen ∧ r.breaker.trialInFlight = true

end Run

namespace Moment

/-- The single-trial rule at a moment. -/
structure Orderly (m : Moment) : Prop where
  /-- A trial is let through when no other one of its period is in flight. -/
  alone : ∀ call, m.event = .start call →
    (m.before.breaker.acquire m.before.now).1 = some ⟨true⟩ →
    ∀ other, ¬ m.before.Trial m.after.period other
  single : m.after.Single
  /-- A half-open period ends by a reset or by the outcome of a trial of this period. -/
  own : m.before.breaker.state = .halfOpen → m.after.breaker.state ≠ .halfOpen →
    m.event = .reset ∨
      ∃ call, (m.event = .succeed call ∨ m.event = .fail call) ∧
        m.before.Trial m.before.period call

/-- A late trial succeeds or fails while the circuit is half open. -/
def LateOutcome (m : Moment) : Prop :=
  m.before.breaker.state = .halfOpen ∧
    ∃ call, (m.event = .succeed call ∨ m.event = .fail call) ∧ m.before.Late call

/-- A call is attempted while the trial of the period is without its slot. -/
def Intrudes (m : Moment) : Prop := m.before.Exposed ∧ ∃ call, m.event = .start call

/-- A trial of another period than the one that follows is given up. -/
def GivesUpLate (m : Moment) : Prop :=
  ∃ call p, (m.event = .cancel call ∨ m.event = .start call) ∧
    m.before.Trial p call ∧ p ≠ m.after.period

end Moment

namespace Run

/-- The single-trial rule along a run. -/
def SingleTrial (r : Run) (es : List Event) : Prop := ∀ m ∈ r.history es, m.Orderly

/-- No reset finds a trial in flight. -/
def Calm (r : Run) (es : List Event) : Prop :=
  ∀ m ∈ r.history es, m.event = .reset → ∀ p c, ¬ m.before.Trial p c

/-! ## Trials in flight -/

variable {r r' : Run} {e : Event} {p q : Nat} {c d : String}

theorem Trial.unique (h : r.Trial p c) (h' : r.Trial q c) : p = q := by
  have he := Option.some.inj (h.symm.trans h')
  exact congrArg Flight.period he

theorem trial_of_get {f : Flight} (h : r.flights.get? c = some f) (ht : f.permit.trial = true) :
    r.Trial f.period c := by
  obtain ⟨⟨trial⟩, period⟩ := f
  cases ht
  exact h

theorem trial_insert_iff {b : Breaker} {now : Instant} {f : Flight} :
    Trial { breaker := b, now, flights := r.flights.insert c f } p d ↔
      if c = d then f = ⟨⟨true⟩, p⟩ else r.Trial p d := by
  unfold Trial
  rw [Dict.get?_insert]
  split_ifs <;> simp

theorem trial_erase_iff {b : Breaker} {now : Instant} :
    Trial { breaker := b, now, flights := r.flights.erase c } p d ↔ c ≠ d ∧ r.Trial p d := by
  unfold Trial
  rw [Dict.get?_erase]
  split_ifs with h <;> simp [h]

theorem holdsTrial_iff : r.holdsTrial c = true ↔ ∃ p, r.Trial p c := by
  unfold holdsTrial
  rw [Option.any_eq_true]
  constructor
  · rintro ⟨f, hf, ht⟩
    exact ⟨f.period, trial_of_get hf ht⟩
  · rintro ⟨p, hp⟩
    exact ⟨_, hp, rfl⟩

/-! ## Periods -/

theorem period_le_looked : r.period ≤ r.looked.period := by
  rcases r.looked_cases with ⟨_, he⟩ | he
  · rw [he]
    exact Nat.le_succ _
  · rw [he]

theorem Step.period_le (h : Step r e r') : r.period ≤ r'.period := by
  cases h with
  | refused | tried | observed => exact period_le_looked
  | trialSucceeded | trialFailed | tripped | reset => exact Nat.le_succ _
  | admitted | absent | succeeded | failed | trialCancelled | cancelled | advanced | cleared =>
    exact le_rfl

theorem period_le_steps (r : Run) (es : List Event) : r.period ≤ (r.steps es).period :=
  steps_induction (P := fun s => r.period ≤ s.period) le_rfl (fun h hr => hr.trans h.period_le) es

theorem Dated.lt (hd : r.Dated) (hs : r.breaker.state ≠ .halfOpen) (h : r.Trial p c) :
    p < r.period := by
  refine lt_of_le_of_ne (hd.le p c h) ?_
  rintro rfl
  exact hs (hd.halfOpen c h)

theorem Dated.looked (hd : r.Dated) : r.looked.Dated := by
  rcases r.looked_cases with ⟨hs, he⟩ | he
  · rw [he]
    refine ⟨fun p c h => ?_, fun c h => rfl⟩
    exact (hd.le p c h).trans (Nat.le_succ _)
  · rwa [he]

/-- Trials that stay in flight keep their periods. -/
theorem Dated.of_le (hd : r.Dated) (hp : r.period ≤ r'.period)
    (hs : r'.period = r.period → r.breaker.state = .halfOpen → r'.breaker.state = .halfOpen)
    (ht : ∀ p c, r'.Trial p c → r.Trial p c ∨ p = r'.period ∧ r'.breaker.state = .halfOpen) :
    r'.Dated := by
  refine ⟨fun p c h => ?_, fun c h => ?_⟩
  · rcases ht p c h with h | ⟨rfl, _⟩
    · exact (hd.le p c h).trans hp
    · exact le_rfl
  · rcases ht _ c h with h | ⟨_, hs⟩
    · have he : r'.period = r.period := le_antisymm (hd.le _ c h) hp
      exact hs he (hd.halfOpen c (he ▸ h))
    · exact hs

theorem Step.dated (h : Step r e r') (hd : r.Dated) : r'.Dated := by
  have hp := h.period_le
  cases h with
  | refused | observed => exact hd.looked
  | admitted call hs =>
    refine hd.of_le hp (fun _ h => h) fun p c h => .inl ?_
    rw [trial_insert_iff] at h
    split_ifs at h with hc
    · simp at h
    · exact h
  | tried call hs =>
    refine hd.of_le hp (fun _ _ => hs) fun p c h => ?_
    rw [trial_insert_iff] at h
    split_ifs at h with hc
    · simp only [Flight.mk.injEq, true_and] at h
      exact .inr ⟨h.symm, hs⟩
    · exact .inl h
  | absent => exact hd
  | trialSucceeded | trialFailed | tripped =>
    refine hd.of_le hp (fun he => absurd he (Nat.succ_ne_self _)) fun p c h => .inl ?_
    exact (trial_erase_iff.mp h).2
  | succeeded | failed | trialCancelled | cancelled =>
    exact hd.of_le hp (fun _ h => h) fun p c h => .inl (trial_erase_iff.mp h).2
  | advanced | cleared => exact hd.of_le hp (fun _ h => h) fun p c h => .inl h
  | reset =>
    exact hd.of_le hp (fun he => absurd he (Nat.succ_ne_self _)) fun p c h => .inl h

/-! ## One moment -/

theorem Step.start_period (h : Step r (.start c) r') : r'.period = r.looked.period := by
  cases h with
  | refused | tried => rfl
  | admitted call hs => rw [looked_of_ne_opened (by simp [hs])]
  | absent call he => cases he

/-- The outcome of a trial, late or not, ends a half-open period. -/
theorem Step.outcome_leaves (h : Step r e r') (he : e = .succeed c ∨ e = .fail c)
    (ht : r.Trial p c) (hs : r.breaker.state = .halfOpen) : r'.breaker.state ≠ .halfOpen := by
  have hn : ∀ f, r.flights.get? c = some f → f.permit.trial = true := fun f hf => by
    rw [← Option.some.inj (ht.symm.trans hf)]
  rcases he with rfl | rfl
  · cases h with
    | absent call he hf =>
      cases he
      cases hf.symm.trans ht
    | trialSucceeded => simp
    | succeeded _ f hf hx => exact absurd ⟨hn f hf, hs⟩ hx
  · cases h with
    | absent call he hf =>
      cases he
      cases hf.symm.trans ht
    | trialFailed | tripped => simp
    | failed _ f hf hx => exact absurd ⟨hn f hf, hs⟩ hx

/-- Only outcomes of trials and resets end a half-open period. -/
theorem Step.leaves (h : Step r e r') (hs : r.breaker.state = .halfOpen)
    (hs' : r'.breaker.state ≠ .halfOpen) :
    e = .reset ∨ ∃ c p, (e = .succeed c ∨ e = .fail c) ∧ r.Trial p c := by
  have hl : r.looked = r := looked_of_ne_opened (by simp [hs])
  cases h with
  | refused | observed => exact absurd (by rwa [hl]) hs'
  | admitted | absent | succeeded | failed | trialCancelled | cancelled | advanced =>
    exact absurd hs hs'
  | tried call h => exact absurd h hs'
  | trialSucceeded call f hf ht => exact .inr ⟨call, _, .inl rfl, trial_of_get hf ht⟩
  | trialFailed call f hf ht => exact .inr ⟨call, _, .inr rfl, trial_of_get hf ht⟩
  | tripped call f hf hc => simp [hs] at hc
  | cleared | reset => exact .inl rfl

/-- A trial that is let through is new to its period, unless one lost its slot. -/
theorem Dated.not_trial_of_acquire (hd : r.Dated) (hx : ¬ r.Exposed)
    (ha : (r.breaker.acquire r.now).1 = some ⟨true⟩) : ¬ r.Trial r.looked.period d := by
  obtain ⟨hs, ht⟩ := acquire_fst_trial_iff.mp ha
  intro h
  rcases r.looked_cases with ⟨_, he⟩ | he
  · have hlt := hd.le _ d h
    rw [he] at hlt
    exact Nat.not_succ_le_self _ hlt
  · change r.looked.breaker.state = .halfOpen at hs
    change r.looked.breaker.trialInFlight = false at ht
    rw [he] at hs ht h
    exact hx ⟨hs, ht, d, h⟩

theorem Step.single (h : Step r e r') (hr : r.Single)
    (hnew : ∀ call, e = .start call → (r.breaker.acquire r.now).1 = some ⟨true⟩ →
      ∀ other, ¬ r.Trial r'.period other) : r'.Single := by
  cases h with
  | refused | absent | advanced | observed | cleared | reset => exact hr
  | admitted call =>
    intro p c d hc hd
    rw [trial_insert_iff] at hc hd
    split_ifs at hc hd <;> first | exact hr p c d hc hd | simp_all
  | tried call hs ht =>
    have hn := hnew call rfl (acquire_fst_trial_iff.mpr ⟨hs, ht⟩)
    intro p c d hc hd
    rw [trial_insert_iff] at hc hd
    split_ifs at hc hd with h₁ h₂ h₂
    · exact h₁.symm.trans h₂
    · cases hc
      exact absurd hd (hn d)
    · cases hd
      exact absurd hc (hn c)
    · exact hr p c d hc hd
  | trialSucceeded | succeeded | trialFailed | tripped | failed | trialCancelled | cancelled =>
    exact fun p c d hc hd => hr p c d (trial_erase_iff.mp hc).2 (trial_erase_iff.mp hd).2

end Run

namespace Moment

variable {m : Moment}

theorem Orderly.not_lateOutcome (h : m.Orderly) : ¬ m.LateOutcome := by
  rintro ⟨hs, call, he, p, hp, hne⟩
  rcases h.own hs (m.step.outcome_leaves he hp hs) with hr | ⟨c, hc, ht⟩
  · rcases he with he | he <;> simp [he] at hr
  · have hcall : c = call := by
      rcases he with he | he <;> rcases hc with hc | hc <;> simpa [he] using hc.symm
    subst hcall
    exact hne (hp.unique ht)

theorem Orderly.not_intrudes (h : m.Orderly) : ¬ m.Intrudes := by
  rintro ⟨⟨hs, hf, c, hc⟩, call, he⟩
  have hl : m.before.looked = m.before := Run.looked_of_ne_opened (by simp [hs])
  have hp : m.after.period = m.before.period := by
    have hstep := m.step
    rw [he] at hstep
    rw [hstep.start_period, hl]
  have hb : m.before.breaker.observed m.before.now = m.before.breaker :=
    observed_of_ne_opened (by simp [hs])
  have ha := acquire_fst_trial_iff.mpr ⟨by rwa [hb], by rwa [hb]⟩
  exact h.alone call he ha c (hp ▸ hc)

/-- The rule holds at a moment when no late trial decides and no call intrudes. -/
theorem orderly_iff (hd : m.before.Dated) (hs : m.before.Single) :
    m.Orderly ↔ ¬ m.LateOutcome ∧ ¬ m.Intrudes := by
  refine ⟨fun h => ⟨h.not_lateOutcome, h.not_intrudes⟩, ?_⟩
  rintro ⟨hl, hi⟩
  have halone : ∀ call, m.event = .start call →
      (m.before.breaker.acquire m.before.now).1 = some ⟨true⟩ →
      ∀ other, ¬ m.before.Trial m.after.period other := by
    intro call he ha other
    have hstep := m.step
    rw [he] at hstep
    rw [hstep.start_period]
    exact hd.not_trial_of_acquire (fun hx => hi ⟨hx, call, he⟩) ha
  refine ⟨halone, m.step.single hs halone, fun hb ha => ?_⟩
  refine (m.step.leaves hb ha).imp_right ?_
  rintro ⟨c, p, he, ht⟩
  have hp : p = m.before.period := by
    by_contra hne
    exact hl ⟨hb, c, he, p, ht, hne⟩
  exact ⟨c, he, hp ▸ ht⟩

end Moment

namespace Run

/-! ## Whole runs -/

variable {r r' : Run} {e : Event} {es : List Event} {p : Nat} {c : String}
variable {name : String} {config : BreakerConfig} {now : Instant}

theorem not_trial_init : ¬ (init name config now).Trial p c := by
  simp [Trial, init]

theorem dated_init : (init name config now).Dated :=
  ⟨fun _ _ h => absurd h not_trial_init, fun _ h => absurd h not_trial_init⟩

theorem single_init : (init name config now).Single :=
  fun _ _ _ h => absurd h not_trial_init

theorem held_init : (init name config now).Held :=
  fun _ _ h => absurd h not_trial_init

theorem Dated.steps (hd : r.Dated) (es : List Event) : (r.steps es).Dated :=
  steps_induction hd (fun h hr => h.dated hr) es

theorem SingleTrial.single (h : r.SingleTrial es) (hr : r.Single) : (r.steps es).Single := by
  induction es using List.reverseRecOn with
  | nil => exact hr
  | append_singleton es e _ =>
    rw [steps_concat]
    exact (forall_history_concat.mp h).2.single

/-- The rule holds along a run when no late trial decides and no call intrudes. -/
theorem singleTrial_iff (hd : r.Dated) (hr : r.Single) (es : List Event) :
    r.SingleTrial es ↔ ∀ m ∈ r.history es, ¬ m.LateOutcome ∧ ¬ m.Intrudes := by
  induction es using List.reverseRecOn with
  | nil => simp [SingleTrial, history]
  | append_singleton es e ih =>
    rw [SingleTrial, forall_history_concat, forall_history_concat, ← ih]
    exact and_congr_right fun h => Moment.orderly_iff (hd.steps es) (SingleTrial.single h hr)

/-! ## Runs whose resets find no trial -/

theorem Held.looked (hh : r.Held) : r.looked.Held := by
  rcases r.looked_cases with ⟨hs, he⟩ | he
  · intro p c h
    have hb := (hh p c (by rwa [he] at h)).2.1
    simp [hs] at hb
  · rwa [he]

/-- No trial is in flight while the slot is free. -/
theorem Held.not_trial (hh : r.Held) (hf : r.breaker.trialInFlight = false) : ¬ r.Trial p c := by
  intro h
  have ht := (hh p c h).2.2
  simp [hf] at ht

/-- When the trial in flight ends, no other one is left. -/
theorem Held.not_trial_erase {f : Flight} {b : Breaker} (hh : r.Held) (hr : r.Single)
    (hf : r.flights.get? c = some f) (ht : f.permit.trial = true) (q : Nat) (d : String) :
    ¬ Trial { r with breaker := b, flights := r.flights.erase c } q d := by
  intro h
  obtain ⟨hne, hd⟩ := trial_erase_iff.mp h
  have hc := trial_of_get hf ht
  have hq : q = f.period := (hh q d hd).1.trans (hh _ c hc).1.symm
  exact hne (hr _ c d hc (hq ▸ hd))

theorem Step.held (h : Step r e r') (hh : r.Held) (hr : r.Single)
    (hc : e = .reset → ∀ p c, ¬ r.Trial p c) : r'.Held := by
  have hclosed : r.breaker.state = .closed → ∀ p c, ¬ r.Trial p c := by
    intro hs p c ht
    have hb := (hh p c ht).2.1
    simp [hs] at hb
  cases h with
  | refused | observed => exact hh.looked
  | absent => exact hh
  | admitted call hs =>
    intro p c ht
    rw [trial_insert_iff] at ht
    split_ifs at ht
    · simp at ht
    · exact absurd ht (hclosed hs p c)
  | tried call hs hf =>
    have hn : ∀ p c, ¬ r.Trial p c := fun p c => hh.looked.not_trial (r := r.looked) hf
    intro p c ht
    rw [trial_insert_iff] at ht
    split_ifs at ht
    · cases ht
      have hcall : r.holdsTrial call = false := by
        rw [Bool.eq_false_iff, Ne, holdsTrial_iff]
        exact fun ⟨p, hp⟩ => hn p call hp
      exact ⟨rfl, hs, by simp [hcall]⟩
    · exact absurd ht (hn p c)
  | trialSucceeded call f hf ht | trialFailed call f hf ht | trialCancelled call f hf ht =>
    exact fun p c h => absurd h (hh.not_trial_erase hr hf ht p c)
  | tripped call f hf hs =>
    exact fun p c h => absurd (trial_erase_iff.mp h).2 (hclosed hs p c)
  | succeeded | failed | cancelled => exact fun p c h => hh p c (trial_erase_iff.mp h).2
  | advanced | cleared => exact fun p c h => hh p c h
  | reset => exact fun p c h => absurd h (hc rfl p c)

theorem Held.not_lateOutcome {m : Moment} (hh : m.before.Held) : ¬ m.LateOutcome := by
  rintro ⟨_, c, _, p, hp, hne⟩
  exact hne (hh p c hp).1

theorem Held.not_intrudes {m : Moment} (hh : m.before.Held) : ¬ m.Intrudes := by
  rintro ⟨⟨_, hf, c, hc⟩, _⟩
  exact hh.not_trial hf hc

theorem Calm.singleTrial (h : r.Calm es) (hd : r.Dated) (hr : r.Single) (hh : r.Held) :
    r.SingleTrial es ∧ (r.steps es).Held := by
  induction es using List.reverseRecOn with
  | nil => exact ⟨by simp [SingleTrial, history], hh⟩
  | append_singleton es e ih =>
    obtain ⟨hes, he⟩ := forall_history_concat.mp h
    obtain ⟨hst, hheld⟩ := ih hes
    have hsingle := hst.single hr
    refine ⟨forall_history_concat.mpr ⟨hst, ?_⟩, ?_⟩
    · exact (Moment.orderly_iff (hd.steps es) hsingle).mpr
        ⟨hheld.not_lateOutcome, hheld.not_intrudes⟩
    · rw [steps_concat]
      exact ((r.steps es).step_spec e).held hheld hsingle he

end Run
end Breaker
end Interchange
