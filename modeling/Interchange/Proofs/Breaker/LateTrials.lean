import Interchange.Proofs.Breaker.Trials

/-! # Late trials

A reset that finds a trial in flight makes it a late one. From there the circuit can be opened and
half opened again, and the late trial then decides over a period that is not its own. Main
statement: when exactly the single-trial rule holds, and that such a reset always lets it be broken.
-/

namespace Interchange
namespace Breaker
namespace Run

variable {r r' : Run} {e : Event} {p n : Nat} {c d : String}

/-! ## How a slot is lost -/

theorem exposed_looked (h : r.looked.Exposed) (hd : r.Dated) : r.Exposed := by
  rcases r.looked_cases with ⟨_, he⟩ | he
  · obtain ⟨_, _, c, hc⟩ := h
    have hle := hd.le _ c hc
    rw [he] at hle
    exact absurd hle (Nat.not_succ_le_self _)
  · rwa [he] at h

/-- The slot of a trial in flight is lost only when a late trial is given up. -/
theorem Step.exposed_cause (h : Step r e r') (hd : r.Dated) (hs : r.Single) (hx : r'.Exposed) :
    r.Exposed ∨
      ∃ c p, (e = .cancel c ∨ e = .start c) ∧ r.Trial p c ∧ p ≠ r'.period := by
  obtain ⟨hh, hf, c, hc⟩ := hx
  cases h with
  | refused | observed => exact .inl (exposed_looked ⟨hh, hf, c, hc⟩ hd)
  | absent | advanced | cleared => exact .inl ⟨hh, hf, c, hc⟩
  | admitted call hs => simp [hs] at hh
  | trialSucceeded | trialFailed | tripped | reset => simp at hh
  | succeeded | failed | cancelled => exact .inl ⟨hh, hf, c, (trial_erase_iff.mp hc).2⟩
  | tried call hl ht =>
    have hcall : r.holdsTrial call = true := by simpa using hf
    obtain ⟨p, hp⟩ := holdsTrial_iff.mp hcall
    by_cases he : p = r.looked.period
    · exact .inl (exposed_looked ⟨hl, ht, call, he ▸ hp⟩ hd)
    · exact .inr ⟨call, p, .inr rfl, hp, he⟩
  | trialCancelled call f hg ht =>
    obtain ⟨hne, hc⟩ := trial_erase_iff.mp hc
    refine .inr ⟨call, f.period, .inl rfl, trial_of_get hg ht, fun he => hne ?_⟩
    exact hs _ call c (trial_of_get hg ht) (he ▸ hc)

/-! ## How a late trial decides -/

/-- Calls that are let through and fail, one after another. -/
def failures (d : String) : Nat → List Event
  | 0 => []
  | n + 1 => .start d :: .fail d :: failures d n

theorem step_start_closed (hs : r.breaker.state = .closed) (d : String) :
    (r.step (.start d)).1 = { r with flights := r.flights.insert d ⟨⟨false⟩, r.period⟩ } := by
  have h := r.step_spec (.start d)
  generalize (r.step (.start d)).1 = r' at h
  have hl : r.looked = r := looked_of_ne_opened (by simp [hs])
  cases h with
  | refused _ hr => simp [hl, Refusing, hs] at hr
  | admitted => rfl
  | tried _ hh => simp [hl, hs] at hh
  | absent _ he => cases he

theorem step_fail_closed {f : Flight} (hs : r.breaker.state = .closed)
    (hf : r.flights.get? d = some f) :
    (r.step (.fail d)).1 =
      { r with
        breaker :=
          if r.breaker.config.failureThreshold ≤ (r.breaker.counted r.now).failureCount then
            (r.breaker.counted r.now).turned .opened
          else r.breaker.counted r.now
        flights := r.flights.erase d } := by
  have h := r.step_spec (.fail d)
  generalize (r.step (.fail d)).1 = r' at h
  cases h with
  | absent _ he hn =>
    cases he
    cases hn.symm.trans hf
  | trialFailed _ _ _ _ hh => simp [hs] at hh
  | tripped _ _ _ _ ht => rw [if_pos ht]
  | failed _ _ _ _ ht => rw [if_neg (Nat.not_le.mpr (ht hs))]

/-- The run after a call was let through a closed circuit and failed. -/
def struck (r : Run) (d : String) : Run :=
  { r with
    breaker :=
      if r.breaker.config.failureThreshold ≤ (r.breaker.counted r.now).failureCount then
        (r.breaker.counted r.now).turned .opened
      else r.breaker.counted r.now
    flights := (r.flights.insert d ⟨⟨false⟩, r.period⟩).erase d }

theorem steps_failures_succ (hs : r.breaker.state = .closed) (d : String) (n : Nat) :
    r.steps (failures d (n + 1)) = (r.struck d).steps (failures d n) := by
  rw [failures, steps_cons, steps_cons, step_start_closed hs]
  rw [step_fail_closed (r := { r with flights := r.flights.insert d ⟨⟨false⟩, r.period⟩ }) hs
    (Dict.get?_insert_self ..)]
  rfl

theorem trial_struck (hc : d ≠ c) (h : r.Trial p c) : (r.struck d).Trial p c := by
  change Dict.get? (Dict.erase (Dict.insert r.flights d _) d) c = _
  rw [Dict.get?_erase, if_neg hc, Dict.get?_insert_of_ne _ _ hc]
  exact h

/-- Enough failures open a closed circuit; the trials of other calls stay in flight. -/
theorem steps_failures (hs : r.breaker.state = .closed)
    (hn : r.breaker.failureCount + (n + 1) = r.breaker.config.failureThreshold)
    (hfit : r.breaker.config.failureThreshold ≤ maxFailures) :
    (r.steps (failures d (n + 1))).breaker.state = .opened ∧
      (r.steps (failures d (n + 1))).breaker.lastFailure =
        some (r.steps (failures d (n + 1))).now ∧
      ∀ p c, d ≠ c → r.Trial p c → (r.steps (failures d (n + 1))).Trial p c := by
  induction n generalizing r with
  | zero =>
    have hcount := counted_failureCount (b := r.breaker) r.now (by omega)
    have hb : (r.struck d).breaker = (r.breaker.counted r.now).turned .opened :=
      if_pos (by omega)
    rw [steps_failures_succ hs, failures, steps_nil, hb]
    exact ⟨rfl, rfl, fun p c hc => trial_struck hc⟩
  | succ n ih =>
    have hcount := counted_failureCount (b := r.breaker) r.now (by omega)
    have hb : (r.struck d).breaker = r.breaker.counted r.now := if_neg (by omega)
    have hs' : (r.struck d).breaker.state = .closed := by rw [hb]; exact hs
    have hn' : (r.struck d).breaker.failureCount + (n + 1) =
        (r.struck d).breaker.config.failureThreshold := by
      rw [hb, hcount]
      change _ = r.breaker.config.failureThreshold
      omega
    have hfit' : (r.struck d).breaker.config.failureThreshold ≤ maxFailures := by
      rw [hb]
      exact hfit
    obtain ⟨ho, hl, ht⟩ := ih hs' hn' hfit'
    rw [steps_failures_succ hs]
    exact ⟨ho, hl, fun p c hc h => ht p c hc (trial_struck hc h)⟩

/-- The end of the wait of an open circuit, and a call. -/
def retry (b : Breaker) (d : String) : List Event :=
  [.advance ⟨b.config.resetTimeout.nanos + 1⟩, .start d]

/-- An open circuit that has waited long enough lets a trial through. -/
theorem steps_retry (hs : r.breaker.state = .opened) (hl : r.breaker.lastFailure = some r.now)
    (d : String) :
    (r.steps (retry r.breaker d)).breaker.state = .halfOpen ∧
      ∀ p c, d ≠ c → r.Trial p c → (r.steps (retry r.breaker d)).Trial p c := by
  let t : Run := { r with now := r.now + (r.breaker.config.resetTimeout.nanos + 1) }
  have he : t.breaker.timeoutElapsed t.now = true := by
    refine timeoutElapsed_iff.mpr ⟨hs, fun u hu => ?_⟩
    obtain rfl : r.now = u := Option.some.inj (hl.symm.trans hu)
    change r.breaker.config.resetTimeout.nanos <
      r.now + (r.breaker.config.resetTimeout.nanos + 1) - r.now
    omega
  have hb : t.looked.breaker = r.breaker.turned .halfOpen := observed_of_elapsed he
  have h : Step t (.start d) (r.steps (retry r.breaker d)) := t.step_spec (.start d)
  generalize r.steps (retry r.breaker d) = s at h
  cases h with
  | refused _ hr =>
    rw [hb] at hr
    rcases hr with hr | ⟨_, hr⟩ <;> simp at hr
  | admitted _ hc => cases hs.symm.trans hc
  | absent _ he => cases he
  | tried _ hh =>
    refine ⟨hh, fun p c hc hp => ?_⟩
    rw [trial_insert_iff, if_neg hc]
    exact hp

/-- A late trial whose call succeeds in a half-open period ends it. -/
theorem not_orderly_of_late (hs : r.breaker.state = .halfOpen) (hl : r.Late c) :
    ¬ Moment.Orderly ⟨r, .succeed c⟩ :=
  fun h => h.not_lateOutcome ⟨hs, c, .inl rfl, hl⟩

theorem step_reset_closed (r : Run) :
    (r.step .reset).1.breaker.state = .closed ∧ (r.step .reset).1.breaker.failureCount = 0 ∧
      (r.step .reset).1.flights = r.flights := by
  have h := r.step_spec .reset
  generalize (r.step .reset).1 = r' at h
  cases h with
  | cleared hs => exact ⟨hs, rfl, rfl⟩
  | reset => exact ⟨rfl, rfl, rfl⟩
  | absent _ he => cases he

/-- What follows a reset so that a trial in flight decides over a period that is not its own. -/
def misjudging (r : Run) (c d : String) : List Event :=
  let n := r.breaker.config.failureThreshold
  failures d n ++ retry ((r.step .reset).1.steps (failures d n)).breaker d ++ [.succeed c]

theorem reset_not_mem_failures (d : String) (n : Nat) : Event.reset ∉ failures d n := by
  induction n with
  | zero => simp [failures]
  | succ n ih => simp [failures, ih]

theorem reset_not_mem_misjudging : Event.reset ∉ r.misjudging c d := by
  simp [misjudging, retry, reset_not_mem_failures]

/-- A reset that finds a trial in flight lets the single-trial rule be broken. -/
theorem not_singleTrial_misjudging (hc : r.breaker.config.Accepted) (hd : r.Dated)
    (hne : d ≠ c) (ht : r.Trial p c) : ¬ r.SingleTrial (.reset :: r.misjudging c d) := by
  obtain ⟨hs, hk, hf⟩ := r.step_reset_closed
  set r₁ := (r.step .reset).1 with hr₁
  have hd₁ : r₁.Dated := (r.step_spec .reset).dated hd
  have ht₁ : r₁.Trial p c := by rw [Trial, hf]; exact ht
  have hcfg : r₁.breaker.config = r.breaker.config := (r.step_spec .reset).config_eq
  have hpos := hc.threshold_pos
  obtain ⟨n, hn⟩ : ∃ n, r.breaker.config.failureThreshold = n + 1 :=
    ⟨_, (Nat.succ_pred_eq_of_pos hpos).symm⟩
  obtain ⟨ho, hl, htr⟩ := steps_failures (r := r₁) (n := n) (d := d) hs
    (by rw [hk, hcfg, hn]; omega) (by rw [hcfg]; exact hc.fits)
  rw [← hn] at ho hl htr
  set r₂ := r₁.steps (failures d r.breaker.config.failureThreshold)
  obtain ⟨hh, hkept⟩ := steps_retry ho hl d
  set r₃ := r₂.steps (retry r₂.breaker d)
  have hp : p < r₃.period := by
    have hlt : p < r₁.period := hd₁.lt (by simp [hs]) ht₁
    have h₂ : r₁.period ≤ r₂.period := period_le_steps _ _
    have h₃ : r₂.period ≤ r₃.period := period_le_steps _ _
    omega
  have hlate : r₃.Late c := ⟨p, hkept p c hne (htr p c hne ht₁), hp.ne⟩
  intro h
  refine not_orderly_of_late hh hlate (h _ ?_)
  rw [mem_history_iff]
  refine ⟨.reset :: (failures d r.breaker.config.failureThreshold ++ retry r₂.breaker d), [],
    ?_, ?_⟩
  · simp [misjudging, ← hr₁, r₂]
  · simp [steps_append, ← hr₁, r₂, r₃]

/-! ## When the rule holds -/

theorem exists_other_name (c : String) : ∃ d : String, d ≠ c := by
  by_cases h : c = ""
  · exact ⟨"a", by simp [h]⟩
  · exact ⟨"", Ne.symm h⟩

variable {name : String} {config : BreakerConfig} {now : Instant}

/--
The single-trial rule holds along exactly the runs in which no late trial succeeds or fails while
the circuit is half open and no call comes while the trial under way is without its slot; a slot is
lost only when a late trial is given up. Every run whose resets find no trial in flight is one of
them, and after a reset that does find one there are events, without another reset, that break the
rule.
-/
theorem singleTrial_exactly (hc : config.Accepted) (es : List Event) :
    ((init name config now).SingleTrial es ↔
        ∀ m ∈ (init name config now).history es, ¬ m.LateOutcome ∧ ¬ m.Intrudes) ∧
      ((init name config now).SingleTrial es → ∀ m ∈ (init name config now).history es,
        m.after.Exposed → m.before.Exposed ∨ m.GivesUpLate) ∧
      ((init name config now).Calm es → (init name config now).SingleTrial es) ∧
      ∀ p c, ((init name config now).steps es).Trial p c →
        ∃ ds, .reset ∉ ds ∧ ¬ (init name config now).SingleTrial (es ++ .reset :: ds) := by
  refine ⟨singleTrial_iff dated_init single_init es, ?_, ?_, ?_⟩
  · intro h m hm hx
    obtain ⟨pre, post, rfl, hb⟩ := mem_history_iff.mp hm
    have hpre : (init name config now).SingleTrial pre := fun n hn =>
      h n (by rw [history_append]; exact List.mem_append_left _ hn)
    have hd : m.before.Dated := hb ▸ dated_init.steps pre
    exact m.step.exposed_cause hd (hb ▸ hpre.single single_init) hx
  · exact fun h => (h.singleTrial dated_init single_init held_init).1
  · intro p c ht
    have hc' : ((init name config now).steps es).breaker.config.Accepted := by simpa using hc
    obtain ⟨d, hd⟩ := exists_other_name c
    refine ⟨((init name config now).steps es).misjudging c d, reset_not_mem_misjudging,
      fun h => ?_⟩
    refine not_singleTrial_misjudging hc' (dated_init.steps es) hd ht fun m hm => h m ?_
    rw [history_append]
    exact List.mem_append_right _ hm

/-- A breaker that opens at the first failure lets a trial through, gives its slot back and
closes. -/
theorem singleTrial_exactly_retry :
    BreakerConfig.Accepted ⟨1, .ofMillis 1000⟩ ∧
      (init "svc" ⟨1, .ofMillis 1000⟩ 0).SingleTrial
        [.start "a", .fail "a", .advance (.ofMillis 1001), .start "b", .start "c", .cancel "b",
          .start "d", .succeed "d", .reset] := by
  have hc : BreakerConfig.Accepted ⟨1, .ofMillis 1000⟩ :=
    ⟨BreakerConfig.validate_eq_ok_iff.mpr (by decide), by decide⟩
  refine ⟨hc, (singleTrial_exactly hc _).2.2.1 ?_⟩
  intro m hm he p c ht
  simp only [history, List.mem_cons, List.not_mem_nil, or_false] at hm
  rcases hm with rfl | rfl | rfl | rfl | rfl | rfl | rfl | rfl | rfl <;> cases he
  cases ht

/--
A trial from before a reset is given up in a later half-open period, and a second trial joins the
one under way; or it succeeds, and closes the circuit over the trial under way.
-/
theorem late_trial_breaks_rule :
    BreakerConfig.Accepted ⟨1, .ofMillis 1000⟩ ∧
      ¬ (init "svc" ⟨1, .ofMillis 1000⟩ 0).SingleTrial
        [.start "call", .fail "call", .advance (.ofMillis 1001), .start "first", .reset,
          .start "call", .fail "call", .advance (.ofMillis 1001), .start "second",
          .cancel "first", .start "third"] ∧
      ¬ (init "svc" ⟨1, .ofMillis 1000⟩ 0).SingleTrial
        [.start "call", .fail "call", .advance (.ofMillis 1001), .start "first", .reset,
          .start "call", .fail "call", .advance (.ofMillis 1001), .start "second",
          .succeed "first"] := by
  refine ⟨⟨BreakerConfig.validate_eq_ok_iff.mpr (by decide), by decide⟩, fun h => ?_, fun h => ?_⟩
  · have hs := h.single single_init 5 "second" "third" rfl rfl
    exact absurd hs (by decide)
  · have ho := h _ (List.mem_of_getLast? rfl)
    exact ho.not_lateOutcome ⟨rfl, "first", .inl rfl, 2, rfl, by decide⟩

end Run
end Breaker
end Interchange
