import Interchange.Proofs.Call.Course

/-! # Fates of calls

A call that was started is in flight, has ended, or was given up where it waited. Up to then it has
done some steps, and between these other calls may have changed the state in any way.
-/

namespace Interchange

/-- What has become of a call. -/
inductive Fate (α : Type) where
  | inFlight
  | ended (a : α)
  | givenUp

/-- What has become of a call whose result is passed on changed. -/
def Fate.map {α β : Type} (f : α → β) : Fate α → Fate β
  | .inFlight => .inFlight
  | .ended a => .ended (f a)
  | .givenUp => .givenUp

/-- What has become of a call that is no longer in flight: it has ended with a result or, without
one, was given up. -/
def Fate.settled {α : Type} : Option α → Fate α
  | some a => .ended a
  | none => .givenUp

namespace Call

variable {σ α β : Type} {c : Call σ α} {f : σ → σ} {k : α → Call σ β}
  {l l' : List (σ × σ)} {s t : σ}

/-- What a call does until its fate, as the states before and after each of its steps. -/
inductive Goes : Call σ α → List (σ × σ) → Fate α → Prop
  | done (a : α) : Goes (done a) [] (.ended a)
  | act {f : σ → σ} {next : σ → Call σ α} {l : List (σ × σ)} {fate : Fate α} (s : σ) :
      Goes (next s) l fate → Goes (act f next) ((s, f s) :: l) fate
  | waits {ready : σ → Bool} {abandon : σ → σ} {next : Call σ α} :
      Goes (wait ready abandon next) [] .inFlight
  | givenUp {ready : σ → Bool} {abandon : σ → σ} {next : Call σ α} (s : σ) :
      Goes (wait ready abandon next) [(s, abandon s)] .givenUp
  | passes {ready : σ → Bool} {abandon : σ → σ} {next : Call σ α} {l : List (σ × σ)}
      {fate : Fate α} (s : σ) : ready s = true → Goes next l fate →
      Goes (wait ready abandon next) l fate

/-! ## Calls in two parts -/

theorem goes_andThen {fate : Fate β} (h : (c.andThen k).Goes l fate) :
    (∃ a l₁ l₂, c.Goes l₁ (.ended a) ∧ (k a).Goes l₂ fate ∧ l = l₁ ++ l₂) ∨
      (fate = .inFlight ∧ c.Goes l .inFlight) ∨ fate = .givenUp ∧ c.Goes l .givenUp := by
  -- along the first part: it ends and the second one begins, or its own fate is that of the whole
  induction c generalizing l with
  | done a => exact .inl ⟨a, [], l, .done a, h, rfl⟩
  | act f next ih =>
    cases h with
    | act s h =>
      rcases ih s h with ⟨a, l₁, l₂, h₁, h₂, rfl⟩ | ⟨rfl, h₁⟩ | ⟨rfl, h₁⟩
      · exact .inl ⟨a, _, l₂, .act s h₁, h₂, rfl⟩
      · exact .inr (.inl ⟨rfl, .act s h₁⟩)
      · exact .inr (.inr ⟨rfl, .act s h₁⟩)
  | wait ready abandon next ih =>
    cases h with
    | waits => exact .inr (.inl ⟨rfl, .waits⟩)
    | givenUp s => exact .inr (.inr ⟨rfl, .givenUp s⟩)
    | passes s hs h =>
      rcases ih h with ⟨a, l₁, l₂, h₁, h₂, rfl⟩ | ⟨rfl, h₁⟩ | ⟨rfl, h₁⟩
      · exact .inl ⟨a, l₁, l₂, .passes s hs h₁, h₂, rfl⟩
      · exact .inr (.inl ⟨rfl, .passes s hs h₁⟩)
      · exact .inr (.inr ⟨rfl, .passes s hs h₁⟩)

/-- What is run when a call is given up comes last, in one step with what the call itself does
then. -/
theorem goes_onAbandon {fate : Fate α} (h : (c.onAbandon f).Goes l fate) :
    (fate ≠ .givenUp ∧ c.Goes l fate) ∨
      fate = .givenUp ∧ ∃ l' s t, l = l' ++ [(s, f t)] ∧ c.Goes (l' ++ [(s, t)]) .givenUp := by
  induction c generalizing l with
  | done a =>
    cases h with
    | done => exact .inl ⟨nofun, .done a⟩
  | act g next ih =>
    cases h with
    | act s h =>
      rcases ih s h with ⟨hn, h'⟩ | ⟨rfl, l', t, u, rfl, h'⟩
      · exact .inl ⟨hn, .act s h'⟩
      · exact .inr ⟨rfl, (s, g s) :: l', t, u, rfl, .act s h'⟩
  | wait ready abandon next ih =>
    cases h with
    | waits => exact .inl ⟨nofun, .waits⟩
    | givenUp s => exact .inr ⟨rfl, [], s, abandon s, rfl, .givenUp s⟩
    | passes s hs h =>
      rcases ih h with ⟨hn, h'⟩ | ⟨rfl, l', t, u, rfl, h'⟩
      · exact .inl ⟨hn, .passes s hs h'⟩
      · exact .inr ⟨rfl, l', t, u, rfl, .passes s hs h'⟩

/-! ## Calls of one kind -/

/-- All that a call may do, whether it is given up or not, is of one kind. -/
inductive Keeps (P : σ × σ → Prop) : Call σ α → Prop
  | done (a : α) : Keeps P (done a)
  | act {f : σ → σ} {next : σ → Call σ α} : (∀ s, P (s, f s)) → (∀ s, Keeps P (next s)) →
      Keeps P (act f next)
  | wait {ready : σ → Bool} {abandon : σ → σ} {next : Call σ α} : (∀ s, P (s, abandon s)) →
      Keeps P next → Keeps P (wait ready abandon next)

namespace Keeps

variable {P : σ × σ → Prop}

theorem andThen (hc : c.Keeps P) (hk : ∀ a, (k a).Keeps P) : (c.andThen k).Keeps P := by
  induction hc with
  | done a => exact hk a
  | act hf _ ih => exact .act hf ih
  | wait ha _ ih => exact .wait ha ih

theorem onAbandon (hc : c.Keeps P) (hf : ∀ s t, P (s, t) → P (s, f t)) :
    (c.onAbandon f).Keeps P := by
  induction hc with
  | done a => exact .done a
  | act hg _ ih => exact .act hg ih
  | wait ha _ ih => exact .wait (fun s => hf _ _ (ha s)) ih

theorem mono {P' : σ × σ → Prop} (hc : c.Keeps P) (h : ∀ m, P m → P' m) : c.Keeps P' := by
  induction hc with
  | done a => exact .done a
  | act hf _ ih => exact .act (fun s => h _ (hf s)) ih
  | wait ha _ ih => exact .wait (fun s => h _ (ha s)) ih

theorem forall_mem {fate : Fate α} (hc : c.Keeps P) (h : c.Goes l fate) : ∀ m ∈ l, P m := by
  induction h with
  | done a => simp
  | act s _ ih =>
    cases hc with
    | act hf hn => exact List.forall_mem_cons.mpr ⟨hf s, ih (hn s)⟩
  | waits => simp
  | givenUp s =>
    cases hc with
    | wait ha _ => simpa using ha s
  | passes _ _ _ ih =>
    cases hc with
    | wait _ hn => exact ih hn

theorem mem_course {P : σ × σ → Prop} (hc : c.Keeps P) {met : Nat → σ} :
    ∀ m ∈ (c.course met).1, P m := by
  induction hc generalizing met with
  | done a => simp [course]
  | act hf _ ih => exact List.forall_mem_cons.mpr ⟨hf _, ih _⟩
  | wait _ _ ih => exact ih

end Keeps

/-- A call does at most one thing that is not of one kind, whether it is given up or not. -/
inductive Once (P Q : σ × σ → Prop) : Call σ α → Prop
  | done (a : α) : Once P Q (done a)
  | act {f : σ → σ} {next : σ → Call σ α} : (∀ s, P (s, f s)) → (∀ s, Once P Q (next s)) →
      Once P Q (act f next)
  | now {f : σ → σ} {next : σ → Call σ α} : (∀ s, Q (s, f s)) → (∀ s, Keeps P (next s)) →
      Once P Q (act f next)
  | wait {ready : σ → Bool} {abandon : σ → σ} {next : Call σ α} : (∀ s, P (s, abandon s)) →
      Once P Q next → Once P Q (wait ready abandon next)

namespace Once

variable {P Q : σ × σ → Prop}

theorem of_keeps (hc : c.Keeps P) : c.Once P Q := by
  induction hc with
  | done a => exact .done a
  | act hf _ ih => exact .act hf ih
  | wait ha _ ih => exact .wait ha ih

theorem andThen_keeps (hc : c.Once P Q) (hk : ∀ a, (k a).Keeps P) : (c.andThen k).Once P Q := by
  induction hc with
  | done a => exact of_keeps (hk a)
  | act hf _ ih => exact .act hf ih
  | now hf hn => exact .now hf fun s => (hn s).andThen hk
  | wait ha _ ih => exact .wait ha ih

theorem keeps_andThen (hc : c.Keeps P) (hk : ∀ a, (k a).Once P Q) : (c.andThen k).Once P Q := by
  induction hc with
  | done a => exact hk a
  | act hf _ ih => exact .act hf ih
  | wait ha _ ih => exact .wait ha ih

theorem onAbandon (hc : c.Once P Q) (hf : ∀ s t, P (s, t) → P (s, f t)) :
    (c.onAbandon f).Once P Q := by
  induction hc with
  | done a => exact .done a
  | act hg _ ih => exact .act hg ih
  | now hg hn => exact .now hg fun s => (hn s).onAbandon hf
  | wait ha _ ih => exact .wait (fun s => hf _ _ (ha s)) ih

theorem cases_goes {fate : Fate α} (hc : c.Once P Q) (h : c.Goes l fate) :
    (∀ m ∈ l, P m) ∨
      ∃ l₁ m l₂, l = l₁ ++ m :: l₂ ∧ (∀ m ∈ l₁, P m) ∧ Q m ∧ ∀ m ∈ l₂, P m := by
  induction h with
  | done a => exact .inl nofun
  | act s h ih =>
    cases hc with
    | act hf hn =>
      rcases ih (hn s) with hl | ⟨l₁, m, l₂, rfl, h₁, hm, h₂⟩
      · exact .inl (List.forall_mem_cons.mpr ⟨hf s, hl⟩)
      · exact .inr ⟨_ :: l₁, m, l₂, rfl, List.forall_mem_cons.mpr ⟨hf s, h₁⟩, hm, h₂⟩
    | now hf hn => exact .inr ⟨[], _, _, rfl, nofun, hf s, (hn s).forall_mem h⟩
  | waits => exact .inl nofun
  | givenUp s =>
    cases hc with
    | wait ha _ => exact .inl (by simpa using ha s)
  | passes s _ _ ih =>
    cases hc with
    | wait _ hn => exact ih hn

end Once

/-! ## Polled calls -/

/-- A call has come, by some steps, to what is left of it. -/
def Leads (c : Call σ α) (l : List (σ × σ)) (d : Call σ α) : Prop :=
  ∀ l' fate, d.Goes l' fate → c.Goes (l ++ l') fate

theorem leads_refl (c : Call σ α) : c.Leads [] c := fun _ _ h => h

theorem Leads.trans {d e : Call σ α} (h : c.Leads l d) (h' : d.Leads l' e) :
    c.Leads (l ++ l') e := by
  intro m fate he
  rw [List.append_assoc]
  exact h _ _ (h' m fate he)

theorem leads_poll (c : Call σ α) (s : σ) : c.Leads (c.polled s) (c.poll s).1 := by
  induction c generalizing s with
  | done a => exact leads_refl _
  | act f next ih => exact fun l fate h => .act s (ih s (f s) l fate h)
  | wait ready abandon next ih =>
    by_cases h : ready s
    · simp only [poll, polled, if_pos h]
      exact fun l fate hl => .passes s h (ih s l fate hl)
    · simp only [poll, polled, if_neg h]
      exact leads_refl _

theorem poll_cases (c : Call σ α) (s : σ) :
    (∃ a, (c.poll s).1 = Call.done a) ∨
      ∃ ready abandon next, (c.poll s).1 = wait ready abandon next := by
  induction c generalizing s with
  | done a => exact .inl ⟨a, rfl⟩
  | act f next ih => exact ih s (f s)
  | wait ready abandon next ih =>
    by_cases h : ready s
    · simpa only [poll, if_pos h] using ih s
    · simp only [poll, if_neg h]
      exact .inr ⟨_, _, _, rfl⟩

/-- Steps that follow one another from a state to another one. -/
inductive Linked : σ → List (σ × σ) → σ → Prop
  | nil (s : σ) : Linked s [] s
  | cons {s t u : σ} {l : List (σ × σ)} : Linked t l u → Linked s ((s, t) :: l) u

theorem linked_poll (c : Call σ α) (s : σ) : Linked s (c.polled s) (c.poll s).2 := by
  induction c generalizing s with
  | done a => exact .nil s
  | act f next ih => exact .cons (ih s (f s))
  | wait ready abandon next ih =>
    by_cases h : ready s
    · simpa only [poll, polled, if_pos h] using ih s
    · simp only [poll, polled, if_neg h]
      exact .nil s

/-! ## The states at which a call is polled -/

section

variable {polls : List σ} {a : α} {m : σ × σ} {v : σ → β} {i : Nat}

/-- A call ends when it is polled at the given states, one after another. -/
inductive EndsAt : Call σ α → List σ → List (σ × σ) → α → Prop
  | done (a : α) : EndsAt (done a) [] [] a
  | poll {c : Call σ α} {polls : List σ} {l : List (σ × σ)} {a : α} (s : σ) :
      EndsAt (c.poll s).1 polls l a → EndsAt c (s :: polls) (c.polled s ++ l) a

theorem EndsAt.ends (h : c.EndsAt polls l a) : c.Ends l a := by
  induction h with
  | done a => exact .done a
  | poll s _ ih => exact .poll s ih

/-- A step meets what was there at first as far as no step before it has changed it. -/
theorem Linked.view_eq (h : Linked s l t) (hm : l[i]? = some m)
    (hv : ∀ n ∈ l.take i, v n.2 = v n.1) : v m.1 = v s := by
  induction h generalizing i with
  | nil s => simp at hm
  | @cons s t u l _ ih =>
    cases i with
    | zero =>
      obtain rfl : (s, t) = m := by simpa using hm
      rfl
    | succ i =>
      obtain ⟨hst, hl⟩ := List.forall_mem_cons.mp hv
      exact (ih (by simpa using hm) hl).trans hst

/-- What no earlier step of a call has changed is met as it was at one of the polls. -/
theorem EndsAt.view_eq (h : c.EndsAt polls l a) (hm : l[i]? = some m)
    (hv : ∀ n ∈ l.take i, v n.2 = v n.1) : ∃ s ∈ polls, v m.1 = v s := by
  induction h generalizing i with
  | done a => simp at hm
  | @poll c polls l a s _ ih =>
    rw [List.take_append] at hv
    obtain ⟨hfirst, hrest⟩ := List.forall_mem_append.mp hv
    rcases Nat.lt_or_ge i (c.polled s).length with hi | hi
    · rw [List.getElem?_append_left hi] at hm
      exact ⟨s, List.mem_cons_self, (linked_poll c s).view_eq hm hfirst⟩
    · rw [List.getElem?_append_right hi] at hm
      obtain ⟨t, ht, h⟩ := ih hm hrest
      exact ⟨t, List.mem_cons_of_mem _ ht, h⟩

theorem EndsAt.view_meet (h : c.EndsAt polls l a) (met : Nat → σ) (hi : i < l.length)
    (hv : ∀ n ∈ l.take i, v n.2 = v n.1) :
    ∃ s ∈ polls, v (meet (l.map Prod.fst) met i) = v s := by
  have hm := course_met c (meet (l.map Prod.fst) met) i l[i]
  rw [h.ends.course_eq met] at hm
  rw [← hm (List.getElem?_eq_getElem hi)]
  exact h.view_eq (List.getElem?_eq_getElem hi) hv

end

end Call
end Interchange
