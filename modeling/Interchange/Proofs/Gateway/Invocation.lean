import Interchange.Proofs.Gateway.Asked

/-! # Invocations

An invocation asks its breaker, then sees to the connection, and only then has the system execute
the operation. What the states that it meets say about the first two decides whether the operation
is executed.
-/

namespace Interchange
namespace Gateway

open Json Call

variable {α : Type} {a : Adapter} {met : Nat → Gateway} {e : Error}

def connected (a : Adapter) (met : Nat → Gateway) : Result Unit :=
  if (isConnected a.systemId (met 0)).1 then .ok ()
  else match replied a.systemId .connect (met 1) (met 2) with
    | .error e => .error e
    | .ok v =>
      if v = .bool true then .ok ()
      else .error (.adapter a.systemId "adapter reported connect failure")

def connection (a : Adapter) (met : Nat → Gateway) : Result Unit :=
  if (isConnected a.systemId (met 0)).1 then .ok () else connected a (later met 2)

theorem course_status_bind (systemId : String) (k : Bool → GatewayCall α) :
    (status systemId >>= k).run.course met =
      let s := isConnected systemId (met 0)
      let d := (k s.1).run.course (later met 1)
      ((met 0, s.2) :: d.1, d.2) := by
  have h : (status systemId).run.course met =
      ([(met 0, (isConnected systemId (met 0)).2)], .ok (isConnected systemId (met 0)).1) :=
    course_lift _
  exact course_bind_ok h

theorem course_connect (a : Adapter) (met : Nat → Gateway) :
    ∃ l, (connect a).run.course met = (l, connected a met) ∧ ∀ id, executed id l = [] := by
  have hasked := silent_isConnected a.systemId (met 0)
  unfold connect connected
  rw [course_status_bind]
  dsimp only
  split_ifs with h
  · exact ⟨_, rfl, by simp [hasked.asked_eq]⟩
  · obtain ⟨m, l, hask, hq, hl⟩ := course_ask a.systemId .connect (later met 1)
    have hnone : ∀ id,
        executed id ((met 0, (isConnected a.systemId (met 0)).2) :: m :: l) = [] := by
      intro id
      rw [executed_cons, executed_cons, hasked.asked_eq, hq.asked_eq, executed_of_silent hl]
      split_ifs <;> rfl
    cases hr : replied a.systemId .connect (met 1) (met 2) with
    | error e =>
      rw [course_bind_error (hask.trans (congrArg _ hr))]
      exact ⟨_, rfl, hnone⟩
    | ok v =>
      rw [course_bind_ok (hask.trans (congrArg _ hr))]
      by_cases hv : v = .bool true
      · exact ⟨_, by simp [hv], hnone⟩
      · exact ⟨_, by simp [hv], hnone⟩

theorem silent_line (s : Seat) (ticket : Nat) (g : Gateway) :
    Silent (g, (enterLine s g).2) ∧ Silent (g, leaveLine s ticket g) :=
  ⟨fun _ => rfl, fun _ => rfl⟩

theorem course_ensureConnected (a : Adapter) (met : Nat → Gateway) :
    ∃ l, (ensureConnected a).run.course met = (l, connection a met) ∧
      ∀ id, executed id l = [] := by
  have hasked := silent_isConnected a.systemId (met 0)
  unfold ensureConnected connection
  rw [course_status_bind]
  dsimp only
  split_ifs with h
  · exact ⟨_, rfl, by simp [hasked.asked_eq]⟩
  · obtain ⟨l, hl, hn⟩ := course_connect a (later met 2)
    have hline (ticket : Nat) (g : Gateway) := silent_line (.connecting a) ticket g
    rw [course_inTurn, later_later, hl]
    refine ⟨_, rfl, fun id => ?_⟩
    simp [hn, hasked.asked_eq, (hline 0 _).1.asked_eq, (hline _ _).2.asked_eq]

/-! ## The whole invocation -/

variable {c : SystemConfig}

/-- Whether an invocation gets as far as the operation: its breaker lets it through, and its adapter
is or becomes connected. -/
def clearance (c : SystemConfig) (a : Adapter) (met : Nat → Gateway) : Result Unit := do
  let _ ← (((met 0).breakers.get c.systemId).grant (met 0).now).1
  connection a (later met 1)

theorem silent_breakers (g : Gateway) (bs : Breakers) : Silent (g, { g with breakers := bs }) :=
  fun _ => rfl

/-- Without clearance nothing is executed. -/
theorem course_invoke_error (operation : String) (params : Value) (credentials : Credentials)
    (h : clearance c a met = .error e) :
    ∃ l, (invoke c a operation params credentials).run.course met = (l, .error e) ∧
      ∀ id, executed id l = [] := by
  unfold clearance at h
  unfold invoke
  rcases hg : ((met 0).breakers.get c.systemId).grant (met 0).now with ⟨e' | p, b, ts⟩
  · rw [hg] at h
    cases h
    exact ⟨_, course_guarded_refused _ hg, fun id => by simp [(silent_breakers _ _).asked_eq]⟩
  · rw [hg] at h
    obtain ⟨l, hl, hn⟩ := course_ensureConnected a (later met 1)
    rw [show connection a (later met 1) = .error e from h] at hl
    refine ⟨_, (course_guarded_granted _ hg).trans (by rw [course_bind_error hl]), fun id => ?_⟩
    simp [hn, settle, setBreaker, (silent_breakers _ _).asked_eq]

/-- With clearance the operation is executed, once, and the reply is the result. -/
theorem course_invoke_ok (operation : String) (params : Value) (credentials : Credentials)
    (h : clearance c a met = .ok ()) :
    ∃ l k, (invoke c a operation params credentials).run.course met =
        (l, replied a.systemId (.execute operation params credentials) (met k) (met (k + 1))) ∧
      (l[k]?).map (asked a.systemId) = some [.execute operation params credentials] ∧
      ∀ id, executed id l =
        if a.systemId = id then [.execute operation params credentials] else [] := by
  unfold clearance at h
  unfold invoke
  rcases hg : ((met 0).breakers.get c.systemId).grant (met 0).now with ⟨e' | p, b, ts⟩
  · rw [hg] at h
    cases h
  · rw [hg] at h
    obtain ⟨l, hl, hn⟩ := course_ensureConnected a (later met 1)
    rw [show connection a (later met 1) = .ok () from h] at hl
    obtain ⟨m, l', hask, hq, hs⟩ := course_ask a.systemId
      (.execute operation params credentials) (later met (1 + l.length))
    have hbody : (do ensureConnected a
                     ask a.systemId (.execute operation params credentials)).run.course
          (later met 1) = (l ++ m :: l', replied a.systemId
            (.execute operation params credentials) (met (1 + l.length))
            (met (1 + l.length + 1))) := by
      rw [course_bind_ok hl, later_later, hask]
      rfl
    refine ⟨_, 1 + l.length, (course_guarded_granted _ hg).trans (by rw [hbody]), ?_, fun id => ?_⟩
    · simp [Nat.add_comm 1, hq.asked_eq]
    · simp only [settle, setBreaker, List.cons_append, List.append_assoc, executed_cons,
        executed_append, (silent_breakers _ _).asked_eq, hn, hq.asked_eq, executed_of_silent hs]
      split_ifs <;> rfl

end Gateway
end Interchange
