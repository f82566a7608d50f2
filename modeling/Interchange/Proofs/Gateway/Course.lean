import Interchange.Gateway.Invoke
import Interchange.Proofs.Call.Course
import Interchange.Proofs.Result

/-! # Courses of calls through the gateway

A call through the gateway ends with the error of the first of its parts that fails. Its course is
put together from those of its parts.
-/

namespace Interchange

namespace Gateway

open Call

variable {α β : Type} {x : GatewayCall α} {k : α → GatewayCall β} {met : Nat → Gateway}
  {l : List (Gateway × Gateway)} {a : α} {e : Error}

theorem course_bind (x : GatewayCall α) (k : α → GatewayCall β) (met : Nat → Gateway) :
    (x >>= k).run.course met =
      match x.run.course met with
      | (l, .ok a) =>
        let d := (k a).run.course (later met l.length)
        (l ++ d.1, d.2)
      | (l, .error e) => (l, .error e) := by
  change (Call.andThen x.run (ExceptT.bindCont k)).course met = _
  rw [course_andThen]
  rcases x.run.course met with ⟨l, e | a⟩
  · exact congrArg (·, Except.error e) (List.append_nil l)
  · rfl

theorem course_bind_ok (h : x.run.course met = (l, .ok a)) :
    (x >>= k).run.course met =
      (l ++ ((k a).run.course (later met l.length)).1,
        ((k a).run.course (later met l.length)).2) := by
  rw [course_bind, h]

theorem course_bind_error (h : x.run.course met = (l, .error e)) :
    (x >>= k).run.course met = (l, .error e) := by
  rw [course_bind, h]

@[simp] theorem course_throw (e : Error) :
    (throw e : GatewayCall α).run.course met = ([], .error e) := rfl

@[simp] theorem course_given (r : Result α) : (given r).run.course met = ([], r) := rfl

@[simp] theorem course_lift (c : Call Gateway α) :
    (ExceptT.lift c : GatewayCall α).run.course met =
      ((c.course met).1, .ok (c.course met).2) := by
  change (c.andThen fun a => Call.done (Except.ok a)).course met = _
  simp [course_andThen, course]

@[simp] theorem course_step (f : Gateway → Result α × Gateway) :
    (step f).run.course met = ([(met 0, (f (met 0)).2)], (f (met 0)).1) := rfl

@[simp] theorem course_change (f : Gateway → Gateway) :
    (change f).run.course met = ([(met 0, f (met 0))], .ok ()) := rfl

@[simp] theorem course_look (f : Gateway → α) :
    (look f).run.course met = ([(met 0, met 0)], .ok (f (met 0))) := rfl

theorem course_step_bind (f : Gateway → Result β × Gateway) (k : β → GatewayCall α) :
    (step f >>= k).run.course met =
      match (f (met 0)).1 with
      | .ok b =>
        let d := (k b).run.course (later met 1)
        ((met 0, (f (met 0)).2) :: d.1, d.2)
      | .error e => ([(met 0, (f (met 0)).2)], .error e) := by
  rw [course_bind, course_step]
  cases (f (met 0)).1 <;> rfl

@[simp] theorem course_given_bind (r : Result β) (k : β → GatewayCall α) :
    (given r >>= k).run.course met =
      match r with
      | .ok b => (k b).run.course met
      | .error e => ([], .error e) := by
  rw [course_bind, course_given]
  cases r <;> simp

@[simp] theorem course_look_bind (f : Gateway → β) (k : β → GatewayCall α) :
    (look f >>= k).run.course met =
      ((met 0, met 0) :: ((k (f (met 0))).run.course (later met 1)).1,
        ((k (f (met 0))).run.course (later met 1)).2) :=
  course_bind_ok (course_look f)

@[simp] theorem course_change_bind (f : Gateway → Gateway) (k : Unit → GatewayCall α) :
    (change f >>= k).run.course met =
      ((met 0, f (met 0)) :: ((k ()).run.course (later met 1)).1,
        ((k ()).run.course (later met 1)).2) :=
  course_bind_ok (course_change f)

@[simp] theorem course_attempt (x : GatewayCall α) (f : Gateway → Gateway) :
    (attempt x f).run.course met = ((x.run.course met).1, .ok (x.run.course met).2) := by
  rw [attempt, course_lift, course_onAbandon]

/-- A call meets no state where it waits. -/
@[simp] theorem course_await_bind (ready : Gateway → Bool) (f : Gateway → Gateway)
    (k : Unit → GatewayCall α) :
    (await ready f >>= k).run.course met = (k ()).run.course met := rfl

@[simp] theorem course_pass_bind (p : Point) (k : Unit → GatewayCall α) :
    (pass p >>= k).run.course met = (k ()).run.course met := rfl

/-- A call in turn with others takes one more step before it and one behind it. -/
theorem course_inTurn (s : Seat) (body : GatewayCall α) :
    (inTurn s body).run.course met =
      let d := body.run.course (later met 1)
      let last := met (1 + d.1.length)
      ((met 0, (enterLine s (met 0)).2) ::
        d.1 ++ [(last, leaveLine s (enterLine s (met 0)).1 last)], d.2) := by
  unfold inTurn
  rw [course_bind_ok (course_lift _), course_await_bind, course_bind_ok (course_attempt _ _),
    course_change_bind]
  simp [Nat.add_comm]

/-! ## Calls that are held up nowhere -/

section Prompt

variable {P : Gateway → Prop}

theorem prompt_bind (hx : x.run.Prompt P) (hk : ∀ a, (k a).run.Prompt P) :
    (x >>= k).run.Prompt P := by
  refine hx.andThen fun r => ?_
  cases r with
  | error e => exact .done _
  | ok a => exact hk a

theorem prompt_step {f : Gateway → Result α × Gateway} (h : ∀ g, P g → P (f g).2) :
    (step f).run.Prompt P := .act h fun _ => .done _

theorem prompt_look (f : Gateway → α) : (look f).run.Prompt P :=
  .act (fun _ hg => hg) fun _ => .done _

theorem prompt_change {f : Gateway → Gateway} (h : ∀ g, P g → P (f g)) :
    (change f).run.Prompt P := .act h fun _ => .done _

theorem prompt_pass {p : Point} (h : ∀ g, P g → p ∉ g.held) : (pass p).run.Prompt P :=
  .wait (fun g hg => by simp [h g hg]) (.done _)

theorem prompt_given (r : Result α) : (given r).run.Prompt P := .done r

theorem prompt_throw (e : Error) : (throw e : GatewayCall α).run.Prompt P := .done _

end Prompt

/-! ## Under a breaker -/

variable {systemId : String} {p : Permit} {b : Breaker} {ts : List Transition}

/-- A refused call does nothing but ask the breaker. -/
theorem course_guarded_refused (body : GatewayCall α)
    (h : ((met 0).breakers.get systemId).grant (met 0).now = (.error e, b, ts)) :
    (guarded systemId body).run.course met =
      ([(met 0, { met 0 with breakers := (met 0).breakers.put systemId b })], .error e) := by
  refine course_bind_error ?_
  rw [enter, course_step, h]

/-- A call that is let through runs, and the breaker is told how it ended. -/
theorem course_guarded_granted (body : GatewayCall α)
    (h : ((met 0).breakers.get systemId).grant (met 0).now = (.ok p, b, ts)) :
    (guarded systemId body).run.course met =
      let d := body.run.course (later met 1)
      let last := met (1 + d.1.length)
      ((met 0, { met 0 with breakers := (met 0).breakers.put systemId b }) ::
        d.1 ++ [(last, settle systemId p d.2 last)], d.2) := by
  unfold guarded
  rw [course_bind_ok (a := p) (l := [(met 0, _)]) (by rw [enter, course_step, h])]
  rw [course_bind_ok (course_attempt _ _), course_bind_ok (course_change _)]
  simp [Nat.add_comm]

end Gateway
end Interchange
