import Interchange.Proofs.Gateway.Course
import Mathlib.Tactic.SplitIfs

/-! # What systems are asked

Each step of a call asks a system at most one thing. Seeing to the connection may build an adapter
or connect it, and only an invocation that its breaker admits, over an open connection, executes an
operation; it executes one.
-/

namespace Interchange
namespace Gateway

open Json Call

def calls (g : Gateway) (systemId : String) : List AdapterCall :=
  (g.adapters.link systemId).calls

def asked (systemId : String) (m : Gateway × Gateway) : List AdapterCall :=
  (m.2.calls systemId).drop (m.1.calls systemId).length

/-- The operations that steps had a system execute. -/
def executed (systemId : String) (l : List (Gateway × Gateway)) : List AdapterCall :=
  (l.flatMap (asked systemId)).filter AdapterCall.isExecute

variable {α : Type} {g g' : Gateway} {systemId id : String} {q : AdapterCall}
  {l l' : List (Gateway × Gateway)} {m : Gateway × Gateway} {met : Nat → Gateway} {e : Error}

@[simp] theorem executed_nil : executed id [] = [] := rfl

@[simp] theorem executed_append : executed id (l ++ l') = executed id l ++ executed id l' := by
  simp [executed]

@[simp] theorem executed_cons :
    executed id (m :: l) = (asked id m).filter AdapterCall.isExecute ++ executed id l := by
  simp [executed]

/-- A step that does nothing to any system. -/
def Silent (m : Gateway × Gateway) : Prop := ∀ id, m.2.calls id = m.1.calls id

/-- A step that does one thing to one system. -/
def Notes (systemId : String) (q : AdapterCall) (m : Gateway × Gateway) : Prop :=
  ∀ id, m.2.calls id = m.1.calls id ++ if systemId = id then [q] else []

theorem Silent.asked_eq (h : Silent m) : asked id m = [] := by
  rw [asked, h id]
  exact List.drop_length

theorem Notes.asked_eq (h : Notes systemId q m) :
    asked id m = if systemId = id then [q] else [] := by
  rw [asked, h id]
  exact List.drop_left

theorem executed_eq_nil (h : ∀ m ∈ l, (asked id m).filter AdapterCall.isExecute = []) :
    executed id l = [] := by
  induction l with
  | nil => rfl
  | cons m l ih =>
    obtain ⟨hm, hl⟩ := List.forall_mem_cons.mp h
    rw [executed_cons, hm, ih hl]
    rfl

theorem executed_of_silent (h : ∀ m ∈ l, Silent m) : executed id l = [] :=
  executed_eq_nil fun m hm => by rw [(h m hm).asked_eq]; rfl

/-! ## Single steps -/

theorem calls_setLink (systemId : String) (f : Link → Link) (g : Gateway) (id : String) :
    (setLink systemId f g).calls id =
      if systemId = id then (f (g.adapters.link systemId)).calls else g.calls id := by
  simp only [calls, setLink, AdapterPool.setLink, AdapterPool.link]
  rw [Dict.get?_insert]
  split_ifs <;> rfl

theorem silent_setLink (systemId : String) (g : Gateway) {f : Link → Link}
    (hf : ∀ l : Link, (f l).calls = l.calls) : Silent (g, setLink systemId f g) := by
  intro id
  rw [calls_setLink]
  split_ifs with h
  · rw [hf, h]
    rfl
  · rfl

theorem calls_undergo (peer : Peer) (e : AdapterEvent) (l : Link) :
    (l.undergo peer e).calls = l.calls ++ match e with
      | .done q => [q]
      | _ => [] := by
  cases e <;> simp [Link.undergo, Link.note]

theorem notes_done (systemId : String) (q : AdapterCall) (g : Gateway) :
    Notes systemId q (g, undergo systemId (.done q) g) := by
  intro id
  have hc := calls_setLink systemId (·.undergo (g.adapters.peers systemId) (.done q)) g id
  refine hc.trans ?_
  rw [calls_undergo]
  split_ifs with h
  · subst h
    rfl
  · exact (List.append_nil _).symm

theorem silent_answered (systemId : String) (q : AdapterCall) (r : Result Value) (g : Gateway) :
    Silent (g, undergo systemId (.answered q r) g) :=
  silent_setLink systemId g fun _ => rfl

theorem silent_isConnected (systemId : String) (g : Gateway) :
    Silent (g, (isConnected systemId g).2) := silent_setLink systemId g fun _ => rfl

theorem Silent.trans (h : Silent (g, g')) {g'' : Gateway} (h' : Silent (g', g'')) :
    Silent (g, g'') := fun id => (h' id).trans (h id)

theorem silent_takeAnswer (systemId : String) (q : AdapterCall) (ticket : Nat) (g : Gateway) :
    Silent (g, (takeAnswer systemId q ticket g).2) :=
  (silent_setLink (f := fun l => (l.take? ticket).2) systemId g fun _ => rfl).trans
    (silent_answered systemId q _ _)

theorem obtain_cases (p : AdapterPool) (c : SystemConfig) :
    (∃ e, p.obtain c = .error e) ∨ (∃ a, p.obtain c = .ok (a, p)) ∨
      ∃ a p', p.obtain c = .ok (a, p') ∧
        p'.links = (p.undergo c.systemId (.done (.build c.systemType))).links := by
  unfold AdapterPool.obtain
  split
  · exact .inr (.inl ⟨_, rfl⟩)
  · split
    · exact .inl ⟨_, rfl⟩
    · split
      · exact .inl ⟨_, rfl⟩
      · exact .inr (.inr ⟨_, _, rfl, rfl⟩)

/-- Obtaining an adapter may build it. -/
theorem adapter_step (c : SystemConfig) (g : Gateway) :
    Silent (g, (adapter c g).2) ∨ Notes c.systemId (.build c.systemType) (g, (adapter c g).2) := by
  unfold adapter
  rcases obtain_cases g.adapters c with ⟨e, h⟩ | ⟨a, h⟩ | ⟨a, p, h, hl⟩
  · rw [h]
    exact .inl fun _ => rfl
  · rw [h]
    exact .inl fun _ => rfl
  · rw [h]
    refine .inr fun id => ?_
    have hcalls : ({ g with adapters := p } : Gateway).calls id =
        (undergo c.systemId (.done (.build c.systemType)) g).calls id := by
      simp only [calls, AdapterPool.link, hl]
      rfl
    rw [← notes_done]
    exact hcalls

/-! ## Questions -/

/-- What a system replied to a question, at once or when the answer was taken. -/
def replied (systemId : String) (q : AdapterCall) (g g' : Gateway) : Result Value :=
  match (g.adapters.peers systemId).reply (g.calls systemId ++ [q]) with
  | .now r => r
  | .later => (takeAnswer systemId q g.adapters.tickets g').1

theorem question_eq (systemId : String) (q : AdapterCall) (g : Gateway) :
    question systemId q g =
      let g' := undergo systemId (.done q) g
      match (g.adapters.peers systemId).reply (g.calls systemId ++ [q]) with
      | .now r => ((some r, 0), undergo systemId (.answered q r) g')
      | .later =>
        ((none, g.adapters.tickets), setLink systemId (·.enqueue g.adapters.tickets)
          { g' with adapters := g'.adapters.newTicket.2 }) := by
  have h := notes_done systemId q g systemId
  rw [if_pos rfl] at h
  simp only [question]
  change (match (g.adapters.peers systemId).reply
      ((undergo systemId (.done q) g).calls systemId) with
    | .now r => _
    | .later => _) = _
  rw [h]
  rfl

theorem notes_question (systemId : String) (q : AdapterCall) (g : Gateway) :
    Notes systemId q (g, (question systemId q g).2) := by
  intro id
  have h := notes_done systemId q g id
  rw [question_eq]
  cases (g.adapters.peers systemId).reply (g.calls systemId ++ [q]) with
  | now r => exact (silent_answered systemId q r _ id).trans h
  | later =>
    let g' := undergo systemId (.done q) g
    have hs := silent_setLink (f := (·.enqueue g.adapters.tickets)) systemId
      { g' with adapters := g'.adapters.newTicket.2 } fun _ => rfl
    exact (hs id).trans h

/-- A system is asked once, and its reply is the result. -/
theorem course_ask (systemId : String) (q : AdapterCall) (met : Nat → Gateway) :
    ∃ m l, (ask systemId q).run.course met = (m :: l, replied systemId q (met 0) (met 1)) ∧
      Notes systemId q m ∧ ∀ m ∈ l, Silent m := by
  have hq := notes_question systemId q (met 0)
  unfold ask replied
  rw [course_bind_ok (course_lift _), Call.course_step]
  rw [question_eq] at hq ⊢
  cases hr : ((met 0).adapters.peers systemId).reply ((met 0).calls systemId ++ [q]) with
  | now r =>
    rw [hr] at hq
    exact ⟨_, [], by simp, hq, by simp⟩
  | later =>
    rw [hr] at hq
    refine ⟨_, [(met 1, (takeAnswer systemId q (met 0).adapters.tickets (met 1)).2)], ?_, hq, ?_⟩
    · simp only [List.length_singleton, course_await_bind, course_step, later_apply,
        List.singleton_append]
    · simpa using silent_takeAnswer systemId q (met 0).adapters.tickets (met 1)

end Gateway
end Interchange
