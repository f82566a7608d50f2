import Interchange.Gateway.Basic

/-! # What monitoring is told

A step of a call adds records to those that monitoring was told before, or leaves them alone. Of the
records of operations all is kept but the time that they took.
-/

namespace Interchange

/-- What a record says of an operation, but for the time that it took. -/
structure Notice where
  systemId : String
  operation : String
  outcome : OperationOutcome
  context : RequestContext
deriving DecidableEq

/-- What a record says of an operation, if it is about one. -/
def MonitorEvent.notice? : MonitorEvent → Option Notice
  | .operation e => some ⟨e.systemId, e.operation, e.outcome, e.context⟩
  | _ => none

namespace Gateway

/-- What monitoring was told of operations, oldest first. -/
def notices (g : Gateway) : List Notice := g.events.filterMap MonitorEvent.notice?

section Adds

variable {β : Type} {view : Gateway → List β} {bs bs' : List β} {m : Gateway × Gateway}
  {l l' : List (Gateway × Gateway)} {g g' g'' : Gateway}

/-- A step that adds some elements to a list that the gateway holds. -/
def Adds (view : Gateway → List β) (bs : List β) (m : Gateway × Gateway) : Prop :=
  view m.2 = view m.1 ++ bs

/-- Steps that add some elements, one after another. -/
inductive AddAll (view : Gateway → List β) : List (Gateway × Gateway) → List β → Prop
  | nil : AddAll view [] []
  | cons {m : Gateway × Gateway} {l : List (Gateway × Gateway)} {bs bs' : List β} :
      Adds view bs m → AddAll view l bs' → AddAll view (m :: l) (bs ++ bs')

theorem adds_nil_iff : Adds view [] m ↔ view m.2 = view m.1 := by
  rw [Adds, List.append_nil]

theorem adds_self (g : Gateway) : Adds view [] (g, g) := adds_nil_iff.mpr rfl

theorem Adds.trans (h : Adds view bs (g, g')) (h' : Adds view bs' (g', g'')) :
    Adds view (bs ++ bs') (g, g'') := by
  rw [Adds] at h h' ⊢
  rw [h', h, List.append_assoc]

theorem AddAll.quiet (h : ∀ m ∈ l, Adds view [] m) : AddAll view l [] := by
  induction l with
  | nil => exact .nil
  | cons m l ih =>
    obtain ⟨hm, hl⟩ := List.forall_mem_cons.mp h
    exact .cons hm (ih hl)

theorem AddAll.append (h : AddAll view l bs) (h' : AddAll view l' bs') :
    AddAll view (l ++ l') (bs ++ bs') := by
  induction h with
  | nil => exact h'
  | cons hm _ ih =>
    rw [List.append_assoc]
    exact .cons hm ih

theorem AddAll.concat (h : AddAll view l bs) (h' : Adds view bs' m) :
    AddAll view (l ++ [m]) (bs ++ bs') := by
  have hm : AddAll view [m] (bs' ++ []) := .cons h' .nil
  rw [List.append_nil] at hm
  exact h.append hm

/-- The last of some steps may be followed by more. -/
theorem AddAll.extend (h : AddAll view (l ++ [(g, g')]) bs) (h' : Adds view bs' (g', g'')) :
    AddAll view (l ++ [(g, g'')]) (bs ++ bs') := by
  induction l generalizing bs with
  | nil =>
    cases h with
    | cons hm hl =>
      cases hl
      simpa using AddAll.concat .nil (hm.trans (by simpa using h'))
  | cons m l ih =>
    cases h with
    | cons hm hl =>
      rw [List.append_assoc]
      exact .cons hm (ih hl)

end Adds

theorem adds_emit (e : MonitorEvent) (g : Gateway) : Adds events [e] (g, emit e g) := rfl

theorem events_adapter (c : SystemConfig) (g : Gateway) : (adapter c g).2.events = g.events := by
  unfold adapter
  split <;> rfl

theorem events_transformer (c : SystemConfig) (g : Gateway) :
    (transformer c g).2.events = g.events := by
  unfold transformer
  split <;> rfl

end Gateway
end Interchange
