import Interchange.Proofs.Call.Fate
import Interchange.Proofs.Gateway.Asked

/-! # Seeing to a system

On its way to a system a call connects the adapter, in turn with others, asks, waits for answers,
and tells the breaker. Nothing else of the gateway changes on that part of its way, and no adapter
is built.
-/

namespace Interchange

def AdapterCall.builtType? : AdapterCall → Option String
  | .build systemType => some systemType
  | _ => none

namespace Gateway

open Json Call

variable {α β : Type} {x : GatewayCall α} {k : α → GatewayCall β} {f : Gateway → Gateway}
  {P : Gateway × Gateway → Prop}

/-! ## Calls of one kind, put together -/

theorem keeps_bind (hx : x.run.Keeps P) (hk : ∀ a, (k a).run.Keeps P) : (x >>= k).run.Keeps P := by
  refine Keeps.andThen hx fun r => ?_
  cases r with
  | error e => exact .done _
  | ok a => exact hk a

theorem keeps_given (r : Result α) : (given r).run.Keeps P := .done r

theorem keeps_pure (a : α) : (pure a : GatewayCall α).run.Keeps P := .done _

theorem keeps_throw (e : Error) : (throw e : GatewayCall α).run.Keeps P := .done _

theorem keeps_lift {c : Call Gateway α} (h : c.Keeps P) :
    (ExceptT.lift c : GatewayCall α).run.Keeps P := h.andThen fun _ => .done _

theorem keeps_call_step {g : Gateway → α × Gateway} (h : ∀ s, P (s, (g s).2)) :
    (ExceptT.lift (Call.step g) : GatewayCall α).run.Keeps P :=
  keeps_lift (.act h fun _ => .done _)

theorem keeps_step {g : Gateway → Result α × Gateway} (h : ∀ s, P (s, (g s).2)) :
    (step g).run.Keeps P := .act h fun _ => .done _

theorem keeps_change (h : ∀ s, P (s, f s)) : (change f).run.Keeps P := .act h fun _ => .done _

theorem keeps_look (h : ∀ s, P (s, s)) (g : Gateway → α) : (look g).run.Keeps P :=
  .act h fun _ => .done _

theorem keeps_await {ready : Gateway → Bool} (h : ∀ s, P (s, f s)) :
    (Gateway.await ready f).run.Keeps P := keeps_lift (.wait h (.done ()))

theorem keeps_pass (h : ∀ s, P (s, s)) (p : Point) : (pass p).run.Keeps P := keeps_await h

theorem keeps_attempt (hx : x.run.Keeps P) (hf : ∀ s t, P (s, t) → P (s, f t)) :
    (attempt x f).run.Keeps P := keeps_lift (hx.onAbandon hf)

theorem keeps_inTurn {s : Seat} (hx : x.run.Keeps P) (hin : ∀ g, P (g, (enterLine s g).2))
    (hout : ∀ ticket g h, P (g, h) → P (g, leaveLine s ticket h))
    (hrefl : ∀ g, P (g, g)) : (inTurn s x).run.Keeps P := by
  refine keeps_bind (keeps_call_step hin) fun ticket => ?_
  have hleave (g : Gateway) := hout ticket g g (hrefl g)
  refine keeps_bind (keeps_await hleave) fun _ => ?_
  refine keeps_bind (keeps_attempt hx fun s t h => hout ticket s t h) fun r => ?_
  exact keeps_bind (keeps_change hleave) fun _ => keeps_given r

/-! ## Tending -/

/-- A step that sees to the connections, to the turns at them and to the breakers. -/
structure Tending (m : Gateway × Gateway) : Prop where
  memory : m.2 =
    { m.1 with adapters := m.2.adapters, line := m.2.line, breakers := m.2.breakers }
  types : m.2.adapters.types = m.1.adapters.types
  adapters : m.2.adapters.adapters = m.1.adapters.adapters
  builds : ∀ id, (m.2.calls id).filterMap AdapterCall.builtType? =
    (m.1.calls id).filterMap AdapterCall.builtType?

variable {g g' h : Gateway} {systemId : String} {q : AdapterCall}

theorem tending_refl (g : Gateway) : Tending (g, g) := ⟨rfl, rfl, rfl, fun _ => rfl⟩

theorem Tending.trans (h₁ : Tending (g, g')) (h₂ : Tending (g', h)) : Tending (g, h) where
  memory := by
    have h₁ := h₁.memory
    have h₂ := h₂.memory
    dsimp only at h₁ h₂ ⊢
    rw [h₂, h₁]
  types := h₂.types.trans h₁.types
  adapters := h₂.adapters.trans h₁.adapters
  builds id := (h₂.builds id).trans (h₁.builds id)

theorem tending_setLink {f : Link → Link} (systemId : String) (g : Gateway)
    (hf : ∀ l : Link, (f l).calls.filterMap AdapterCall.builtType? =
      l.calls.filterMap AdapterCall.builtType?) : Tending (g, setLink systemId f g) := by
  refine ⟨rfl, rfl, rfl, fun id => ?_⟩
  dsimp only
  rw [calls_setLink]
  split_ifs with h
  · rw [hf, h]
    rfl
  · rfl

theorem tending_undergo (systemId : String) {e : AdapterEvent} (g : Gateway)
    (he : ∀ q, e = .done q → q.builtType? = none) : Tending (g, undergo systemId e g) := by
  refine tending_setLink systemId g fun l => ?_
  rw [calls_undergo, List.filterMap_append]
  cases e with
  | done q => simp [he q rfl]
  | answered q r => simp
  | asked => simp

theorem tending_tickets (g : Gateway) (tickets : Nat) :
    Tending (g, { g with adapters := { g.adapters with tickets } }) :=
  ⟨rfl, rfl, rfl, fun _ => rfl⟩

theorem tending_line (g : Gateway) (line : Line Seat) : Tending (g, { g with line }) :=
  ⟨rfl, rfl, rfl, fun _ => rfl⟩

theorem tending_breakers (g : Gateway) (breakers : Breakers) :
    Tending (g, { g with breakers }) := ⟨rfl, rfl, rfl, fun _ => rfl⟩

theorem tending_question (systemId : String) (hq : q.builtType? = none) (g : Gateway) :
    Tending (g, (question systemId q g).2) := by
  have hdone : Tending (g, undergo systemId (.done q) g) :=
    tending_undergo systemId g fun q' h => by cases h; exact hq
  rw [question_eq]
  cases (g.adapters.peers systemId).reply (g.calls systemId ++ [q]) with
  | now r => exact hdone.trans (tending_undergo systemId _ nofun)
  | later =>
    exact (hdone.trans (tending_tickets _ _)).trans (tending_setLink systemId _ fun _ => rfl)

/-! ## Calls that see to a system -/

/-- Such a step that asks no system anything. -/
structure Minding (m : Gateway × Gateway) : Prop where
  tending : Tending m
  silent : Silent m

theorem Minding.trans (h₁ : Minding (g, g')) (h₂ : Minding (g', h)) : Minding (g, h) :=
  ⟨h₁.tending.trans h₂.tending, h₁.silent.trans h₂.silent⟩

theorem minding_setLink {f : Link → Link} (systemId : String) (g : Gateway)
    (hf : ∀ l : Link, (f l).calls = l.calls) : Minding (g, setLink systemId f g) :=
  ⟨tending_setLink systemId g fun l => by rw [hf], silent_setLink systemId g hf⟩

theorem minding_isConnected (systemId : String) (g : Gateway) :
    Minding (g, (isConnected systemId g).2) :=
  ⟨tending_undergo systemId g nofun, silent_isConnected systemId g⟩

theorem minding_takeAnswer (systemId : String) (q : AdapterCall) (ticket : Nat) (g : Gateway) :
    Minding (g, (takeAnswer systemId q ticket g).2) :=
  (minding_setLink (f := fun l => (l.take? ticket).2) systemId g fun _ => rfl).trans
    ⟨tending_undergo systemId _ nofun, silent_answered systemId q _ _⟩

theorem minding_line (g : Gateway) (line : Line Seat) : Minding (g, { g with line }) :=
  ⟨tending_line g line, fun _ => rfl⟩

theorem minding_breakers (g : Gateway) (breakers : Breakers) :
    Minding (g, { g with breakers }) := ⟨tending_breakers g breakers, fun _ => rfl⟩

/-- A kind of steps that remains one when a step sees to the connections and the breakers too. -/
structure Tolerant (P : Gateway × Gateway → Prop) : Prop where
  refl : ∀ g, P (g, g)
  extend : ∀ {g g' h}, P (g, g') → Minding (g', h) → P (g, h)

theorem Tolerant.of_minding (hP : Tolerant P) (h : Minding (g, g')) : P (g, g') :=
  hP.extend (hP.refl g) h

theorem tolerant_tending : Tolerant Tending := ⟨tending_refl, fun h hm => h.trans hm.tending⟩

/-- Taking the answer to a question that was asked. -/
theorem keeps_answer (hP : Tolerant P) (systemId : String) (q : AdapterCall) (ticket : Nat) :
    (do
      Gateway.await (fun g => (g.adapters.link systemId).answered ticket)
        (setLink systemId (·.abandon ticket))
      step (takeAnswer systemId q ticket)).run.Keeps P :=
  keeps_bind (keeps_await fun g => hP.of_minding (minding_setLink systemId g fun _ => rfl)) fun _ =>
    keeps_step fun g => hP.of_minding (minding_takeAnswer systemId q ticket g)

theorem keeps_ask (hP : Tolerant P) (hq : ∀ g, P (g, (question systemId q g).2)) :
    (ask systemId q).run.Keeps P := by
  refine keeps_bind (keeps_call_step hq) fun a => ?_
  obtain ⟨r | r, ticket⟩ := a
  · exact keeps_answer hP systemId q ticket
  · exact keeps_given r

variable {a : Adapter}

theorem keeps_status (hP : Tolerant P) (systemId : String) : (status systemId).run.Keeps P :=
  keeps_bind (keeps_pass hP.refl _) fun _ =>
    keeps_call_step fun g => hP.of_minding (minding_isConnected systemId g)

theorem keeps_connect (hP : Tolerant P)
    (hq : ∀ g, P (g, (question a.systemId .connect g).2)) : (connect a).run.Keeps P := by
  refine keeps_bind (keeps_status hP _) fun b => ?_
  split
  · exact keeps_pure _
  · refine keeps_bind (keeps_ask hP hq) fun v => ?_
    split
    · exact keeps_pure _
    · exact keeps_throw _

theorem keeps_ensureConnected (hP : Tolerant P)
    (hq : ∀ g, P (g, (question a.systemId .connect g).2)) : (ensureConnected a).run.Keeps P := by
  refine keeps_bind (keeps_status hP _) fun b => ?_
  split
  · exact keeps_pure _
  · exact keeps_inTurn (keeps_connect hP hq) (fun g => hP.of_minding (minding_line g _))
      (fun _ _ h hg => hP.extend hg (minding_line h _)) hP.refl

theorem keeps_enter (hP : Tolerant P) (systemId : String) : (enter systemId).run.Keeps P :=
  keeps_step fun g => hP.of_minding (minding_breakers g _)

theorem keeps_settle (hP : Tolerant P) (systemId : String) (p : Permit) (r : Result α) :
    (do
      change (settle systemId p r)
      given r).run.Keeps P :=
  keeps_bind (keeps_change fun g => hP.of_minding (minding_breakers g _)) fun _ => keeps_given r

theorem tending_ensureConnected (a : Adapter) : (ensureConnected a).run.Keeps Tending :=
  keeps_ensureConnected tolerant_tending (tending_question a.systemId rfl)

theorem tending_guarded (systemId : String) (hx : x.run.Keeps Tending) :
    (guarded systemId x).run.Keeps Tending := by
  refine keeps_bind (keeps_enter tolerant_tending systemId) fun p => ?_
  refine keeps_bind (keeps_attempt hx fun s t h => h.trans (tending_breakers t _)) fun r => ?_
  exact keeps_settle tolerant_tending systemId p r

theorem tending_invoke (c : SystemConfig) (a : Adapter) (operation : String) (params : Value)
    (credentials : Credentials) :
    (invoke c a operation params credentials).run.Keeps Tending :=
  tending_guarded _ (keeps_bind (tending_ensureConnected a) fun _ =>
    keeps_ask tolerant_tending (tending_question a.systemId rfl))

/-! ## Calls that do a thing once -/

variable {Q : Gateway × Gateway → Prop}

theorem once_bind_keeps (hx : x.run.Once P Q) (hk : ∀ a, (k a).run.Keeps P) :
    (x >>= k).run.Once P Q := by
  refine hx.andThen_keeps fun r => ?_
  cases r with
  | error e => exact .done _
  | ok a => exact hk a

theorem keeps_bind_once (hx : x.run.Keeps P) (hk : ∀ a, (k a).run.Once P Q) :
    (x >>= k).run.Once P Q := by
  refine Once.keeps_andThen hx fun r => ?_
  cases r with
  | error e => exact .done _
  | ok a => exact hk a

theorem once_attempt (hx : x.run.Once P Q) (hf : ∀ s t, P (s, t) → P (s, f t)) :
    (attempt x f).run.Once P Q := (hx.onAbandon hf).andThen_keeps fun _ => .done _

theorem once_ask (hP : Tolerant P) (hq : ∀ g, Q (g, (question systemId q g).2)) :
    (ask systemId q).run.Once P Q := by
  have hs : (ExceptT.lift (Call.step (question systemId q)) :
      GatewayCall (Option (Result Value) × Nat)).run.Once P Q := .now hq fun _ => .done _
  refine once_bind_keeps hs fun a => ?_
  obtain ⟨r | r, ticket⟩ := a
  · exact keeps_answer hP systemId q ticket
  · exact keeps_given r

theorem once_guarded (hP : Tolerant P) (systemId : String) (hx : x.run.Once P Q) :
    (guarded systemId x).run.Once P Q := by
  refine keeps_bind_once (keeps_enter hP systemId) fun p => ?_
  refine once_bind_keeps (once_attempt hx fun s t h => ?_) fun r => keeps_settle hP systemId p r
  exact hP.extend h (minding_breakers t _)

end Gateway
end Interchange
