import Interchange.Gateway.Request
import Interchange.Proofs.Gateway.Issuing
import Interchange.Proofs.Gateway.Webhooks

/-! # Calls that report no operation

Whatever a call does on its way to a system and back tells monitoring of no operation, also where
the call is given up.
-/

namespace Interchange
namespace Gateway

open Json Call

variable {α β : Type} {x : GatewayCall α} {k : α → GatewayCall β} {l : List (Gateway × Gateway)}
  {f : Gateway → Gateway}

/-! ## Fates of calls in two parts -/

theorem goes_bind {fate : Fate (Result β)} (h : (x >>= k).run.Goes l fate) :
    (∃ a l₁ l₂, x.run.Goes l₁ (.ended (.ok a)) ∧ (k a).run.Goes l₂ fate ∧ l = l₁ ++ l₂) ∨
      (∃ e, fate = .ended (.error e) ∧ x.run.Goes l (.ended (.error e))) ∨
      (fate = .inFlight ∧ x.run.Goes l .inFlight) ∨ fate = .givenUp ∧ x.run.Goes l .givenUp := by
  rcases goes_andThen h with ⟨r, l₁, l₂, h₁, h₂, rfl⟩ | h | h
  · cases r with
    | ok a => exact .inl ⟨a, l₁, l₂, h₁, h₂, rfl⟩
    | error e =>
      cases h₂
      rw [List.append_nil]
      exact .inr (.inl ⟨e, rfl, h₁⟩)
  · exact .inr (.inr (.inl h))
  · exact .inr (.inr (.inr h))

theorem goes_bind_pure {h : α → β} {fate : Fate (Result β)}
    (hg : (x >>= fun a => pure (h a)).run.Goes l fate) :
    ∃ fate₀, x.run.Goes l fate₀ ∧ fate = fate₀.map (Except.map h) := by
  rcases goes_bind hg with ⟨a, l₁, l₂, h₁, h₂, rfl⟩ | ⟨e, rfl, h₁⟩ | ⟨rfl, h₁⟩ | ⟨rfl, h₁⟩
  · cases h₂
    rw [List.append_nil]
    exact ⟨_, h₁, rfl⟩
  · exact ⟨_, h₁, rfl⟩
  · exact ⟨_, h₁, rfl⟩
  · exact ⟨_, h₁, rfl⟩

theorem map_eq (h : α → β) (x : GatewayCall α) : h <$> x = x >>= fun a => pure (h a) := by
  refine congrArg (Call.andThen x.run) (funext fun r => ?_)
  cases r <;> rfl

theorem goes_look_bind {g : Gateway → α} {fate : Fate (Result β)}
    (h : (look g >>= k).run.Goes l fate) :
    ∃ s l', l = (s, s) :: l' ∧ (k (g s)).run.Goes l' fate := by
  cases h with
  | act s h => exact ⟨s, _, rfl, h⟩

/-- A call waits for the registry before it looks its system up, and may be given up there. -/
theorem goes_lookup_bind {systemId : String} {k : SystemConfig → GatewayCall β}
    {fate : Fate (Result β)} (h : (lookup systemId >>= k).run.Goes l fate) :
    (fate = .inFlight ∧ l = []) ∨ (∃ g, fate = .givenUp ∧ l = [(g, g)]) ∨
      ∃ g l', l = (g, g) :: l' ∧
        ((∃ e, g.find systemId = .error e ∧ l' = [] ∧ fate = .ended (.error e)) ∨
          ∃ c, g.find systemId = .ok c ∧ (k c).run.Goes l' fate) := by
  cases h with
  | waits => exact .inl ⟨rfl, rfl⟩
  | givenUp g => exact .inr (.inl ⟨g, rfl, rfl⟩)
  | passes _ _ h =>
    cases h with
    | act g h =>
      change Goes (ExceptT.bindCont k (g.find systemId)) _ _ at h
      refine .inr (.inr ⟨g, _, rfl, ?_⟩)
      cases hg : g.find systemId with
      | error e =>
        rw [hg] at h
        cases h
        exact .inl ⟨e, rfl, rfl, rfl⟩
      | ok c =>
        rw [hg] at h
        exact .inr ⟨c, rfl, h⟩

theorem goes_change_given {r : Result α} {fate : Fate (Result α)}
    (h : (change f >>= fun _ => given r).run.Goes l fate) :
    ∃ s, l = [(s, f s)] ∧ fate = .ended r := by
  cases h with
  | act s h =>
    cases h
    exact ⟨s, rfl, rfl⟩

/-! ## Quiet calls -/

/-- A call that reports no operation. -/
def Quiet (x : GatewayCall α) : Prop := x.run.Keeps (Adds notices [])

theorem notices_of_events {g g' : Gateway} (h : g'.events = g.events) :
    Adds notices [] (g, g') := by
  rw [adds_nil_iff, notices, h]
  rfl

theorem quiet_bind (hx : Quiet x) (hk : ∀ a, Quiet (k a)) : Quiet (x >>= k) := keeps_bind hx hk

theorem quiet_given (r : Result α) : Quiet (given r) := keeps_given r

theorem quiet_pure (a : α) : Quiet (pure a : GatewayCall α) := keeps_pure a

theorem quiet_throw (e : Error) : Quiet (throw e : GatewayCall α) := keeps_throw e

theorem quiet_call_step {g : Gateway → α × Gateway} (h : ∀ s, (g s).2.events = s.events) :
    Quiet (ExceptT.lift (Call.step g)) := keeps_call_step fun s => notices_of_events (h s)

theorem quiet_step {g : Gateway → Result α × Gateway} (h : ∀ s, (g s).2.events = s.events) :
    Quiet (step g) := keeps_step fun s => notices_of_events (h s)

theorem quiet_change (h : ∀ s, (f s).notices = s.notices) : Quiet (change f) :=
  keeps_change fun s => adds_nil_iff.mpr (h s)

theorem quiet_look (g : Gateway → α) : Quiet (look g) := keeps_look adds_self g

theorem quiet_attempt (hx : Quiet x) (hf : ∀ s, (f s).events = s.events) : Quiet (attempt x f) :=
  keeps_attempt hx fun _ _ h => h.trans (notices_of_events (hf _))

theorem quiet_pass (p : Point) : Quiet (pass p) := keeps_pass adds_self p

/-- Who only sees to a system reports no operation. -/
theorem quiet_of_tending (h : x.run.Keeps Tending) : Quiet x := by
  refine h.mono fun m hm => ?_
  have he : m.2.events = m.1.events := by rw [hm.memory]
  exact notices_of_events he

/-! ## Stages -/

theorem quiet_lookup (systemId : String) : Quiet (lookup systemId) :=
  quiet_bind (quiet_pass _) fun _ => quiet_step fun _ => rfl

theorem quiet_adapterOf (c : SystemConfig) : Quiet (adapterOf c) := quiet_step (events_adapter c)

theorem quiet_credentialsOf (c : SystemConfig) : Quiet (credentialsOf c) := by
  refine (providing_credentialsOf c).mono fun m hm => notices_of_events ?_
  rw [hm.memory]

theorem quiet_transformerOf (c : SystemConfig) : Quiet (transformerOf c) :=
  quiet_step (events_transformer c)

theorem quiet_invoke (c : SystemConfig) (a : Adapter) (operation : String) (params : Value)
    (credentials : Credentials) : Quiet (invoke c a operation params credentials) :=
  quiet_of_tending (tending_invoke c a operation params credentials)

theorem quiet_prepare (c : SystemConfig) (reshape : Transformer → SchemaRegistry → Result α) :
    Quiet (prepare c reshape) :=
  quiet_bind (quiet_adapterOf c) fun _ => quiet_bind (quiet_credentialsOf c) fun _ =>
    quiet_bind (quiet_transformerOf c) fun _ => quiet_bind (quiet_look _) fun _ =>
      quiet_bind (quiet_given _) fun _ => quiet_pure _

/-! ## Calls -/

theorem quiet_pipeline (systemId operation : String) (params : Option Value) :
    Quiet (pipeline systemId operation params) :=
  quiet_bind (quiet_lookup systemId) fun c => quiet_bind (quiet_prepare c _) fun _ =>
    quiet_bind (quiet_invoke ..) fun _ => quiet_bind (quiet_look _) fun _ => quiet_given _

theorem quiet_batchCall (c : SystemConfig) (operation : String) (items : List Value) :
    Quiet (batchCall c operation items) :=
  quiet_bind (quiet_prepare c _) fun _ => quiet_bind (quiet_invoke ..) fun _ =>
    quiet_bind (quiet_look _) fun _ => quiet_given _

theorem quiet_normalized (c : SystemConfig) (value? : Option Value) :
    Quiet (normalized c value?) := by
  cases value? with
  | none => exact quiet_throw _
  | some v =>
    exact quiet_bind (quiet_transformerOf c) fun t => quiet_bind (quiet_look _) fun _ =>
      quiet_given _

theorem quiet_verified (systemId : String) (m : SystemMetadata) (payload : List UInt8)
    (headers : Dict String) : Quiet (verified systemId m payload headers) :=
  quiet_bind (quiet_given _) fun _ => quiet_bind (quiet_pass _) fun _ => quiet_step fun _ => rfl

theorem quiet_handleWebhook (systemId : String) (payload : List UInt8) (headers : Dict String)
    (context : RequestContext) : Quiet (handleWebhook systemId payload headers context) := by
  refine quiet_bind (quiet_lookup systemId) fun c => quiet_bind (quiet_verified ..) fun v =>
    quiet_bind (quiet_change fun s => ?_) fun _ => ?_
  · simp [notices, emit, MonitorEvent.notice?]
  · cases v with
    | false => exact quiet_throw _
    | true => exact quiet_normalized c (payload? payload)

theorem quiet_health (systemId : String) : Quiet (health systemId) := by
  refine quiet_bind (quiet_lookup systemId) fun c => quiet_bind (quiet_adapterOf c) fun a => ?_
  refine quiet_bind (quiet_attempt (quiet_of_tending (tending_ensureConnected a)) fun _ => rfl)
    fun r => quiet_bind (quiet_call_step fun _ => rfl) fun breaker => ?_
  refine quiet_bind (quiet_of_tending (keeps_status tolerant_tending systemId)) fun connected => ?_
  refine quiet_bind (quiet_change fun s => ?_) fun _ => quiet_pure _
  simp [notices, emit, MonitorEvent.notice?]

end Gateway
end Interchange
