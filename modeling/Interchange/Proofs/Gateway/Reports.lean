import Interchange.Proofs.Gateway.Quiet

/-! # One report for each call

An observed call tells monitoring once how it ended, and nothing before. A batch that is routed item
by item reports each item that it attempts in the same way, and itself last.
-/

namespace Interchange
namespace Gateway

open Json Call

variable {α β : Type} {x : GatewayCall α} {l inner : List (Gateway × Gateway)}
  {f : Gateway → Gateway} {systemId operation : String} {context : RequestContext}
  {fate : Fate (Result α)} {ns : List Notice}

/-- What a call reports of itself: nothing while it is in flight, and then how it ended. -/
def closing (systemId operation : String) (context : RequestContext) :
    Fate (Result α) → List Notice
  | .inFlight => []
  | .ended r => [⟨systemId, operation, .ofResult r, context⟩]
  | .givenUp => [⟨systemId, operation, .cancelled, context⟩]

/-! ## Observed calls -/

theorem goes_attempt {fate : Fate (Result (Result α))} (h : (attempt x f).run.Goes l fate) :
    (∃ r, fate = .ended (.ok r) ∧ x.run.Goes l (.ended r)) ∨
      (fate = .inFlight ∧ x.run.Goes l .inFlight) ∨
      fate = .givenUp ∧ ∃ l' s t, l = l' ++ [(s, f t)] ∧ x.run.Goes (l' ++ [(s, t)]) .givenUp := by
  rcases goes_andThen h with ⟨r, l₁, l₂, h₁, h₂, rfl⟩ | ⟨rfl, h'⟩ | ⟨rfl, h'⟩
  · cases h₂
    rcases goes_onAbandon h₁ with ⟨-, hx⟩ | ⟨⟨⟩, -⟩
    rw [List.append_nil]
    exact .inl ⟨r, rfl, hx⟩
  · rcases goes_onAbandon h' with ⟨-, hx⟩ | ⟨⟨⟩, -⟩
    exact .inr (.inl ⟨rfl, hx⟩)
  · rcases goes_onAbandon h' with ⟨hn, -⟩ | ⟨-, hx⟩
    · exact absurd rfl hn
    · exact .inr (.inr ⟨rfl, hx⟩)

/-- The gateway once monitoring was told how an operation went. -/
def afterReport (systemId operation : String) (context : RequestContext) (outcome : OperationOutcome)
    (duration : Duration) (g : Gateway) : Gateway :=
  g.emit (.operation { systemId, operation, outcome, duration, context })

/-- The steps of an observed call around those of what it observes: a look at the clock before them,
and the report behind them, or, when the call is given up, at the end of the last one. -/
inductive Around (systemId operation : String) (context : RequestContext) :
    List (Gateway × Gateway) → List (Gateway × Gateway) → Fate (Result α) → Prop
  | inFlight {l : List (Gateway × Gateway)} (g : Gateway) :
      Around systemId operation context l ((g, g) :: l) .inFlight
  | ended {l : List (Gateway × Gateway)} (g s : Gateway) (r : Result α) (d : Duration) :
      Around systemId operation context l
        ((g, g) :: l ++ [(s, afterReport systemId operation context (.ofResult r) d s)]) (.ended r)
  | givenUp {l : List (Gateway × Gateway)} (g s t : Gateway) (d : Duration) :
      Around systemId operation context (l ++ [(s, t)])
        ((g, g) :: l ++ [(s, afterReport systemId operation context .cancelled d t)]) .givenUp

theorem adds_afterReport (outcome : OperationOutcome) (d : Duration) (g : Gateway) :
    Adds notices [⟨systemId, operation, outcome, context⟩]
      (g, afterReport systemId operation context outcome d g) := by
  simp [Adds, notices, afterReport, emit, MonitorEvent.notice?]

theorem around_of_goes (h : (observed systemId operation context x).run.Goes l fate) :
    ∃ inner, x.run.Goes inner fate ∧ Around systemId operation context inner l fate := by
  -- an attempt hands on its result as a value, so that it fails is not among the ways it can go
  obtain ⟨g, l, rfl, hl⟩ := goes_look_bind h
  rcases goes_bind hl with ⟨r, l₁, l₂, h₁, h₂, rfl⟩ | ⟨e, -, h₁⟩ | ⟨rfl, h₁⟩ | ⟨rfl, h₁⟩
  · obtain ⟨s, rfl, rfl⟩ := goes_change_given h₂
    rcases goes_attempt h₁ with ⟨_, ⟨⟩, hx⟩ | ⟨⟨⟩, -⟩ | ⟨⟨⟩, -⟩
    exact ⟨l₁, hx, .ended g s r _⟩
  · rcases goes_attempt h₁ with ⟨_, ⟨⟩, -⟩ | ⟨⟨⟩, -⟩ | ⟨⟨⟩, -⟩
  · rcases goes_attempt h₁ with ⟨_, ⟨⟩, -⟩ | ⟨-, hx⟩ | ⟨⟨⟩, -⟩
    exact ⟨l, hx, .inFlight g⟩
  · rcases goes_attempt h₁ with ⟨_, ⟨⟩, -⟩ | ⟨⟨⟩, -⟩ | ⟨-, l', s, t, rfl, hx⟩
    exact ⟨_, hx, .givenUp g s t _⟩

/-- What an observed call reports is what its body reports, and then how it ended. -/
theorem Around.addAll (h : Around systemId operation context inner l fate)
    (hi : AddAll notices inner ns) :
    AddAll notices l (ns ++ closing systemId operation context fate) := by
  cases h with
  | inFlight g => simpa [closing] using AddAll.cons (adds_self g) hi
  | ended g s r d => exact (AddAll.cons (adds_self g) hi).concat (adds_afterReport _ d s)
  | givenUp g s t d =>
    simpa [closing] using AddAll.cons (adds_self g) (hi.extend (adds_afterReport _ d t))

theorem addAll_of_quiet (hx : Quiet x)
    (h : (observed systemId operation context x).run.Goes l fate) :
    AddAll notices l (closing systemId operation context fate) := by
  obtain ⟨inner, hi, ha⟩ := around_of_goes h
  exact ha.addAll (.quiet (hx.forall_mem hi))

/-! ## Batches -/

/-- An item of a batch for which a request was begun, with what the request did until its fate. -/
structure Attempt where
  item : Value
  steps : List (Gateway × Gateway)
  fate : Fate (Result Value)

def Attempt.Goes (systemId operation : String) (context : RequestContext) (a : Attempt) : Prop :=
  (route systemId operation (some a.item) context).run.Goes a.steps a.fate

/-- Items are attempted one after another, up to the first that is in flight, given up or failed;
this is then the fate of all. -/
inductive Attempted (systemId operation : String) (context : RequestContext) :
    List Value → List Attempt → Fate (Result (List Value)) → Prop
  | none : Attempted systemId operation context [] [] (.ended (.ok []))
  | inFlight {item : Value} {rest : List Value} {steps : List (Gateway × Gateway)} :
      Attempt.Goes systemId operation context ⟨item, steps, .inFlight⟩ →
      Attempted systemId operation context (item :: rest) [⟨item, steps, .inFlight⟩] .inFlight
  | givenUp {item : Value} {rest : List Value} {steps : List (Gateway × Gateway)} :
      Attempt.Goes systemId operation context ⟨item, steps, .givenUp⟩ →
      Attempted systemId operation context (item :: rest) [⟨item, steps, .givenUp⟩] .givenUp
  | failed {item : Value} {rest : List Value} {steps : List (Gateway × Gateway)} {e : Error} :
      Attempt.Goes systemId operation context ⟨item, steps, .ended (.error e)⟩ →
      Attempted systemId operation context (item :: rest) [⟨item, steps, .ended (.error e)⟩]
        (.ended (.error e))
  | passed {item v : Value} {rest : List Value} {steps : List (Gateway × Gateway)}
      {as : List Attempt} {fate : Fate (Result (List Value))} :
      Attempt.Goes systemId operation context ⟨item, steps, .ended (.ok v)⟩ →
      Attempted systemId operation context rest as fate →
      Attempted systemId operation context (item :: rest) (⟨item, steps, .ended (.ok v)⟩ :: as)
        (fate.map (Except.map (v :: ·)))

theorem attempted_of_goes {items : List Value} {fate : Fate (Result (List Value))}
    (h : (routeAll systemId operation context items).run.Goes l fate) :
    ∃ as, Attempted systemId operation context items as fate ∧ l = as.flatMap Attempt.steps := by
  induction items generalizing l fate with
  | nil =>
    cases h
    exact ⟨[], .none, rfl⟩
  | cons item rest ih =>
    rcases goes_bind h with ⟨v, l₁, l₂, h₁, h₂, rfl⟩ | ⟨e, rfl, h₁⟩ | ⟨rfl, h₁⟩ | ⟨rfl, h₁⟩
    · obtain ⟨fate₀, hr, rfl⟩ := goes_bind_pure h₂
      obtain ⟨as, has, rfl⟩ := ih hr
      exact ⟨_, .passed h₁ has, rfl⟩
    · exact ⟨_, .failed h₁, by simp⟩
    · exact ⟨_, .inFlight h₁, by simp⟩
    · exact ⟨_, .givenUp h₁, by simp⟩

/-- Each attempt reports itself, once. -/
theorem Attempted.addAll {items : List Value} {as : List Attempt}
    {fate : Fate (Result (List Value))} (h : Attempted systemId operation context items as fate) :
    AddAll notices (as.flatMap Attempt.steps)
      (as.flatMap fun a => closing systemId operation context a.fate) := by
  have hone {a : Attempt} (ha : a.Goes systemId operation context) :
      AddAll notices a.steps (closing systemId operation context a.fate) :=
    addAll_of_quiet (quiet_pipeline ..) ha
  induction h with
  | none => exact .nil
  | inFlight h => simpa using hone h
  | givenUp h => simpa using hone h
  | failed h => simpa using hone h
  | passed h _ ih => exact (hone h).append ih

/-- The steps of a batch before its report: its system is looked up, if the batch is not given up
before that, and then the batch goes in one call if the system takes batches, and item by item if it
does not. -/
inductive Batched (systemId operation : String) (context : RequestContext) (items : List Value) :
    List (Gateway × Gateway) → List Attempt → Fate (Result (List Value)) → Prop
  | heldUp : Batched systemId operation context items [] [] .inFlight
  | givenUp (g : Gateway) : Batched systemId operation context items [(g, g)] [] .givenUp
  | unknown {g : Gateway} {e : Error} : g.find systemId = .error e →
      Batched systemId operation context items [(g, g)] [] (.ended (.error e))
  | whole {g : Gateway} {c : SystemConfig} {l : List (Gateway × Gateway)}
      {fate : Fate (Result (List Value))} : g.find systemId = .ok c →
      c.metadata.supportsBatch = true → (batchCall c operation items).run.Goes l fate →
      Batched systemId operation context items ((g, g) :: l) [] fate
  | items {g : Gateway} {c : SystemConfig} {as : List Attempt}
      {fate : Fate (Result (List Value))} : g.find systemId = .ok c →
      c.metadata.supportsBatch = false → Attempted systemId operation context items as fate →
      Batched systemId operation context items ((g, g) :: as.flatMap Attempt.steps) as fate

theorem Batched.addAll {items : List Value} {as : List Attempt}
    {fate : Fate (Result (List Value))}
    (h : Batched systemId operation context items l as fate) :
    AddAll notices l (as.flatMap fun a => closing systemId operation context a.fate) := by
  cases h with
  | heldUp => exact .nil
  | givenUp g => exact .cons (adds_self g) .nil
  | unknown hg => exact .cons (adds_self _) .nil
  | whole hg hc h => exact .cons (adds_self _) (.quiet ((quiet_batchCall ..).forall_mem h))
  | items hg hc h => exact .cons (adds_self _) h.addAll

/-- A batch that has come to a fate, with its attempts. -/
inductive BatchGoes (systemId operation : String) (context : RequestContext)
    (items : List Value) : List (Gateway × Gateway) → List Attempt →
    Fate (Result (List Value)) → Prop
  | intro {inner l : List (Gateway × Gateway)} {as : List Attempt}
      {fate : Fate (Result (List Value))} :
      Batched systemId operation context items inner as fate →
      Around systemId (batchOperation operation) context inner l fate →
      BatchGoes systemId operation context items l as fate

theorem batchGoes_of_goes {items : List Value} {fate : Fate (Result (List Value))}
    (h : (batch systemId operation items context).run.Goes l fate) :
    ∃ as, BatchGoes systemId operation context items l as fate := by
  obtain ⟨inner, hi, ha⟩ := around_of_goes h
  obtain ⟨rfl, rfl⟩ | ⟨g, rfl, rfl⟩ | ⟨g, l', rfl, ⟨e, hg, rfl, rfl⟩ | ⟨c, hg, hc⟩⟩ :=
    goes_lookup_bind hi
  · exact ⟨[], .heldUp, ha⟩
  · exact ⟨[], .givenUp g, ha⟩
  · exact ⟨[], .unknown hg, ha⟩
  · split at hc
    · next hb => exact ⟨[], .whole hg hb hc, ha⟩
    · next hb =>
      obtain ⟨as, has, rfl⟩ := attempted_of_goes hc
      exact ⟨as, .items hg (by simpa using hb) has, ha⟩

theorem BatchGoes.addAll {items : List Value} {as : List Attempt}
    {fate : Fate (Result (List Value))}
    (h : BatchGoes systemId operation context items l as fate) :
    AddAll notices l ((as.flatMap fun a => closing systemId operation context a.fate) ++
      closing systemId (batchOperation operation) context fate) := by
  obtain ⟨hb, ha⟩ := h
  exact ha.addAll hb.addAll

/-! ## Requests -/

theorem closing_map (h : α → β) (fate : Fate (Result α)) :
    closing systemId operation context (fate.map (Except.map h)) =
      closing systemId operation context fate := by
  obtain _ | ⟨e | a⟩ | _ := fate <;> rfl

/-- The steps of a request, up to its fate, report what they should: one operation once it has
ended, and for a batch also the items that it attempted, before itself. Requests of the other kinds
report none. -/
def Accounts (systemId : String) (l : List (Gateway × Gateway))
    (fate : Fate (Result GatewayAnswer)) : GatewayRequest → Prop
  | .route operation _ context => AddAll notices l (closing systemId operation context fate)
  | .registerWebhook _ _ context =>
    AddAll notices l (closing systemId webhookOperation context fate)
  | .batch operation items context => ∃ (as : List Attempt) (fate₀ : Fate (Result (List Value))),
    fate = fate₀.map (Except.map fun vs => .value (.array vs)) ∧
      BatchGoes systemId operation context items l as fate₀ ∧
      AddAll notices l ((as.flatMap fun a => closing systemId operation context a.fate) ++
        closing systemId (batchOperation operation) context fate)
  | .handleWebhook _ _ _ => AddAll notices l []
  | .health => AddAll notices l []

theorem registerWebhook_eq (systemId eventType callbackUrl : String) (context : RequestContext) :
    ∃ x, Quiet x ∧ registerWebhook systemId eventType callbackUrl context =
      observed systemId webhookOperation context x := by
  refine ⟨_, ?_, rfl⟩
  refine quiet_bind (quiet_lookup systemId) fun c => ?_
  split
  · exact quiet_bind (quiet_adapterOf c) fun _ => quiet_bind (quiet_credentialsOf c) fun _ =>
      quiet_invoke ..
  · exact quiet_throw _

/-- Every request accounts for what it reports, whatever becomes of it. -/
theorem accounts_of_goes {r : GatewayRequest} {fate : Fate (Result GatewayAnswer)}
    (h : (r.call systemId).run.Goes l fate) : Accounts systemId l fate r := by
  cases r with
  | route operation params context =>
    rw [GatewayRequest.call, map_eq] at h
    obtain ⟨fate, hr, rfl⟩ := goes_bind_pure h
    rw [Accounts, closing_map]
    exact addAll_of_quiet (quiet_pipeline ..) hr
  | batch operation items context =>
    obtain ⟨fate, hb, rfl⟩ := goes_bind_pure h
    obtain ⟨as, hb⟩ := batchGoes_of_goes hb
    refine ⟨as, fate, rfl, hb, ?_⟩
    rw [closing_map]
    exact hb.addAll
  | registerWebhook eventType callbackUrl context =>
    rw [GatewayRequest.call, map_eq] at h
    obtain ⟨fate, hr, rfl⟩ := goes_bind_pure h
    rw [Accounts, closing_map]
    obtain ⟨x, hx, he⟩ := registerWebhook_eq systemId eventType callbackUrl context
    rw [he] at hr
    exact addAll_of_quiet hx hr
  | handleWebhook payload headers context =>
    rw [GatewayRequest.call, map_eq] at h
    obtain ⟨fate, hr, rfl⟩ := goes_bind_pure h
    exact .quiet ((quiet_handleWebhook ..).forall_mem hr)
  | health =>
    rw [GatewayRequest.call, map_eq] at h
    obtain ⟨fate, hr, rfl⟩ := goes_bind_pure h
    exact .quiet ((quiet_health systemId).forall_mem hr)

theorem Accounts.addAll {r : GatewayRequest} {fate : Fate (Result GatewayAnswer)}
    (h : Accounts systemId l fate r) : ∃ ns, AddAll notices l ns := by
  cases r with
  | route operation params context => exact ⟨_, h⟩
  | batch operation items context =>
    obtain ⟨as, fate₀, -, -, ha⟩ := h
    exact ⟨_, ha⟩
  | registerWebhook eventType callbackUrl context => exact ⟨_, h⟩
  | handleWebhook payload headers context => exact ⟨_, h⟩
  | health => exact ⟨_, h⟩

end Gateway
end Interchange
