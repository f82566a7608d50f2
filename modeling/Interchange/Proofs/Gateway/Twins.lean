import Interchange.Gateway.Request
import Interchange.Proofs.Gateway.Asked
import Interchange.Proofs.Gateway.Credentials

/-! # Requests of different systems

What a request does depends on what the gateway holds for its system alone, and no other system
notices. Each part of a request is a twin of itself.
-/

namespace Interchange
namespace Gateway

open Json

variable {late : String → List AdapterCall → Result Value} {systemId : String}
  {turns turns' : List (Seat × Nat)} {g g' h : Gateway} {a a' : Adapter} {c : SystemConfig}

/-! ## Getting ready -/

/-- A configuration that is kept under the id of its system, an id without colons. -/
structure Registered (systemId : String) (c : SystemConfig) : Prop where
  id : c.systemId = systemId
  colon : ':' ∉ c.systemId.toList

theorem registered_of_find (hg : Tidy turns g) (h : g.find systemId = .ok c) :
    Registered systemId c := by
  unfold find at h
  split at h
  · cases h
  · next c' hc =>
    split at h
    · cases h
      obtain ⟨hid, hv⟩ := hg.registered systemId c hc
      refine ⟨hid, fun hm => ?_⟩
      unfold SystemConfig.validate at hv
      split_ifs at hv with _ hcolon
      simp [hm] at hcolon
    · cases h

theorem twin_lookup : Twin late systemId turns turns' (fun c c' => c = c' ∧ Registered systemId c)
    (lookup systemId) (lookup systemId) := by
  refine (twin_pass .registry).bind_eq fun _ => ?_
  refine twin_step fun g g' hg hg' h => ⟨?_, h, .refl hg, .refl hg'⟩
  have hf : g'.find systemId = g.find systemId := by rw [find, find, h.registry]
  dsimp only
  rw [hf]
  cases hc : g.find systemId with
  | error e => exact .error e
  | ok c => exact .ok ⟨rfl, registered_of_find hg hc⟩

theorem twin_adapterOf : Twin late c.systemId turns turns'
    (fun a a' => a.systemId = c.systemId ∧ a'.systemId = c.systemId) (adapterOf c)
    (adapterOf c) := by
  refine twin_step fun g g' hg hg' h => ?_
  have ho := h.adapters.obtain hg.adapters hg'.adapters
  unfold adapter
  generalize hr : g.adapters.obtain c = r at ho
  generalize hr' : g'.adapters.obtain c = r' at ho
  cases ho with
  | error e => exact ⟨.error e, h, .refl hg, .refl hg'⟩
  | ok hx =>
    obtain ⟨ha, ha', hp⟩ := hx
    obtain ⟨ht, hb⟩ := AdapterPool.obtain_beside hr hg.adapters
    obtain ⟨ht', hb'⟩ := AdapterPool.obtain_beside hr' hg'.adapters
    exact ⟨.ok ⟨ha, ha'⟩, h.withAdapters hp, .withAdapters hg ht hb, .withAdapters hg' ht' hb'⟩

/-- No other system notices that credentials are got. -/
theorem alike_credentials (g : Gateway) {id : String} (hid : id ≠ c.systemId) :
    Alike id g (credentials c g).2 := by
  obtain ⟨-, -, -, hb⟩ := g.security.credentials_beside c g.now g.endpoints
  obtain ⟨hs, he⟩ := hb id hid
  exact { Alike.refl id g with security := hs, endpoints := he }

theorem twin_credentialsOf (hc : ':' ∉ c.systemId.toList) :
    Twin late c.systemId [] [] Eq (credentialsOf c) (credentialsOf c) := by
  intro g g' hg hg' h
  obtain ⟨k, hr, hk, hb⟩ := alone_credentialsOf late c.systemId hg c
  obtain ⟨k', hr', hk', hb'⟩ := alone_credentialsOf late c.systemId hg' c
  obtain ⟨hresult, hs, he⟩ := h.security.credentials hg.secrets hg'.secrets hc h.endpoints
    hg.endpoints h.now
  have halike : Alike c.systemId (credentials c g).2 (credentials c g').2 :=
    { h with security := hs, endpoints := he }
  exact ⟨_, _, hr, hr', Result.alike_eq_iff.mpr hresult,
    ((hb c.systemId).symm.trans halike).trans (hb' c.systemId),
    ⟨hk, fun id hid => (alike_credentials g hid).trans (hb id)⟩,
    hk', fun id hid => (alike_credentials g' hid).trans (hb' id)⟩

theorem twin_transformerOf :
    Twin late c.systemId turns turns' Eq (transformerOf c) (transformerOf c) := by
  refine twin_step fun g g' hg hg' h => ?_
  unfold transformer Transformers.obtain
  rw [← h.transformer]
  cases ht : Dict.get? g.transformers c.systemId with
  | some t => exact ⟨.ok rfl, h, .refl hg, .refl hg'⟩
  | none =>
    cases Transformer.ofConfig c with
    | error e => exact ⟨.error e, h, .refl hg, .refl hg'⟩
    | ok t => exact ⟨.ok rfl, .withTransformer hg hg' h t⟩

/-! ## Asking -/

/-- What a system replies to a question, at once or when it is served. -/
def reply (late : String → List AdapterCall → Result Value) (systemId : String) (q : AdapterCall)
    (p : AdapterPool) : Result Value :=
  let calls := (p.link systemId).calls ++ [q]
  match (p.peers systemId).reply calls with
  | .now r => r
  | .later => late systemId calls

/-- A caller who waits alone is served, and nothing is left of the question but that it was asked
and answered. -/
theorem alone_ask (late : String → List AdapterCall → Result Value) (hg : Tidy turns g)
    (systemId : String) (q : AdapterCall) :
    ∃ r p, reply late systemId q g.adapters = r ∧
      (ask systemId q).run.alone (serve late systemId) g = some (r, { g with adapters := p }) ∧
      g.adapters.Changes systemId (Link.exchange (g.adapters.peers systemId) q r) p := by
  unfold ask reply
  cases hp : (g.adapters.peers systemId).reply ((g.adapters.link systemId).calls ++ [q]) with
  | now r =>
    let p := (g.adapters.undergo systemId (.done q)).undergo systemId (.answered q r)
    have hq : question systemId q g = ((some r, 0), { g with adapters := p }) := by
      rw [question_eq, calls, hp]
      rfl
    refine ⟨r, p, by simp only [hp], ?_, AdapterPool.changes_exchange ..⟩
    rw [alone_bind_ok (a := (some r, 0)) (by rw [alone_lift, Call.alone_step, hq]; rfl)]
    rfl
  | later =>
    let t := g.adapters.tickets
    let p₁ := g.adapters.waiting systemId q
    let p₂ := p₁.served late systemId
    let r := late systemId ((g.adapters.link systemId).calls ++ [q])
    have hq : question systemId q g = ((none, t), { g with adapters := p₁ }) := by
      rw [question_eq, calls, hp]
      rfl
    have hserve : serve late systemId { g with adapters := p₁ } = { g with adapters := p₂ } :=
      serve_of_nothing_pending late hg.pending
    have ht : ((p₂.link systemId).take? t).1 = some r :=
      congrArg Prod.fst (AdapterPool.take?_served hg.adapters late systemId q)
    refine ⟨r, p₂.taken systemId q t r, by simp only [hp, r], ?_,
      AdapterPool.changes_taken hg.adapters r⟩
    rw [alone_bind_ok (a := (none, t)) (h := { g with adapters := p₁ })
      (by rw [alone_lift, Call.alone_step, hq]; rfl)]
    dsimp only
    rw [alone_bind_ok (a := ()) (h := { g with adapters := p₂ }), alone_step]
    · simp only [takeAnswer, ht]
      rfl
    · rw [await, alone_lift, Call.alone_await, hserve, if_neg, if_pos]
      · rfl
      · exact AdapterPool.answered_served hg.adapters
      · exact Bool.not_eq_true _ ▸ AdapterPool.answered_waiting hg.adapters

theorem twin_ask (systemId : String) (q : AdapterCall) :
    Twin late systemId turns turns' Eq (ask systemId q) (ask systemId q) := by
  intro g g' hg hg' h
  obtain ⟨r, p, hr, hp, hc⟩ := alone_ask late hg systemId q
  obtain ⟨r', p', hr', hp', hc'⟩ := alone_ask late hg' systemId q
  have hrr : r = r' := by
    rw [← hr, ← hr']
    simp only [reply, h.adapters.link.calls, h.adapters.peers]
  rw [← h.adapters.peers, ← hrr] at hc'
  exact ⟨_, _, hp, hp', Result.alike_eq_iff.mpr hrr,
    .withLink (Link.plain_exchange ..) hg hg' h hc hc'⟩

/-! ## Connecting -/

/-- Adapters that went through the same say the same of their connection. -/
theorem twin_status (systemId : String) :
    Twin late systemId turns turns' Eq (status systemId) (status systemId) := by
  refine (twin_pass (.status systemId)).bind_eq fun _ => ?_
  refine twin_lift fun g g' hg hg' h => ?_
  have hc := AdapterPool.changes_undergo systemId .asked g.adapters
  have hc' := AdapterPool.changes_undergo systemId .asked g'.adapters
  rw [← h.adapters.peers] at hc'
  have hl := Alongside.withLink (Link.plain_undergo ..) hg hg' h hc hc'
  exact ⟨hl.alike.adapters.link.connected, hl⟩

theorem twin_connect (ha : a.systemId = a'.systemId) :
    Twin late a.systemId turns turns' Eq (connect a) (connect a') := by
  unfold connect
  rw [← ha]
  refine (twin_status a.systemId).bind_eq fun b => ?_
  split
  · exact twin_pure rfl
  · refine (twin_ask a.systemId .connect).bind_eq fun v => ?_
    split
    · exact twin_pure rfl
    · exact twin_throw _

theorem twin_ensureConnected (ha : a.systemId = a'.systemId) :
    Twin late a.systemId [] [] Eq (ensureConnected a) (ensureConnected a') := by
  unfold ensureConnected
  rw [← ha]
  refine (twin_status a.systemId).bind_eq fun b => ?_
  split
  · exact twin_pure rfl
  · exact Twin.inTurn (fun _ _ => twin_connect ha) _ _

/-! ## Under the breaker -/

theorem breaker_eq (h : Alike systemId g g') :
    g.breakers.get systemId = g'.breakers.get systemId := by
  rw [Breakers.get, Breakers.get, h.breaker, h.settings]

theorem twin_enter (systemId : String) :
    Twin late systemId turns turns' Eq (enter systemId) (enter systemId) := by
  refine twin_step fun g g' hg hg' h => ?_
  have hb : (g.breakers.get systemId).grant g.now = (g'.breakers.get systemId).grant g'.now := by
    rw [breaker_eq h, h.now]
  have hr := congrArg Prod.fst hb
  exact ⟨Result.alike_eq_iff.mpr hr, .withBreaker hg hg' h (congrArg (fun x => x.2.1) hb)⟩

section Guarded

variable {α α' : Type} {R : α → α' → Prop} {x : GatewayCall α} {x' : GatewayCall α'}

theorem twin_settle (p : Permit) {r : Result α} {r' : Result α'} (hr : Result.Alike R r r') :
    Twin late systemId turns turns' Eq (change (settle systemId p r))
      (change (settle systemId p r')) := by
  refine twin_change fun g g' hg hg' h => ?_
  refine .withBreaker hg hg' h ?_
  cases hr with
  | ok _ => rw [breaker_eq h]
  | error _ => rw [breaker_eq h, h.now]

theorem Twin.guarded (hx : Twin late systemId turns turns' R x x') :
    Twin late systemId turns turns' R (guarded systemId x) (guarded systemId x') := by
  unfold Gateway.guarded
  refine (twin_enter systemId).bind_eq fun p => ?_
  refine (hx.attempt _ _).bind fun r r' hr => ?_
  exact (twin_settle p hr).bind fun _ _ _ => twin_given hr

end Guarded

theorem twin_invoke (ha : a.systemId = c.systemId) (ha' : a'.systemId = c.systemId)
    (operation : String) (params : Value) (credentials : Credentials) :
    Twin late c.systemId [] [] Eq (invoke c a operation params credentials)
      (invoke c a' operation params credentials) := by
  unfold invoke
  refine Twin.guarded ?_
  rw [ha', ← ha]
  exact (twin_ensureConnected (ha.trans ha'.symm)).bind fun _ _ _ => twin_ask _ _

/-! ## Routing -/

theorem twin_schemas : Twin late systemId turns turns' Eq (look (·.schemas)) (look (·.schemas)) :=
  twin_look fun _ _ h => h.schemas

section Observed

variable {α α' : Type} {R : α → α' → Prop} {x : GatewayCall α} {x' : GatewayCall α'}

theorem Twin.observed (hx : Twin late systemId turns turns' R x x') (operation : String)
    (context : RequestContext) :
    Twin late systemId turns turns' R (observed systemId operation context x)
      (observed systemId operation context x') := by
  unfold Gateway.observed
  refine (twin_look (R := fun _ _ => True) fun _ _ _ => trivial).bind fun s s' _ => ?_
  refine (hx.attempt _ _).bind fun r r' hr => ?_
  exact (twin_change fun g g' hg hg' h => .emit hg hg' h _ _).bind fun _ _ _ => twin_given hr

/-- What two calls take to one system: the same but for the number of the adapter. -/
structure Prepared.Alike (c : SystemConfig) (p p' : Prepared α) : Prop where
  adapter : p.adapter.systemId = c.systemId
  adapter' : p'.adapter.systemId = c.systemId
  credentials : p.credentials = p'.credentials
  transformer : p.transformer = p'.transformer
  payload : p.payload = p'.payload

theorem twin_prepare (hc : ':' ∉ c.systemId.toList)
    (reshape : Transformer → SchemaRegistry → Result α) :
    Twin late c.systemId [] [] (Prepared.Alike c) (prepare c reshape) (prepare c reshape) := by
  unfold prepare
  refine twin_adapterOf.bind fun a a' ha => ?_
  refine (twin_credentialsOf hc).bind_eq fun credentials => ?_
  refine twin_transformerOf.bind_eq fun t => ?_
  refine twin_schemas.bind_eq fun schemas => ?_
  refine (twin_given (Result.alike_eq_iff.mpr rfl)).bind_eq fun payload => ?_
  exact twin_pure ⟨ha.1, ha.2, rfl, rfl, rfl⟩

end Observed

theorem twin_pipeline (systemId operation : String) (params : Option Value) :
    Twin late systemId [] [] Eq (pipeline systemId operation params)
      (pipeline systemId operation params) := by
  unfold pipeline
  refine twin_lookup.bind ?_
  rintro c _ ⟨rfl, rfl, hc⟩
  refine (twin_prepare hc _).bind fun p p' hp => ?_
  rw [← hp.payload, ← hp.credentials, ← hp.transformer]
  refine (twin_invoke hp.adapter hp.adapter' _ _ _).bind_eq fun answer => ?_
  exact twin_schemas.bind_eq fun schemas => twin_given (Result.alike_eq_iff.mpr rfl)

theorem twin_route (systemId operation : String) (params : Option Value)
    (context : RequestContext) :
    Twin late systemId [] [] Eq (route systemId operation params context)
      (route systemId operation params context) :=
  (twin_pipeline systemId operation params).observed operation context

/-! ## Batches -/

/-- The items of a batch are routed one after another: by induction on them. -/
theorem twin_routeAll (systemId operation : String) (context : RequestContext)
    (items : List Value) :
    Twin late systemId [] [] Eq (routeAll systemId operation context items)
      (routeAll systemId operation context items) := by
  induction items with
  | nil => exact twin_pure rfl
  | cons item rest ih =>
    refine (twin_route systemId operation (some item) context).bind_eq fun v => ?_
    exact ih.bind_eq fun vs => twin_pure rfl

theorem twin_batchCall (hc : ':' ∉ c.systemId.toList) (operation : String) (items : List Value) :
    Twin late c.systemId [] [] Eq (batchCall c operation items) (batchCall c operation items) := by
  unfold batchCall
  refine (twin_prepare hc _).bind fun p p' hp => ?_
  rw [← hp.payload, ← hp.credentials, ← hp.transformer]
  refine (twin_invoke hp.adapter hp.adapter' _ _ _).bind_eq fun answer => ?_
  exact twin_schemas.bind_eq fun schemas => twin_given (Result.alike_eq_iff.mpr rfl)

theorem twin_batch (systemId operation : String) (items : List Value) (context : RequestContext) :
    Twin late systemId [] [] Eq (batch systemId operation items context)
      (batch systemId operation items context) := by
  refine Twin.observed (twin_lookup.bind ?_) _ _
  rintro c _ ⟨rfl, rfl, hc⟩
  split
  · exact twin_batchCall hc operation items
  · exact twin_routeAll c.systemId operation context items

/-! ## Webhooks and health -/

theorem twin_registerWebhook (systemId eventType callbackUrl : String) (context : RequestContext) :
    Twin late systemId [] [] Eq (registerWebhook systemId eventType callbackUrl context)
      (registerWebhook systemId eventType callbackUrl context) := by
  refine Twin.observed (twin_lookup.bind ?_) _ _
  rintro c _ ⟨rfl, rfl, hc⟩
  dsimp only
  split
  · refine twin_adapterOf.bind fun a a' ha => ?_
    refine (twin_credentialsOf hc).bind_eq fun credentials => ?_
    exact twin_invoke ha.1 ha.2 _ _ _
  · exact twin_throw_bind _ _ _

theorem twin_verified (systemId : String) (m : SystemMetadata) (payload : List UInt8)
    (headers : Dict String) :
    Twin late systemId turns turns' Eq (verified systemId m payload headers)
      (verified systemId m payload headers) := by
  unfold verified
  refine (twin_given (Result.alike_eq_iff.mpr rfl)).bind_eq fun _ => ?_
  refine (twin_pass .secrets).bind_eq fun _ => ?_
  exact twin_step fun _ _ hg hg' h =>
    ⟨Result.alike_eq_iff.mpr (h.security.verifyWebhook_eq m payload headers), h, .refl hg,
      .refl hg'⟩

theorem twin_handleWebhook (systemId : String) (payload : List UInt8) (headers : Dict String)
    (context : RequestContext) :
    Twin late systemId [] [] Eq (handleWebhook systemId payload headers context)
      (handleWebhook systemId payload headers context) := by
  refine twin_lookup.bind ?_
  rintro c _ ⟨rfl, rfl, hc⟩
  refine (twin_verified _ _ _ _).bind_eq fun verified => ?_
  refine (twin_change fun g g' hg hg' h => .emit hg hg' h _ _).bind_eq fun _ => ?_
  dsimp only
  split
  · split
    · exact twin_throw _
    · refine twin_transformerOf.bind_eq fun t => ?_
      exact twin_schemas.bind_eq fun schemas => twin_given (Result.alike_eq_iff.mpr rfl)
  · exact twin_throw_bind _ _ _

theorem twin_health (systemId : String) :
    Twin late systemId [] [] Eq (health systemId) (health systemId) := by
  refine twin_lookup.bind ?_
  rintro c _ ⟨rfl, rfl, hc⟩
  refine twin_adapterOf.bind fun a a' ha => ?_
  have hcon : Twin late c.systemId [] [] Eq (ensureConnected a) (ensureConnected a') :=
    ha.1 ▸ twin_ensureConnected (ha.1.trans ha.2.symm)
  refine (hcon.attempt id id).bind fun r r' hr => ?_
  rw [← Result.alike_eq_iff.mp hr]
  refine (twin_lift (R := Eq) fun g g' hg hg' h => ⟨?_, .withBreaker hg hg' h ?_⟩).bind_eq
    fun breaker => ?_
  · simp only [breaker_eq h, h.now]
  · simp only [breaker_eq h, h.now]
  refine (twin_status c.systemId).bind_eq fun connected => ?_
  exact (twin_change fun g g' hg hg' h => .emit hg hg' h _ _).bind_eq fun _ => twin_pure rfl

/-- What comes of a request depends on what the gateway holds for its system alone. -/
theorem twin_request (systemId : String) (r : GatewayRequest) :
    Twin late systemId [] [] Eq (r.call systemId) (r.call systemId) := by
  cases r with
  | route operation params context =>
    exact (twin_route systemId operation params context).map fun _ _ h => by rw [h]
  | batch operation items context =>
    exact (twin_batch systemId operation items context).bind_eq fun _ => twin_pure rfl
  | registerWebhook eventType callbackUrl context =>
    exact (twin_registerWebhook systemId eventType callbackUrl context).map fun _ _ h => by rw [h]
  | handleWebhook payload headers context =>
    exact (twin_handleWebhook systemId payload headers context).map fun _ _ h => by rw [h]
  | health => exact (twin_health systemId).map fun _ _ h => by rw [h]

end Gateway
end Interchange
