import Interchange.Gateway.Request
import Interchange.Proofs.Call.Knowing
import Interchange.Proofs.Gateway.Parts
import Interchange.Proofs.Gateway.Quiet

/-! # What requests make

A request makes the parts that it needs from the configuration that it found when it looked its
system up. It may wait before it makes one, for secrets or for credentials, and the configuration
may have been replaced by then.
-/

namespace Interchange
namespace Gateway

open Json Call

variable {α β : Type} {x : GatewayCall α} {k : α → GatewayCall β} {g g' h : Gateway}
  {c : SystemConfig} {f : Gateway → Gateway} {K K' : Set SystemConfig}
  {Q : Set SystemConfig → α → Prop} {Q' : Set SystemConfig → β → Prop}
  {systemId operation : String} {context : RequestContext}

def found (g : Gateway) : Set SystemConfig := fun c => ∃ systemId, g.find systemId = .ok c

/-- Parts that were not in use are made from known configurations. -/
def Equips (K : Set SystemConfig) (g g' : Gateway) : Prop := Fills (· ∈ K) g g'

theorem found_of_registry (h : g'.registry = g.registry) : found g' = found g := by
  funext c
  simp only [found, find, h]

theorem coherent_equips : Coherent found Equips where
  refl _ g := .refl _ g
  trans _ _ _ _ h h' := Fills.trans h h'
  mono _ _ _ _ hK h := ⟨h.registry, h.makings, fun id k => (h.inUse id k).imp_right
    fun ⟨hn, c, hc, hm⟩ => ⟨hn, c, hK hc, hm⟩⟩
  learn _ _ _ h := found_of_registry h.registry

theorem equips_of_tending {m : Gateway × Gateway} (h : Tending m) : Equips K m.1 m.2 :=
  fills_of_tending h

theorem equips_emit (e : MonitorEvent) (g : Gateway) : Equips K g (g.emit e) :=
  ⟨rfl, ⟨rfl, rfl, rfl, rfl⟩, fun id k => .inl (by cases k <;> rfl)⟩

/-! ## Calls in parts -/

/-- A call that knows `K` equips the gateway with what it knows, and ends with `Q` if it ends
without an error. -/
def Equipping (Q : Set SystemConfig → α → Prop) (x : GatewayCall α) (K : Set SystemConfig) : Prop :=
  x.run.Knowing found Equips (fun K r => ∀ a, r = .ok a → Q K a) K

/-- Nothing in particular. -/
def Anything (_ : Set SystemConfig) (_ : α) : Prop := True

theorem equipping_bind (hx : Equipping Q x K)
    (hk : ∀ a K', K ⊆ K' → Q K' a → Equipping Q' (k a) K') : Equipping Q' (x >>= k) K := by
  refine Knowing.andThen hx fun r K' hK hq => ?_
  cases r with
  | error e => exact nofun
  | ok a => exact hk a K' hK (hq a rfl)

theorem equipping_given (r : Result α) : Equipping Anything (given r) K := fun _ _ => trivial

theorem equipping_pure (a : α) : Equipping Anything (pure a) K := fun _ _ => trivial

theorem equipping_throw (e : Error) : Equipping Q (throw e) K := nofun

theorem equipping_step {f : Gateway → Result α × Gateway}
    (he : ∀ g, Equips (K ∪ found g) g (f g).2)
    (hq : ∀ g a, (f g).1 = .ok a → Q (K ∪ found g) a) : Equipping Q (step f) K :=
  fun g => ⟨he g, hq g⟩

theorem equipping_of_keeps (hx : x.run.Keeps fun m => ∀ K, Equips K m.1 m.2) :
    Equipping Anything x K :=
  (hx.knowing K).mono coherent_equips subset_rfl fun _ _ _ _ _ _ _ => trivial

theorem equipping_of_tending (hx : x.run.Keeps Tending) : Equipping Anything x K :=
  equipping_of_keeps (hx.mono fun _ h _ => equips_of_tending h)

theorem equipping_look {f : Gateway → α} : Equipping Anything (look f) K :=
  equipping_of_keeps (keeps_look (fun g _ => .refl _ g) f)

theorem equipping_pass (p : Point) : Equipping Anything (pass p) K :=
  equipping_of_keeps (keeps_pass (fun g _ => .refl _ g) p)

theorem equipping_change (he : ∀ K g, Equips K g (f g)) : Equipping Anything (change f) K :=
  equipping_of_keeps (keeps_change fun g K => he K g)

theorem equipping_attempt (hx : Equipping Q x K)
    (hf : ∀ K g h, Equips K g h → Equips K g (f h)) : Equipping Anything (attempt x f) K :=
  (Knowing.onAbandon hx hf).andThen fun _ _ _ _ => fun _ _ => trivial

theorem equipping_fmap (f : α → β) (hx : Equipping Anything x K) :
    Equipping Anything (f <$> x) K := by
  rw [map_eq]
  exact equipping_bind hx fun _ _ _ _ => equipping_pure _

/-! ## Stages -/

theorem equipping_lookup (systemId : String) :
    Equipping (fun K c => c ∈ K) (lookup systemId) K :=
  equipping_bind (equipping_pass .registry) fun _ _ _ _ =>
    equipping_step (fun g => .refl _ g) fun _ _ hc => .inr ⟨systemId, hc⟩

theorem equipping_adapterOf (hc : c ∈ K) : Equipping Anything (adapterOf c) K :=
  equipping_step (fun g => fills_adapter (.inl hc) g) fun _ _ _ => trivial

theorem equipping_providerOf (hc : c ∈ K) : Equipping Anything (providerOf c) K := by
  refine equipping_bind equipping_look fun found? K' hK _ => ?_
  cases found? with
  | some x => exact equipping_pure x
  | none =>
    refine equipping_bind (equipping_pass .secrets) fun _ K'' hK' _ => ?_
    exact equipping_step (fun g => fills_makeProvider (.inl (hK' (hK hc))) g) fun _ _ _ => trivial

theorem equipping_credentialsOf (hc : c ∈ K) : Equipping Anything (credentialsOf c) K :=
  equipping_bind (equipping_providerOf hc) fun x _ _ _ =>
    equipping_of_keeps ((issuing_credentialsBy x.1 x.2).mono fun _ h _ => fills_of_issuing h)

theorem equipping_transformerOf (hc : c ∈ K) : Equipping Anything (transformerOf c) K :=
  equipping_step (fun g => fills_transformer (.inl hc) g) fun _ _ _ => trivial

theorem equipping_invoke {a : Adapter} {operation : String} {params : Value}
    {credentials : Credentials} :
    Equipping Anything (invoke c a operation params credentials) K :=
  equipping_of_tending (tending_invoke ..)

theorem equipping_reshaped (f : SchemaRegistry → Result α) :
    Equipping Anything (do given (f (← look (·.schemas)))) K :=
  equipping_bind equipping_look fun _ _ _ _ => equipping_given _

theorem equipping_prepare (hc : c ∈ K) (reshape : Transformer → SchemaRegistry → Result α) :
    Equipping Anything (prepare c reshape) K := by
  refine equipping_bind (equipping_adapterOf hc) fun a K₁ h₁ _ => ?_
  refine equipping_bind (equipping_credentialsOf (h₁ hc)) fun credentials K₂ h₂ _ => ?_
  refine equipping_bind (equipping_transformerOf (h₂ (h₁ hc))) fun t K₃ h₃ _ => ?_
  refine equipping_bind equipping_look fun schemas K₄ h₄ _ => ?_
  exact equipping_bind (equipping_given _) fun payload K₅ h₅ _ => equipping_pure _

theorem equipping_normalized (hc : c ∈ K) (value? : Option Value) :
    Equipping Anything (normalized c value?) K := by
  cases value? with
  | none => exact equipping_throw _
  | some v =>
    exact equipping_bind (equipping_transformerOf hc) fun t _ _ _ =>
      equipping_reshaped fun schemas => t.fromResult schemas v

theorem equipping_observed (hx : ∀ K, Equipping Anything x K) :
    Equipping Anything (observed systemId operation context x) K := by
  refine equipping_bind equipping_look fun started K' _ _ => ?_
  refine equipping_bind (equipping_attempt (hx K') fun K g h he => ?_) fun r K'' _ _ => ?_
  · exact coherent_equips.trans _ _ _ _ he (equips_emit _ h)
  · exact equipping_bind (equipping_change fun K g => equips_emit _ g) fun _ _ _ _ =>
      equipping_given _

/-! ## Requests -/

theorem equipping_route {params : Option Value} :
    Equipping Anything (route systemId operation params context) K := by
  refine equipping_observed fun K => ?_
  refine equipping_bind (equipping_lookup systemId) fun c K' _ hc => ?_
  refine equipping_bind (equipping_prepare hc _) fun p _ _ _ => ?_
  exact equipping_bind equipping_invoke fun answer _ _ _ =>
    equipping_reshaped fun schemas => p.transformer.fromResult schemas answer

/-- The items of a batch are routed one after another: by induction on them. -/
theorem equipping_routeAll {items : List Value} :
    Equipping Anything (routeAll systemId operation context items) K := by
  induction items generalizing K with
  | nil => exact equipping_pure _
  | cons item rest ih =>
    refine equipping_bind equipping_route fun v _ _ _ => ?_
    exact equipping_bind ih fun vs _ _ _ => equipping_pure _

theorem equipping_batch {items : List Value} :
    Equipping Anything (batch systemId operation items context) K := by
  refine equipping_observed fun K => ?_
  refine equipping_bind (equipping_lookup systemId) fun c K' _ hc => ?_
  split
  · refine equipping_bind (equipping_prepare hc _) fun p _ _ _ => ?_
    exact equipping_bind equipping_invoke fun answer _ _ _ =>
      equipping_reshaped fun schemas => p.transformer.fromResults schemas (batchResults answer)
  · exact equipping_routeAll

theorem equipping_registerWebhook {eventType callbackUrl : String} :
    Equipping Anything (registerWebhook systemId eventType callbackUrl context) K := by
  refine equipping_observed fun K => ?_
  refine equipping_bind (equipping_lookup systemId) fun c K' _ hc => ?_
  split
  · refine equipping_bind (equipping_adapterOf hc) fun a _ h _ => ?_
    exact equipping_bind (equipping_credentialsOf (h hc)) fun credentials _ _ _ =>
      equipping_invoke
  · exact equipping_throw _

theorem equipping_verified {m : SystemMetadata} {payload : List UInt8} {headers : Dict String} :
    Equipping Anything (verified systemId m payload headers) K := by
  refine equipping_bind (equipping_given _) fun _ _ _ _ => ?_
  refine equipping_bind (equipping_pass .secrets) fun _ _ _ _ => ?_
  exact equipping_step (fun g => .refl _ g) fun _ _ _ => trivial

theorem equipping_handleWebhook {payload : List UInt8} {headers : Dict String} :
    Equipping Anything (handleWebhook systemId payload headers context) K := by
  refine equipping_bind (equipping_lookup systemId) fun c K₁ _ hc => ?_
  refine equipping_bind equipping_verified fun verified K₂ h₂ _ => ?_
  refine equipping_bind (equipping_change fun K g => equips_emit _ g) fun _ K₃ h₃ _ => ?_
  cases verified with
  | false => exact equipping_throw _
  | true => exact equipping_normalized (h₃ (h₂ hc)) (payload? payload)

theorem equipping_health : Equipping Anything (health systemId) K := by
  refine equipping_bind (equipping_lookup systemId) fun c K₁ _ hc => ?_
  refine equipping_bind (equipping_adapterOf hc) fun a _ _ _ => ?_
  refine equipping_bind (equipping_attempt
    (equipping_of_tending (tending_ensureConnected a)) fun _ _ _ he => he) fun r _ _ _ => ?_
  refine equipping_bind (equipping_of_tending (keeps_call_step fun g => ?_)) fun breaker _ _ _ => ?_
  · exact tending_breakers g _
  refine equipping_bind (equipping_of_tending (keeps_status tolerant_tending _))
    fun connected _ _ _ => ?_
  exact equipping_bind (equipping_change fun K g => equips_emit _ g) fun _ _ _ _ =>
    equipping_pure _

/-- Every request equips the gateway from configurations that it found itself, whatever else happens
to it meanwhile. -/
theorem knowing_request (systemId : String) (r : GatewayRequest) (K : Set SystemConfig) :
    (r.call systemId).run.Knowing found Equips (fun _ _ => True) K := by
  have h : Equipping Anything (r.call systemId) K := by
    cases r with
    | route operation params context => exact equipping_fmap _ equipping_route
    | batch operation items context =>
      exact equipping_bind equipping_batch fun _ _ _ _ => equipping_pure _
    | registerWebhook eventType callbackUrl context =>
      exact equipping_fmap _ equipping_registerWebhook
    | handleWebhook payload headers context => exact equipping_fmap _ equipping_handleWebhook
    | health => exact equipping_fmap _ equipping_health
  exact h.mono coherent_equips subset_rfl fun _ _ _ _ _ => trivial

end Gateway
end Interchange
