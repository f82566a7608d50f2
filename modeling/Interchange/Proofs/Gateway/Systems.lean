import Interchange.Gateway.Credentials
import Interchange.Gateway.Invoke
import Interchange.Proofs.Adapter.Systems
import Interchange.Proofs.Call.Alone
import Interchange.Proofs.Security.Systems

/-! # What a gateway holds for a system

Two gateways are alike for a system when they hold the same for it. Twin calls on behalf of a system
come to the same on gateways that are alike for it, leave them alike, and no other system notices
either of them.
-/

namespace Interchange
namespace Gateway

variable {systemId id : String} {g g' g'' h h' : Gateway} {turns turns' : List (Seat × Nat)}

/-- Two gateways hold the same for a system, and what all systems have in common. -/
structure Alike (systemId : String) (g g' : Gateway) : Prop where
  registry : g.registry = g'.registry
  schemas : g.schemas = g'.schemas
  now : g.now = g'.now
  security : g.security.Alike systemId g'.security
  retired : g.retiredOf systemId = g'.retiredOf systemId
  transformer : g.transformers.get? systemId = g'.transformers.get? systemId
  adapters : g.adapters.Alike systemId g'.adapters
  settings : g.breakers.config = g'.breakers.config
  breaker : g.breakers.get? systemId = g'.breakers.get? systemId
  endpoints : g.endpoints.Alike systemId g'.endpoints

theorem Alike.refl (systemId : String) (g : Gateway) : Alike systemId g g :=
  ⟨rfl, rfl, rfl, .refl .., rfl, rfl, .refl .., rfl, rfl, .refl ..⟩

theorem Alike.symm (h : Alike systemId g g') : Alike systemId g' g :=
  ⟨h.registry.symm, h.schemas.symm, h.now.symm, h.security.symm, h.retired.symm,
    h.transformer.symm, h.adapters.symm, h.settings.symm, h.breaker.symm, h.endpoints.symm⟩

theorem Alike.trans (h : Alike systemId g g') (h' : Alike systemId g' g'') :
    Alike systemId g g'' :=
  ⟨h.registry.trans h'.registry, h.schemas.trans h'.schemas, h.now.trans h'.now,
    h.security.trans h'.security, h.retired.trans h'.retired,
    h.transformer.trans h'.transformer, h.adapters.trans h'.adapters,
    h.settings.trans h'.settings, h.breaker.trans h'.breaker, h.endpoints.trans h'.endpoints⟩

/-- The registered systems have valid configurations, kept under their ids; the secrets are in
memory; token endpoints answer each system by its own requests; and no call is held up anywhere, or
waits for a system or for a token, but for the `turns` that are taken. -/
structure Tidy (turns : List (Seat × Nat)) (g : Gateway) : Prop where
  registered : ∀ id c, g.registry.get? id = some c → c.systemId = id ∧ c.validate = .ok ()
  adapters : g.adapters.Tidy
  secrets : g.security.store.InMemory
  endpoints : g.endpoints.Separate
  pending : g.endpoints.pending = []
  line : g.line.places = turns
  held : g.held = []

theorem Tidy.unheld (hg : Tidy turns g) (p : Point) : p ∉ g.held := by
  rw [hg.held]
  exact List.not_mem_nil

/-- What is done on behalf of a system: the gateway stays tidy, and no other system notices. -/
structure Beside (systemId : String) (turns : List (Seat × Nat)) (g h : Gateway) : Prop where
  tidy : Tidy turns h
  others : ∀ id, id ≠ systemId → Alike id g h

theorem Beside.refl (hg : Tidy turns g) : Beside systemId turns g g := ⟨hg, fun _ _ => .refl ..⟩

theorem Beside.trans (h₁ : Beside systemId turns g g') (h₂ : Beside systemId turns' g' g'') :
    Beside systemId turns' g g'' :=
  ⟨h₂.tidy, fun id hid => (h₁.others id hid).trans (h₂.others id hid)⟩

/-- The same is done on behalf of a system to two gateways: they are alike for it then, and no other
system notices on either. -/
structure Alongside (systemId : String) (turns turns' : List (Seat × Nat))
    (g g' h h' : Gateway) : Prop where
  alike : Alike systemId h h'
  left : Beside systemId turns g h
  right : Beside systemId turns' g' h'

/-! ## Changing one part -/

section Parts

variable {p p' : AdapterPool}

theorem Alike.withAdapters (hg : Alike systemId g g') (hp : p.Alike systemId p') :
    Alike systemId { g with adapters := p } { g' with adapters := p' } :=
  { hg with adapters := hp }

theorem Beside.withAdapters (hg : Tidy turns g) (hp : p.Tidy)
    (hb : ∀ id, id ≠ systemId → g.adapters.Alike id p) :
    Beside systemId turns g { g with adapters := p } :=
  ⟨{ hg with adapters := hp }, fun id hid => { Alike.refl id g with adapters := hb id hid }⟩

theorem Alongside.withLink {f : Link → Link} (hf : Link.Plain f) (hg : Tidy turns g)
    (hg' : Tidy turns' g') (h : Alike systemId g g') (hp : g.adapters.Changes systemId f p)
    (hp' : g'.adapters.Changes systemId f p') :
    Alongside systemId turns turns' g g' { g with adapters := p } { g' with adapters := p' } where
  alike := h.withAdapters (h.adapters.changes hf hp hp')
  left := .withAdapters hg (hp.tidy hf hg.adapters) fun _ => hp.beside
  right := .withAdapters hg' (hp'.tidy hf hg'.adapters) fun _ => hp'.beside

theorem Beside.withBreaker (hg : Tidy turns g) (b : Breaker) :
    Beside systemId turns g { g with breakers := g.breakers.put systemId b } :=
  ⟨{ hg with }, fun id hid => { Alike.refl id g with
    breaker := (Dict.get?_insert_of_ne _ _ (Ne.symm hid)).symm }⟩

theorem Alongside.withBreaker (hg : Tidy turns g) (hg' : Tidy turns' g')
    (h : Alike systemId g g') {b b' : Breaker} (hb : b = b') :
    Alongside systemId turns turns' g g' { g with breakers := g.breakers.put systemId b }
      { g' with breakers := g'.breakers.put systemId b' } where
  alike := { h with
    breaker := by simp only [Breakers.get?, Breakers.put, Dict.get?_insert_self, hb] }
  left := .withBreaker hg b
  right := .withBreaker hg' b'

theorem Alongside.withTransformer (hg : Tidy turns g) (hg' : Tidy turns' g')
    (h : Alike systemId g g') (t : Transformer) :
    Alongside systemId turns turns' g g'
      { g with transformers := Dict.insert g.transformers systemId t }
      { g' with transformers := Dict.insert g'.transformers systemId t } where
  alike := { h with transformer := by simp only [Dict.get?_insert_self] }
  left := ⟨{ hg with }, fun id hid => { Alike.refl id g with
    transformer := (Dict.get?_insert_of_ne _ _ (Ne.symm hid)).symm }⟩
  right := ⟨{ hg' with }, fun id hid => { Alike.refl id g' with
    transformer := (Dict.get?_insert_of_ne _ _ (Ne.symm hid)).symm }⟩

theorem Alongside.emit (hg : Tidy turns g) (hg' : Tidy turns' g') (h : Alike systemId g g')
    (e e' : MonitorEvent) :
    Alongside systemId turns turns' g g' (g.emit e) (g'.emit e') :=
  ⟨{ h with }, ⟨{ hg with }, fun id _ => { Alike.refl id g with }⟩,
    ⟨{ hg' with }, fun id _ => { Alike.refl id g' with }⟩⟩

end Parts

/-! ## Calls that run alone -/

/-- Token endpoints that are late answer, or else a system answers the caller that waits for it. -/
def serve (late : String → List AdapterCall → Result Json.Value) (systemId : String) (g : Gateway) :
    Gateway :=
  if g.endpoints.pending.isEmpty then { g with adapters := g.adapters.served late systemId }
  else { g with endpoints := { g.endpoints with pending := [] } }

theorem serve_of_pending (late : String → List AdapterCall → Result Json.Value)
    (h : g.endpoints.pending ≠ []) :
    serve late systemId g = { g with endpoints := { g.endpoints with pending := [] } } :=
  if_neg (by simpa using h)

theorem serve_of_nothing_pending (late : String → List AdapterCall → Result Json.Value)
    (h : g.endpoints.pending = []) :
    serve late systemId g = { g with adapters := g.adapters.served late systemId } :=
  if_pos (by simp [h])

section Alone

variable {α β : Type} {f : Gateway → Gateway} {x : GatewayCall α} {k : α → GatewayCall β}
  {e : Error} {a : α} {s : Gateway → Gateway}

theorem alone_bind (x : GatewayCall α) (k : α → GatewayCall β) (g : Gateway) :
    (x >>= k).run.alone s g = (x.run.alone s g).bind fun r => match r.1 with
      | .ok a => (k a).run.alone s r.2
      | .error e => some (.error e, r.2) := by
  change (Call.andThen x.run (ExceptT.bindCont k)).alone s g = _
  rw [Call.alone_andThen]
  congr
  funext r
  obtain ⟨r | r, h⟩ := r <;> rfl

theorem alone_bind_ok (hx : x.run.alone s g = some (.ok a, h)) :
    (x >>= k).run.alone s g = (k a).run.alone s h := by
  rw [alone_bind, hx]
  rfl

theorem alone_bind_error (hx : x.run.alone s g = some (.error e, h)) :
    (x >>= k).run.alone s g = some (.error e, h) := by
  rw [alone_bind, hx]
  rfl

theorem alone_step (f : Gateway → Result α × Gateway) (g : Gateway) :
    (step f).run.alone s g = some (f g) := rfl

theorem alone_look (f : Gateway → α) (g : Gateway) :
    (look f).run.alone s g = some (.ok (f g), g) := rfl

theorem alone_lift (c : Call Gateway α) (g : Gateway) :
    (ExceptT.lift c : GatewayCall α).run.alone s g =
      (c.alone s g).map fun r => (.ok r.1, r.2) := by
  change (c.andThen fun a => Call.done (Except.ok a)).alone s g = _
  rw [Call.alone_andThen]
  cases c.alone s g <;> rfl

theorem alone_pass {p : Point} (h : p ∉ g.held) :
    (pass p).run.alone s g = some (.ok (), g) := by
  rw [pass, await, alone_lift, Call.alone_await, if_pos (by simp [h])]
  rfl

theorem alone_attempt (x : GatewayCall α) (f : Gateway → Gateway) (g : Gateway) :
    (attempt x f).run.alone s g = (x.run.alone s g).map fun r => (.ok r.1, r.2) := by
  rw [attempt, alone_lift, Call.alone_onAbandon]

def inLine (st : Seat) (g : Gateway) : Gateway := (enterLine st g).2

/-- Who gets in line where nobody else is has the turn, and leaves the line again. -/
theorem alone_inTurn (hg : g.line.places = []) (st : Seat) (x : GatewayCall α) :
    (inTurn st x).run.alone s g = (x.run.alone s (inLine st g)).map fun r =>
      (r.1, leaveLine st g.line.tickets r.2) := by
  unfold inTurn
  rw [alone_bind_ok (a := g.line.tickets) (h := inLine st g) rfl]
  rw [alone_bind_ok (a := ()) (h := inLine st g)]
  · rw [alone_bind, alone_attempt]
    cases x.run.alone s (inLine st g) with
    | none => rfl
    | some r => rfl
  · rw [await, alone_lift, Call.alone_await, if_pos]
    · rfl
    · simp [inLine, enterLine, Line.enter, Line.hasTurn, hg]

end Alone

/-! ## Twin calls -/

section Twin

variable {late : String → List AdapterCall → Result Json.Value} {α α' β β' : Type}
  {R : α → α' → Prop} {S : β → β' → Prop} {x : GatewayCall α} {x' : GatewayCall α'}
  {k : α → GatewayCall β} {k' : α' → GatewayCall β'}

/-- Two calls on behalf of a system that come to the same, up to `R`, on gateways that are alike for
it. Both end. -/
def Twin (late : String → List AdapterCall → Result Json.Value) (systemId : String)
    (turns turns' : List (Seat × Nat)) (R : α → α' → Prop) (x : GatewayCall α)
    (x' : GatewayCall α') : Prop :=
  ∀ g g', Tidy turns g → Tidy turns' g' → Alike systemId g g' →
    ∃ e e', x.run.alone (serve late systemId) g = some e ∧
      x'.run.alone (serve late systemId) g' = some e' ∧ Result.Alike R e.1 e'.1 ∧
      Alongside systemId turns turns' g g' e.2 e'.2

theorem Twin.bind (hx : Twin late systemId turns turns' R x x')
    (hk : ∀ a a', R a a' → Twin late systemId turns turns' S (k a) (k' a')) :
    Twin late systemId turns turns' S (x >>= k) (x' >>= k') := by
  intro g g' hg hg' hgg
  obtain ⟨⟨r, h⟩, ⟨r', h'⟩, hr, hr', hrr, hh⟩ := hx g g' hg hg' hgg
  cases hrr with
  | error e => exact ⟨_, _, alone_bind_error hr, alone_bind_error hr', .error e, hh⟩
  | ok ha =>
    obtain ⟨e, e', he, he', hee, hl⟩ := hk _ _ ha h h' hh.left.tidy hh.right.tidy hh.alike
    exact ⟨e, e', (alone_bind_ok hr).trans he, (alone_bind_ok hr').trans he', hee, hl.alike,
      hh.left.trans hl.left, hh.right.trans hl.right⟩

theorem Twin.bind_eq {x x' : GatewayCall α} {k' : α → GatewayCall β'}
    (hx : Twin late systemId turns turns' Eq x x')
    (hk : ∀ a, Twin late systemId turns turns' S (k a) (k' a)) :
    Twin late systemId turns turns' S (x >>= k) (x' >>= k') :=
  hx.bind fun a _ ha => ha ▸ hk a

theorem twin_step {f : Gateway → Result α × Gateway} {f' : Gateway → Result α' × Gateway}
    (h : ∀ g g', Tidy turns g → Tidy turns' g' → Alike systemId g g' →
      Result.Alike R (f g).1 (f' g').1 ∧ Alongside systemId turns turns' g g' (f g).2 (f' g').2) :
    Twin late systemId turns turns' R (step f) (step f') := fun g g' hg hg' hgg =>
  ⟨_, _, rfl, rfl, h g g' hg hg' hgg⟩

theorem twin_lift {f : Gateway → α × Gateway} {f' : Gateway → α' × Gateway}
    (h : ∀ g g', Tidy turns g → Tidy turns' g' → Alike systemId g g' →
      R (f g).1 (f' g').1 ∧ Alongside systemId turns turns' g g' (f g).2 (f' g').2) :
    Twin late systemId turns turns' R (ExceptT.lift (Call.step f)) (ExceptT.lift (Call.step f')) :=
  fun g g' hg hg' hgg => ⟨_, _, rfl, rfl, .ok (h g g' hg hg' hgg).1, (h g g' hg hg' hgg).2⟩

theorem twin_change {f f' : Gateway → Gateway}
    (h : ∀ g g', Tidy turns g → Tidy turns' g' → Alike systemId g g' →
      Alongside systemId turns turns' g g' (f g) (f' g')) :
    Twin late systemId turns turns' Eq (change f) (change f') := fun g g' hg hg' hgg =>
  ⟨_, _, rfl, rfl, .ok rfl, h g g' hg hg' hgg⟩

theorem twin_look {f : Gateway → α} {f' : Gateway → α'}
    (h : ∀ g g', Alike systemId g g' → R (f g) (f' g')) :
    Twin late systemId turns turns' R (look f) (look f') := fun g g' hg hg' hgg =>
  ⟨_, _, rfl, rfl, .ok (h g g' hgg), hgg, .refl hg, .refl hg'⟩

theorem twin_given {r : Result α} {r' : Result α'} (h : Result.Alike R r r') :
    Twin late systemId turns turns' R (given r) (given r') := fun _ _ hg hg' hgg =>
  ⟨_, _, rfl, rfl, h, hgg, .refl hg, .refl hg'⟩

theorem twin_pure {a : α} {a' : α'} (h : R a a') :
    Twin late systemId turns turns' R (pure a) (pure a') := twin_given (.ok h)

theorem twin_throw (e : Error) : Twin late systemId turns turns' R (throw e) (throw e) :=
  twin_given (.error e)

theorem twin_throw_bind (e : Error) (k : α → GatewayCall β) (k' : α' → GatewayCall β') :
    Twin late systemId turns turns' S (throw e >>= k) (throw e >>= k') := fun _ _ hg hg' hgg =>
  ⟨_, _, rfl, rfl, .error e, hgg, .refl hg, .refl hg'⟩

theorem Twin.attempt (hx : Twin late systemId turns turns' R x x') (f f' : Gateway → Gateway) :
    Twin late systemId turns turns' (Result.Alike R) (attempt x f) (attempt x' f') := by
  intro g g' hg hg' hgg
  obtain ⟨e, e', he, he', hee, hl⟩ := hx g g' hg hg' hgg
  exact ⟨(.ok e.1, e.2), (.ok e'.1, e'.2), by rw [alone_attempt, he]; rfl,
    by rw [alone_attempt, he']; rfl, .ok hee, hl⟩

theorem twin_pass (p : Point) :
    Twin late systemId turns turns' Eq (pass p) (pass p) := fun _ _ hg hg' hgg =>
  ⟨_, _, alone_pass (hg.unheld p), alone_pass (hg'.unheld p), .ok rfl, hgg, .refl hg, .refl hg'⟩

theorem alike_inLine (id : String) (st : Seat) (g : Gateway) : Alike id g (inLine st g) :=
  { Alike.refl id g with }

theorem alike_leaveLine (id : String) (st : Seat) (ticket : Nat) (g : Gateway) :
    Alike id g (leaveLine st ticket g) := { Alike.refl id g with }

theorem Tidy.inLine (hg : Tidy [] g) (st : Seat) : Tidy [(st, g.line.tickets)] (inLine st g) :=
  { hg with line := by simp [Gateway.inLine, enterLine, Line.enter, hg.line] }

theorem Beside.leaveLine {st : Seat} {ticket : Nat}
    (h : Beside systemId [(st, ticket)] (inLine st g) g') :
    Beside systemId [] g (leaveLine st ticket g') where
  tidy := { h.tidy with line := by simp [Gateway.leaveLine, Line.leave, h.tidy.line] }
  others id hid := ((alike_inLine id st g).trans (h.others id hid)).trans
    (alike_leaveLine id st ticket g')

/-- Twin calls stay so if each takes its turn at something. -/
theorem Twin.inTurn (hx : ∀ turns turns', Twin late systemId turns turns' R x x') (st st' : Seat) :
    Twin late systemId [] [] R (inTurn st x) (inTurn st' x') := by
  intro g g' hg hg' hgg
  obtain ⟨e, e', he, he', hee, hl⟩ := hx _ _ (inLine st g) (inLine st' g') (hg.inLine st)
    (hg'.inLine st') (((alike_inLine ..).symm.trans hgg).trans (alike_inLine ..))
  refine ⟨_, _, (alone_inTurn hg.line st x).trans (congrArg _ he),
    (alone_inTurn hg'.line st' x').trans (congrArg _ he'), hee, ?_, hl.left.leaveLine,
    hl.right.leaveLine⟩
  exact ((alike_leaveLine ..).symm.trans hl.alike).trans (alike_leaveLine ..)

theorem Twin.map {f : α → β} {f' : α' → β'} (hx : Twin late systemId turns turns' R x x')
    (h : ∀ a a', R a a' → S (f a) (f' a')) :
    Twin late systemId turns turns' S (f <$> x) (f' <$> x') :=
  hx.bind fun a a' ha => twin_pure (h a a' ha)

end Twin

end Gateway
end Interchange
