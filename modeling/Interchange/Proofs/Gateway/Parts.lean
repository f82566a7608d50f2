import Interchange.Gateway.Administer
import Interchange.Proofs.Adapter.Systems
import Interchange.Proofs.Gateway.Issuing
import Interchange.Proofs.Security.Providers

/-! # What is kept of a system

The adapter, the provider and the transformer of a system are made when a request first needs them,
from the configuration of that time, and are in use from then on. Whatever is done beside requests
keeps them or lets go of them.
-/

namespace Interchange

/-- What is made for a system and kept. -/
inductive Part where
  | adapter
  | provider
  | transformer
deriving DecidableEq

/-- A part, as far as it shows from what it was made: an adapter by its type, and a provider without
what it has issued. -/
inductive Made where
  | adapter (systemType : String)
  | provider (p : Provider)
  | transformer (t : Transformer)

namespace Gateway

variable {g g' h : Gateway} {c : SystemConfig} {k : Part} {id : String} {m : Made}
  {P : SystemConfig → Prop}

/-- The type of the latest adapter that was built for a system. -/
def builtType? (g : Gateway) (id : String) : Option String :=
  ((g.calls id).filterMap AdapterCall.builtType?).getLast?

def inUse (g : Gateway) (id : String) : Part → Option Made
  | .adapter =>
    if g.adapters.has id then some (.adapter (Text.lowercase ((g.builtType? id).getD ""))) else none
  | .provider => (g.security.providers.get? id).map fun p => .provider p.revoke
  | .transformer => (g.transformers.get? id).map .transformer

/-- The part that is made from a configuration where none is in use. -/
def makes (g : Gateway) (c : SystemConfig) : Part → Option Made
  | .adapter => (g.adapters.allowed c).toOption.map fun _ => .adapter (Text.lowercase c.systemType)
  | .provider => (g.security.build c).toOption.map fun p => .provider p.revoke
  | .transformer => (Transformer.ofConfig c).toOption.map .transformer

/-- The part by which a request goes that finds a configuration: the one in use, or a new one. -/
def goesBy (g : Gateway) (c : SystemConfig) (k : Part) : Option Made :=
  (g.inUse c.systemId k).or (g.makes c k)

/-! ## What is needed to make parts -/

/-- The same parts are made by two gateways. -/
structure SameMakings (g g' : Gateway) : Prop where
  types : g'.adapters.types = g.adapters.types
  store : g'.security.store = g.security.store
  factory : g'.security.factory = g.security.factory
  defaultType : g'.security.defaultType = g.security.defaultType

theorem SameMakings.makes_eq (h : SameMakings g g') (c : SystemConfig) (k : Part) :
    g'.makes c k = g.makes c k := by
  cases k with
  | adapter => rw [makes, makes, AdapterPool.allowed, AdapterPool.allowed, h.types]
  | provider =>
    have hb : g'.security.build c = g.security.build c := by
      rw [Security.build, Security.build, Security.params, Security.params, Security.typeOf,
        Security.typeOf, h.store, h.factory, h.defaultType]
    rw [makes, makes, hb]
  | transformer => rfl

/-! ## Requests -/

/-- Parts that were not in use are made from configurations of some kind; everything else that
matters to them stays. -/
structure Fills (P : SystemConfig → Prop) (g g' : Gateway) : Prop where
  registry : g'.registry = g.registry
  makings : SameMakings g g'
  inUse : ∀ id k, g'.inUse id k = g.inUse id k ∨
    g.inUse id k = none ∧ ∃ c, P c ∧ c.systemId = id ∧ g'.inUse id k = g.makes c k

theorem Fills.refl (P : SystemConfig → Prop) (g : Gateway) : Fills P g g :=
  ⟨rfl, ⟨rfl, rfl, rfl, rfl⟩, fun _ _ => .inl rfl⟩

theorem Fills.trans (h₁ : Fills P g g') (h₂ : Fills P g' h) : Fills P g h where
  registry := h₂.registry.trans h₁.registry
  makings := ⟨h₂.makings.types.trans h₁.makings.types, h₂.makings.store.trans h₁.makings.store,
    h₂.makings.factory.trans h₁.makings.factory,
    h₂.makings.defaultType.trans h₁.makings.defaultType⟩
  inUse id k := by
    rcases h₂.inUse id k with he | ⟨hn, c, hc, hid, hm⟩
    · rw [he]
      exact h₁.inUse id k
    · -- what is made now was not in use before either, or else could not be made then
      rw [h₁.makings.makes_eq] at hm
      rcases h₁.inUse id k with he | ⟨hn', -⟩
      · exact .inr ⟨he ▸ hn, c, hc, hid, hm⟩
      · exact .inr ⟨hn', c, hc, hid, hm⟩

theorem inUse_of_tending {m : Gateway × Gateway} (h : Tending m) (id : String) (k : Part) :
    m.2.inUse id k = m.1.inUse id k := by
  cases k with
  | adapter =>
    rw [inUse, inUse, AdapterPool.has, AdapterPool.has, h.adapters, builtType?, builtType?,
      h.builds]
  | provider => rw [h.memory]; rfl
  | transformer => rw [h.memory]; rfl

theorem fills_of_tending {m : Gateway × Gateway} (h : Tending m) : Fills P m.1 m.2 := by
  have hs : m.2.security = m.1.security := by rw [h.memory]
  refine ⟨by rw [h.memory], ⟨h.types, ?_, ?_, ?_⟩, fun id k => .inl (inUse_of_tending h id k)⟩
  · rw [hs]
  · rw [hs]
  · rw [hs]

theorem fills_adapter (hc : P c) (g : Gateway) : Fills P g (adapter c g).2 := by
  rw [adapter, AdapterPool.obtain_eq]
  cases ha : g.adapters.adapters.get? c.systemId with
  | some a => exact .refl P g
  | none =>
    cases hw : g.adapters.allowed c with
    | error e => exact .refl P g
    | ok u =>
      let g' : Gateway := { g with adapters := g.adapters.build c }
      change Fills P g g'
      refine ⟨rfl, ⟨rfl, rfl, rfl, rfl⟩, fun id k => ?_⟩
      cases k with
      | adapter =>
        have hcalls : g'.calls id =
            g.calls id ++ if c.systemId = id then [.build c.systemType] else [] :=
          notes_done c.systemId (.build c.systemType) g id
        have hhas : g'.adapters.has id = (decide (c.systemId = id) || g.adapters.has id) := by
          simp [g', AdapterPool.has, AdapterPool.build, AdapterPool.undergo, AdapterPool.setLink,
            Dict.contains_insert, beq_eq_decide]
        by_cases hid : c.systemId = id
        · refine .inr ⟨?_, c, hc, hid, ?_⟩
          · rw [inUse, AdapterPool.has, Dict.contains, ← hid, ha]
            rfl
          · simp [inUse, makes, hhas, hid, builtType?, hcalls, AdapterCall.builtType?, hw,
              Except.toOption]
        · refine .inl ?_
          simp [inUse, hhas, hid, builtType?, hcalls]
      | provider => exact .inl rfl
      | transformer => exact .inl rfl

/-- A provider that was looked up is in use, with whatever it has issued since. -/
theorem fills_sets {p q : Provider} {security : Security} (hc : P c)
    (hp : g.security.issuer c = .ok p) (hs : Security.Sets c.systemId (some q) g.security security)
    (hq : q.revoke = p.revoke) (endpoints : TokenEndpoints) :
    Fills P g { g with security, endpoints } := by
  refine ⟨rfl, ⟨rfl, hs.store, hs.factory, hs.defaultType⟩, fun id k => ?_⟩
  cases k with
  | adapter => exact .inl rfl
  | transformer => exact .inl rfl
  | provider =>
    by_cases hid : id = c.systemId
    · subst hid
      rw [inUse, inUse, hs.provider, Option.map_some, hq]
      rw [Security.issuer] at hp
      split at hp
      · next p' hp' =>
        cases hp
        rw [hp']
        exact .inl rfl
      · next hn =>
        refine .inr ⟨by rw [hn]; rfl, c, hc, rfl, ?_⟩
        rw [makes, hp]
        rfl
    · refine .inl ?_
      rw [inUse, inUse, hs.others id hid]

theorem fills_credentials (hc : P c) (g : Gateway) : Fills P g (credentials c g).2 := by
  rw [credentials]
  rcases g.security.credentials_cases c g.now g.endpoints with ⟨e, -, hr⟩ | ⟨p, t, hp, ht, hr⟩ <;>
    rw [hr]
  · exact .refl P g
  · exact fills_sets hc hp ht (p.revoke_credentials _) _

theorem fills_of_issuing {m : Gateway × Gateway} (h : Issuing m) : Fills P m.1 m.2 := by
  have hr : m.2.registry = m.1.registry := by rw [h.memory]
  have hm : SameMakings m.1 m.2 := by
    rw [h.memory]
    exact ⟨rfl, rfl, rfl, rfl⟩
  refine ⟨hr, hm, fun id k => .inl ?_⟩
  cases k with
  | adapter => rw [h.memory]; rfl
  | provider =>
    have hp := congrArg (Option.map Made.provider) (h.made id)
    rwa [Option.map_map, Option.map_map] at hp
  | transformer => rw [h.memory]; rfl

/-- A provider is made only where none is in use by then. -/
theorem fills_makeProvider (hc : P c) (g : Gateway) : Fills P g (makeProvider c g).2 := by
  unfold makeProvider
  cases hb : g.security.build c with
  | error e => exact .refl P g
  | ok p =>
    cases hp : g.security.providers.get? c.systemId with
    | some q =>
      rw [show g.provider? c.systemId = _ by rw [provider?, hp]]
      exact .refl P g
    | none =>
      have hnone : g.provider? c.systemId = none := Option.map_eq_none_iff.mpr hp
      rw [hnone]
      exact fills_sets hc (by rw [Security.issuer, hp, hb]) (Security.sets_insert ..) rfl
        g.endpoints

theorem fills_provider (hc : P c) (g : Gateway) : Fills P g (provider c g).2 := by
  rw [provider]
  rcases g.security.provider_cases c with ⟨e, -, hr⟩ | ⟨p, t, hp, ht, hr⟩ <;> rw [hr]
  · exact .refl P g
  · exact fills_sets hc hp ht rfl g.endpoints

theorem fills_transformer (hc : P c) (g : Gateway) : Fills P g (transformer c g).2 := by
  rw [transformer, Transformers.obtain]
  cases ht : g.transformers.get? c.systemId with
  | some t => exact .refl P g
  | none =>
    cases hm : Transformer.ofConfig c with
    | error e => exact .refl P g
    | ok t =>
      refine ⟨rfl, ⟨rfl, rfl, rfl, rfl⟩, fun id k => ?_⟩
      cases k with
      | adapter => exact .inl rfl
      | provider => exact .inl rfl
      | transformer =>
        by_cases hid : c.systemId = id
        · refine .inr ⟨?_, c, hc, hid, ?_⟩
          · rw [inUse, ← hid, ht]
            rfl
          · rw [makes, hm, inUse, hid]
            exact congrArg (Option.map _) (Dict.get?_insert_self _ _ _)
        · refine .inl ?_
          exact congrArg (Option.map _) (Dict.get?_insert_of_ne _ _ hid)

/-! ## Letting go -/

/-- Every part that was in use still is, or none is. -/
def LetsGo (g g' : Gateway) : Prop := ∀ id k, g'.inUse id k = g.inUse id k ∨ g'.inUse id k = none

theorem inUse_eq (ha : g'.adapters = g.adapters)
    (hp : g'.security.providers = g.security.providers) (ht : g'.transformers = g.transformers)
    (id : String) (k : Part) : g'.inUse id k = g.inUse id k := by
  cases k with
  | adapter => rw [inUse, inUse, builtType?, builtType?, calls, calls, ha]
  | provider => rw [inUse, inUse, hp]
  | transformer => rw [inUse, inUse, ht]

theorem letsGo_rotate (systemId : String) (g : Gateway) : LetsGo g (rotate systemId g).2 := by
  have hs := Security.sets_rotate systemId g.security
  intro id k
  cases k with
  | adapter => exact .inl rfl
  | transformer => exact .inl rfl
  | provider =>
    by_cases hid : id = systemId
    · refine .inr ?_
      subst hid
      exact congrArg (Option.map _) hs.provider
    · exact .inl (congrArg (Option.map _) (hs.others id hid))

theorem letsGo_evictTransformer (systemId : String) (g : Gateway) :
    LetsGo g (evictTransformer systemId g).2 := by
  intro id k
  cases k with
  | adapter => exact .inl rfl
  | provider => exact .inl rfl
  | transformer =>
    have hget : (evictTransformer systemId g).2.inUse id .transformer =
        (if systemId = id then none else g.transformers.get? id).map .transformer :=
      congrArg (Option.map _) (Dict.get?_erase ..)
    rw [hget]
    split
    · exact .inr rfl
    · exact .inl rfl

/-- To let go of an adapter changes nothing but that, and then its connection is closed. -/
theorem evictAdapter_cases (systemId : String) (g : Gateway) :
    (evictAdapter systemId g).2 = g ∨
      Tending ({ g with adapters := { g.adapters with
        adapters := g.adapters.adapters.erase systemId } }, (evictAdapter systemId g).2) := by
  change { g with adapters := (g.adapters.evict systemId).2 } = g ∨
    Tending (_, { g with adapters := (g.adapters.evict systemId).2 })
  rw [AdapterPool.evict]
  split
  · refine .inr ?_
    have hasked (g : Gateway) : Tending (g, undergo systemId .asked g) :=
      tending_undergo systemId g nofun
    have hclosed (g : Gateway) : Tending (g, undergo systemId (.done .disconnect) g) :=
      tending_undergo systemId g fun q h => by cases h; rfl
    dsimp only [AdapterPool.isConnected]
    split
    · exact (hasked _).trans (hclosed _)
    · exact hasked _
  · exact .inl rfl

theorem letsGo_evictAdapter (systemId : String) (g : Gateway) :
    LetsGo g (evictAdapter systemId g).2 := by
  intro id k
  rcases evictAdapter_cases systemId g with h | h
  · exact .inl (by rw [h])
  · rw [inUse_of_tending h id k]
    cases k with
    | provider => exact .inl rfl
    | transformer => exact .inl rfl
    | adapter =>
      by_cases hid : systemId = id
      · refine .inr ?_
        simp [inUse, AdapterPool.has, Dict.contains, Dict.get?_erase, hid]
      · refine .inl ?_
        simp only [inUse, AdapterPool.has, Dict.contains, Dict.get?_erase, hid, if_false]
        rfl

end Gateway
end Interchange
