import Interchange.Proofs.Call.Fate
import Interchange.Proofs.Gateway.Parts
import Interchange.Proofs.Gateway.Routing

/-! # What a request takes to its system

A request finds a configuration, and then takes an adapter, credentials and a transformer one after
another; it may have to wait before each of these. Each of them is that of the part by which the
gateway goes when the request is polled to take it.
-/

namespace Interchange
namespace Gateway

open Json Call

variable {α : Type} {g y : Gateway} {c : SystemConfig} {p : Prepared α} {i : Issuer} {q : Provider}
  {reshape : Transformer → SchemaRegistry → Result α} {l : List (Gateway × Gateway)}
  {polls : List Gateway} {met : Nat → Gateway} {systemId operation : String}
  {params : Option Value} {context : RequestContext} {n : Nat}

/-- What a request takes to its system, when it is polled at the given states and finds a
configuration: an adapter, the credentials that a provider issues, and a transformer. -/
structure Takes (systemId : String) (polls : List Gateway) (met : Nat → Gateway) (c : SystemConfig)
    (p : Prepared α) : Prop where
  system : ∃ y ∈ polls, y.find systemId = .ok c
  adapter : ∃ y ∈ polls, (y.adapter c).1 = .ok p.adapter ∧
    (y.adapter c).2.inUse c.systemId .adapter = y.goesBy c .adapter
  provider : ∃ y ∈ polls, ∃ (i : Issuer) (q : Provider) (n : Nat),
    y.goesBy c .provider = some (.provider q.revoke) ∧ i.systemId = c.systemId ∧
      ((credentialsBy i q).run.course (later met n)).2 = .ok p.credentials
  transformer : ∃ y ∈ polls, y.goesBy c .transformer = some (.transformer p.transformer)

/-! ## Parts -/

theorem has_of_adapter {a : Adapter} (h : (y.adapter c).1 = .ok a) :
    (y.adapter c).2.adapters.has c.systemId = true := by
  rw [adapter, AdapterPool.obtain_eq] at h ⊢
  cases hg : y.adapters.adapters.get? c.systemId with
  | some a' => simp [AdapterPool.has, Dict.contains, hg]
  | none =>
    cases hw : y.adapters.allowed c with
    | error e =>
      rw [hg, hw] at h
      cases h
    | ok u => simp [Except.map, AdapterPool.has, AdapterPool.build, Dict.contains_insert]

theorem goesBy_adapter {a : Adapter} (h : (y.adapter c).1 = .ok a) :
    (y.adapter c).2.inUse c.systemId .adapter = y.goesBy c .adapter := by
  rcases (fills_adapter (P := (some c = some ·)) rfl y).inUse c.systemId .adapter with
    he | ⟨hn, c', hc, -, hm⟩
  · obtain ⟨m, hm⟩ : ∃ m, (y.adapter c).2.inUse c.systemId .adapter = some m :=
      ⟨_, if_pos (has_of_adapter h)⟩
    rw [goesBy, ← he, hm, Option.some_or]
  · cases hc
    rw [hm, goesBy, hn, Option.none_or]

theorem goesBy_provider (y : Gateway) (c : SystemConfig) :
    y.goesBy c .provider = (y.security.issuer c).toOption.map fun p => .provider p.revoke := by
  rw [Security.toOption_issuer, Option.map_or]
  rfl

theorem goesBy_of_provider? (h : y.provider? c.systemId = some (i, q)) :
    i.systemId = c.systemId ∧ y.goesBy c .provider = some (.provider q.revoke) := by
  obtain ⟨q', hq, he⟩ := Option.map_eq_some_iff.mp h
  cases he
  refine ⟨rfl, ?_⟩
  rw [goesBy_provider, Security.issuer, hq]
  rfl

theorem goesBy_of_makeProvider (h : (makeProvider c y).1 = .ok (i, q)) :
    i.systemId = c.systemId ∧ y.goesBy c .provider = some (.provider q.revoke) := by
  unfold makeProvider at h
  cases hb : y.security.build c with
  | error e =>
    rw [hb] at h
    cases h
  | ok p =>
    rw [hb] at h
    cases hp : y.provider? c.systemId with
    | some x =>
      rw [hp] at h
      cases h
      exact goesBy_of_provider? hp
    | none =>
      rw [hp] at h
      cases h
      have hnone : y.security.providers.get? c.systemId = none := Option.map_eq_none_iff.mp hp
      refine ⟨rfl, ?_⟩
      rw [goesBy_provider, Security.issuer, hnone, hb]
      rfl

theorem transformer_eq (c : SystemConfig) (g : Gateway) :
    (transformer c g).1 = (g.transformers.obtain c).map Prod.fst := by
  unfold transformer
  cases g.transformers.obtain c <;> rfl

theorem goesBy_transformer (y : Gateway) (c : SystemConfig) :
    y.goesBy c .transformer = (y.transformer c).1.toOption.map .transformer := by
  rw [goesBy, inUse, makes, transformer_eq, Transformers.obtain]
  cases Dict.get? y.transformers c.systemId with
  | some t => rfl
  | none => cases Transformer.ofConfig c <;> rfl

/-! ## Stages -/

theorem course_providerOf (c : SystemConfig) (met : Nat → Gateway) :
    (providerOf c).run.course met = match (met 0).provider? c.systemId with
      | some x => ([(met 0, met 0)], .ok x)
      | none => ([(met 0, met 0), (met 1, (makeProvider c (met 1)).2)],
          (makeProvider c (met 1)).1) := by
  unfold providerOf
  rw [course_look_bind]
  cases (met 0).provider? c.systemId with
  | some x => rfl
  | none => rfl

/-- Credentials are issued by the provider that is in use, or by the one that is made after a look
that found none. -/
theorem course_credentialsOf_ok {k : Credentials}
    (h : (credentialsOf c).run.course met = (l, .ok k)) :
    ∃ j i q, (∀ m ∈ l.take j, m.2 = m.1) ∧ j < l.length ∧ i.systemId = c.systemId ∧
      (met j).goesBy c .provider = some (.provider q.revoke) ∧
      ((credentialsBy i q).run.course (later met (j + 1))).2 = .ok k := by
  have hp := course_providerOf c met
  unfold credentialsOf at h
  cases hx : (met 0).provider? c.systemId with
  | some x =>
    obtain ⟨i, q⟩ := x
    obtain ⟨hi, hq⟩ := goesBy_of_provider? hx
    rw [hx] at hp
    rw [course_bind_ok hp] at h
    obtain ⟨rfl, hk⟩ := Prod.ext_iff.mp h
    exact ⟨0, i, q, by simp, by simp, hi, hq, hk⟩
  | none =>
    rw [hx] at hp
    dsimp only at hp
    cases hm : (makeProvider c (met 1)).1 with
    | error e =>
      rw [hm] at hp
      rw [course_bind_error hp] at h
      cases h
    | ok x =>
      obtain ⟨i, q⟩ := x
      obtain ⟨hi, hq⟩ := goesBy_of_makeProvider hm
      rw [hm] at hp
      rw [course_bind_ok hp] at h
      obtain ⟨rfl, hk⟩ := Prod.ext_iff.mp h
      exact ⟨1, i, q, by simp, by simp, hi, hq, hk⟩

theorem course_prepare_of_preparedBy (h : PreparedBy c reshape met p l) :
    (prepare c reshape).run.course met =
      ((met 0, (adapter c (met 0)).2) :: l ++
        [(met (1 + l.length), (transformer c (met (1 + l.length))).2),
          (met (2 + l.length), met (2 + l.length))], .ok p) := by
  unfold prepare adapterOf transformerOf
  rw [course_step_bind, h.adapter]
  dsimp only
  rw [course_bind_ok h.credentials, course_step_bind, later_later, later_apply, Nat.add_zero,
    h.transformer]
  dsimp only
  rw [course_look_bind, course_given_bind, later_later, later_apply, Nat.add_zero,
    show 1 + l.length + 1 = 2 + l.length by omega, h.payload]
  rfl

/-- The steps of a request up to its transformer: two looks, the adapter and the credentials. -/
theorem course_route_of_ready {p : Prepared Value} (operation : String) (context : RequestContext)
    (h : ready systemId (outbound params) (later met 1) = .ok (c, p, n)) :
    (met 1).find systemId = .ok c ∧
    ∃ l rest, PreparedBy c (outbound params) (later met 2) p l ∧
      ((route systemId operation params context).run.course met).1 =
        (met 0, met 0) :: (met 1, met 1) :: (met 2, (adapter c (met 2)).2) :: l ++
          (met (3 + l.length), (transformer c (met (3 + l.length))).2) :: rest := by
  obtain ⟨hf, k, -, hp⟩ := prepared_of_ready h
  obtain ⟨l, -, hl⟩ := preparedBy_of_prepared hp
  rw [later_later] at hl
  refine ⟨hf, l, ?_⟩
  obtain ⟨m, hm, -⟩ : ∃ m, (route systemId operation params context).run.course met = _ ∧
    Preparing m := course_observed (pipeline systemId operation params)
  obtain ⟨rest, r, he⟩ : ∃ rest r, (exchange c (outbound params) operation id
      Transformer.fromResult).run.course (later met 2) = (_ ++ rest, r) :=
    ⟨_, _, course_bind_ok (course_prepare_of_preparedBy hl)⟩
  refine ⟨(met (4 + l.length), met (4 + l.length)) :: rest ++ [m], hl, ?_⟩
  rw [hm, pipeline_eq, course_lookup_bind, hf]
  simp only [later_later, Nat.reduceAdd, he, later_apply, List.cons_append, List.append_assoc,
    ← Nat.add_assoc, Nat.add_zero, List.nil_append]

/-- To take an adapter changes none of the other parts. -/
theorem goesBy_after_adapter {k : Part} (hk : k ≠ .adapter) (c : SystemConfig) (g : Gateway) :
    (adapter c g).2.goesBy c k = g.goesBy c k := by
  have h : (adapter c g).2 = { g with adapters := (adapter c g).2.adapters } := by
    unfold adapter
    split <;> rfl
  rw [h]
  cases k with
  | adapter => exact absurd rfl hk
  | provider => rfl
  | transformer => rfl

theorem Providing.goesBy_transformer {m : Gateway × Gateway} (h : Providing m) :
    m.2.goesBy c .transformer = m.1.goesBy c .transformer := by
  rw [h.memory]
  rfl

/-- Whatever a request takes to its system goes by the gateway as it is polled to take it. -/
theorem takes_of_endsAt {p : Prepared Value} {r : Result Value}
    (h : (route systemId operation params context).run.EndsAt polls l r)
    (hr : ready systemId (outbound params) (later (meet (l.map Prod.fst) met) 1) =
      .ok (c, p, n)) :
    Takes systemId polls (meet (l.map Prod.fst) met) c p := by
  obtain ⟨hf, k, rest, hk, hl⟩ := course_route_of_ready operation context hr
  rw [h.ends.course_eq met] at hl
  have hview {β : Type} (v : Gateway → β) (i : Nat) (hi : i < l.length)
      (hv : ∀ n ∈ l.take i, v n.2 = v n.1) :
      ∃ y ∈ polls, v (meet (l.map Prod.fst) met i) = v y := h.view_meet met hi hv
  generalize meet (l.map Prod.fst) met = met at *
  dsimp only at hl
  constructor
  case system =>
    obtain ⟨y, hy, he⟩ := hview id 1 (by simp [hl]) (by simp [hl])
    obtain rfl : met 1 = y := he
    exact ⟨_, hy, hf⟩
  case adapter =>
    obtain ⟨y, hy, he⟩ := hview id 2 (by simp [hl]) (by simp [hl])
    obtain rfl : met 2 = y := he
    exact ⟨_, hy, hk.adapter, goesBy_adapter hk.adapter⟩
  case provider =>
    have hcred := hk.credentials
    rw [later_later] at hcred
    obtain ⟨j, i, q, hlooks, hj, hi, hq, hissue⟩ := course_credentialsOf_ok hcred
    obtain ⟨y, hy, he⟩ := hview (·.goesBy c .provider) (3 + j) (by simp [hl]; omega) (by
      rw [hl, Nat.add_comm]
      simp only [List.cons_append, List.take_succ_cons, List.take_append_of_le_length hj.le,
        List.forall_mem_cons]
      exact ⟨trivial, trivial, goesBy_after_adapter (by decide) c _, fun n hn => by
        rw [hlooks n hn]⟩)
    rw [later_later] at hissue
    exact ⟨y, hy, i, q, _, he.symm.trans hq, hi, hissue⟩
  case transformer =>
    have hprov : ∀ m ∈ ((credentialsOf c).run.course (later (later met 2) 1)).1, Providing m :=
      (providing_credentialsOf c).mem_course
    rw [hk.credentials] at hprov
    obtain ⟨y, hy, he⟩ := hview (·.goesBy c .transformer) (3 + k.length) (by simp [hl]; omega) (by
      rw [hl, Nat.add_comm]
      simp only [List.cons_append, List.take_succ_cons, List.take_left, List.forall_mem_cons]
      exact ⟨trivial, trivial, goesBy_after_adapter (by decide) c _, fun n hn =>
        (hprov n hn).goesBy_transformer⟩)
    have ht := hk.transformer
    rw [later_apply, ← Nat.add_assoc] at ht
    refine ⟨y, hy, he.symm.trans ?_⟩
    rw [Gateway.goesBy_transformer, ht]
    rfl

end Gateway
end Interchange
