import Interchange.Gateway.Route
import Interchange.Proofs.Gateway.Invocation
import Interchange.Proofs.Gateway.Issuing
import Interchange.Proofs.Transform.Inbound

/-! # The routing pipeline

A request takes its stages in one order: configuration, adapter, credentials, transformer, outbound
payload, breaker, connection, execution, inbound result. Main statement: whatever the states that
its steps meet, the operation is executed once when all the stages before it pass, and not at all
when one of them fails, whose error is then the result.
-/

namespace Interchange

open Json

/-! ## Outbound payloads -/

/-- An outbound payload that may go to a system: the canonical schema accepts what it was made from,
and the schema of the system accepts what it was made into. -/
structure Transformer.Conforms (t : Transformer) (schemas : SchemaRegistry)
    (input payload : Value) : Prop where
  internal : ∀ s, schemas.internal? (entityTypeOf input) = some s → s.accepts input = true
  external : ∀ s, t.externalSchema? schemas (entityTypeOf input) = some s →
    s.accepts payload = true

theorem Transformer.conforms_of_toExternal {t : Transformer} {schemas : SchemaRegistry}
    {input payload : Value} (h : t.toExternal schemas input = .ok payload) :
    t.Conforms schemas input payload := by
  unfold toExternal at h
  obtain ⟨_, hi, h⟩ := Result.bind_eq_ok_iff.mp h
  obtain ⟨_, he, h⟩ := Result.bind_eq_ok_iff.mp h
  cases h
  exact ⟨SchemaRegistry.check_eq_ok_iff.mp hi, SchemaRegistry.check_eq_ok_iff.mp he⟩

namespace Gateway

open Call

variable {α : Type} {c : SystemConfig} {systemId operation : String} {params : Option Value}
  {context : RequestContext} {reshape : Transformer → SchemaRegistry → Result α}
  {met : Nat → Gateway} {l : List (Gateway × Gateway)} {m : Gateway × Gateway} {e : Error}
  {n : Nat}

/-! ## Before the breaker -/

/-- A step that leaves the breakers alone and asks no system anything; it may build an adapter. -/
structure Preparing (m : Gateway × Gateway) : Prop where
  breakers : m.2.breakers = m.1.breakers
  builds : ∀ id, ∀ q ∈ asked id m, ∃ systemType, q = .build systemType

theorem Preparing.of_silent (h : Silent m) (hb : m.2.breakers = m.1.breakers) : Preparing m :=
  ⟨hb, fun id => by simp [h.asked_eq]⟩

theorem Preparing.executes (h : Preparing m) (id : String) :
    (asked id m).filter AdapterCall.isExecute = [] := by
  refine List.filter_eq_nil_iff.mpr fun q hq => ?_
  obtain ⟨systemType, rfl⟩ := h.builds id q hq
  exact Bool.false_ne_true

theorem executed_of_preparing {id : String} (h : ∀ m ∈ l, Preparing m) : executed id l = [] :=
  executed_eq_nil fun m hm => (h m hm).executes id

theorem preparing_adapter (c : SystemConfig) (g : Gateway) : Preparing (g, (adapter c g).2) := by
  refine ⟨?_, fun id => ?_⟩
  · unfold adapter
    split <;> rfl
  · rcases adapter_step c g with h | h
    · simp [h.asked_eq]
    · rw [h.asked_eq]
      split_ifs <;> simp

theorem Providing.preparing (h : Providing m) : Preparing m := by
  have ha : m.2.adapters = m.1.adapters := by rw [h.memory]
  refine .of_silent (fun id => ?_) (by rw [h.memory])
  rw [calls, ha]
  rfl

theorem preparing_credentialsOf (c : SystemConfig) (met : Nat → Gateway) :
    ∀ m ∈ ((credentialsOf c).run.course met).1, Preparing m := fun m hm =>
  ((providing_credentialsOf c).mem_course m hm).preparing

theorem preparing_transformer (c : SystemConfig) (g : Gateway) :
    Preparing (g, (transformer c g).2) := by
  have h : ∃ ts, (transformer c g).2 = { g with transformers := ts } := by
    unfold transformer
    split <;> exact ⟨_, rfl⟩
  obtain ⟨ts, h⟩ := h
  rw [h]
  exact .of_silent (fun _ => rfl) rfl

/-- What a call to a configured system gets ready, and in how many steps. -/
def prepared (c : SystemConfig) (reshape : Transformer → SchemaRegistry → Result α)
    (met : Nat → Gateway) : Result (Prepared α × Nat) := do
  let adapter ← (adapter c (met 0)).1
  let (l, credentials) := (credentialsOf c).run.course (later met 1)
  let credentials ← credentials
  let transformer ← (transformer c (met (1 + l.length))).1
  let payload ← reshape transformer (met (2 + l.length)).schemas
  pure ({ adapter, credentials, transformer, payload }, 3 + l.length)

/-- A call that has its parts has taken its stages one after another. -/
structure PreparedBy (c : SystemConfig) (reshape : Transformer → SchemaRegistry → Result α)
    (met : Nat → Gateway) (p : Prepared α) (l : List (Gateway × Gateway)) : Prop where
  adapter : (adapter c (met 0)).1 = .ok p.adapter
  credentials : (credentialsOf c).run.course (later met 1) = (l, .ok p.credentials)
  transformer : (transformer c (met (1 + l.length))).1 = .ok p.transformer
  payload : reshape p.transformer (met (2 + l.length)).schemas = .ok p.payload

theorem preparedBy_of_prepared {p : Prepared α} (h : prepared c reshape met = .ok (p, n)) :
    ∃ l, n = 3 + l.length ∧ PreparedBy c reshape met p l := by
  unfold prepared at h
  obtain ⟨a, ha, h⟩ := Result.bind_eq_ok_iff.mp h
  rcases hl : (credentialsOf c).run.course (later met 1) with ⟨l, r⟩
  rw [hl] at h
  obtain ⟨credentials, rfl, hk⟩ := Result.bind_eq_ok_iff.mp h
  obtain ⟨t, ht, hk⟩ := Result.bind_eq_ok_iff.mp hk
  obtain ⟨payload, hp, hk⟩ := Result.bind_eq_ok_iff.mp hk
  cases hk
  exact ⟨l, rfl, ha, hl, ht, hp⟩

theorem course_prepare (c : SystemConfig) (reshape : Transformer → SchemaRegistry → Result α)
    (met : Nat → Gateway) :
    ∃ l, (prepare c reshape).run.course met = (l, (prepared c reshape met).map Prod.fst) ∧
      (∀ m ∈ l, Preparing m) ∧ ∀ p n, prepared c reshape met = .ok (p, n) → l.length = n := by
  have ha := preparing_adapter c (met 0)
  unfold prepare prepared adapterOf transformerOf
  rw [course_step_bind]
  cases (adapter c (met 0)).1 with
  | error e => exact ⟨_, rfl, by simpa using ha, by simp⟩
  | ok a =>
    simp only [Result.ok_bind]
    have hc := preparing_credentialsOf c (later met 1)
    rcases hl : (credentialsOf c).run.course (later met 1) with ⟨l, e | credentials⟩
    · rw [hl] at hc
      rw [course_bind_error hl]
      exact ⟨_, rfl, List.forall_mem_cons.mpr ⟨ha, hc⟩, by simp⟩
    · rw [hl] at hc
      rw [course_bind_ok hl, course_step_bind]
      simp only [Result.ok_bind, later_apply, later_later, Nat.add_zero, course_look_bind,
        course_given_bind]
      have ht := preparing_transformer c (met (1 + l.length))
      have hs (i : Nat) : Preparing (met i, met i) := .of_silent (fun _ => rfl) rfl
      have hfront := List.forall_mem_cons.mpr ⟨ha, hc⟩
      cases (transformer c (met (1 + l.length))).1 with
      | error e =>
        exact ⟨_, rfl, List.forall_mem_append.mpr ⟨hfront, by simpa using ht⟩, by simp⟩
      | ok t =>
        have hback := List.forall_mem_append.mpr ⟨hfront, List.forall_mem_cons.mpr
          ⟨ht, List.forall_mem_singleton.mpr (hs (1 + l.length + 1))⟩⟩
        rw [show 2 + l.length = 1 + l.length + 1 by omega]
        simp only [Result.ok_bind]
        cases reshape t (met (1 + l.length + 1)).schemas with
        | error e => exact ⟨_, rfl, hback, by simp⟩
        | ok payload =>
          refine ⟨_, rfl, hback, fun p n h => ?_⟩
          cases h
          simp
          omega

/-- What a call to a system that is registered and enabled gets ready, and in how many steps. -/
def ready (systemId : String) (reshape : Transformer → SchemaRegistry → Result α)
    (met : Nat → Gateway) : Result (SystemConfig × Prepared α × Nat) := do
  let c ← (met 0).find systemId
  let (p, n) ← prepared c reshape (later met 1)
  pure (c, p, 1 + n)

/-- What goes to a system: what is ready, once the breaker and the connection are passed; with the
number of the steps before those. -/
def dispatched (systemId : String) (reshape : Transformer → SchemaRegistry → Result α)
    (met : Nat → Gateway) : Result (Prepared α × Nat) := do
  let (c, p, n) ← ready systemId reshape met
  clearance c p.adapter (later met n)
  pure (p, n)

theorem prepared_of_ready {p : Prepared α} (h : ready systemId reshape met = .ok (c, p, n)) :
    (met 0).find systemId = .ok c ∧
      ∃ k, n = 1 + k ∧ prepared c reshape (later met 1) = .ok (p, k) := by
  obtain ⟨c', hc, h⟩ := Result.bind_eq_ok_iff.mp h
  obtain ⟨⟨p', k⟩, hp, h⟩ := Result.bind_eq_ok_iff.mp h
  cases h
  exact ⟨hc, k, rfl, hp⟩

theorem course_lookup_bind {β : Type} (k : SystemConfig → GatewayCall β) :
    (lookup systemId >>= k).run.course met =
      match (met 0).find systemId with
      | .ok c =>
        let d := (k c).run.course (later met 1)
        ((met 0, met 0) :: d.1, d.2)
      | .error e => ([(met 0, met 0)], .error e) := by
  have h : (lookup systemId).run.course met = ([(met 0, met 0)], (met 0).find systemId) :=
    course_step _
  rw [course_bind, h]
  cases (met 0).find systemId <;> rfl

/-- The last stage takes the schemas of the state that it meets. -/
theorem course_answer {β : Type} {x : GatewayCall α} {r : Result α}
    (f : SchemaRegistry → α → Result β) (h : x.run.course met = (l, r)) :
    ∃ l', (do
        let a ← x
        let schemas ← look (·.schemas)
        given (f schemas a)).run.course met =
          (l ++ l', do
            let a ← r
            f (met l.length).schemas a) ∧
      ∀ m ∈ l', Preparing m := by
  cases r with
  | error e => exact ⟨[], by rw [course_bind_error h, List.append_nil]; rfl, by simp⟩
  | ok a =>
    refine ⟨[(met l.length, met l.length)], ?_, ?_⟩
    · rw [course_bind_ok h, course_look_bind]
      rfl
    · simpa using Preparing.of_silent (fun _ => rfl) rfl

/-! ## To a system and back -/

variable {β : Type}

/-- What a call to a configured system goes through on its way and back. -/
def exchange (c : SystemConfig) (reshape : Transformer → SchemaRegistry → Result α)
    (operation : String) (wrap : α → Value)
    (finish : Transformer → SchemaRegistry → Value → Result β) : GatewayCall β := do
  let p ← prepare c reshape
  let answer ← invoke c p.adapter operation (wrap p.payload) p.credentials
  let schemas ← look (·.schemas)
  given (finish p.transformer schemas answer)

theorem course_exchange_error (operation : String) (wrap : α → Value)
    (finish : Transformer → SchemaRegistry → Value → Result β)
    (h : prepared c reshape met = .error e) :
    ∃ l, (exchange c reshape operation wrap finish).run.course met = (l, .error e) ∧
      ∀ m ∈ l, Preparing m := by
  obtain ⟨l, hl, hp, _⟩ := course_prepare c reshape met
  rw [h] at hl
  exact ⟨l, course_bind_error hl, hp⟩

/-- A call that has its parts goes on to its invocation; nothing but that touches a breaker. -/
theorem course_exchange_ok (operation : String) (wrap : α → Value)
    (finish : Transformer → SchemaRegistry → Value → Result β) {p : Prepared α}
    (h : prepared c reshape met = .ok (p, n)) :
    let d := (invoke c p.adapter operation (wrap p.payload) p.credentials).run.course (later met n)
    ∃ l l', l.length = n ∧ (∀ m ∈ l, Preparing m) ∧ (∀ m ∈ l', Preparing m) ∧
      (exchange c reshape operation wrap finish).run.course met =
        (l ++ (d.1 ++ l'), do
          let answer ← d.2
          finish p.transformer (met (n + d.1.length)).schemas answer) := by
  obtain ⟨l, hl, hp, hn⟩ := course_prepare c reshape met
  have hlen := hn p n h
  rw [h] at hl
  let d := (invoke c p.adapter operation (wrap p.payload) p.credentials).run.course (later met n)
  obtain ⟨l', ha, hp'⟩ := course_answer (finish p.transformer) (Prod.eta d).symm
  refine ⟨l, l', hlen, hp, hp', ?_⟩
  unfold exchange
  rw [course_bind_ok hl, hlen, ha]
  rfl

theorem pipeline_eq (systemId operation : String) (params : Option Value) :
    pipeline systemId operation params = lookup systemId >>= fun c =>
      exchange c (outbound params) operation id Transformer.fromResult := rfl

/-- A call that is not ready ends with the error, and only prepares. -/
theorem course_pipeline_unready (operation : String)
    (h : ready systemId (outbound params) met = .error e) :
    ∃ l, (pipeline systemId operation params).run.course met = (l, .error e) ∧
      ∀ m ∈ l, Preparing m := by
  have hs : Preparing (met 0, met 0) := .of_silent (fun _ => rfl) rfl
  unfold ready at h
  rw [pipeline_eq, course_lookup_bind]
  cases hc : (met 0).find systemId with
  | error e' =>
    rw [hc] at h
    cases h
    exact ⟨_, rfl, by simpa using hs⟩
  | ok c =>
    rw [hc, Result.ok_bind] at h
    cases hr : prepared c (outbound params) (later met 1) with
    | error e' =>
      rw [hr] at h
      cases h
      obtain ⟨l, hl, hp⟩ := course_exchange_error operation id Transformer.fromResult hr
      exact ⟨_, by simp only [hl], List.forall_mem_cons.mpr ⟨hs, hp⟩⟩
    | ok p =>
      rw [hr] at h
      cases h

/-- A call that is ready goes on to its invocation, and nothing but that touches a breaker. -/
theorem course_pipeline_ready (operation : String) {p : Prepared Value}
    (h : ready systemId (outbound params) met = .ok (c, p, n)) :
    let d := (invoke c p.adapter operation p.payload p.credentials).run.course (later met n)
    ∃ l l', l.length = n ∧ (∀ m ∈ l, Preparing m) ∧ (∀ m ∈ l', Preparing m) ∧
      (pipeline systemId operation params).run.course met =
        (l ++ (d.1 ++ l'), do
          let answer ← d.2
          p.transformer.fromResult (met (n + d.1.length)).schemas answer) := by
  have hs : Preparing (met 0, met 0) := .of_silent (fun _ => rfl) rfl
  obtain ⟨hc, k, rfl, hr⟩ := prepared_of_ready h
  obtain ⟨l, l', hlen, hp, hp', hl⟩ := course_exchange_ok operation id
    Transformer.fromResult hr
  refine ⟨(met 0, met 0) :: l, l', by simp [hlen, Nat.add_comm],
    List.forall_mem_cons.mpr ⟨hs, hp⟩, hp', ?_⟩
  rw [pipeline_eq, course_lookup_bind, hc]
  simp only [hl, later_later, later_apply, ← Nat.add_assoc]
  rfl

/-- Monitoring a call adds one step before it and one behind it. -/
theorem course_observed (body : GatewayCall α) :
    ∃ m, (observed systemId operation context body).run.course met =
        ((met 0, met 0) :: (body.run.course (later met 1)).1 ++ [m],
          (body.run.course (later met 1)).2) ∧
      Preparing m := by
  unfold observed
  rw [course_look_bind, course_bind_ok (course_attempt _ _), course_change_bind]
  exact ⟨_, rfl, .of_silent (fun _ => rfl) rfl⟩

theorem executed_observed {id : String} (hm : Preparing m) :
    executed id ((met 0, met 0) :: l ++ [m]) = executed id l := by
  have hs : Preparing (met 0, met 0) := .of_silent (fun _ => rfl) rfl
  simp [hs.executes, hm.executes]

/-! ## The whole request -/

theorem dispatched_of_unready (h : ready systemId reshape met = .error e) :
    dispatched systemId reshape met = .error e := by
  unfold dispatched
  rw [h]
  rfl

theorem dispatched_of_ready {p : Prepared α} (h : ready systemId reshape met = .ok (c, p, n)) :
    dispatched systemId reshape met =
      match clearance c p.adapter (later met n) with
      | .ok _ => .ok (p, n)
      | .error e => .error e := by
  unfold dispatched
  rw [h]
  change (clearance c p.adapter (later met n) >>= fun _ => pure (p, n)) = _
  cases clearance c p.adapter (later met n) <;> rfl

theorem ready_of_dispatched {p : Prepared α} (h : dispatched systemId reshape met = .ok (p, n)) :
    ∃ c, ready systemId reshape met = .ok (c, p, n) := by
  obtain ⟨⟨c, p', k⟩, hr, h⟩ := Result.bind_eq_ok_iff.mp h
  obtain ⟨_, _, h⟩ := Result.bind_eq_ok_iff.mp h
  cases h
  exact ⟨c, hr⟩

/-- The payload that is ready has been made with the transformer and the schemas of its stage, the
last one. -/
theorem reshaped_of_ready {p : Prepared α}
    (h : ready systemId reshape (later met 1) = .ok (c, p, n)) :
    reshape p.transformer (met n).schemas = .ok p.payload := by
  obtain ⟨-, k, rfl, hp⟩ := prepared_of_ready h
  obtain ⟨l, rfl, hl⟩ := preparedBy_of_prepared hp
  have hr := hl.payload
  rwa [later_later, later_apply, show 1 + 1 + (2 + l.length) = 1 + (3 + l.length) by omega] at hr

/-- A request that is not dispatched ends with the error, and nothing is executed. -/
theorem course_pipeline_error (operation : String)
    (h : dispatched systemId (outbound params) met = .error e) :
    ∃ l, (pipeline systemId operation params).run.course met = (l, .error e) ∧
      ∀ id, executed id l = [] := by
  rcases hr : ready systemId (outbound params) met with e' | ⟨c, p, n⟩
  · rw [dispatched_of_unready hr] at h
    cases h
    obtain ⟨l, hl, hp⟩ := course_pipeline_unready operation hr
    exact ⟨l, hl, fun id => executed_of_preparing hp⟩
  · rw [dispatched_of_ready hr] at h
    cases hk : clearance c p.adapter (later met n) with
    | ok u => simp [hk] at h
    | error e' =>
      simp only [hk] at h
      cases h
      obtain ⟨l, l', _, hp, hp', hl⟩ := course_pipeline_ready operation hr
      obtain ⟨d, hi, hn⟩ := course_invoke_error operation p.payload p.credentials hk
      rw [hi] at hl
      refine ⟨_, hl, fun id => ?_⟩
      rw [executed_append, executed_append, executed_of_preparing hp, executed_of_preparing hp', hn]
      rfl

/-- A request that is dispatched has its operation executed once, and its result is made from the
reply. -/
theorem course_pipeline_ok (operation : String) {p : Prepared Value}
    (h : dispatched systemId (outbound params) met = .ok (p, n)) :
    ∃ l k j, (pipeline systemId operation params).run.course met =
        (l, do
          let answer ← replied p.adapter.systemId
            (.execute operation p.payload p.credentials) (met k) (met (k + 1))
          p.transformer.fromResult (met j).schemas answer) ∧
      (l[k]?).map (asked p.adapter.systemId) =
        some [.execute operation p.payload p.credentials] ∧
      ∀ id, executed id l =
        if p.adapter.systemId = id then [.execute operation p.payload p.credentials] else [] := by
  rcases hr : ready systemId (outbound params) met with e' | ⟨c, p', n'⟩
  · rw [dispatched_of_unready hr] at h
    cases h
  · rw [dispatched_of_ready hr] at h
    cases hk : clearance c p'.adapter (later met n') with
    | error e' => simp [hk] at h
    | ok u =>
      simp only [hk] at h
      cases h
      obtain ⟨l, l', hlen, hp, hp', hl⟩ := course_pipeline_ready operation hr
      obtain ⟨d, k, hi, hm, hn⟩ := course_invoke_ok operation p.payload p.credentials hk
      rw [hi] at hl
      refine ⟨_, n + k, n + d.length, hl, ?_, fun id => ?_⟩
      · obtain ⟨m, hk, _⟩ := Option.map_eq_some_iff.mp hm
        obtain ⟨hlt, _⟩ := List.getElem?_eq_some_iff.mp hk
        rw [List.getElem?_append_right (by omega), hlen, Nat.add_sub_cancel_left,
          List.getElem?_append_left hlt]
        exact hm
      · rw [executed_append, executed_append, executed_of_preparing hp, hn,
          executed_of_preparing hp', List.append_nil, List.nil_append]

/-- A request that takes its stages in order, when `met i` is the state that its step number `i`
meets. -/
structure Staged (systemId operation : String) (params : Option Value) (met : Nat → Gateway)
    (run : List (Gateway × Gateway) × Result Value) : Prop where
  /-- The first stage that fails gives the result, and nothing is executed. -/
  failed : ∀ e, dispatched systemId (outbound params) (later met 1) = .error e →
    run.2 = .error e ∧ ∀ id, executed id run.1 = []
  /-- When all stages pass the operation is executed once, by one system. -/
  once : ∀ p n, dispatched systemId (outbound params) (later met 1) = .ok (p, n) → ∀ id,
    executed id run.1 =
      if p.adapter.systemId = id then [.execute operation p.payload p.credentials] else []
  /-- The result is made from the reply to the step that had it executed. -/
  answered : ∀ p n, dispatched systemId (outbound params) (later met 1) = .ok (p, n) → ∃ k j,
    (run.1[k]?).map (asked p.adapter.systemId) =
        some [.execute operation p.payload p.credentials] ∧
      run.2 = do
        let answer ← replied p.adapter.systemId
          (.execute operation p.payload p.credentials) (met k) (met (k + 1))
        p.transformer.fromResult (met j).schemas answer
  /-- The payload has been checked with the schemas of the last step before the breaker. -/
  conforms : ∀ p n, dispatched systemId (outbound params) (later met 1) = .ok (p, n) →
    p.transformer.Conforms (met n).schemas (params.getD (.object [])) p.payload
  /-- A failure before the breaker leaves all breakers alone. -/
  unready : ∀ e, ready systemId (outbound params) (later met 1) = .error e →
    ∀ m ∈ run.1, m.2.breakers = m.1.breakers

theorem staged_course (systemId operation : String) (params : Option Value)
    (context : RequestContext) (met : Nat → Gateway) :
    Staged systemId operation params met
      ((route systemId operation params context).run.course met) := by
  obtain ⟨m, hrun, hm⟩ : ∃ m, (route systemId operation params context).run.course met = _ ∧
      Preparing m := course_observed (pipeline systemId operation params)
  rw [hrun]
  constructor
  case failed =>
    intro e h
    obtain ⟨l, hl, hn⟩ := course_pipeline_error operation h
    rw [hl]
    exact ⟨rfl, fun id => (executed_observed hm).trans (hn id)⟩
  case once =>
    intro p n h id
    obtain ⟨l, k, j, hl, _, hn⟩ := course_pipeline_ok operation h
    rw [hl]
    exact (executed_observed hm).trans (hn id)
  case answered =>
    intro p n h
    obtain ⟨l, k, j, hl, hk, _⟩ := course_pipeline_ok operation h
    obtain ⟨m', hm', _⟩ := Option.map_eq_some_iff.mp hk
    obtain ⟨hlt, _⟩ := List.getElem?_eq_some_iff.mp hm'
    rw [hl]
    refine ⟨1 + k, 1 + j, ?_, rfl⟩
    rw [Nat.add_comm 1, List.cons_append, List.getElem?_cons_succ, List.getElem?_append_left hlt]
    exact hk
  case conforms =>
    intro p n h
    obtain ⟨c, hc⟩ := ready_of_dispatched h
    exact Transformer.conforms_of_toExternal (reshaped_of_ready hc)
  case unready =>
    intro e h n hn
    obtain ⟨l, hl, hp⟩ := course_pipeline_unready operation h
    rw [hl] at hn
    rcases List.mem_append.mp hn with hn | hn
    · rcases List.mem_cons.mp hn with rfl | hn
      · rfl
      · exact (hp n hn).breakers
    · rw [List.mem_singleton.mp hn]
      exact hm.breakers

/--
Every request takes its stages in order, whatever states other calls leave it at its steps; so does
every request that is polled until it ends, at the states that it met.
-/
theorem route_staged (systemId operation : String) (params : Option Value)
    (context : RequestContext) :
    (∀ met, Staged systemId operation params met
      ((route systemId operation params context).run.course met)) ∧
    ∀ run, (route systemId operation params context).run.Ends run.1 run.2 →
      ∀ met, Staged systemId operation params (meet (run.1.map Prod.fst) met) run := by
  refine ⟨staged_course systemId operation params context, fun run h met => ?_⟩
  have hs := staged_course systemId operation params context (meet (run.1.map Prod.fst) met)
  rwa [h.course_eq met] at hs

/-- A gateway with one system, whose adapter is in use but not connected. -/
def unconnected : Gateway where
  registry := { systems := [("crm", { systemId := "crm", systemType := "crm", name := "CRM" })] }
  security :=
    { store := { encryptor := ⟨⟨fun _ _ => [], fun _ _ => []⟩⟩ }
      providers := [("crm", .apiKey "X-Key" "k")] }
  adapters :=
    { adapters := [("crm", ⟨"crm", 0⟩)]
      peers := fun _ => { reply := fun _ => .now (.ok (.bool true)) } }
  transformers := [("crm", { systemId := "crm", systemType := "crm", rules := [], schemas := [] })]
  now := 0

/-- A request to it ends at its first poll, and has its operation executed by one system. -/
theorem route_staged_polled : ∃ l systemId payload credentials,
    (route "crm" "read" none ⟨"r", none, []⟩).run.Ends l (.ok (.bool true)) ∧
      ∀ id, executed id l =
        if systemId = id then [.execute "read" payload credentials] else [] := by
  have hp : ((route "crm" "read" none ⟨"r", none, []⟩).run.poll unconnected).1 =
      .done (.ok (.bool true)) := rfl
  have he : (route "crm" "read" none ⟨"r", none, []⟩).run.Ends
      ((route "crm" "read" none ⟨"r", none, []⟩).run.polled unconnected ++ [])
      (.ok (.bool true)) := by
    refine Ends.poll unconnected ?_
    rw [hp]
    exact Ends.done _
  have hs := (route_staged "crm" "read" none ⟨"r", none, []⟩).2 (_, _) he fun _ => unconnected
  cases hd : dispatched "crm" (outbound none) (later (meet _ fun _ => unconnected) 1) with
  | error e => cases (hs.failed e hd).1
  | ok x => exact ⟨_, _, x.1.payload, x.1.credentials, he, hs.once x.1 x.2 hd⟩

end Gateway
end Interchange
