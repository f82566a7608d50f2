import Interchange.Proofs.Gateway.Reports
import Interchange.Proofs.Gateway.Routing

/-! # Batches in one call

A system that takes batches gets the items of a batch in one call, or it gets none of them. Main
statement: if an item cannot be brought into the shape of the system, the batch fails with the error
of the first such item before it comes to a breaker or to the system; else all items go there
together, and the results are those in the reply, if all of these can be brought back.
-/

namespace Interchange

open Json

namespace Gateway

open Call Result

variable {α : Type} {c : SystemConfig} {a : Adapter} {k : Credentials} {t : Transformer}
  {systemId operation : String} {items payloads : List Value} {context : RequestContext}
  {met : Nat → Gateway} {e : Error} {n : Nat}

/-- A batch whose system is registered, enabled and takes batches, and for which an adapter,
credentials, in `n` steps, and a transformer are obtained; `met i` is the state that its step number
`i` meets. -/
structure Supplied (systemId : String) (met : Nat → Gateway) (c : SystemConfig) (a : Adapter)
    (k : Credentials) (n : Nat) (t : Transformer) : Prop where
  system : (met 1).find systemId = .ok c
  batches : c.metadata.supportsBatch = true
  adapter : (adapter c (met 2)).1 = .ok a
  credentials : ∃ l, (credentialsOf c).run.course (later met 3) = (l, .ok k) ∧ l.length = n
  transformer : (transformer c (met (3 + n))).1 = .ok t

def batchParams (payloads : List Value) : Value := .object [("items", .array payloads)]

/-- What a system is asked to execute for all items of a batch. -/
def batchExecute (operation : String) (payloads : List Value) (k : Credentials) : AdapterCall :=
  .execute (batchOperation operation) (batchParams payloads) k

/-- A batch whose items go to the system together, after `n` steps. -/
structure Together (operation : String) (payloads : List Value) (c : SystemConfig) (a : Adapter)
    (k : Credentials) (n : Nat) (t : Transformer) (met : Nat → Gateway)
    (run : List (Gateway × Gateway) × Result (List Value)) : Prop where
  /-- If the breaker refuses the batch or the system does not get connected, nothing is executed and
  the result is that error. -/
  refused : ∀ e, clearance c a (later met n) = .error e →
    run.2 = .error e ∧ ∀ id, executed id run.1 = []
  /-- Else one execution by one system is all there is. -/
  once : clearance c a (later met n) = .ok () → ∀ id,
    executed id run.1 = if a.systemId = id then [batchExecute operation payloads k] else []
  /-- The result is made from the reply to it, element by element, or is the error it came to. -/
  answered : clearance c a (later met n) = .ok () → ∃ i j, i < j ∧
    (run.1[i]?).map (asked a.systemId) = some [batchExecute operation payloads k] ∧
    match replied a.systemId (batchExecute operation payloads k) (met i) (met (i + 1)) with
    | .error e => run.2 = .error e
    | .ok reply =>
      (∀ rs, run.2 = .ok rs ↔
        List.Forall₂ (fun x r => t.fromResult (met j).schemas x = .ok r) (batchResults reply) rs) ∧
      ∀ e, run.2 = .error e ↔ FirstError (t.fromResult (met j).schemas) (batchResults reply) e
  /-- Only the invocation changes breakers, and nothing undoes what it does to them. -/
  breakers : ∃ l l', run.1 =
      l ++ ((invoke c a (batchOperation operation) (batchParams payloads) k).run.course
        (later met n)).1 ++ l' ∧
    l.length = n ∧ (∀ m ∈ l, Preparing m) ∧ ∀ m ∈ l', Preparing m

/-- A batch that goes to its system as a whole or not at all, if it takes batches. -/
def Whole (systemId operation : String) (items : List Value) (met : Nat → Gateway)
    (run : List (Gateway × Gateway) × Result (List Value)) : Prop :=
  ∀ c a k n t, Supplied systemId met c a k n t →
    (∃ e, FirstError (t.toExternal (met (4 + n)).schemas) items e ∧ run.2 = .error e ∧
      ∀ m ∈ run.1, Preparing m) ∨
    ∃ payloads,
      List.Forall₂ (fun x y => t.toExternal (met (4 + n)).schemas x = .ok y) items payloads ∧
      Together operation payloads c a k (5 + n) t met run

/-! ## The call -/

def outboundAll (items : List Value) (t : Transformer) (schemas : SchemaRegistry) :
    Result (List Value) := items.mapM (t.toExternal schemas)

def inboundAll (t : Transformer) (schemas : SchemaRegistry) (reply : Value) :
    Result (List Value) := t.fromResults schemas (batchResults reply)

theorem batchCall_eq (c : SystemConfig) (operation : String) (items : List Value) :
    batchCall c operation items =
      exchange c (outboundAll items) (batchOperation operation) batchParams inboundAll := rfl

/-- What a reply, or the error in its place, is made into. -/
theorem inboundAll_cases (t : Transformer) (schemas : SchemaRegistry) (r : Result Value) :
    let results := r >>= inboundAll t schemas
    match r with
    | .error e => results = .error e
    | .ok reply =>
      (∀ rs, results = .ok rs ↔
        List.Forall₂ (fun x v => t.fromResult schemas x = .ok v) (batchResults reply) rs) ∧
      ∀ e, results = .error e ↔ FirstError (t.fromResult schemas) (batchResults reply) e := by
  cases r with
  | error e => rfl
  | ok reply =>
    dsimp only
    rw [ok_bind, inboundAll, t.fromResults_eq_mapM]
    exact ⟨fun _ => mapM_eq_ok_iff, fun _ => mapM_eq_error_iff⟩

namespace Supplied

theorem prepared_eq (h : Supplied systemId met c a k n t)
    (reshape : Transformer → SchemaRegistry → Result α) :
    prepared c reshape (later met 2) =
      (reshape t (met (4 + n)).schemas).map fun payload => (⟨a, k, t, payload⟩, 3 + n) := by
  obtain ⟨l, hl, rfl⟩ := h.credentials
  unfold prepared
  simp only [later_apply, later_later, Nat.reduceAdd, Nat.add_zero, ← Nat.add_assoc, h.adapter, hl,
    h.transformer, ok_bind]
  cases reshape t (met (4 + l.length)).schemas <;> rfl

/-- The steps of the call stand between two looks and the report. -/
theorem course_batch (h : Supplied systemId met c a k n t) (operation : String)
    (items : List Value) (context : RequestContext) :
    let d := (batchCall c operation items).run.course (later met 2)
    ∃ looks m, (batch systemId operation items context).run.course met =
        (looks ++ (d.1 ++ [m]), d.2) ∧
      looks.length = 2 ∧ (∀ m ∈ looks, Preparing m) ∧ Preparing m := by
  have hs (i : Nat) : Preparing (met i, met i) := .of_silent (fun _ => rfl) rfl
  obtain ⟨m, hm, hp⟩ : ∃ m, (batch systemId operation items context).run.course met = _ ∧
    Preparing m := course_observed _
  refine ⟨[(met 0, met 0), (met 1, met 1)], m, ?_, rfl, by simp [hs], hp⟩
  rw [hm, course_lookup_bind]
  simp only [later_apply, Nat.add_zero, h.system, h.batches, if_true, later_later, Nat.reduceAdd,
    List.cons_append, List.nil_append]

/-- If an item cannot be brought into shape, the batch only prepares. -/
theorem course_batch_error (h : Supplied systemId met c a k n t)
    (he : outboundAll items t (met (4 + n)).schemas = .error e) (operation : String)
    (context : RequestContext) :
    ∃ l, (batch systemId operation items context).run.course met = (l, .error e) ∧
      ∀ m ∈ l, Preparing m := by
  have hr := h.prepared_eq (outboundAll items)
  rw [he] at hr
  obtain ⟨l, hd, hl⟩ :=
    course_exchange_error (batchOperation operation) batchParams inboundAll hr
  obtain ⟨looks, m, hm, -, hlooks, hp⟩ := h.course_batch operation items context
  rw [← batchCall_eq] at hd
  rw [hd] at hm
  refine ⟨_, hm, List.forall_mem_append.mpr ⟨hlooks, ?_⟩⟩
  exact List.forall_mem_append.mpr ⟨hl, List.forall_mem_singleton.mpr hp⟩

/-- If all items can, the batch goes on to its invocation, and else only prepares. -/
theorem course_batch_ok (h : Supplied systemId met c a k n t)
    (hp : outboundAll items t (met (4 + n)).schemas = .ok payloads) (operation : String)
    (context : RequestContext) :
    let d := (invoke c a (batchOperation operation) (batchParams payloads) k).run.course
      (later met (5 + n))
    ∃ l l', l.length = 5 + n ∧ (∀ m ∈ l, Preparing m) ∧ (∀ m ∈ l', Preparing m) ∧
      (batch systemId operation items context).run.course met =
        (l ++ (d.1 ++ l'), d.2 >>= inboundAll t (met (5 + n + d.1.length)).schemas) := by
  have hr := h.prepared_eq (outboundAll items)
  rw [hp] at hr
  obtain ⟨l, l', hlen, hl, hl', hd⟩ :=
    course_exchange_ok (batchOperation operation) batchParams inboundAll hr
  obtain ⟨looks, m, hm, hlooks, hpl, hpm⟩ := h.course_batch operation items context
  rw [batchCall_eq, hd] at hm
  refine ⟨looks ++ l, l' ++ [m], ?_, List.forall_mem_append.mpr ⟨hpl, hl⟩,
    List.forall_mem_append.mpr ⟨hl', List.forall_mem_singleton.mpr hpm⟩, ?_⟩
  · rw [List.length_append, hlooks, hlen, ← Nat.add_assoc]
  · rw [hm]
    simp only [later_later, later_apply, ← Nat.add_assoc, Nat.reduceAdd, List.append_assoc]

theorem together (h : Supplied systemId met c a k n t)
    (hp : outboundAll items t (met (4 + n)).schemas = .ok payloads) (operation : String)
    (context : RequestContext) : Together operation payloads c a k (5 + n) t met
      ((batch systemId operation items context).run.course met) := by
  obtain ⟨l, l', hlen, hl, hl', hrun⟩ := h.course_batch_ok hp operation context
  rw [hrun]
  constructor
  case refused =>
    intro e he
    obtain ⟨d, hd, hn⟩ :=
      course_invoke_error (batchOperation operation) (batchParams payloads) k he
    rw [hd]
    refine ⟨rfl, fun id => ?_⟩
    rw [executed_append, executed_append, executed_of_preparing hl, hn, executed_of_preparing hl']
    rfl
  case once =>
    intro hk id
    obtain ⟨d, i, hd, _, hn⟩ :=
      course_invoke_ok (batchOperation operation) (batchParams payloads) k hk
    rw [hd, executed_append, executed_append, executed_of_preparing hl, hn,
      executed_of_preparing hl', List.append_nil, List.nil_append]
    rfl
  case answered =>
    intro hk
    obtain ⟨d, i, hd, hi, _⟩ :=
      course_invoke_ok (batchOperation operation) (batchParams payloads) k hk
    obtain ⟨m, hm, _⟩ := Option.map_eq_some_iff.mp hi
    obtain ⟨hlt, _⟩ := List.getElem?_eq_some_iff.mp hm
    rw [hd]
    refine ⟨5 + n + i, 5 + n + d.length, Nat.add_lt_add_left hlt _, ?_, inboundAll_cases t _ _⟩
    rw [List.getElem?_append_right (by omega), hlen, Nat.add_sub_cancel_left,
      List.getElem?_append_left hlt]
    exact hi
  case breakers =>
    exact ⟨l, l', (List.append_assoc ..).symm, hlen, hl, hl'⟩

end Supplied

theorem whole_course (systemId operation : String) (items : List Value)
    (context : RequestContext) (met : Nat → Gateway) : Whole systemId operation items met
      ((batch systemId operation items context).run.course met) := by
  intro c a k n t h
  cases hp : outboundAll items t (met (4 + n)).schemas with
  | ok payloads => exact .inr ⟨payloads, mapM_eq_ok_iff.mp hp, h.together hp operation context⟩
  | error e =>
    obtain ⟨l, hl, hn⟩ := h.course_batch_error hp operation context
    rw [hl]
    exact .inl ⟨e, mapM_eq_error_iff.mp hp, rfl, hn⟩

/-! ## At most once, whatever becomes of it -/

/-- A step that has nothing executed. -/
def Idle (m : Gateway × Gateway) : Prop := ∀ id, (asked id m).filter AdapterCall.isExecute = []

/-- A step that has the operation of a batch executed. -/
def Executes (operation : String) (m : Gateway × Gateway) : Prop :=
  ∃ systemId params k, Notes systemId (.execute (batchOperation operation) params k) m

/-- Steps that have nothing executed, or once the operation of a batch. -/
def AtMostOnce (operation : String) (l : List (Gateway × Gateway)) : Prop :=
  (∀ id, executed id l = []) ∨ ∃ systemId params k, ∀ id,
    executed id l = if systemId = id then [.execute (batchOperation operation) params k] else []

theorem tolerant_idle : Tolerant Idle where
  refl g id := by simp [asked]
  extend {g g' h} hi hm id := by
    have hc : asked id (g, h) = asked id (g, g') := by rw [asked, asked, hm.silent id]
    rw [hc]
    exact hi id

theorem idle_question_connect (systemId : String) (g : Gateway) :
    Idle (g, (question systemId .connect g).2) := by
  intro id
  rw [(notes_question systemId .connect g).asked_eq]
  split_ifs <;> rfl

theorem Preparing.idle {m : Gateway × Gateway} (h : Preparing m) : Idle m := h.executes

theorem idle_prepare (c : SystemConfig) (reshape : Transformer → SchemaRegistry → Result α) :
    (prepare c reshape).run.Keeps Idle := by
  refine keeps_bind (keeps_step fun g => (preparing_adapter c g).idle) fun a => ?_
  refine keeps_bind ((providing_credentialsOf c).mono fun m h => h.preparing.idle) fun k => ?_
  refine keeps_bind (keeps_step fun g => (preparing_transformer c g).idle) fun t => ?_
  refine keeps_bind (keeps_look tolerant_idle.refl _) fun schemas => ?_
  exact keeps_bind (keeps_given _) fun _ => keeps_pure _

theorem once_batchCall (c : SystemConfig) (operation : String) (items : List Value) :
    (batchCall c operation items).run.Once Idle (Executes operation) := by
  refine keeps_bind_once (idle_prepare c (outboundAll items)) fun p => ?_
  refine once_bind_keeps (once_guarded tolerant_idle c.systemId ?_) fun reply =>
    keeps_bind (keeps_look tolerant_idle.refl _) fun _ => keeps_given _
  refine keeps_bind_once (keeps_ensureConnected tolerant_idle (idle_question_connect _)) fun _ => ?_
  exact once_ask tolerant_idle fun g => ⟨_, _, _, notes_question _ _ g⟩

theorem atMostOnce_of_goes {x : GatewayCall α} {l : List (Gateway × Gateway)}
    {fate : Fate (Result α)} (hx : x.run.Once Idle (Executes operation))
    (h : x.run.Goes l fate) : AtMostOnce operation l := by
  rcases hx.cases_goes h with hl | ⟨l₁, m, l₂, rfl, h₁, ⟨systemId, params, k, hm⟩, h₂⟩
  · exact .inl fun id => executed_eq_nil fun m hm => hl m hm id
  · refine .inr ⟨systemId, params, k, fun id => ?_⟩
    rw [executed_append, executed_cons, hm.asked_eq, executed_eq_nil fun m hm => h₁ m hm id,
      executed_eq_nil fun m hm => h₂ m hm id]
    split_ifs <;> rfl

/-- Monitoring a call executes nothing. -/
theorem Around.executed_eq {inner l : List (Gateway × Gateway)} {fate : Fate (Result α)}
    (h : Around systemId operation context inner l fate) (id : String) :
    executed id l = executed id inner := by
  have hs (g : Gateway) : asked id (g, g) = [] := Silent.asked_eq fun _ => rfl
  have hr (outcome : OperationOutcome) (d : Duration) (s t : Gateway) :
      asked id (s, afterReport systemId operation context outcome d t) = asked id (s, t) := rfl
  cases h with
  | inFlight g => simp [hs]
  | ended g s r d => simp [hs, hr]
  | givenUp g s t d => simp [hs, hr]

/-- The steps of what is observed come one step later, and meet the same states. -/
theorem Around.getElem? {inner l : List (Gateway × Gateway)} {fate : Fate (Result α)}
    (h : Around systemId operation context inner l fate) {i : Nat} (hi : i < inner.length) :
    (l[i + 1]?).map Prod.fst = (inner[i]?).map Prod.fst := by
  cases h with
  | inFlight g => rfl
  | ended g s r d => simp [List.getElem?_append_left hi]
  | givenUp g s t d =>
    simp only [List.cons_append, List.getElem?_cons_succ, List.getElem?_append]
    split_ifs with hlt
    · rfl
    · cases i - _ <;> rfl

/-- A batch that has found, with its second step, a system that takes batches has at most one
operation executed, also while it is in flight and if it is given up. -/
theorem atMostOnce_batch {m : Gateway × Gateway} {l : List (Gateway × Gateway)}
    {fate : Fate (Result (List Value))}
    (h : (batch systemId operation items context).run.Goes l fate) (hm : l[1]? = some m)
    (hc : m.1.find systemId = .ok c) (hb : c.metadata.supportsBatch = true) :
    AtMostOnce operation l := by
  have hs (g : Gateway) : Idle (g, g) := tolerant_idle.refl g
  obtain ⟨as, hbatched, ha⟩ := batchGoes_of_goes h
  unfold AtMostOnce
  simp only [ha.executed_eq]
  cases hbatched with
  | heldUp => exact .inl fun _ => rfl
  | givenUp g => exact .inl fun id => by simp [hs g id]
  | unknown hg => exact .inl fun id => by simp [hs _ id]
  | @whole g _ l' _ hg _ hgoes =>
    have hl := atMostOnce_of_goes (once_batchCall ..) hgoes
    simpa only [AtMostOnce, executed_cons, hs g _, List.nil_append] using hl
  | @items g c' as _ hg hn _ =>
    -- the state that the second step met is the one in which the system was found
    have hfirst := ha.getElem? (i := 0) (by simp)
    rw [hm] at hfirst
    obtain rfl : m.1 = g := by simpa using hfirst
    rw [hg] at hc
    cases hc
    rw [hb] at hn
    cases hn

/--
A batch for a system that takes batches goes to it in one call, whatever states other calls leave
the batch at its steps: it is whole, and so is every batch that is polled until it ends, at the
states that it met; and no batch, whatever becomes of it, has more than one operation executed.
-/
theorem batch_allOrNothing (systemId operation : String) (items : List Value)
    (context : RequestContext) :
    (∀ met, Whole systemId operation items met
      ((batch systemId operation items context).run.course met)) ∧
    (∀ run, (batch systemId operation items context).run.Ends run.1 run.2 →
      ∀ met, Whole systemId operation items (meet (run.1.map Prod.fst) met) run) ∧
    ∀ l fate, (batch systemId operation items context).run.Goes l fate →
      ∀ m, l[1]? = some m → ∀ c, m.1.find systemId = .ok c → c.metadata.supportsBatch = true →
        AtMostOnce operation l := by
  refine ⟨whole_course systemId operation items context, fun run h met => ?_, ?_⟩
  · have hw := whole_course systemId operation items context (meet (run.1.map Prod.fst) met)
    rwa [h.course_eq met] at hw
  · intro l fate h m hm c hc hb
    exact atMostOnce_batch h hm hc hb

/-- A system that connects, and replies to a batch with two results. -/
def twoResults : Peer where
  reply calls := .now (.ok (if calls.length ≤ 1 then .bool true else .array [.bool true, .null]))

def listing : Gateway :=
  { unconnected with
    registry :=
      { systems := [("crm", { systemId := "crm", systemType := "crm", name := "CRM",
                              metadata := { supportsBatch := true } })] }
    adapters := { unconnected.adapters with peers := fun _ => twoResults } }

/-- A batch for it ends at its first poll, with these results, after one execution. -/
theorem batch_allOrNothing_listing : ∃ l k,
    (batch "crm" "read" [.null, .null] ⟨"r", none, []⟩).run.Ends l (.ok [.bool true, .null]) ∧
      ∀ id, executed id l =
        if "crm" = id then [batchExecute "read" [.null, .null] k] else [] := by
  have hp : ((batch "crm" "read" [.null, .null] ⟨"r", none, []⟩).run.poll listing).1 =
      .done (.ok [.bool true, .null]) := rfl
  have he : (batch "crm" "read" [.null, .null] ⟨"r", none, []⟩).run.Ends
      ((batch "crm" "read" [.null, .null] ⟨"r", none, []⟩).run.polled listing ++ [])
      (.ok [.bool true, .null]) := by
    refine Ends.poll listing ?_
    rw [hp]
    exact Ends.done _
  have hw := (batch_allOrNothing "crm" "read" [.null, .null] ⟨"r", none, []⟩).2.1 (_, _) he
    fun _ => listing
  have hc := hw _ ⟨"crm", 0⟩ _ _
    { systemId := "crm", systemType := "crm", rules := [], schemas := [] }
    ⟨rfl, rfl, rfl, ⟨_, rfl, rfl⟩, rfl⟩
  rcases hc with
    ⟨e, -, he', -⟩ | ⟨payloads, hps, ht⟩
  · cases he'
  · obtain rfl : payloads = [.null, .null] := by
      have hm : Except.ok [.null, .null] = Except.ok payloads := mapM_eq_ok_iff.mpr hps
      exact (Except.ok.inj hm).symm
    refine ⟨_, _, he, ht.once ?_⟩
    cases hk : clearance _ _ (later (meet _ fun _ => listing) _) with
    | ok u => rfl
    | error e => cases (ht.refused e hk).1

end Gateway
end Interchange
