import Interchange.Proofs.Gateway.Routing
import Interchange.Proofs.Gateway.Systems

/-! # Batches, item by item

Main statement: a batch for a system that takes none is what the requests for its items are, made
one after another up to the first that fails. It does the same, comes to the same and leaves the
same behind; all that it adds is its own report to monitoring.
-/

namespace Interchange

open Json

/-! ## One after another -/

section OneByOne

variable {σ α β : Type} {one : α → σ → Option (Result β × σ)} {item : α} {items rest : List α}
  {v : β} {vs : List β} {s t : σ} {e : Error}

/-- What comes of items one after another, each met by the state that the one before it leaves, up
to the first error. -/
def oneByOne (one : α → σ → Option (Result β × σ)) : List α → σ → Option (Result (List β) × σ)
  | [], s => some (.ok [], s)
  | item :: rest, s => match one item s with
    | none => none
    | some (.error e, t) => some (.error e, t)
    | some (.ok v, t) => (oneByOne one rest t).map fun x => (x.1.map (v :: ·), x.2)

/-- Items that succeed one after another, with their results. -/
inductive Passes (one : α → σ → Option (Result β × σ)) : List α → σ → List β → σ → Prop
  | nil (s : σ) : Passes one [] s [] s
  | cons {item : α} {rest : List α} {s t u : σ} {v : β} {vs : List β} :
      one item s = some (.ok v, t) → Passes one rest t vs u →
      Passes one (item :: rest) s (v :: vs) u

theorem oneByOne_cons_none (h : one item s = none) : oneByOne one (item :: rest) s = none := by
  simp only [oneByOne, h]

theorem oneByOne_cons_ok (h : one item s = some (.ok v, t)) :
    oneByOne one (item :: rest) s = (oneByOne one rest t).map fun x => (x.1.map (v :: ·), x.2) := by
  simp only [oneByOne, h]

theorem oneByOne_cons_error (h : one item s = some (.error e, t)) :
    oneByOne one (item :: rest) s = some (.error e, t) := by
  simp only [oneByOne, h]

theorem oneByOne_eq_ok_iff : oneByOne one items s = some (.ok vs, t) ↔ Passes one items s vs t := by
  constructor
  · intro h
    induction items generalizing s vs with
    | nil =>
      cases h
      exact .nil _
    | cons item rest ih =>
      rcases ho : one item s with _ | ⟨e | v, u⟩
      · rw [oneByOne_cons_none ho] at h
        cases h
      · rw [oneByOne_cons_error ho] at h
        cases h
      · rw [oneByOne_cons_ok ho] at h
        obtain ⟨⟨_ | ws, w⟩, hr, hw⟩ := Option.map_eq_some_iff.mp h
        · cases hw
        · cases hw
          exact .cons ho (ih hr)
  · intro h
    induction h with
    | nil s => rfl
    | cons ho _ ih =>
      rw [oneByOne_cons_ok ho, ih]
      rfl

theorem oneByOne_eq_error_iff : oneByOne one items s = some (.error e, t) ↔
    ∃ done item rest vs u, items = done ++ item :: rest ∧ Passes one done s vs u ∧
      one item u = some (.error e, t) := by
  constructor
  · intro h
    induction items generalizing s with
    | nil => cases h
    | cons item rest ih =>
      rcases ho : one item s with _ | ⟨e' | v, u⟩
      · rw [oneByOne_cons_none ho] at h
        cases h
      · rw [oneByOne_cons_error ho] at h
        cases h
        exact ⟨[], item, rest, [], s, rfl, .nil s, ho⟩
      · rw [oneByOne_cons_ok ho] at h
        obtain ⟨⟨_ | ws, w⟩, hr, hw⟩ := Option.map_eq_some_iff.mp h
        · cases hw
          obtain ⟨done, item', rest', vs, u', rfl, hp, hi⟩ := ih hr
          exact ⟨item :: done, item', rest', v :: vs, u', rfl, .cons ho hp, hi⟩
        · cases hw
  · rintro ⟨done, item, rest, vs, u, rfl, hp, hi⟩
    induction hp with
    | nil s => exact oneByOne_cons_error hi
    | cons ho _ ih =>
      rw [List.cons_append, oneByOne_cons_ok ho, ih hi]
      rfl

theorem Passes.length_eq (h : Passes one items s vs t) : vs.length = items.length := by
  induction h with
  | nil s => rfl
  | cons _ _ ih => rw [List.length_cons, List.length_cons, ih]

/-- Every result is that of its own item, after the items before it. -/
theorem Passes.getElem (h : Passes one items s vs t) {i : Nat} (hi : i < items.length)
    (hv : i < vs.length) : ∃ u w, Passes one (items.take i) s (vs.take i) u ∧
      one items[i] u = some (.ok vs[i], w) := by
  induction h generalizing i with
  | nil s => cases hi
  | cons ho _ ih =>
    cases i with
    | zero => exact ⟨_, _, .nil _, ho⟩
    | succ i =>
      obtain ⟨u, w, hp, hu⟩ := ih (Nat.lt_of_succ_lt_succ hi) (Nat.lt_of_succ_lt_succ hv)
      exact ⟨u, w, .cons ho hp, hu⟩

end OneByOne

namespace Gateway

open Call

variable {α : Type} {serve : Gateway → Gateway} {met : Nat → Gateway} {g : Gateway}
  {systemId operation : String} {context : RequestContext} {items : List Value}

/-! ## Reports -/

/-- The gateway once a call that began at a moment has told monitoring how it ended. -/
def withReport (systemId operation : String) (context : RequestContext) (started : Instant)
    (r : Result α) (g : Gateway) : Gateway :=
  g.emit (.operation
    { systemId, operation, outcome := .ofResult r, duration := ⟨g.now - started⟩, context })

theorem alone_observed (body : GatewayCall α) :
    (observed systemId operation context body).run.alone serve g =
      (body.run.alone serve g).map fun x =>
        (x.1, withReport systemId operation context g.now x.1 x.2) := by
  unfold observed
  rw [alone_bind_ok (alone_look _ g), alone_bind, alone_attempt]
  cases body.run.alone serve g with
  | none => rfl
  | some x => rfl

theorem course_observed_eq (body : GatewayCall α) :
    (observed systemId operation context body).run.course met =
      let c := body.run.course (later met 1)
      let last := met (1 + c.1.length)
      ((met 0, met 0) :: c.1 ++
        [(last, withReport systemId operation context (met 0).now c.2 last)], c.2) := by
  unfold observed
  rw [course_look_bind, course_bind_ok (course_attempt _ _), course_change_bind]
  simp [withReport]

/-! ## Requests for items -/

def routeAlone (serve : Gateway → Gateway) (systemId operation : String) (context : RequestContext)
    (item : Value) (g : Gateway) : Option (Result Value × Gateway) :=
  (route systemId operation (some item) context).run.alone serve g

/-- A request for an item at the states that it meets after some steps. -/
def routeMeeting (met : Nat → Gateway) (systemId operation : String) (context : RequestContext)
    (item : Value) (l : List (Gateway × Gateway)) :
    Option (Result Value × List (Gateway × Gateway)) :=
  let c := (route systemId operation (some item) context).run.course (later met l.length)
  some (c.2, l ++ c.1)

theorem alone_routeAll (serve : Gateway → Gateway) (systemId operation : String)
    (context : RequestContext) (items : List Value) (g : Gateway) :
    (routeAll systemId operation context items).run.alone serve g =
      oneByOne (routeAlone serve systemId operation context) items g := by
  induction items generalizing g with
  | nil => rfl
  | cons item rest ih =>
    rw [routeAll, alone_bind]
    change (routeAlone serve systemId operation context item g).bind _ = _
    rcases hr : routeAlone serve systemId operation context item g with _ | ⟨e | v, h⟩
    · rw [oneByOne_cons_none hr]
      rfl
    · rw [oneByOne_cons_error hr]
      rfl
    · rw [oneByOne_cons_ok hr, ← ih, Option.bind_some]
      dsimp only
      rw [alone_bind]
      rcases (routeAll systemId operation context rest).run.alone serve h with _ | ⟨e | vs, k⟩ <;>
        rfl

theorem course_routeAll (met : Nat → Gateway) (systemId operation : String)
    (context : RequestContext) (items : List Value) (l : List (Gateway × Gateway)) :
    let c := (routeAll systemId operation context items).run.course (later met l.length)
    oneByOne (routeMeeting met systemId operation context) items l = some (c.2, l ++ c.1) := by
  induction items generalizing l with
  | nil => simp [oneByOne, routeAll]
  | cons item rest ih =>
    rcases hr : (route systemId operation (some item) context).run.course (later met l.length) with
      ⟨d, e | v⟩
    · have ho : routeMeeting met systemId operation context item l = some (.error e, l ++ d) := by
        rw [routeMeeting, hr]
      rw [oneByOne_cons_error ho, routeAll, course_bind_error hr]
    · have ho : routeMeeting met systemId operation context item l = some (.ok v, l ++ d) := by
        rw [routeMeeting, hr]
      rw [oneByOne_cons_ok ho, ih, routeAll, course_bind_ok hr, course_bind, later_later,
        List.length_append]
      rcases (routeAll systemId operation context rest).run.course
        (later met (l.length + d.length)) with ⟨d', e | vs⟩
      · simp [Except.map]
      · simp [Except.map]

/-! ## Batches -/

/-- A batch that is made alone is what the requests for its items are, one after another. -/
structure SequentialAlone (systemId operation : String) (items : List Value)
    (context : RequestContext) (g : Gateway) : Prop where
  /-- It comes to the same and leaves the same gateway, but for its own report. -/
  same : ∀ serve, (batch systemId operation items context).run.alone serve g =
    (oneByOne (routeAlone serve systemId operation context) items g).map fun x =>
      (x.1, withReport systemId (batchOperation operation) context g.now x.1 x.2)
  /-- It succeeds where every item does, and each result is that of its own item. -/
  ok_iff : ∀ serve vs h, (batch systemId operation items context).run.alone serve g =
      some (.ok vs, h) ↔
    ∃ k, Passes (routeAlone serve systemId operation context) items g vs k ∧
      h = withReport systemId (batchOperation operation) context g.now (.ok vs) k
  own : ∀ serve vs h, (batch systemId operation items context).run.alone serve g =
      some (.ok vs, h) → vs.length = items.length ∧
    ∀ i (_ : i < items.length) (_ : i < vs.length), ∃ k k',
      Passes (routeAlone serve systemId operation context) (items.take i) g (vs.take i) k ∧
      routeAlone serve systemId operation context items[i] k = some (.ok vs[i], k')
  /-- It fails with the error of the first item that does, and the items behind that one are not
  requested. -/
  error_iff : ∀ serve e h, (batch systemId operation items context).run.alone serve g =
      some (.error e, h) ↔
    ∃ done item rest vs k k', items = done ++ item :: rest ∧
      Passes (routeAlone serve systemId operation context) done g vs k ∧
      routeAlone serve systemId operation context item k = some (.error e, k') ∧
      h = withReport systemId (batchOperation operation) context g.now
        (.error e : Result (List Value)) k'

/-- A batch is what the requests for its items are, one after another; `g` is the gateway in which
it looks its system up. -/
structure Sequential (systemId operation : String) (items : List Value) (context : RequestContext)
    (g : Gateway) : Prop where
  alone : .registry ∉ g.held → SequentialAlone systemId operation items context g
  /-- Where other calls change the gateway meanwhile, it takes the same steps at the states that it
  meets, behind its looks at the clock and at the configuration, and reports in the end. -/
  interleaved : ∀ met : Nat → Gateway, met 1 = g → ∃ r l,
    oneByOne (routeMeeting met systemId operation context) items [(met 0, met 0), (g, g)] =
      some (r, l) ∧
    (batch systemId operation items context).run.course met =
      (l ++ [(met l.length,
        withReport systemId (batchOperation operation) context (met 0).now r (met l.length))], r)

variable {c : SystemConfig}

theorem alone_batch (hg : .registry ∉ g.held) (hc : g.find systemId = .ok c)
    (hb : c.metadata.supportsBatch = false) :
    (batch systemId operation items context).run.alone serve g =
      (oneByOne (routeAlone serve systemId operation context) items g).map fun x =>
        (x.1, withReport systemId (batchOperation operation) context g.now x.1 x.2) := by
  have hl : (lookup systemId).run.alone serve g = some (.ok c, g) := by
    rw [lookup, alone_bind_ok (alone_pass hg), alone_step, hc]
  unfold batch
  rw [alone_observed, alone_bind_ok hl]
  simp only [hb, Bool.false_eq_true, if_false]
  rw [alone_routeAll]

theorem course_batch (hc : (met 1).find systemId = .ok c) (hb : c.metadata.supportsBatch = false) :
    ∃ r l, oneByOne (routeMeeting met systemId operation context) items
        [(met 0, met 0), (met 1, met 1)] = some (r, l) ∧
      (batch systemId operation items context).run.course met =
        (l ++ [(met l.length,
          withReport systemId (batchOperation operation) context (met 0).now r (met l.length))],
          r) := by
  have hl := course_routeAll met systemId operation context items [(met 0, met 0), (met 1, met 1)]
  refine ⟨_, _, hl, ?_⟩
  unfold batch
  rw [course_observed_eq, course_lookup_bind, later_apply, hc]
  simp only [hb, Bool.false_eq_true, if_false, later_later, List.length_cons, List.length_nil,
    Nat.reduceAdd]
  simp [Nat.add_comm]

theorem sequentialAlone (hg : .registry ∉ g.held) (hc : g.find systemId = .ok c)
    (hb : c.metadata.supportsBatch = false) :
    SequentialAlone systemId operation items context g := by
  constructor
  case same =>
    intro serve
    exact alone_batch hg hc hb
  case ok_iff =>
    intro serve vs h
    rw [alone_batch hg hc hb, Option.map_eq_some_iff]
    constructor
    · rintro ⟨⟨r, k⟩, hr, he⟩
      cases he
      exact ⟨k, oneByOne_eq_ok_iff.mp hr, rfl⟩
    · rintro ⟨k, hp, rfl⟩
      exact ⟨_, oneByOne_eq_ok_iff.mpr hp, rfl⟩
  case own =>
    intro serve vs h hr
    rw [alone_batch hg hc hb] at hr
    obtain ⟨⟨_, k⟩, hi, he⟩ := Option.map_eq_some_iff.mp hr
    cases he
    have hp := oneByOne_eq_ok_iff.mp hi
    exact ⟨hp.length_eq, fun _ => hp.getElem⟩
  case error_iff =>
    intro serve e h
    rw [alone_batch hg hc hb, Option.map_eq_some_iff]
    constructor
    · rintro ⟨⟨r, k'⟩, hr, he⟩
      cases he
      obtain ⟨done, item, rest, vs, k, hi, hp, ho⟩ := oneByOne_eq_error_iff.mp hr
      exact ⟨done, item, rest, vs, k, k', hi, hp, ho, rfl⟩
    · rintro ⟨done, item, rest, vs, k, k', hi, hp, ho, rfl⟩
      exact ⟨_, oneByOne_eq_error_iff.mpr ⟨done, item, rest, vs, k, hi, hp, ho⟩, rfl⟩

/-- A batch for a system that takes none is what the requests for its items are, one after another
up to the first that fails. -/
theorem batch_sequential (hc : g.find systemId = .ok c) (hb : c.metadata.supportsBatch = false) :
    Sequential systemId operation items context g where
  alone hg := sequentialAlone hg hc hb
  interleaved := by
    rintro met rfl
    exact course_batch hc hb

/-- A system that connects, executes once and then fails. -/
def executesOnce (_ : String) : Peer where
  reply calls :=
    .now (if calls.length ≤ 2 then .ok (.bool true) else .error (.adapter "crm" "down"))

def failing : Gateway :=
  { unconnected with adapters := { unconnected.adapters with peers := executesOnce } }

/-- Of a batch of three items the second fails, and so does the batch. -/
theorem batch_sequential_failing : ∃ h,
    (batch "crm" "read" [.null, .null, .null] ⟨"r", none, []⟩).run.alone id failing =
      some (.error (.adapter "crm" "down"), h) := by
  have hs : Sequential "crm" "read" [.null, .null, .null] ⟨"r", none, []⟩ failing :=
    batch_sequential (c := { systemId := "crm", systemType := "crm", name := "CRM" }) rfl rfl
  apply Exists.intro
  apply ((hs.alone List.not_mem_nil).error_iff _ _ _).mpr
  exact ⟨[.null], .null, [.null], [.bool true], _, _, rfl, .cons rfl (.nil _), rfl, rfl⟩

end Gateway
end Interchange
