import Interchange.Adapter.Pool
import Interchange.Proofs.Dict.Sorted
import Interchange.Proofs.Result
import Mathlib.Tactic.SplitIfs

/-! # Adapters of different systems

The pool keeps adapters and connections by system; tickets and the numbers of adapters are common to
all. What is done to the connection of one system leaves the others as they are, and where two pools
agree on a system, they still do after the same was done in both.
-/

namespace Interchange

/-! ## Links -/

namespace Link

variable {l l' l'' : Link} {f : Link → Link}

/-- Two connections are in the same state after the same calls. -/
structure Alike (l l' : Link) : Prop where
  connected : l.connected = l'.connected
  calls : l.calls = l'.calls
  seen : l.seen = l'.seen

/-- A change that leaves the callers that wait alone, and comes to the same for two connections in
the same state. -/
structure Plain (f : Link → Link) : Prop where
  waiters : ∀ l, (f l).waiters = l.waiters
  answers : ∀ l, (f l).answers = l.answers
  alike : ∀ l l', Alike l l' → Alike (f l) (f l')

theorem plain_undergo (peer : Peer) (e : AdapterEvent) : Plain (·.undergo peer e) := by
  refine ⟨fun _ => ?_, fun _ => ?_, fun l l' h => ?_⟩
  · cases e <;> rfl
  · cases e <;> rfl
  · cases e <;> exact ⟨by simp only [undergo, note, h.connected, h.seen],
      by simp only [undergo, note, h.calls], by simp only [undergo, note, h.seen]⟩

theorem Plain.comp {f' : Link → Link} (hf : Plain f) (hf' : Plain f') :
    Plain fun l => f (f' l) :=
  ⟨fun l => (hf.waiters _).trans (hf'.waiters l), fun l => (hf.answers _).trans (hf'.answers l),
    fun _ _ h => hf.alike _ _ (hf'.alike _ _ h)⟩

/-- What an adapter undergoes when its system is asked something and answers. -/
def exchange (peer : Peer) (q : AdapterCall) (r : Result Json.Value) (l : Link) : Link :=
  (l.undergo peer (.done q)).undergo peer (.answered q r)

theorem plain_exchange (peer : Peer) (q : AdapterCall) (r : Result Json.Value) :
    Plain (exchange peer q r) := (plain_undergo peer _).comp (plain_undergo peer _)

/-- A caller who waits where nobody else does gets the next answer, and leaves nothing behind. -/
theorem take?_release (hw : l.waiters = []) (ha : l.answers = []) (ticket : Nat)
    (r : Result Json.Value) :
    (l.enqueue ticket).answered ticket = false ∧
      ((l.enqueue ticket).release r).2.answered ticket = true ∧
      ((l.enqueue ticket).release r).2.take? ticket = (some r, l) := by
  obtain ⟨connected, calls, seen, waiters, answers⟩ := l
  subst hw ha
  simp [enqueue, answered, release, take?]

end Link

namespace AdapterPool

variable {systemId id : String} {p p' p'' q q' : AdapterPool} {f : Link → Link}
  {c : SystemConfig}

/-- Two pools hold the same for a system, but for the number of its adapter. -/
structure Alike (systemId : String) (p p' : AdapterPool) : Prop where
  types : p.types = p'.types
  peers : p.peers = p'.peers
  has : p.has systemId = p'.has systemId
  link : (p.link systemId).Alike (p'.link systemId)

theorem Alike.refl (systemId : String) (p : AdapterPool) : Alike systemId p p :=
  ⟨rfl, rfl, rfl, rfl, rfl, rfl⟩

theorem Alike.symm (h : Alike systemId p p') : Alike systemId p' p :=
  ⟨h.types.symm, h.peers.symm, h.has.symm, h.link.connected.symm, h.link.calls.symm,
    h.link.seen.symm⟩

theorem Alike.trans (h : Alike systemId p p') (h' : Alike systemId p' p'') : Alike systemId p p'' :=
  ⟨h.types.trans h'.types, h.peers.trans h'.peers, h.has.trans h'.has,
    h.link.connected.trans h'.link.connected, h.link.calls.trans h'.link.calls,
    h.link.seen.trans h'.link.seen⟩

/-- No caller waits for an answer, and the adapters are kept under their systems. -/
structure Tidy (p : AdapterPool) : Prop where
  waiters : ∀ id, (p.link id).waiters = []
  answers : ∀ id, (p.link id).answers = []
  named : ∀ id a, p.adapters.get? id = some a → a.systemId = id

/-! ## Changing a connection -/

theorem link_setLink (systemId : String) (f : Link → Link) (p : AdapterPool) (id : String) :
    (p.setLink systemId f).link id = if systemId = id then f (p.link id) else p.link id := by
  simp only [link, setLink, Dict.get?_insert]
  split_ifs with h
  · rw [h]
    rfl
  · rfl

/-- Nothing changes but the connection to one system, by `f`, and the tickets that are given out. -/
structure Changes (systemId : String) (f : Link → Link) (p q : AdapterPool) : Prop where
  types : q.types = p.types
  peers : q.peers = p.peers
  adapters : q.adapters = p.adapters
  link : ∀ id, q.link id = if systemId = id then f (p.link id) else p.link id

theorem changes_setLink (systemId : String) (f : Link → Link) (p : AdapterPool) :
    Changes systemId f p (p.setLink systemId f) :=
  ⟨rfl, rfl, rfl, link_setLink systemId f p⟩

theorem changes_undergo (systemId : String) (e : AdapterEvent) (p : AdapterPool) :
    Changes systemId (·.undergo (p.peers systemId) e) p (p.undergo systemId e) :=
  changes_setLink ..

theorem Changes.link_self (h : Changes systemId f p q) : q.link systemId = f (p.link systemId) := by
  rw [h.link, if_pos rfl]

theorem Changes.beside (h : Changes systemId f p q) (hid : id ≠ systemId) : Alike id p q := by
  refine ⟨h.types.symm, h.peers.symm, by rw [has, has, h.adapters], ?_⟩
  rw [h.link, if_neg (Ne.symm hid)]
  exact ⟨rfl, rfl, rfl⟩

theorem Changes.tidy (h : Changes systemId f p q) (hf : Link.Plain f) (hp : p.Tidy) : q.Tidy := by
  refine ⟨fun id => ?_, fun id => ?_, fun id a ha => ?_⟩
  · rw [h.link]
    split_ifs
    · rw [hf.waiters, hp.waiters]
    · exact hp.waiters id
  · rw [h.link]
    split_ifs
    · rw [hf.answers, hp.answers]
    · exact hp.answers id
  · rw [h.adapters] at ha
    exact hp.named id a ha

theorem Alike.changes (h : Alike systemId p p') (hf : Link.Plain f) (hq : Changes systemId f p q)
    (hq' : Changes systemId f p' q') : Alike systemId q q' := by
  refine ⟨?_, ?_, ?_, ?_⟩
  · rw [hq.types, hq'.types, h.types]
  · rw [hq.peers, hq'.peers, h.peers]
  · rw [AdapterPool.has, AdapterPool.has, hq.adapters, hq'.adapters]
    exact h.has
  · rw [hq.link_self, hq'.link_self]
    exact hf.alike _ _ h.link

/-! ## Waiting for an answer -/

section Waiting

variable {late : String → List AdapterCall → Result Json.Value} {call : AdapterCall}

/-- The pool once a question to a system waits for its answer. -/
def waiting (p : AdapterPool) (systemId : String) (call : AdapterCall) : AdapterPool :=
  (p.undergo systemId (.done call)).newTicket.2.setLink systemId (·.enqueue p.tickets)

/-- The pool once the system has answered the caller in front. What it answers is a function of all
that was done to it. -/
def served (late : String → List AdapterCall → Result Json.Value) (p : AdapterPool)
    (systemId : String) : AdapterPool :=
  p.setLink systemId fun l => (l.release (late systemId l.calls)).2

/-- The pool once an answer has been taken by the caller with a ticket. -/
def taken (p : AdapterPool) (systemId : String) (call : AdapterCall) (ticket : Nat)
    (r : Result Json.Value) : AdapterPool :=
  (p.setLink systemId fun l => (l.take? ticket).2).undergo systemId (.answered call r)

theorem link_waiting (p : AdapterPool) (systemId : String) (call : AdapterCall) (id : String) :
    (p.waiting systemId call).link id =
      if systemId = id then
        ((p.link id).undergo (p.peers systemId) (.done call)).enqueue p.tickets
      else p.link id := by
  have hn : (p.undergo systemId (.done call)).newTicket.2.link id =
      if systemId = id then (p.link id).undergo (p.peers systemId) (.done call) else p.link id :=
    link_setLink systemId (·.undergo (p.peers systemId) (.done call)) p id
  rw [waiting, link_setLink, hn]
  split_ifs <;> rfl

theorem answered_waiting (hp : p.Tidy) :
    ((p.waiting systemId call).link systemId).answered p.tickets = false := by
  rw [link_waiting, if_pos rfl]
  exact (Link.take?_release (hp.waiters systemId) (hp.answers systemId) p.tickets (.ok .null)).1

theorem link_served (p : AdapterPool) (systemId : String) (call : AdapterCall) :
    ((p.waiting systemId call).served late systemId).link systemId =
      ((((p.link systemId).undergo (p.peers systemId) (.done call)).enqueue p.tickets).release
        (late systemId ((p.link systemId).calls ++ [call]))).2 := by
  rw [served, link_setLink, if_pos rfl, link_waiting, if_pos rfl]
  rfl

theorem answered_served (hp : p.Tidy) :
    (((p.waiting systemId call).served late systemId).link systemId).answered p.tickets = true := by
  rw [link_served]
  exact (Link.take?_release (l := (p.link systemId).undergo (p.peers systemId) (.done call))
    (hp.waiters systemId) (hp.answers systemId) ..).2.1

theorem take?_served (hp : p.Tidy) (late : String → List AdapterCall → Result Json.Value)
    (systemId : String) (call : AdapterCall) :
    (((p.waiting systemId call).served late systemId).link systemId).take? p.tickets =
      (some (late systemId ((p.link systemId).calls ++ [call])),
        (p.link systemId).undergo (p.peers systemId) (.done call)) := by
  rw [link_served]
  exact (Link.take?_release (l := (p.link systemId).undergo (p.peers systemId) (.done call))
    (hp.waiters systemId) (hp.answers systemId) ..).2.2

theorem changes_exchange (systemId : String) (call : AdapterCall) (r : Result Json.Value)
    (p : AdapterPool) :
    Changes systemId (Link.exchange (p.peers systemId) call r) p
      ((p.undergo systemId (.done call)).undergo systemId (.answered call r)) := by
  refine ⟨rfl, rfl, rfl, fun id => ?_⟩
  rw [(changes_undergo ..).link, (changes_undergo ..).link]
  split_ifs <;> rfl

/-- Nothing is left of a question that was answered but that it was asked and answered. -/
theorem changes_taken (hp : p.Tidy) (r : Result Json.Value) :
    Changes systemId (Link.exchange (p.peers systemId) call r) p
      (((p.waiting systemId call).served late systemId).taken systemId call p.tickets r) := by
  refine ⟨rfl, rfl, rfl, fun id => ?_⟩
  rw [taken, (changes_undergo ..).link, link_setLink]
  split_ifs with hid
  · subst hid
    rw [take?_served hp]
    rfl
  · rw [served, link_setLink, if_neg hid, link_waiting, if_neg hid]

end Waiting

/-! ## Making adapters -/

def allowed (p : AdapterPool) (c : SystemConfig) : Result Unit :=
  match p.types.get? (Text.lowercase c.systemType) with
  | none => .error (.unsupportedSystemType c.systemType)
  | some check => check c

def build (p : AdapterPool) (c : SystemConfig) : AdapterPool :=
  let q := p.undergo c.systemId (.done (.build c.systemType))
  { q with adapters := q.adapters.insert c.systemId ⟨c.systemId, p.made⟩, made := p.made + 1 }

theorem obtain_eq (p : AdapterPool) (c : SystemConfig) :
    p.obtain c = match p.adapters.get? c.systemId with
      | some a => .ok (a, p)
      | none => (p.allowed c).map fun _ => (⟨c.systemId, p.made⟩, p.build c) := by
  unfold obtain allowed
  cases p.adapters.get? c.systemId with
  | some a => rfl
  | none =>
    cases p.types.get? (Text.lowercase c.systemType) with
    | none => rfl
    | some check => cases hc : check c <;> simp [hc, Except.map, build, undergo, setLink]

theorem beside_build (hid : id ≠ c.systemId) : Alike id p (p.build c) := by
  have h := (changes_undergo c.systemId (.done (.build c.systemType)) p).beside hid
  refine ⟨h.types, h.peers, ?_, h.link⟩
  simp [has, build, undergo, setLink, Dict.contains_insert, Ne.symm hid]

theorem Tidy.build (hp : p.Tidy) (c : SystemConfig) : (p.build c).Tidy := by
  have h := (changes_undergo c.systemId (.done (.build c.systemType)) p).tidy
    (Link.plain_undergo ..) hp
  refine ⟨h.waiters, h.answers, fun id a ha => ?_⟩
  simp only [AdapterPool.build, Dict.get?_insert] at ha
  split_ifs at ha with hid
  · cases ha
    exact hid
  · exact h.named id a ha

theorem Alike.build (h : Alike c.systemId p p') : Alike c.systemId (p.build c) (p'.build c) := by
  have hq' := changes_undergo c.systemId (.done (.build c.systemType)) p'
  rw [← h.peers] at hq'
  have hq := h.changes (Link.plain_undergo ..) (changes_undergo ..) hq'
  refine ⟨hq.types, hq.peers, ?_, hq.link⟩
  simp [AdapterPool.has, AdapterPool.build, Dict.contains_insert]

/-- Pools that agree on a system have an adapter for it, or may make one, both or neither. -/
theorem Alike.obtain (h : Alike c.systemId p p') (hp : p.Tidy) (hp' : p'.Tidy) :
    Result.Alike (fun x y => x.1.systemId = c.systemId ∧ y.1.systemId = c.systemId ∧
      Alike c.systemId x.2 y.2) (p.obtain c) (p'.obtain c) := by
  have ha : p.allowed c = p'.allowed c := by rw [allowed, allowed, h.types]
  have hh := h.has
  rw [AdapterPool.has, AdapterPool.has, Dict.contains, Dict.contains] at hh
  rw [obtain_eq, obtain_eq]
  cases hg : p.adapters.get? c.systemId with
  | some a =>
    rw [hg] at hh
    obtain ⟨a', hg'⟩ := Option.isSome_iff_exists.mp hh.symm
    rw [hg']
    exact .ok ⟨hp.named _ _ hg, hp'.named _ _ hg', h⟩
  | none =>
    rw [hg] at hh
    have hg' : p'.adapters.get? c.systemId = none := by simpa using hh.symm
    rw [hg', ← ha]
    cases p.allowed c with
    | error e => exact .error e
    | ok u => exact .ok ⟨rfl, rfl, h.build⟩

/-- No other system notices that an adapter is obtained. -/
theorem obtain_beside {a : Adapter} (h : p.obtain c = .ok (a, q)) (hp : p.Tidy) :
    q.Tidy ∧ ∀ id, id ≠ c.systemId → Alike id p q := by
  rw [obtain_eq] at h
  split at h
  · cases h
    exact ⟨hp, fun id _ => .refl id p⟩
  · cases hc : p.allowed c with
    | error e =>
      rw [hc] at h
      cases h
    | ok u =>
      rw [hc] at h
      cases h
      exact ⟨hp.build c, fun id hid => beside_build hid⟩

end AdapterPool
end Interchange
