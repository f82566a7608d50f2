import Interchange.Proofs.Gateway.Equipping
import Interchange.Proofs.Gateway.Failures
import Interchange.Proofs.Gateway.Ledger
import Interchange.Proofs.Gateway.Takings
import Interchange.Proofs.System.Validity

/-! # Updates of systems

The configuration of a system is looked up by every request, but its adapter, its provider and its
transformer stay in use when it is updated, and a request that is in flight then may still make one
of them from the old configuration. Main statement: after an update requests go by the new
configuration exactly as far as the parts that are in use were made from configurations that give
the same parts.
-/

namespace Interchange
namespace Gateway

open Json Call

variable {g g' y : Gateway} {c c₀ : SystemConfig} {k : Part} {id : String} {f f' start : Traffic}

/-! ## What is done beside requests -/

/-- What is done with a gateway beside the requests that go through it. -/
inductive Errand where
  | task (t : Task) (faults : ReplaceFaults := {})
  | storeCredentials (nonces : Nat → List UInt8) (systemId : String)
      (entries : List (String × String)) (faults : Nat → ReplaceFaults := fun _ => {})
  | rotate (systemId : String)
  | evictAdapter (systemId : String)
  | evictTransformer (systemId : String)
  /-- The adapter that a configuration asks for is looked up, and so on. -/
  | adapter (c : SystemConfig)
  | provider (c : SystemConfig)
  | credentials (c : SystemConfig)
  | transformer (c : SystemConfig)
  /-- Anything that does not touch the parts of systems: time passes, systems answer. -/
  | other (change : Gateway → Gateway) (same : ∀ g id k, (change g).inUse id k = g.inUse id k)

namespace Errand

def run (g : Gateway) : Errand → Gateway
  | task t faults => (t.run faults g).2
  | storeCredentials nonces systemId entries faults =>
    (g.storeCredentials nonces systemId entries faults).2
  | rotate systemId => (g.rotate systemId).2
  | evictAdapter systemId => (g.evictAdapter systemId).2
  | evictTransformer systemId => (g.evictTransformer systemId).2
  | adapter c => (g.adapter c).2
  | provider c => (g.provider c).2
  | credentials c => (g.credentials c).2
  | transformer c => (g.transformer c).2
  | other change _ => change g

def given? : Errand → Option SystemConfig
  | adapter c | provider c | credentials c | transformer c => some c
  | _ => none

end Errand

theorem letsGo_of_same (ha : g'.adapters = g.adapters)
    (hp : g'.security.providers = g.security.providers) (ht : g'.transformers = g.transformers) :
    LetsGo g g' := fun id k => .inl (inUse_eq ha hp ht id k)

theorem letsGo_takeRegistry (g : Gateway) (x : Result Registry × Files) :
    LetsGo g (g.takeRegistry x).2 := by
  obtain ⟨_ | _, files⟩ := x
  · exact letsGo_of_same rfl rfl rfl
  · exact letsGo_of_same rfl rfl rfl

theorem letsGo_takeSecurity {x : Result Security × Files}
    (h : ∀ s files, x = (.ok s, files) → s.providers = g.security.providers) :
    LetsGo g (g.takeSecurity x).2 := by
  obtain ⟨_ | s, files⟩ := x
  · exact letsGo_of_same rfl rfl rfl
  · exact letsGo_of_same rfl (h s files rfl) rfl

theorem letsGo_task (t : Task) (faults : ReplaceFaults) (g : Gateway) :
    LetsGo g (t.run faults g).2 := by
  cases t with
  | setSecret nonce systemId category name secret =>
    refine letsGo_takeSecurity fun s files h => ?_
    obtain ⟨k, -, rfl⟩ := Security.put_of_setSecret h
    rfl
  | deleteSecret systemId category name =>
    simp only [Task.run, deleteSecret, Security.deleteSecret]
    rcases g.security.store.delete g.files systemId category name faults with ⟨_ | _, files⟩ <;>
      exact letsGo_of_same rfl rfl rfl
  | register c => exact letsGo_takeRegistry g _
  | update c => exact letsGo_takeRegistry g _
  | unregister systemId =>
    simp only [Task.run, unregister]
    rcases g.registry.unregister g.files systemId faults with ⟨_ | _, files⟩ <;>
      exact letsGo_of_same rfl rfl rfl
  | reopen e =>
    simp only [Task.run]
    split
    · exact letsGo_of_same rfl rfl rfl
    · next path _ =>
      refine letsGo_takeSecurity fun s files h => ?_
      rcases hs : SecretStore.ofFile g.files path e with _ | store <;> rw [hs] at h <;> cases h
      rfl
  | reload =>
    simp only [Task.run]
    split
    · exact letsGo_of_same rfl rfl rfl
    · exact letsGo_takeRegistry g _

theorem letsGo_storeCredentials (nonces : Nat → List UInt8) (systemId : String)
    (entries : List (String × String)) (faults : Nat → ReplaceFaults) (g : Gateway) :
    LetsGo g (g.storeCredentials nonces systemId entries faults).2 :=
  letsGo_of_same rfl (Security.refills_setSecrets ..).providers rfl

/-- An errand lets go of parts, or it makes those that it looks up with a configuration. -/
theorem Errand.effect (e : Errand) (g : Gateway) :
    LetsGo g (e.run g) ∨ Fills (fun c => e.given? = some c) g (e.run g) := by
  cases e with
  | task t faults => exact .inl (letsGo_task t faults g)
  | storeCredentials nonces systemId entries faults =>
    exact .inl (letsGo_storeCredentials nonces systemId entries faults g)
  | rotate systemId => exact .inl (letsGo_rotate systemId g)
  | evictAdapter systemId => exact .inl (letsGo_evictAdapter systemId g)
  | evictTransformer systemId => exact .inl (letsGo_evictTransformer systemId g)
  | adapter c => exact .inr (fills_adapter (P := (some c = some ·)) rfl g)
  | provider c => exact .inr (fills_provider (P := (some c = some ·)) rfl g)
  | credentials c => exact .inr (fills_credentials (P := (some c = some ·)) rfl g)
  | transformer c => exact .inr (fills_transformer (P := (some c = some ·)) rfl g)
  | other change same => exact .inl fun id k => .inl (same g id k)

/-! ## Runs -/

inductive Event where
  | start (name systemId : String) (r : GatewayRequest)
  | poll (name : String)
  | cancel (name : String)
  | errand (e : Errand)

def Event.perform (f : Traffic) : Event → Traffic
  | .start name systemId r => (f.start name (r.call systemId).run).2
  | .poll name => (f.poll name).2
  | .cancel name => (f.cancel name).2
  | .errand e => f.change e.run

/-- A moment of a run: the gateway, and the configuration with which something is looked up then. -/
structure Moment where
  state : Gateway
  given? : Option SystemConfig := none

def Event.moment (f : Traffic) : Event → Moment
  | .errand e => ⟨f.state, e.given?⟩
  | _ => ⟨f.state, none⟩

/-- The configurations that requests have found by the latest of some moments. -/
def known (past : List Moment) : Set SystemConfig := fun c => ∃ x ∈ past, c ∈ found x.state

/-- A configuration from which parts may be made at the latest of some moments: one that a request
has found by then, or one with which something is looked up. -/
def Offered (past : List Moment) (c : SystemConfig) : Prop :=
  c ∈ known past ∨ past.head?.bind Moment.given? = some c

/-- The moments of a run, the latest first, and what it ends in. -/
inductive Run (start : Traffic) : List Moment → Traffic → Prop
  | start : Run start [] start
  | happen {past : List Moment} {f : Traffic} (e : Event) : Run start past f →
      Run start (e.moment f :: past) (e.perform f)

variable {past recent : List Moment} {x : Moment}

theorem known_cons (x : Moment) (past : List Moment) :
    known (x :: past) = known past ∪ found x.state := by
  ext c
  constructor
  · rintro ⟨z, hz, hc⟩
    rcases List.mem_cons.mp hz with rfl | hz
    · exact .inr hc
    · exact .inl ⟨z, hz, hc⟩
  · rintro (⟨z, hz, hc⟩ | hc)
    · exact ⟨z, List.mem_cons_of_mem _ hz, hc⟩
    · exact ⟨x, List.mem_cons_self, hc⟩

theorem Run.trans (h : Run start past f) (h' : Run f recent f') :
    Run start (recent ++ past) f' := by
  induction h' with
  | start => exact h
  | happen e _ ih => exact .happen e ih

/-- A part that is in use was made from a configuration at a moment of the past, and has been in use
since. -/
structure Origin (past : List Moment) (y : Gateway) (id : String) (k : Part) (x : Moment)
    (c₀ : SystemConfig) : Prop where
  named : c₀.systemId = id
  absent : x.state.inUse id k = none
  made : x.state.makes c₀ k ≠ none
  since : ∃ newer older, past = newer ++ x :: older ∧ Offered (x :: older) c₀ ∧
    ∀ z ∈ newer, z.state.inUse id k = x.state.makes c₀ k
  present : y.inUse id k = x.state.makes c₀ k

theorem Event.moment_state (f : Traffic) (e : Event) : (e.moment f).state = f.state := by
  cases e <;> rfl

/-- An event lets go of parts, or makes some from configurations that are offered by then. -/
theorem Event.effect (hf : f.Knowing found Equips (known past)) (e : Event) :
    (e.perform f).Knowing found Equips (known (e.moment f :: past)) ∧
      (LetsGo f.state (e.perform f).state ∨
        Fills (Offered (e.moment f :: past)) f.state (e.perform f).state) := by
  have hR := coherent_equips
  have hoffered {P : SystemConfig → Prop} {y : Gateway} (h : Fills P f.state y)
      (hP : ∀ c, P c → Offered (e.moment f :: past) c) :
      Fills (Offered (e.moment f :: past)) f.state y :=
    ⟨h.registry, h.makings, fun id k => (h.inUse id k).imp_right
      fun ⟨hn, c, hc, hm⟩ => ⟨hn, c, hP c hc, hm⟩⟩
  rw [known_cons, Event.moment_state]
  have hknown (c : SystemConfig) (hc : c ∈ known past ∪ found f.state) :
      Offered (e.moment f :: past) c := by
    rw [Offered, known_cons, Event.moment_state]
    exact .inl hc
  cases e with
  | start name systemId r =>
    obtain ⟨he, hs⟩ := hf.start hR (knowing_request systemId r _) name
    exact ⟨hs, .inr (hoffered he hknown)⟩
  | poll name =>
    obtain ⟨he, hs⟩ := hf.poll hR name
    exact ⟨hs, .inr (hoffered he hknown)⟩
  | cancel name =>
    obtain ⟨he, hs⟩ := hf.cancel hR name
    exact ⟨hs.mono hR Set.subset_union_left, .inr (hoffered he fun c hc => hknown c (.inl hc))⟩
  | errand e =>
    have hcalls : (Event.perform f (.errand e)).Knowing found Equips (known past) := hf
    refine ⟨hcalls.mono hR Set.subset_union_left, (e.effect f.state).imp_right fun he => ?_⟩
    exact hoffered he fun c hc => .inr hc

/-- Whatever is in use in a run that began with nothing in use has an origin. -/
theorem Run.origin (h : Run { state := g } past f) (hg : ∀ id k, g.inUse id k = none) :
    f.Knowing found Equips (known past) ∧
      ∀ id k, f.state.inUse id k ≠ none → ∃ x c₀, Origin past f.state id k x c₀ := by
  induction h with
  | start => exact ⟨nofun, fun id k hk => absurd (hg id k) hk⟩
  | @happen past f e _ ih =>
    obtain ⟨hf, ho⟩ := ih
    obtain ⟨hs, he⟩ := e.effect hf
    refine ⟨hs, fun id k hk => ?_⟩
    have hstate := e.moment_state f
    -- a part that stays in use keeps its origin
    have hstays (heq : (e.perform f).state.inUse id k = f.state.inUse id k) :
        ∃ x c₀, Origin (e.moment f :: past) (e.perform f).state id k x c₀ := by
      rw [heq] at hk
      obtain ⟨x, c₀, h⟩ := ho id k hk
      obtain ⟨newer, older, hpast, hoffered, hnewer⟩ := h.since
      refine ⟨x, c₀, h.named, h.absent, h.made,
        ⟨e.moment f :: newer, older, ?_, hoffered, ?_⟩, heq.trans h.present⟩
      · rw [hpast, List.cons_append]
      · exact List.forall_mem_cons.mpr ⟨hstate ▸ h.present, hnewer⟩
    rcases he with he | he
    · rcases he id k with heq | hn
      · exact hstays heq
      · exact absurd hn hk
    · rcases he.inUse id k with heq | ⟨hn, c₀, hc, hid, hm⟩
      · exact hstays heq
      · rw [← hstate] at hn hm
        exact ⟨e.moment f, c₀, hid, hn, hm ▸ hk, ⟨[], past, rfl, hc, nofun⟩, hm⟩

/-! ## After an update -/

theorem get?_of_update (h : g.update c = (.ok (), g')) :
    g'.registry.get? c.systemId = some c := by
  rw [update, Registry.update] at h
  obtain ⟨e, hc⟩ | ⟨hc, -⟩ := Registry.check_cases c <;> rw [hc] at h
  · cases h
  · dsimp only at h
    split at h
    · obtain ⟨e, fs, hr⟩ | ⟨fs, hr⟩ := Registry.commit_cases g.registry g.files
        (g.registry.systems.insert c.systemId c) {} <;> rw [hr] at h <;> cases h
      exact Dict.get?_insert_self ..
    · cases h

theorem find_eq_ok {systemId : String} (h : y.registry.get? systemId = some c)
    (hf : y.find systemId = .ok c₀) : c₀ = c := by
  rw [find, h] at hf
  dsimp only at hf
  split at hf <;> cases hf
  rfl

/-- A part goes by a configuration exactly if wherever the one in use comes from the same was
made. -/
theorem goesBy_eq_makes_iff (h : Run { state := g } past f) (hg : ∀ id k, g.inUse id k = none)
    (c : SystemConfig) (k : Part) : f.state.goesBy c k = f.state.makes c k ↔
      ∀ x c₀, Origin past f.state c.systemId k x c₀ → x.state.makes c₀ k = f.state.makes c k := by
  constructor
  · intro he x c₀ ho
    obtain ⟨m, hm⟩ := Option.ne_none_iff_exists'.mp ho.made
    rw [goesBy, ho.present, hm, Option.some_or] at he
    rw [hm, he]
  · -- whatever is in use has an origin, so it is enough to look at that one
    intro ho
    by_cases hn : f.state.inUse c.systemId k = none
    · rw [goesBy, hn, Option.none_or]
    · obtain ⟨x, c₀, hx⟩ := (h.origin hg).2 c.systemId k hn
      rw [goesBy, hx.present, ho x c₀ hx, Option.or_self]

/--
A run begins where nothing is in use, a system is updated, and the run goes on.

Every request to the system takes its stages in order, and what it takes there is, each time, that
of the part by which the gateway goes when the request is polled to take it: the one in use or, if
there is none, a new one. As long as the new configuration is registered it is the one that requests
find, and a part goes by it exactly if wherever the one in use comes from the same was made. That is
so in particular if none is in use.
-/
theorem update_heeded_iff (hg : ∀ id k, g.inUse id k = none) (h : Run { state := g } past f)
    (hu : f.state.update c = (.ok (), g')) (h' : Run { f with state := g' } recent f')
    (hc : f'.state.registry.get? c.systemId = some c) :
    g'.registry.get? c.systemId = some c ∧
    (∀ operation params context polls l r met,
      (route c.systemId operation params context).run.EndsAt polls l r →
        Staged c.systemId operation params (meet (l.map Prod.fst) met) (l, r) ∧
        ∀ c' p n, ready c.systemId (outbound params) (later (meet (l.map Prod.fst) met) 1) =
          .ok (c', p, n) → Takes c.systemId polls (meet (l.map Prod.fst) met) c' p) ∧
    (∀ c', f'.state.find c.systemId = .ok c' → c' = c) ∧
    ∀ k, f'.state.goesBy c k = f'.state.makes c k ↔
      ∀ x c₀, Origin (recent ++ ⟨f.state, none⟩ :: past) f'.state c.systemId k x c₀ →
        x.state.makes c₀ k = f'.state.makes c k := by
  refine ⟨get?_of_update hu, ?_, fun c' hf => find_eq_ok hc hf, ?_⟩
  · intro operation params context polls l r met he
    exact ⟨(route_staged c.systemId operation params context).2 (l, r) he.ends met,
      fun c' p n hr => takes_of_endsAt he hr⟩
  · -- the two runs are one, with the update as an event between them
    have hup : (f.state.update c).2 = g' := by rw [hu]
    have hrun : Run { state := g } (⟨f.state, none⟩ :: past) { f with state := g' } := by
      rw [← hup]
      exact .happen (.errand (.task (.update c))) h
    exact goesBy_eq_makes_iff (hrun.trans h') hg c

/-- A system that is about to change its type, its key and its rules. -/
def former : SystemConfig where
  systemId := "crm"
  systemType := "mock"
  name := "CRM"
  authParams := [("api_key", .string "k1"), ("type", .string "api_key")]

/-- The same system afterwards, with a rule that removes a field from what goes out. -/
def latter : SystemConfig :=
  { former with
    systemType := "other"
    authParams := [("api_key", .string "k2"), ("type", .string "api_key")]
    transformParams :=
      { rules := [{ entityType := "default", direction := .outbound, fieldsToRemove := ["a"] }] } }

/-- A gateway for it that nobody has used so far; systems answer at once. -/
def unused : Gateway where
  registry := .ofSystems [former]
  security := { store := { encryptor := ⟨⟨fun _ _ => [], fun _ _ => []⟩⟩ } }
  adapters :=
    { types := [("mock", fun _ => .ok ()), ("other", fun _ => .ok ())]
      peers := fun _ => { reply := fun _ => .now (.ok (.bool true)) } }
  now := 0

def updated : Gateway := { unused with registry := .ofSystems [latter] }

theorem inUse_unused (id : String) (k : Part) : unused.inUse id k = none := by
  cases k <;> rfl

theorem update_unused : unused.update latter = (.ok (), updated) := rfl

def reading : GatewayRequest :=
  .route "read" (some (.object [("a", .ofNat 1)])) { requestId := "1" }

/-- An update before the first request is heeded: the request ends at its first poll, and takes what
the new configuration says. -/
theorem update_heeded_first : (∀ id k, unused.inUse id k = none) ∧
    unused.update latter = (.ok (), updated) ∧ updated.registry.get? "crm" = some latter ∧
    (∃ (l : List (Gateway × Gateway)) (p : Prepared Value),
      (route "crm" "read" none { requestId := "1" }).run.EndsAt [updated] l (.ok (.bool true)) ∧
      Takes "crm" [updated] (meet (l.map Prod.fst) fun _ => updated) latter p) ∧
    ∀ k, updated.goesBy latter k = updated.makes latter k := by
  obtain ⟨hr, ht, -, hk⟩ := update_heeded_iff inUse_unused .start update_unused .start
    (get?_of_update update_unused)
  have hp : ((route "crm" "read" none { requestId := "1" }).run.poll updated).1 =
      .done (.ok (.bool true)) := rfl
  have he : (route "crm" "read" none { requestId := "1" }).run.EndsAt [updated]
      ((route "crm" "read" none { requestId := "1" }).run.polled updated ++ [])
      (.ok (.bool true)) := by
    refine .poll updated ?_
    rw [hp]
    exact .done _
  obtain ⟨-, htakes⟩ := ht "read" none { requestId := "1" } [updated] _ _ (fun _ => updated) he
  exact ⟨inUse_unused, update_unused, hr, ⟨_, _, he, htakes latter _ _ rfl⟩,
    fun k => (hk k).mpr fun x c₀ ho => absurd (ho.present.symm.trans (inUse_unused _ k)) ho.made⟩

/-- What a request has the system execute, with the key that it had before. -/
def oldCall : AdapterCall :=
  .execute "read" (.object [("a", .ofNat 1)]) (.apiKey "X-API-Key" "k1" 0)

def served : Gateway :=
  { unused with
    security := { unused.security with providers := [("crm", .apiKey "X-API-Key" "k1")] }
    transformers :=
      [("crm", { systemId := "crm", systemType := "mock", rules := [], schemas := [] })]
    adapters :=
      { unused.adapters with
        adapters := [("crm", ⟨"crm", 0⟩)]
        made := 1
        links :=
          [("crm", { connected := true, calls := [.build "mock", .connect, oldCall],
                     seen := [.done (.build "mock"), .asked, .asked, .done .connect,
                       .answered .connect (.ok (.bool true)), .done oldCall,
                       .answered oldCall (.ok (.bool true))] })] }
    line := { tickets := 1 }
    breakers := { all := [("crm", { name := "crm", config := {} })] }
    events := [.operation ⟨"crm", "read", .success, ⟨0⟩, { requestId := "1" }⟩] }

def changed : Gateway := { served with registry := .ofSystems [latter] }

theorem poll_unused :
    (reading.call "crm").run.poll unused = (.done (.ok (.value (.bool true))), served) := rfl

/-- An update after a request is not: the next request goes to the old adapter, with the old key and
the field that should be removed, where without the request before it would not have done so. -/
theorem update_unheeded :
    Run { state := unused } [⟨unused, none⟩] { state := served } ∧
    served.update latter = (.ok (), changed) ∧ unused.update latter = (.ok (), updated) ∧
    ((reading.call "crm").run.poll changed).2.builtType? "crm" = some "mock" ∧
    ((reading.call "crm").run.poll updated).2.builtType? "crm" = some "other" ∧
    executed "crm" ((reading.call "crm").run.polled changed) =
      [oldCall] ∧
    executed "crm" ((reading.call "crm").run.polled updated) =
      [.execute "read" (.object []) (.apiKey "X-API-Key" "k2" 0)] := by
  have hs : Event.perform { state := unused } (.start "first" "crm" reading) =
      { state := served } := by
    rw [Event.perform, Flights.start, poll_unused]
  have hr : Run { state := unused } [⟨unused, none⟩] { state := served } := by
    rw [← hs]
    exact .happen (.start "first" "crm" reading) .start
  exact ⟨hr, rfl, rfl, rfl, rfl, rfl, rfl⟩

end Gateway
end Interchange
