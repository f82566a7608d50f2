import Interchange.Gateway.Administer
import Interchange.Proofs.Gateway.Twins

/-! # Systems are kept apart

A history of requests and of changes to credentials, on any systems, with time passing in between.
Main statement: what comes of the actions on one system, all that the system is asked and its
breaker are the same when the actions on all other systems are left out.
-/

namespace Interchange
namespace Gateway

open Json

/-- What is done to a gateway, or the passing of time. -/
inductive Action where
  | request (systemId : String) (r : GatewayRequest)
  | storeCredentials (systemId : String) (entries : List (String × String))
  | rotate (systemId : String)
  | advance (span : Duration)

/-- What comes of an action. -/
inductive Outcome where
  | answer (r : Result GatewayAnswer)
  | stored (r : Result Bool)
  | rotated (found : Bool)
  | passed

def Action.systemId? : Action → Option String
  | .request id _ => some id
  | .storeCredentials id _ => some id
  | .rotate id => some id
  | .advance _ => none

/-- Whether an action is on a system, or on none: time passes for all. -/
def Action.concerns (systemId : String) (a : Action) : Bool := a.systemId?.all (· = systemId)

/-- Random bytes for the nonces of one action, and of all actions of a history. -/
abbrev Nonces := Nat → Vector UInt8 Encryptor.nonceLength

variable {late : String → List AdapterCall → Result Value} {systemId : String} {g g' : Gateway}
  {random random' : Nat → Nonces} {nonces nonces' : Nonces} {a : Action}

/-- Carries out an action to its end; a system that does not answer at once answers later. -/
def perform (late : String → List AdapterCall → Result Value) (nonces : Nonces) :
    Action → Gateway → Option (Outcome × Gateway)
  | .request id r, g =>
    ((r.call id).run.alone (serve late id) g).map fun x => (.answer x.1, x.2)
  | .storeCredentials id entries, g =>
    let (r, g) := g.storeCredentials (fun i => (nonces i).toList) id entries
    some (.stored r, g)
  | .rotate id, g =>
    let (found, g) := g.rotate id
    some (.rotated found, g)
  | .advance span, g => some (.passed, { g with now := g.now + span.nanos })

/-- Carries out actions one after another; what came of each, and the gateway in the end. -/
def performAll (late : String → List AdapterCall → Result Value) (random : Nat → Nonces) :
    List Action → Gateway → Option (List (Action × Outcome) × Gateway)
  | [], g => some ([], g)
  | a :: rest, g => do
    let (o, g) ← perform late (random 0) a g
    let (record, g) ← performAll late (fun i => random (i + 1)) rest g
    pure ((a, o) :: record, g)

/-! ## Single actions -/

/-- A request is carried out by polling its call until it ends. -/
theorem served_of_perform {id : String} {r : GatewayRequest} {o : Outcome}
    (h : perform late nonces (.request id r) g = some (o, g')) :
    ∃ x, o = .answer x ∧ Call.Served (serve late id) (r.call id).run g x g' := by
  obtain ⟨⟨x, k⟩, hx, ho⟩ := Option.map_eq_some_iff.mp h
  cases ho
  exact ⟨x, rfl, Call.served_of_alone hx⟩

theorem beside_storeCredentials (hg : Tidy [] g) (nonces : Nat → List UInt8) (systemId : String)
    (entries : List (String × String)) :
    Beside systemId [] g (g.storeCredentials nonces systemId entries).2 := by
  obtain ⟨hs, hb⟩ := Security.setSecrets_beside hg.secrets g.files systemId
    SecretKey.authCategory nonces 0 entries
  exact ⟨{ hg with secrets := hs }, fun id hid => { Alike.refl id g with security := hb id hid }⟩

theorem alongside_storeCredentials (hg : Tidy [] g) (hg' : Tidy [] g') (h : Alike systemId g g')
    (nonces nonces' : Nonces) (entries : List (String × String)) :
    let x := g.storeCredentials (fun i => (nonces i).toList) systemId entries
    let x' := g'.storeCredentials (fun i => (nonces' i).toList) systemId entries
    x'.1 = x.1 ∧ Alongside systemId [] [] g g' x.2 x'.2 := by
  have hn (n : Nonces) (i : Nat) : (n i).toList.length = Encryptor.nonceLength :=
    Vector.length_toList
  obtain ⟨hr, hs⟩ := h.security.setSecrets hg.secrets hg'.secrets (hn nonces) (hn nonces') g.files
    g'.files SecretKey.authCategory 0 entries
  refine ⟨congrArg (Except.map fun _ => !entries.isEmpty) hr.symm, { h with security := hs },
    beside_storeCredentials hg .., beside_storeCredentials hg' ..⟩

theorem retiredOf_rotate (systemId : String) (g : Gateway) (id : String) :
    (g.rotate systemId).2.retiredOf id =
      if systemId = id then g.retiredOf id ++ (g.security.providers.get? id).toList
      else g.retiredOf id := by
  unfold rotate retiredOf
  dsimp only
  split_ifs with hid
  · subst hid
    cases g.security.providers.get? systemId with
    | none => simp
    | some p => simp [Dict.get?_insert]
  · cases g.security.providers.get? systemId with
    | none => rfl
    | some p => simp [Dict.get?_insert, hid]

theorem beside_rotate (hg : Tidy [] g) (systemId : String) :
    Beside systemId [] g (g.rotate systemId).2 :=
  ⟨{ hg with }, fun id hid => { Alike.refl id g with
    security := (Security.sets_rotate systemId g.security).beside hid
    retired := by rw [retiredOf_rotate, if_neg (Ne.symm hid)] }⟩

theorem alongside_rotate (hg : Tidy [] g) (hg' : Tidy [] g') (h : Alike systemId g g') :
    (g'.rotate systemId).1 = (g.rotate systemId).1 ∧
      Alongside systemId [] [] g g' (g.rotate systemId).2 (g'.rotate systemId).2 := by
  have hp := h.security.provider
  have hs := h.security.sets (Security.sets_rotate systemId g.security)
    (Security.sets_rotate systemId g'.security)
  have hr : (g.rotate systemId).2.retiredOf systemId =
      (g'.rotate systemId).2.retiredOf systemId := by
    rw [retiredOf_rotate, retiredOf_rotate, h.retired, hp]
  refine ⟨?_, { h with security := hs, retired := hr }, beside_rotate hg systemId,
    beside_rotate hg' systemId⟩
  simp only [rotate, Security.rotate, Security.hasProvider, Dict.contains, hp]

theorem Alike.advance (h : Alike systemId g g') (span : Duration) :
    Alike systemId { g with now := g.now + span.nanos } { g' with now := g'.now + span.nanos } :=
  { h with now := congrArg (· + span.nanos) h.now }

/-- An action on a system comes to the same on two gateways that are alike for it, whatever nonces
are drawn, and no other system notices. -/
theorem perform_on (late : String → List AdapterCall → Result Value) (nonces nonces' : Nonces)
    (ha : a.systemId? = some systemId) (hg : Tidy [] g) (hg' : Tidy [] g')
    (h : Alike systemId g g') :
    ∃ o k k', perform late nonces a g = some (o, k) ∧ perform late nonces' a g' = some (o, k') ∧
      Alongside systemId [] [] g g' k k' := by
  cases a with
  | request id r =>
    cases ha
    obtain ⟨e, e', he, he', hr, hee⟩ := twin_request systemId r g g' hg hg' h
    rw [Result.alike_eq_iff] at hr
    refine ⟨.answer e.1, e.2, e'.2, ?_, ?_, hee⟩
    · rw [perform, he]
      rfl
    · rw [perform, he', hr]
      rfl
  | storeCredentials id entries =>
    cases ha
    obtain ⟨hr, hx⟩ := alongside_storeCredentials hg hg' h nonces nonces' entries
    exact ⟨_, _, _, rfl, congrArg (fun r => some (Outcome.stored r, _)) hr, hx⟩
  | rotate id =>
    cases ha
    obtain ⟨hr, hx⟩ := alongside_rotate hg hg' h
    exact ⟨_, _, _, rfl, congrArg (fun found => some (Outcome.rotated found, _)) hr, hx⟩
  | advance span => cases ha

/-- An action on a system, or the passing of time, on two gateways that are alike for the system. -/
theorem perform_alongside (late : String → List AdapterCall → Result Value)
    (nonces nonces' : Nonces) (ha : a.concerns systemId) (hg : Tidy [] g) (hg' : Tidy [] g')
    (h : Alike systemId g g') :
    ∃ o k k', perform late nonces a g = some (o, k) ∧ perform late nonces' a g' = some (o, k') ∧
      Tidy [] k ∧ Tidy [] k' ∧ Alike systemId k k' := by
  cases hs : a.systemId? with
  | some id =>
    obtain rfl : id = systemId := by simpa [Action.concerns, hs] using ha
    obtain ⟨o, k, k', hk, hk', hkk⟩ := perform_on late nonces nonces' hs hg hg' h
    exact ⟨o, k, k', hk, hk', hkk.left.tidy, hkk.right.tidy, hkk.alike⟩
  | none =>
    cases a with
    | advance span => exact ⟨_, _, _, rfl, rfl, { hg with }, { hg' with }, h.advance span⟩
    | request id r => cases hs
    | storeCredentials id entries => cases hs
    | rotate id => cases hs

/-- A system does not notice an action on another one. -/
theorem perform_beside (late : String → List AdapterCall → Result Value) (nonces : Nonces)
    (ha : ¬ a.concerns systemId) (hg : Tidy [] g) :
    ∃ o k, perform late nonces a g = some (o, k) ∧ Tidy [] k ∧ Alike systemId g k := by
  cases hs : a.systemId? with
  | none => exact absurd (by simp [Action.concerns, hs]) ha
  | some id =>
    have hne : systemId ≠ id := fun he => ha (by simp [Action.concerns, hs, he])
    obtain ⟨o, k, _, hk, _, hkk⟩ := perform_on late nonces nonces hs hg hg (.refl id g)
    exact ⟨o, k, hk, hkk.left.tidy, hkk.left.others systemId hne⟩

/-! ## Histories -/

theorem performAll_alongside (late : String → List AdapterCall → Result Value)
    (random random' : Nat → Nonces) (actions : List Action) (hg : Tidy [] g) (hg' : Tidy [] g')
    (h : Alike systemId g g') :
    ∃ record k record' k', performAll late random actions g = some (record, k) ∧
      performAll late random' (actions.filter (·.concerns systemId)) g' = some (record', k') ∧
      record.filter (·.1.concerns systemId) = record' ∧ Alike systemId k k' := by
  induction actions generalizing g g' random random' with
  | nil => exact ⟨[], g, [], g', rfl, rfl, rfl, h⟩
  | cons a rest ih =>
    by_cases ha : a.concerns systemId
    · obtain ⟨o, k, k', hk, hk', ht, ht', hkk⟩ := perform_alongside late (random 0)
        (random' 0) ha hg hg' h
      obtain ⟨record, l, record', l', hl, hl', hr, hll⟩ := ih (fun i => random (i + 1))
        (fun i => random' (i + 1)) ht ht' hkk
      refine ⟨(a, o) :: record, l, (a, o) :: record', l', ?_, ?_, ?_, hll⟩
      · simp [performAll, hk, hl]
      · simp [performAll, ha, hk', hl']
      · simp [ha, hr]
    · obtain ⟨o, k, hk, ht, hgk⟩ := perform_beside late (random 0) ha hg
      obtain ⟨record, l, record', l', hl, hl', hr, hll⟩ := ih (fun i => random (i + 1)) random'
        ht hg' (hgk.symm.trans h)
      refine ⟨(a, o) :: record, l, record', l', ?_, ?_, ?_, hll⟩
      · simp [performAll, hk, hl]
      · rw [List.filter_cons_of_neg ha]
        exact hl'
      · rw [List.filter_cons_of_neg (a := (a, o)) ha]
        exact hr

/-- What comes of the actions on a system, all that it is asked and its breaker do not depend on the
actions on other systems. -/
theorem performAll_isolated (hg : Tidy [] g) (late : String → List AdapterCall → Result Value)
    (random random' : Nat → Nonces) (actions : List Action) (systemId : String) :
    ∃ record h record' h', performAll late random actions g = some (record, h) ∧
      performAll late random' (actions.filter (·.concerns systemId)) g = some (record', h') ∧
      record.filter (·.1.concerns systemId) = record' ∧
      h.calls systemId = h'.calls systemId ∧
      h.breakers.get? systemId = h'.breakers.get? systemId := by
  obtain ⟨record, h, record', h', hr, hr', hrr, hh⟩ := performAll_alongside late random random'
    actions hg hg (.refl systemId g)
  exact ⟨record, h, record', h', hr, hr', hrr, hh.adapters.link.calls, hh.breaker⟩

/-! ## New gateways -/

/-- A gateway is tidy when its systems have valid configurations, its secrets are in memory, and
nothing has been done with it yet. -/
theorem tidy_of_systems {cs : List SystemConfig} (hv : ∀ c ∈ cs, c.validate = .ok ())
    (hr : g.registry = .ofSystems cs) (ha : g.adapters.adapters = []) (hl : g.adapters.links = [])
    (hs : g.security.store.InMemory) (he : g.endpoints.Separate) (hp : g.endpoints.pending = [])
    (hp' : g.line.places = []) (hh : g.held = []) : Tidy [] g where
  registered id c hc := by
    rw [hr] at hc
    obtain ⟨c', hc', hcc⟩ := List.mem_map.mp (Dict.mem_of_get?_ofList hc)
    cases hcc
    exact ⟨rfl, hv c hc'⟩
  adapters :=
    { waiters := fun id => by rw [AdapterPool.link, hl]; rfl
      answers := fun id => by rw [AdapterPool.link, hl]; rfl
      named := fun id a h => by rw [ha] at h; cases h }
  secrets := hs
  endpoints := he
  pending := hp
  line := hp'
  held := hh

/-- Two systems, the id of one being the start of the other's. -/
def neighbourSystems : List SystemConfig := ["a", "ab"].map fun id =>
  { systemId := id, systemType := "crm", name := id,
    authParams := [("api_key", .string id), ("type", .string "api_key")] }

/-- A gateway for two systems that take their time to answer. -/
def neighbours : Gateway where
  registry := .ofSystems neighbourSystems
  security := { store := { encryptor := .ofMasterKey ⟨"master"⟩ } }
  adapters :=
    { types := [("crm", fun _ => .ok ())], peers := fun _ => { reply := fun _ => .later } }
  now := 0

/-- Each system connects, and then answers how much it was asked. -/
def counting (_ : String) (calls : List AdapterCall) : Result Value :=
  match calls.getLast? with
  | some .connect => .ok (.bool true)
  | _ => .ok (.ofNat calls.length)

/-- One system is asked after credentials of the other were stored under a name with a colon. -/
def visits : List Action :=
  [.storeCredentials "ab" [("api_key", "k"), ("a:auth:api_key", "k")],
    .request "ab" (.route "find" none { requestId := "1" }), .advance ⟨5⟩, .rotate "ab",
    .request "a" (.route "find" none { requestId := "2" })]

/-- The first system is built, connected and asked with its own key, whatever is done to the
other. -/
theorem performAll_isolated_neighbours : Tidy [] neighbours ∧
    ∃ record h, performAll counting (fun _ _ => .replicate _ 7) visits neighbours =
        some (record, h) ∧
      h.calls "a" = [.build "crm", .connect,
        .execute "find" (.object []) (.apiKey "X-API-Key" "a" 5)] := by
  have hg : Tidy [] neighbours := by
    have hv : ∀ c ∈ neighbourSystems, c.validate = .ok () := by
      simp only [neighbourSystems, List.map_cons, List.map_nil, List.forall_mem_cons]
      exact ⟨rfl, rfl, nofun⟩
    exact tidy_of_systems hv rfl rfl rfl
      ⟨rfl, Dict.sorted_nil, Encryptor.regular_ofMasterKey _⟩ (fun _ _ => rfl) rfl rfl rfl
  obtain ⟨record, h, record', h', hr, hr', -, hc, -⟩ := performAll_isolated hg counting
    (fun _ _ => .replicate _ 7) (fun _ _ => .replicate _ 0) visits "a"
  have ha : (performAll counting (fun _ _ => .replicate _ 0)
      (visits.filter (·.concerns "a")) neighbours).map (fun x => x.2.calls "a") =
        some [.build "crm", .connect,
          .execute "find" (.object []) (.apiKey "X-API-Key" "a" 5)] := rfl
  rw [hr'] at ha
  exact ⟨hg, record, h, hr, hc.trans (Option.some.inj ha)⟩

end Gateway
end Interchange
