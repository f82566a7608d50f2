import Mathlib.Data.List.DropRight
import Interchange.Proofs.Security.Params
import Interchange.Proofs.Security.Systems

/-! # Providers between rotations

Main statement: between two rotations of a system all who look it up get the provider that the first
of them made who could, from the configuration and the secrets of that time. What is stored later
shows after the next rotation, and a look-up that fails leaves nothing behind.
-/

namespace Interchange

/-! ## Looking up a provider -/

namespace Security

theorem toOption_issuer (s : Security) (c : SystemConfig) :
    (s.issuer c).toOption = (s.providers.get? c.systemId).or (s.build c).toOption := by
  unfold issuer
  cases s.providers.get? c.systemId <;> rfl

/-- A look-up returns the provider of the system, which stays in use. -/
theorem provider_cases (s : Security) (c : SystemConfig) :
    (∃ e, s.issuer c = .error e ∧ s.provider c = .error e) ∨
      ∃ p t, s.issuer c = .ok p ∧ Sets c.systemId (some p) s t ∧ s.provider c = .ok (p, t) := by
  cases hp : s.providers.get? c.systemId with
  | some p =>
    refine .inr ⟨p, s, by rw [issuer, hp], ⟨rfl, rfl, rfl, hp, fun _ _ => rfl⟩, ?_⟩
    simp only [provider, hp]
  | none =>
    cases hb : s.build c with
    | error e =>
      refine .inl ⟨e, by rw [issuer, hp, hb], ?_⟩
      simp only [provider, hp, hb, Result.error_bind]
    | ok p =>
      refine .inr ⟨p, _, by rw [issuer, hp, hb], sets_insert c.systemId p s, ?_⟩
      simp only [provider, hp, hb, Result.ok_bind]
      rfl

end Security

/-! ## Runs -/

/-- What is done to the security of a gateway, or the passing of time. -/
inductive SecurityAction where
  | provider (c : SystemConfig)
  | credentials (c : SystemConfig)
  | storeCredentials (systemId : String) (entries : List (String × String))
      (nonces : Nat → Vector UInt8 Encryptor.nonceLength)
  | storeWebhookSecret (systemId secret : String) (nonce : Vector UInt8 Encryptor.nonceLength)
  | rotate (systemId : String)
  | advance (span : Duration)

/-- What comes of an action. -/
inductive SecurityOutcome where
  | provider (r : Result Provider)
  | credentials (r : Result Credentials)
  | stored (r : Result Bool)
  | kept (r : Result Unit)
  | rotated (found : Bool)
  | passed

/-- The security of a gateway, and what it works with. -/
structure SecurityRun where
  security : Security
  files : Files := {}
  endpoints : TokenEndpoints := {}
  now : Instant

def SecurityRun.act (x : SecurityRun) : SecurityAction → SecurityOutcome × SecurityRun
  | .provider c => match x.security.provider c with
    | .error e => (.provider (.error e), x)
    | .ok (p, security) => (.provider (.ok p), { x with security })
  | .credentials c =>
    let (r, security, endpoints) := x.security.credentials c x.now x.endpoints
    (.credentials r, { x with security, endpoints })
  | .storeCredentials systemId entries nonces =>
    let (r, security, files) :=
      x.security.storeCredentials x.files (fun i => (nonces i).toList) systemId entries
    (.stored r, { x with security, files })
  | .storeWebhookSecret systemId secret nonce =>
    match x.security.storeWebhookSecret x.files nonce.toList systemId secret with
    | (.error e, files) => (.kept (.error e), { x with files })
    | (.ok security, files) => (.kept (.ok ()), { x with security, files })
  | .rotate systemId =>
    let (found, security) := x.security.rotate systemId
    (.rotated found, { x with security })
  | .advance span => (.passed, { x with now := x.now + span.nanos })

/-- An action, and what it meets. -/
structure SecurityMoment where
  before : SecurityRun
  action : SecurityAction

namespace SecurityMoment

def after (m : SecurityMoment) : SecurityRun := (m.before.act m.action).2

def outcome (m : SecurityMoment) : SecurityOutcome := (m.before.act m.action).1

def lookup? (m : SecurityMoment) : Option SystemConfig :=
  match m.action with
  | .provider c => some c
  | .credentials c => some c
  | _ => none

def rotates (m : SecurityMoment) (systemId : String) : Bool :=
  match m.action with
  | .rotate id => id = systemId
  | _ => false

/-- The provider that a look-up of a system makes if there is none. -/
def built? (m : SecurityMoment) (systemId : String) : Option Provider :=
  m.lookup?.bind fun c =>
    if c.systemId = systemId then (m.before.security.build c).toOption else none

def access (m : SecurityMoment) (systemId : String) : TokenAccess :=
  ⟨systemId, m.before.now, m.before.endpoints⟩

def used (m : SecurityMoment) (systemId : String) (p : Provider) : Provider :=
  match m.action with
  | .credentials c => if c.systemId = systemId then (p.credentials (m.access systemId)).2.1 else p
  | _ => p

/-- The provider of a system that is in use afterwards, when it is not rotated. -/
def carry (m : SecurityMoment) (systemId : String) (p : Option Provider) : Option Provider :=
  (p.or (m.built? systemId)).map (m.used systemId)

variable {m : SecurityMoment} {systemId : String} {c : SystemConfig}

theorem revoke_used (m : SecurityMoment) (systemId : String) (p : Provider) :
    (m.used systemId p).revoke = p.revoke := by
  unfold used
  split
  · split
    · exact p.revoke_credentials _
    · rfl
  · rfl

theorem carry_of_lookup?_none (h : m.lookup? = none) (p : Option Provider) :
    m.carry systemId p = p := by
  have hb : m.built? systemId = none := by rw [built?, h, Option.bind_none]
  have hu : m.used systemId = id := by
    funext p
    unfold used
    split
    · next c ha => simp [lookup?, ha] at h
    · rfl
  rw [carry, hb, hu, Option.or_none, Option.map_id]
  rfl

/-- Looking up a system leaves the providers of the others. -/
theorem carry_of_ne (h : m.lookup? = some c) (hc : c.systemId ≠ systemId) (p : Option Provider) :
    m.carry systemId p = p := by
  have hb : m.built? systemId = none := by rw [built?, h, Option.bind_some, if_neg hc]
  have hu : m.used systemId = id := by
    funext p
    unfold used
    split
    · next c' ha =>
      obtain rfl : c' = c := by simpa [lookup?, ha] using h
      rw [if_neg hc]
      rfl
    · rfl
  rw [carry, hb, hu, Option.or_none, Option.map_id]
  rfl

/-- The provider that a look-up meets or makes is the one of the system from then on. -/
theorem carry_of_lookup? (h : m.lookup? = some c) :
    m.carry c.systemId (m.before.security.providers.get? c.systemId) =
      ((m.before.security.issuer c).toOption).map (m.used c.systemId) := by
  rw [carry, built?, h, Option.bind_some, if_pos rfl, Security.toOption_issuer]

theorem build_of_built? {p : Provider} (h : m.built? systemId = some p) :
    ∃ c, m.lookup? = some c ∧ c.systemId = systemId ∧ m.before.security.build c = .ok p := by
  obtain ⟨c, hl, hb⟩ := Option.bind_eq_some_iff.mp h
  obtain ⟨hc, hb⟩ := Option.ite_none_right_eq_some.mp hb
  refine ⟨c, hl, hc, ?_⟩
  cases hr : m.before.security.build c with
  | error e =>
    rw [hr] at hb
    cases hb
  | ok q =>
    rw [hr] at hb
    exact congrArg Except.ok (Option.some.inj hb)

theorem rotates_of_lookup? (h : m.lookup? = some c) : m.rotates systemId = false := by
  unfold rotates
  split
  · next ha => simp [lookup?, ha] at h
  · rfl

/-- What is not a look-up rotates the credentials of one system, or leaves all providers. -/
theorem after_of_lookup?_none (h : m.lookup? = none) :
    (∃ id, m.action = .rotate id ∧ m.before.security.Sets id none m.after.security) ∨
      (∀ id, m.rotates id = false) ∧ m.before.security.Refills m.after.security := by
  obtain ⟨x, action⟩ := m
  cases action with
  | provider c => cases h
  | credentials c => cases h
  | storeCredentials id entries nonces => exact .inr ⟨fun _ => rfl, Security.refills_setSecrets ..⟩
  | storeWebhookSecret id secret nonce =>
    refine .inr ⟨fun _ => rfl, ?_⟩
    unfold after SecurityRun.act
    dsimp only
    split
    · exact .refl _
    · next hs =>
      obtain ⟨k, -, rfl⟩ := Security.put_of_setSecret hs
      exact Security.refills_put ..
  | rotate id => exact .inl ⟨id, rfl, Security.sets_rotate ..⟩
  | advance span => exact .inr ⟨fun _ => rfl, .refl _⟩

/-- A look-up that fails for want of a provider changes nothing, and else sets the provider of its
system alone. -/
theorem after_of_lookup? (h : m.lookup? = some c) :
    (∃ e, m.before.security.issuer c = .error e ∧ m.after = m.before) ∨
      ∃ p, m.before.security.issuer c = .ok p ∧
        m.before.security.Sets c.systemId (some (m.used c.systemId p)) m.after.security := by
  obtain ⟨x, action⟩ := m
  unfold after
  cases action with
  | provider c' =>
    obtain rfl : c' = c := Option.some.inj h
    rcases x.security.provider_cases c' with ⟨e, he, hp⟩ | ⟨p, t, he, ht, hp⟩
    · exact .inl ⟨e, he, by simp only [SecurityRun.act, hp]⟩
    · refine .inr ⟨p, he, ?_⟩
      simp only [SecurityRun.act, hp]
      exact ht
  | credentials c' =>
    obtain rfl : c' = c := Option.some.inj h
    rcases x.security.credentials_cases c' x.now x.endpoints with ⟨e, he, hp⟩ | ⟨p, t, he, ht, hp⟩
    · exact .inl ⟨e, he, by simp only [SecurityRun.act, hp]⟩
    · refine .inr ⟨p, he, ?_⟩
      simp only [SecurityRun.act, hp, used, if_true]
      exact ht
  | storeCredentials id entries nonces => cases h
  | storeWebhookSecret id secret nonce => cases h
  | rotate id => cases h
  | advance span => cases h

theorem outcome_provider (h : m.action = .provider c) :
    m.outcome = .provider (m.before.security.issuer c) := by
  rw [outcome, h]
  rcases m.before.security.provider_cases c with ⟨e, he, hp⟩ | ⟨p, t, he, -, hp⟩ <;>
    simp only [SecurityRun.act, he, hp]

theorem outcome_credentials (h : m.action = .credentials c) :
    m.outcome = .credentials (do
      let p ← m.before.security.issuer c
      (p.credentials (m.access c.systemId)).1) := by
  rw [outcome, h]
  rcases m.before.security.credentials_cases c m.before.now m.before.endpoints with
    ⟨e, he, hp⟩ | ⟨p, t, he, -, hp⟩
  · simp only [SecurityRun.act, he, hp, Result.error_bind]
  · simp only [SecurityRun.act, he, hp, Result.ok_bind, access]

/-- A step lets go of the provider of a system that it rotates, and carries the others on. -/
theorem get?_providers_after (m : SecurityMoment) (systemId : String) :
    m.after.security.providers.get? systemId =
      if m.rotates systemId then none
      else m.carry systemId (m.before.security.providers.get? systemId) := by
  cases h : m.lookup? with
  | some c =>
    rw [rotates_of_lookup? h, if_neg Bool.false_ne_true]
    by_cases hc : c.systemId = systemId
    · subst hc
      rw [carry_of_lookup? h]
      rcases after_of_lookup? h with ⟨e, he, ha⟩ | ⟨p, he, ht⟩
      · have hn := Security.toOption_issuer m.before.security c
        rw [he] at hn
        rw [he, ha, (Option.or_eq_none_iff.mp hn.symm).1]
        rfl
      · rw [he, ht.provider]
        rfl
    · rw [carry_of_ne h hc]
      rcases after_of_lookup? h with ⟨e, he, ha⟩ | ⟨p, he, ht⟩
      · rw [ha]
      · exact ht.others _ (Ne.symm hc)
  | none =>
    rw [carry_of_lookup?_none h]
    rcases after_of_lookup?_none h with ⟨id, hr, ht⟩ | ⟨hr, ht⟩
    · have hd : m.rotates systemId = decide (id = systemId) := by rw [rotates, hr]
      by_cases hid : id = systemId
      · rw [hd, if_pos (decide_eq_true hid), ← hid, ht.provider]
      · rw [hd, if_neg (by simpa using hid), ht.others _ (Ne.symm hid)]
    · rw [hr, if_neg Bool.false_ne_true, ht.providers]

end SecurityMoment

/-! ## Histories -/

namespace SecurityRun

open SecurityMoment

/-- What has been done since the credentials of a system were last rotated. -/
def since (past : List SecurityMoment) (systemId : String) : List SecurityMoment :=
  past.rtakeWhile fun m => !m.rotates systemId

/-- The provider of a system that was made first since its last rotation. -/
def built (past : List SecurityMoment) (systemId : String) : Option Provider :=
  (since past systemId).findSome? (·.built? systemId)

/-- The provider of a system that is in use: the one that was made, as it was used since. -/
def inUse (past : List SecurityMoment) (systemId : String) : Option Provider :=
  (since past systemId).foldl (fun p m => m.carry systemId p) none

variable {past : List SecurityMoment} {m : SecurityMoment} {systemId : String}

theorem since_concat (past : List SecurityMoment) (m : SecurityMoment) (systemId : String) :
    since (past ++ [m]) systemId =
      if m.rotates systemId then [] else since past systemId ++ [m] := by
  cases h : m.rotates systemId with
  | true => simp [since, h]
  | false => simp [since, h]

theorem built_concat (past : List SecurityMoment) (m : SecurityMoment) (systemId : String) :
    built (past ++ [m]) systemId =
      if m.rotates systemId then none else (built past systemId).or (m.built? systemId) := by
  rw [built, since_concat]
  split
  · rfl
  · rw [List.findSome?_append, List.findSome?_singleton, built]

theorem inUse_concat (past : List SecurityMoment) (m : SecurityMoment) (systemId : String) :
    inUse (past ++ [m]) systemId =
      if m.rotates systemId then none else m.carry systemId (inUse past systemId) := by
  rw [inUse, since_concat]
  split
  · rfl
  · rw [List.foldl_append]
    rfl

/-- Security with the built-in types of providers, its secrets in order and sealed by a cipher that
opens again what it seals. -/
structure Plain (default : String) (s : Security) : Prop where
  factory : s.factory = .builtIn
  defaultType : s.defaultType = default
  sorted : Dict.Sorted s.store.secrets
  regular : s.store.encryptor.cipher.Regular

variable {default : String} {start x : SecurityRun} {s t : Security} {c : SystemConfig}
  {p : Provider}

theorem Plain.of_refills (h : Plain default s) (ht : s.Refills t) : Plain default t :=
  ⟨ht.factory.trans h.factory, ht.defaultType.trans h.defaultType, ht.sorted h.sorted,
    ht.encryptor ▸ h.regular⟩

theorem Plain.of_sets {q : Option Provider} (h : Plain default s)
    (ht : Security.Sets systemId q s t) : Plain default t :=
  ⟨ht.factory.trans h.factory, ht.defaultType.trans h.defaultType, ht.store ▸ h.sorted,
    ht.store ▸ h.regular⟩

theorem Plain.after (h : Plain default m.before.security) : Plain default m.after.security := by
  cases hl : m.lookup? with
  | some c =>
    rcases after_of_lookup? hl with ⟨e, -, ha⟩ | ⟨p, -, ht⟩
    · rwa [ha]
    · exact h.of_sets ht
  | none =>
    rcases after_of_lookup?_none hl with ⟨id, -, ht⟩ | ⟨-, ht⟩
    · exact h.of_sets ht
    · exact h.of_refills ht

/-- What is made with the built-in types has issued nothing yet. -/
theorem Plain.revoke_of_built? (h : Plain default m.before.security)
    (hp : m.built? systemId = some p) : p.revoke = p := by
  obtain ⟨c, -, -, hb⟩ := build_of_built? hp
  obtain ⟨ps, -, hc⟩ := Result.bind_eq_ok_iff.mp hb
  rw [h.factory] at hc
  exact AuthFactory.revoke_of_create hc

inductive Reaches (start : SecurityRun) : List SecurityMoment → SecurityRun → Prop
  | start : Reaches start [] start
  | act {past : List SecurityMoment} {x : SecurityRun} (action : SecurityAction) :
      Reaches start past x → Reaches start (past ++ [⟨x, action⟩]) (x.act action).2

/-- What holds throughout a run. -/
structure Sound (default : String) (past : List SecurityMoment) (x : SecurityRun) : Prop where
  plain : Plain default x.security
  moments : ∀ m ∈ past, Plain default m.before.security
  providers : ∀ systemId, x.security.providers.get? systemId = inUse past systemId
  original : ∀ systemId, (inUse past systemId).map Provider.revoke = built past systemId

theorem Sound.concat (h : Sound default past m.before) : Sound default (past ++ [m]) m.after := by
  refine ⟨h.plain.after, ?_, ?_, ?_⟩
  · intro n hn
    rcases List.mem_append.mp hn with hn | hn
    · exact h.moments n hn
    · exact List.mem_singleton.mp hn ▸ h.plain
  · intro systemId
    rw [get?_providers_after, inUse_concat, h.providers]
  · intro systemId
    rw [inUse_concat, built_concat, ← h.original]
    split
    · rfl
    · have hu : Provider.revoke ∘ m.used systemId = Provider.revoke :=
        funext (m.revoke_used systemId)
      have hb : (m.built? systemId).map Provider.revoke = m.built? systemId := by
        cases hb : m.built? systemId with
        | none => rfl
        | some p => exact congrArg some (h.plain.revoke_of_built? hb)
      rw [carry, Option.map_map, hu, Option.map_or, hb]

theorem Reaches.sound (hs : Sound default [] start) (h : Reaches start past x) :
    Sound default past x := by
  induction h with
  | start => exact hs
  | act action _ ih => exact Sound.concat (m := ⟨_, action⟩) ih

/-- The provider that a look-up gets: the one in use, or else a new one. -/
def found (past : List SecurityMoment) (m : SecurityMoment) (c : SystemConfig) : Result Provider :=
  match inUse past c.systemId with
  | some p => .ok p
  | none => m.before.security.build c

/-- How an action works with the providers, after what went before it. -/
structure Steady (default : String) (past : List SecurityMoment) (m : SecurityMoment) : Prop where
  /-- A provider is in use where one has been made since the last rotation, and a rotation says
  so. -/
  cached : ∀ id, m.before.security.hasProvider id = (built past id).isSome
  rotated : ∀ id, m.action = .rotate id → m.outcome = .rotated (built past id).isSome
  /-- A look-up gets the provider in use, or a new one, and credentials come from it. -/
  returned : ∀ c, m.action = .provider c → m.outcome = .provider (found past m c)
  issued : ∀ c, m.action = .credentials c → m.outcome = .credentials (do
    let p ← found past m c
    (p.credentials (m.access c.systemId)).1)
  /-- But for what it has issued, that is the provider made first since the last rotation. -/
  original : ∀ c p, m.lookup? = some c → found past m c = .ok p →
    built (past ++ [m]) c.systemId = some p.revoke
  /-- It was made by the first look-up that could, from the configuration and the secrets of that
  time. -/
  made : ∀ id p, built (past ++ [m]) id = some p → ∃ failed n later c,
    since (past ++ [m]) id = failed ++ n :: later ∧ (∀ k ∈ failed, k.built? id = none) ∧
    n.lookup? = some c ∧ c.systemId = id ∧ Plain default n.before.security ∧
    (Dict.Sorted c.authParams → n.before.security.Makes c p)
  /-- A look-up for which none can be made leaves nothing behind. -/
  failed : ∀ c e, m.lookup? = some c → found past m c = .error e →
    m.after = m.before ∧ built (past ++ [m]) c.systemId = none
  /-- Credentials that were stored are there from then on. -/
  stored : ∀ id entries nonces b, m.action = .storeCredentials id entries nonces →
    m.outcome = .stored (.ok b) → ∀ name, m.after.security.store.authSecret? id name =
      (entries.reverse.lookup name).or (m.before.security.store.authSecret? id name)

theorem Sound.issuer_eq (h : Sound default past m.before) (c : SystemConfig) :
    m.before.security.issuer c = found past m c := by
  cases hu : inUse past c.systemId <;> simp only [Security.issuer, found, h.providers, hu]

theorem Sound.hasProvider (h : Sound default past x) (id : String) :
    x.security.hasProvider id = (built past id).isSome := by
  rw [Security.hasProvider, Dict.contains, h.providers, ← h.original, Option.isSome_map]

theorem Sound.steady (h : Sound default past m.before) : Steady default past m := by
  have hc := h.concat
  constructor
  case cached => exact h.hasProvider
  case rotated =>
    intro id ha
    rw [outcome, ha, ← h.hasProvider]
    rfl
  case returned =>
    intro c ha
    rw [outcome_provider ha, h.issuer_eq]
  case issued =>
    intro c ha
    rw [outcome_credentials ha, h.issuer_eq]
  case original =>
    intro c p hl hf
    rw [← h.issuer_eq] at hf
    rcases after_of_lookup? hl with ⟨e, he, -⟩ | ⟨q, he, ht⟩
    · rw [hf] at he
      cases he
    · obtain rfl : p = q := Except.ok.inj (hf.symm.trans he)
      rw [← hc.original, ← hc.providers, ht.provider]
      exact congrArg some (m.revoke_used ..)
  case made =>
    intro id p hp
    obtain ⟨failed, n, later, hs, hn, hf⟩ := List.findSome?_eq_some_iff.mp hp
    obtain ⟨c, hl, hid, hb⟩ := build_of_built? hn
    have hm : n ∈ past ++ [m] :=
      (List.rtakeWhile_suffix _ _).subset (by rw [since] at hs; rw [hs]; simp)
    have hpl := hc.moments n hm
    exact ⟨failed, n, later, c, hs, hf, hl, hid, hpl, fun ha =>
      Security.makes_of_build hpl.sorted ha hb⟩
  case failed =>
    intro c e hl hf
    rw [← h.issuer_eq] at hf
    rcases after_of_lookup? hl with ⟨_, -, ha⟩ | ⟨q, he, -⟩
    · have hn := Security.toOption_issuer m.before.security c
      rw [hf] at hn
      refine ⟨ha, ?_⟩
      rw [← hc.original, ← hc.providers, ha, (Option.or_eq_none_iff.mp hn.symm).1]
      rfl
    · rw [hf] at he
      cases he
  case stored =>
    intro id entries nonces b ha ho name
    rw [outcome, ha] at ho
    have hn : ∀ i, (nonces i).toList.length = Encryptor.nonceLength := fun _ => Vector.length_toList
    rcases hs : m.before.security.setSecrets m.before.files id SecretKey.authCategory
      (fun i => (nonces i).toList) 0 entries with ⟨e | u, t, fs⟩
    · simp [SecurityRun.act, Security.storeCredentials, hs, Except.map] at ho
    · have ht : m.after.security = t := by
        rw [SecurityMoment.after, ha]
        simp [SecurityRun.act, Security.storeCredentials, hs]
      rw [ht]
      exact Security.authSecret?_setSecrets h.plain.regular hn hs name

/-- Whatever is done to the security of a gateway with the built-in types of providers, each system
keeps the provider that was made first since its last rotation. -/
theorem providers_steady (hp : Plain start.security.defaultType start.security)
    (hn : start.security.providers = []) (h : Reaches start past x) (action : SecurityAction) :
    Steady start.security.defaultType past ⟨x, action⟩ := by
  have hs : Sound start.security.defaultType [] start := by
    refine ⟨hp, nofun, fun id => ?_, fun id => rfl⟩
    rw [hn]
    rfl
  exact (h.sound hs : Sound _ past (SecurityMoment.mk x action).before).steady

/-- Nothing is in use yet, and no secrets are stored. -/
def empty : SecurityRun where
  security := { store := { encryptor := .ofMasterKey ⟨"master"⟩ } }
  now := 0

def keyed : SystemConfig where
  systemId := "crm"
  systemType := "crm"
  name := "CRM"
  authParams := [("api_key", .string "old"), ("type", .string "api_key")]

def storing : SecurityAction :=
  .storeCredentials "crm" [("api_key", "new")] fun _ => .replicate _ 0

/-- A look-up makes the provider, another key is stored, and the next look-up still gets the
provider. -/
theorem providers_steady_stored :
    ((((empty.act (.provider keyed)).2.act storing).2).act (.provider keyed)).1 =
      .provider (.ok (.apiKey "X-API-Key" "old")) := by
  have hp : Plain empty.security.defaultType empty.security :=
    ⟨rfl, rfl, .nil, Encryptor.regular_ofMasterKey _⟩
  have hr : Reaches empty [⟨empty, .provider keyed⟩, ⟨(empty.act (.provider keyed)).2, storing⟩]
      ((empty.act (.provider keyed)).2.act storing).2 := .act _ (.act _ .start)
  have hs := providers_steady hp rfl hr (.provider keyed)
  exact hs.returned keyed rfl

end SecurityRun
end Interchange
