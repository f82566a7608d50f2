import Interchange.Gateway.Webhook
import Interchange.Proofs.Gateway.Routing
import Interchange.Proofs.Gateway.Told
import Interchange.Proofs.Secret.Store
import Interchange.Proofs.Webhook.Signature

/-! # Letting webhooks in

Main statement: a webhook is let in exactly when the signature in its headers is that of its payload
under the secret of its system, and its payload is JSON. Monitoring is told once of every signature
that is checked, and of nothing else.
-/

namespace Interchange

open Json

/-! ## Checking a signature -/

/-- The digest that a configuration chooses: SHA-256 if it names none. -/
inductive SignatureAlgorithm.Chosen : Option String → SignatureAlgorithm → Prop
  | unset : Chosen none .sha256
  | named {name : String} {a : SignatureAlgorithm} : parse name = .ok a → Chosen (some name) a

theorem SignatureAlgorithm.parse_eq_ok_iff {configured : Option String} {a : SignatureAlgorithm} :
    parse (configured.getD "sha256") = .ok a ↔ Chosen configured a := by
  cases configured with
  | none =>
    have h : parse "sha256" = .ok .sha256 := by rfl
    rw [Option.getD_none, h]
    constructor
    · rintro ⟨⟩
      exact .unset
    · rintro ⟨⟩
      rfl
  | some name =>
    rw [Option.getD_some]
    constructor
    · exact .named
    · rintro (_ | h)
      exact h

namespace Security

/-- A signature is checked with the stored secret, in the header and with the digest that are
configured. -/
structure Checks (s : Security) (systemId : String) (m : SystemMetadata) (payload : List UInt8)
    (headers : Dict String) : Prop where
  passes : s.verifyWebhook systemId m payload headers = .ok true ↔
    ∃ secret signature a,
      s.store.Holds systemId SecretKey.webhookCategory webhookSecretName secret ∧
      Webhook.Signed headers m.signatureHeader signature ∧
      SignatureAlgorithm.Chosen m.signatureAlgorithm a ∧
      Webhook.verify a (Bytes.ofText secret) payload signature = true
  /-- It is an error only that the secret cannot be read. -/
  fails : ∀ e, s.verifyWebhook systemId m payload headers = .error e ↔
    s.store.get? systemId SecretKey.webhookCategory webhookSecretName = .error e

theorem checks (s : Security) (systemId : String) (m : SystemMetadata) (payload : List UInt8)
    {headers : Dict String} (hd : Webhook.Distinct headers) :
    s.Checks systemId m payload headers := by
  constructor
  case passes =>
    simp only [← SecretStore.get?_eq_ok_some_iff, ← Webhook.signature?_eq_some_iff hd,
      ← SignatureAlgorithm.parse_eq_ok_iff]
    unfold verifyWebhook
    constructor
    · intro h
      obtain ⟨_ | secret, hs, h⟩ := Result.bind_eq_ok_iff.mp h
      · cases h
      · cases hg : Webhook.signature? headers m.signatureHeader with
        | none => simp [hg, pure, Except.pure] at h
        | some signature =>
          cases ha : SignatureAlgorithm.parse (m.signatureAlgorithm.getD "sha256") with
          | error text => simp [hg, ha, pure, Except.pure] at h
          | ok a =>
            simp only [hg, ha] at h
            exact ⟨secret, signature, a, hs, rfl, rfl, Except.ok.inj h⟩
    · rintro ⟨secret, signature, a, hs, hg, ha, hv⟩
      simp only [hs, hg, ha, hv, Result.ok_bind]
      rfl
  case fails =>
    intro e
    unfold verifyWebhook
    cases hs : s.store.get? systemId SecretKey.webhookCategory webhookSecretName with
    | error e' => simp
    | ok secret? =>
      constructor
      · intro h
        rw [Result.ok_bind] at h
        split at h
        · cases h
        · split at h
          · cases h
          · split at h <;> cases h
      · nofun

end Security

/-! ## Letting in -/

namespace Gateway

open Call

variable {systemId : String} {payload : List UInt8} {headers : Dict String}
  {context : RequestContext} {met : Nat → Gateway}

/-- The check of a webhook, and the configuration that it goes by. -/
def checked (systemId : String) (payload : List UInt8) (headers : Dict String)
    (met : Nat → Gateway) : Result (SystemConfig × Bool) := do
  let c ← (met 0).find systemId
  let verified ← (met 1).security.verifyWebhook systemId c.metadata payload headers
  pure (c, verified)

/-- The record of a webhook whose signature has been checked. -/
def webhookRecord (systemId : String) (payload : List UInt8) (context : RequestContext)
    (verified : Bool) : MonitorEvent :=
  .webhook { systemId, eventType := (payload? payload).bind eventType?, verified,
             payloadBytes := payload.length, requestId := context.requestId }

/-- A webhook that has been dealt with as its check came out, when `met i` is the state that its
step number `i` met. -/
structure Gatekept (systemId : String) (payload : List UInt8) (headers : Dict String)
    (context : RequestContext) (met : Nat → Gateway)
    (run : List (Gateway × Gateway) × Result Value) : Prop where
  /-- Monitoring is told of the check, once, and only if it came to an end. -/
  told : AddAll events run.1 <| match checked systemId payload headers met with
    | .ok (_, verified) => [webhookRecord systemId payload context verified]
    | .error _ => []
  unchecked : ∀ e, checked systemId payload headers met = .error e → run.2 = .error e
  rejected : ∀ c, checked systemId payload headers met = .ok (c, false) →
    run.2 = .error (.authentication ("Invalid webhook signature for system '" ++ systemId ++ "'"))
  /-- What is let in is the payload in its canonical shape. -/
  admitted : ∀ v, run.2 = .ok v ↔
    ∃ c value t, checked systemId payload headers met = .ok (c, true) ∧
      payload? payload = some value ∧ (transformer c (met 3)).1 = .ok t ∧
      t.fromResult (met 4).schemas value = .ok v

theorem gatekept_of_unchecked {l : List (Gateway × Gateway)} {e : Error}
    (hk : checked systemId payload headers met = .error e) (hl : AddAll events l []) :
    Gatekept systemId payload headers context met (l, .error e) := by
  constructor
  case told => rwa [hk]
  case unchecked => simp [hk]
  case rejected => simp [hk]
  case admitted => simp [hk]

theorem gatekept_of_rejected {l : List (Gateway × Gateway)} {c : SystemConfig}
    (hk : checked systemId payload headers met = .ok (c, false))
    (hl : AddAll events l [webhookRecord systemId payload context false]) :
    Gatekept systemId payload headers context met (l, .error (.authentication
      ("Invalid webhook signature for system '" ++ systemId ++ "'"))) := by
  constructor
  case told => rwa [hk]
  case unchecked => simp [hk]
  case rejected => exact fun _ _ => rfl
  case admitted => simp [hk]

theorem gatekept_of_verified {l : List (Gateway × Gateway)} {c : SystemConfig} {r : Result Value}
    (hk : checked systemId payload headers met = .ok (c, true))
    (hl : AddAll events l [webhookRecord systemId payload context true])
    (hr : ∀ v, r = .ok v ↔ ∃ value t, payload? payload = some value ∧
      (transformer c (met 3)).1 = .ok t ∧ t.fromResult (met 4).schemas value = .ok v) :
    Gatekept systemId payload headers context met (l, r) := by
  constructor
  case told => rwa [hk]
  case unchecked => simp [hk]
  case rejected => simp [hk]
  case admitted =>
    intro v
    rw [hr v, hk]
    constructor
    · rintro ⟨value, t, h⟩
      exact ⟨c, value, t, rfl, h⟩
    · rintro ⟨_, value, t, ⟨⟩, h⟩
      exact ⟨value, t, h⟩

/-- The last stage: a payload that is JSON, in its canonical shape. -/
def normalized (c : SystemConfig) (value? : Option Value) : GatewayCall Value :=
  match value? with
  | none => throw (.serialization "the payload is not JSON")
  | some v => do
    let transformer ← transformerOf c
    let schemas ← look (·.schemas)
    given (transformer.fromResult schemas v)

theorem course_normalized (c : SystemConfig) (value? : Option Value) (met : Nat → Gateway) :
    ∃ l r, (normalized c value?).run.course met = (l, r) ∧ AddAll events l [] ∧
      ∀ v, r = .ok v ↔ ∃ value t, value? = some value ∧ (transformer c (met 0)).1 = .ok t ∧
        t.fromResult (met 1).schemas value = .ok v := by
  have ht : Adds events [] (met 0, (transformer c (met 0)).2) :=
    adds_nil_iff.mpr (events_transformer c (met 0))
  cases value? with
  | none => exact ⟨[], _, rfl, .nil, by simp⟩
  | some value =>
    unfold normalized transformerOf
    simp only [course_step_bind, course_look_bind, course_given]
    cases (transformer c (met 0)).1 with
    | error e => exact ⟨_, _, rfl, .cons ht .nil, by simp⟩
    | ok t => exact ⟨_, _, rfl, .cons ht (.cons (adds_self _) .nil), by simp⟩

/-- The check of a signature is one step, if the key of the secret is not refused. -/
theorem course_verified (systemId : String) (m : SystemMetadata) (payload : List UInt8)
    (headers : Dict String) (met : Nat → Gateway) :
    ∃ l, (verified systemId m payload headers).run.course met =
        (l, (met 0).security.verifyWebhook systemId m payload headers) ∧
      (∀ n ∈ l, n.2 = n.1) ∧
      ∀ b, (met 0).security.verifyWebhook systemId m payload headers = .ok b →
        l = [(met 0, met 0)] := by
  unfold verified
  rw [course_given_bind]
  cases hk : SecretStore.keyOf systemId SecretKey.webhookCategory Security.webhookSecretName with
  | error e =>
    have hs : (met 0).security.verifyWebhook systemId m payload headers = .error e := by
      rw [Security.verifyWebhook, SecretStore.get?, hk]
      rfl
    rw [hs]
    refine ⟨[], rfl, by simp, fun b hb => ?_⟩
    cases hb
  | ok key => exact ⟨[(met 0, met 0)], rfl, by simp, fun _ _ => rfl⟩

theorem gatekept_course (systemId : String) (payload : List UInt8) (headers : Dict String)
    (context : RequestContext) (met : Nat → Gateway) :
    Gatekept systemId payload headers context met
      ((handleWebhook systemId payload headers context).run.course met) := by
  -- the check is done in the first two steps, and the third one tells of it
  have hq : ∀ g : Gateway, Adds events [] (g, g) := adds_self
  unfold handleWebhook
  rw [course_lookup_bind]
  cases hc : (met 0).find systemId with
  | error e =>
    have hk : checked systemId payload headers met = .error e := by
      rw [checked, hc, Result.error_bind]
    exact gatekept_of_unchecked hk (.cons (hq _) .nil)
  | ok c =>
    have hk : checked systemId payload headers met =
        (met 1).security.verifyWebhook systemId c.metadata payload headers >>=
          fun verified => pure (c, verified) := by
      rw [checked, hc, Result.ok_bind]
    obtain ⟨l, hl, hsame, hone⟩ :=
      course_verified systemId c.metadata payload headers (later met 1)
    dsimp only
    rw [course_bind, hl]
    simp only [later_apply, Nat.add_zero] at hone ⊢
    cases hv : (met 1).security.verifyWebhook systemId c.metadata payload headers with
    | error e =>
      rw [hv] at hk
      refine gatekept_of_unchecked hk (.cons (hq _) (.quiet fun m hm => ?_))
      rw [adds_nil_iff, hsame m hm]
    | ok verified =>
      rw [hv] at hk
      obtain rfl := hone verified hv
      simp only [course_change_bind, later_later, later_apply, Nat.add_zero]
      cases verified with
      | false =>
        exact gatekept_of_rejected hk
          (.cons (hq _) (.cons (hq _) (.cons (adds_emit _ _) .nil)))
      | true =>
        obtain ⟨l, r, hl, hn, hr⟩ := course_normalized c (payload? payload) (later met 3)
        change Gatekept _ _ _ _ _
          (_ :: _ :: _ :: ((normalized c (payload? payload)).run.course (later met 3)).1,
            ((normalized c (payload? payload)).run.course (later met 3)).2)
        rw [hl]
        exact gatekept_of_verified hk
          (.cons (hq _) (.cons (hq _) (.cons (adds_emit _ _) hn))) hr

/-- Nobody holds the registry or the secrets. -/
def Unheld (g : Gateway) : Prop := .registry ∉ g.held ∧ .secrets ∉ g.held

theorem prompt_normalized (c : SystemConfig) (value? : Option Value) :
    (normalized c value?).run.Prompt Unheld := by
  cases value? with
  | none => exact prompt_throw _
  | some v =>
    refine prompt_bind (prompt_step fun g hg => ?_) fun t =>
      prompt_bind (prompt_look _) fun _ => prompt_given _
    unfold transformer
    split <;> exact hg

theorem prompt_handleWebhook (systemId : String) (payload : List UInt8) (headers : Dict String)
    (context : RequestContext) :
    (handleWebhook systemId payload headers context).run.Prompt Unheld := by
  refine prompt_bind (prompt_bind (prompt_pass fun _ hg => hg.1) fun _ =>
    prompt_step fun _ hg => hg) fun c => ?_
  refine prompt_bind (prompt_bind (prompt_given _) fun _ =>
    prompt_bind (prompt_pass fun _ hg => hg.2) fun _ => prompt_step fun _ hg => hg) fun b => ?_
  refine prompt_bind (prompt_change fun _ hg => hg) fun _ => ?_
  cases b with
  | false => exact prompt_throw _
  | true => exact prompt_normalized c (payload? payload)

/-- Webhooks with distinct headers are checked and dealt with as their checks come out, whatever
states other calls leave them at their steps, and wait for nothing but the registry and the
secrets. -/
theorem handleWebhook_gatekept (systemId : String) (payload : List UInt8) (headers : Dict String)
    (context : RequestContext) (hd : Webhook.Distinct headers) :
    (∀ (g : Gateway) (m : SystemMetadata), g.security.Checks systemId m payload headers) ∧
    (∀ met, Gatekept systemId payload headers context met
      ((handleWebhook systemId payload headers context).run.course met)) ∧
    (∀ run, (handleWebhook systemId payload headers context).run.Ends run.1 run.2 →
      ∀ met, Gatekept systemId payload headers context (meet (run.1.map Prod.fst) met) run) ∧
    ∀ g, Unheld g →
      ∃ r, ((handleWebhook systemId payload headers context).run.poll g).1 = .done r := by
  refine ⟨fun g m => g.security.checks systemId m payload hd,
    gatekept_course systemId payload headers context, fun run h met => ?_,
    fun g => (prompt_handleWebhook systemId payload headers context).poll_eq⟩
  have hg := gatekept_course systemId payload headers context (meet (run.1.map Prod.fst) met)
  rwa [h.course_eq met] at hg

/-- A gateway with one system, for which the secret of its webhooks is stored. -/
def subscribed : Gateway where
  registry := { systems := [("crm", { systemId := "crm", systemType := "crm", name := "CRM" })] }
  security :=
    { store :=
        { encryptor := .ofMasterKey ⟨"key"⟩
          secrets := [("crm:webhook:secret",
            (Encryptor.ofMasterKey ⟨"key"⟩).encrypt (List.replicate 12 0) "secret")] } }
  adapters := { peers := fun _ => { reply := fun _ => .now (.ok .null) } }
  transformers := [("crm", { systemId := "crm", systemType := "crm", rules := [], schemas := [] })]
  now := 0

def signedHeaders (payload : List UInt8) : Dict String :=
  [("x-signature", Webhook.sign .sha256 (Bytes.ofText "secret") payload)]

/-- A signed payload passes its check there, and is let in. -/
theorem handleWebhook_gatekept_signed :
    Webhook.Distinct (signedHeaders (Bytes.ofText "true")) ∧
      subscribed.security.verifyWebhook "crm" {} (Bytes.ofText "true")
        (signedHeaders (Bytes.ofText "true")) = .ok true ∧
      ((handleWebhook "crm" (Bytes.ofText "true") (signedHeaders (Bytes.ofText "true"))
        ⟨"r", none, []⟩).run.course fun _ => subscribed).2 = .ok (.bool true) := by
  have hd : Webhook.Distinct (signedHeaders (Bytes.ofText "true")) := List.pairwise_singleton _ _
  have hk := handleWebhook_gatekept "crm" (Bytes.ofText "true") _ ⟨"r", none, []⟩ hd
  have hs : Webhook.Signed (signedHeaders (Bytes.ofText "true")) none
      (Webhook.sign .sha256 (Bytes.ofText "secret") (Bytes.ofText "true")) := by
    have ho : Webhook.signatureHeaders =
        ["X-Hub-Signature-256"] ++ "X-Signature" :: ["X-Webhook-Signature"] := rfl
    refine .usual ho ?_ ⟨_, List.mem_singleton_self _, rfl, rfl⟩
    simp only [List.mem_singleton, Webhook.Carries, signedHeaders]
    rintro n rfl w ⟨h, rfl, hn, -⟩
    cases hn
  have hp : subscribed.security.verifyWebhook "crm" {} (Bytes.ofText "true")
      (signedHeaders (Bytes.ofText "true")) = .ok true := by
    refine (hk.1 subscribed {}).passes.mpr ⟨"secret", _, .sha256, ⟨⟨"crm", _, _⟩, _, rfl, rfl, ?_⟩,
      hs, .unset, Webhook.verify_sign ..⟩
    exact Encryptor.decrypt_encrypt (Encryptor.regular_ofMasterKey _) rfl "secret"
  refine ⟨hd, hp, ((hk.2.1 fun _ => subscribed).admitted _).mpr
    ⟨{ systemId := "crm", systemType := "crm", name := "CRM" }, .bool true, _, ?_, rfl, rfl, rfl⟩⟩
  exact Result.bind_eq_ok_iff.mpr ⟨_, rfl, Result.bind_eq_ok_iff.mpr ⟨_, hp, rfl⟩⟩

end Gateway
end Interchange
