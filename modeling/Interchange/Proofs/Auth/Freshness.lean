import Mathlib.Data.List.Induction
import Interchange.Proofs.Auth.Tokens

/-! # Fresh credentials

Main statement: whatever has been done to a provider and whatever the token endpoint answered, the
credentials that it hands out are those of the token received last, and that token has either just
been received or is still valid. While it is valid nothing is asked of the endpoint.
-/

namespace Interchange

/-- An OAuth 2 provider that keeps a token since a moment, or none. -/
def Provider.Keeps (p : Provider) (client : OAuthClient)
    (last : Option (TokenGrant × Instant)) : Prop :=
  ∃ s : TokenState, p = .oauth2 client s ∧ s.Keeps last

namespace TokenMoment

open OAuthClient

variable {m : TokenMoment} {client : OAuthClient} {s : TokenState}
  {last : Option (TokenGrant × Instant)} {rs : List TokenRequest} {r : Result Credentials}
  {x : Result Credentials × TokenState × TokenAccess}

/-- What a provider answers when it is asked for credentials: those of the token that it receives
now, an error, or those of the last token, and then nothing is sent. -/
inductive Answers (m : TokenMoment) (last : Option (TokenGrant × Instant)) :
    Result Credentials → Prop
  | received (g : TokenGrant) : m.received = [g] → Answers m last (.ok (g.credentials m.now))
  | refused (e : Error) : m.received = [] → e ≠ TokenState.incomplete → Answers m last (.error e)
  | kept (g : TokenGrant) (t : Instant) : m.sent = [] → last = some (g, t) →
      m.now < t + g.lifetime.nanos → Answers m last (.ok (g.credentials t))

/-- What an action comes to where a last token is kept: the last one after it is kept again, and
answers come from them. -/
structure Follows (m : TokenMoment) (client : OAuthClient)
    (last : Option (TokenGrant × Instant)) : Prop where
  keeps : m.after.provider.Keeps client (m.latest last)
  answers : ∀ r, m.result = some r → m.Answers last r

theorem latest_of_asked (last : Option (TokenGrant × Instant)) (hm : m.action ≠ .revoke) :
    m.latest last = (m.received.getLast?.map fun g => (g, m.now)).or last := by
  unfold latest
  split
  · next ha => exact absurd ha hm
  · rfl

theorem latest_of_sent_nil (hm : m.action ≠ .revoke) (h : m.sent = []) : m.latest last = last := by
  rw [latest_of_asked last hm, received, h]
  rfl

/-- A token that is asked for and granted is the last one from then on. -/
theorem follows_of_renews (h : Renews s m.before.access rs x) (hs : s.Keeps last)
    (hm : m.action ≠ .revoke)
    (hx : m.before.act m.action = TokenRun.answered (x.1, .oauth2 client x.2.1, x.2.2)) :
    m.Follows client last := by
  have hsent : m.sent = rs := by
    rw [sent, after, hx]
    cases h <;> simp [TokenRun.answered, TokenAccess.after]
  have hr : m.received = m.before.access.endpoints.grants rs := by rw [received, hsent]
  have hl := latest_of_asked last hm
  suffices hf : (⟨.oauth2 client x.2.1, x.2.2⟩ : TokenRun).provider.Keeps client (m.latest last) ∧
      m.Answers last x.1 by
    refine ⟨?_, fun r h => ?_⟩
    · rw [after, hx]
      exact hf.1
    · rw [result, hx] at h
      exact Option.some.inj h ▸ hf.2
  cases h with
  | granted g refreshToken hg =>
    rw [hg] at hr
    rw [hl, hr]
    exact ⟨⟨_, rfl, TokenState.keeps_accept ..⟩, .received g hr⟩
  | refused e refreshToken hg hne =>
    rw [hg] at hr
    rw [hl, hr]
    exact ⟨⟨_, rfl, hs.withRefreshToken⟩, .refused e hr hne⟩

/-- A valid token is handed out and stays the last one. -/
theorem follows_of_kept (hs : s.Keeps last) (hn : ¬ s.accessToken.isNone)
    (he : ¬ s.expired m.now) (hm : m.action ≠ .revoke)
    (hx : m.before.act m.action =
      TokenRun.answered (s.credentials, .oauth2 client s, m.before.access)) :
    m.Follows client last := by
  have hsent : m.sent = [] := by
    rw [sent, after, hx]
    exact List.drop_length
  refine ⟨?_, fun r h => ?_⟩
  · rw [latest_of_sent_nil hm hsent, after, hx]
    exact ⟨s, rfl, hs⟩
  · rw [result, hx] at h
    obtain rfl := Option.some.inj h
    cases last with
    | none => exact absurd (Option.isNone_iff_eq_none.mpr hs) hn
    | some l =>
      obtain ⟨g, t⟩ := l
      rw [hs.expired_iff] at he
      have hk := Answers.kept g t hsent rfl (Nat.not_le.mp he)
      rwa [← hs.credentials_eq] at hk

/-- Every action follows from what is kept before it, and keeps on doing so. -/
theorem follows (hp : m.before.provider.Keeps client last) : m.Follows client last := by
  obtain ⟨⟨p, a⟩, action⟩ := m
  obtain ⟨s, rfl, hs⟩ := hp
  cases action with
  | credentials =>
    -- no token, an expired one and a valid one are the three ways to go on
    by_cases hn : s.accessToken.isNone
    · refine follows_of_renews (client.authenticate_renews s a) hs nofun ?_
      simp [TokenRun.act, Provider.credentials, OAuthClient.credentials, hn]
    · by_cases he : s.expired a.now
      · obtain ⟨rs, h⟩ := client.refresh_renews s a
        refine follows_of_renews h hs nofun ?_
        simp [TokenRun.act, Provider.credentials, OAuthClient.credentials, hn, he]
      · refine follows_of_kept hs hn he nofun ?_
        simp [TokenRun.act, Provider.credentials, OAuthClient.credentials, hn, he]
  | refresh =>
    obtain ⟨rs, h⟩ := client.refresh_renews s a
    exact follows_of_renews h hs nofun rfl
  | authenticate => exact follows_of_renews (client.authenticate_renews s a) hs nofun rfl
  | revoke => exact ⟨⟨{}, rfl, rfl⟩, fun r h => (Option.some_ne_none r h.symm).elim⟩
  | advance span =>
    refine ⟨?_, fun r h => (Option.some_ne_none r h.symm).elim⟩
    have hm : TokenAction.advance span ≠ .revoke := nofun
    have hl : (TokenMoment.mk ⟨.oauth2 client s, a⟩ (.advance span)).latest last = last :=
      latest_of_sent_nil hm List.drop_length
    rw [hl]
    exact ⟨s, rfl, hs⟩

end TokenMoment

namespace TokenRun

open TokenMoment

variable {r : TokenRun} {client : OAuthClient}

/-- What is kept after actions is the last token received in them. -/
theorem keeps_actAll (h : r.provider.Keeps client none) (actions : List TokenAction) :
    (r.actAll actions).provider.Keeps client (lastReceived (r.history actions)) := by
  -- from the end: what is kept before an action says what is kept after it
  induction actions using List.reverseRecOn with
  | nil => exact h
  | append_singleton actions action ih =>
    rw [actAll_concat, history_concat, lastReceived_concat]
    exact (follows ih : Follows ⟨r.actAll actions, action⟩ _ _).keeps

/-- An action is answered freshly after what went before it. -/
structure Fresh (past : List TokenMoment) (m : TokenMoment) : Prop where
  /-- Credentials are those of the last token, with its lifetime at most the greatest one, and the
  token is received in this very action or not yet expired. -/
  current : ∀ c, m.action = .credentials → m.result = some (.ok c) →
    ∃ g t, lastReceived (past ++ [m]) = some (g, t) ∧
      c = .oauth2 g.accessToken (g.tokenType.getD "Bearer") t (some (t + (Duration.ofSeconds
        (min (g.expiresIn.getD 3600) TokenState.maxSeconds)).nanos)) ∧
      (m.received.getLast? = some g ∧ t = m.now ∨ m.now < t + g.lifetime.nanos)
  /-- While the last token is valid, it is handed out and nothing is asked for. -/
  shared : ∀ g t, m.action = .credentials → lastReceived past = some (g, t) →
    m.now < t + g.lifetime.nanos → m.sent = [] ∧ m.result = some (.ok (g.credentials t))
  /-- No token is ever there only in part. -/
  complete : m.result ≠ some (.error TokenState.incomplete)

/-- The run of a provider that has not been asked for anything. -/
def start (client : OAuthClient) (access : TokenAccess) : TokenRun := ⟨.oauth2 client {}, access⟩

theorem keeps_start (client : OAuthClient) (access : TokenAccess) :
    (start client access).provider.Keeps client none := ⟨{}, rfl, rfl⟩

theorem shared_of_keeps {p : Provider} {a : TokenAccess} {g : TokenGrant} {t : Instant}
    (hp : p.Keeps client (some (g, t))) (hv : a.now < t + g.lifetime.nanos) :
    p.credentials a = (.ok (g.credentials t), p, a) := by
  obtain ⟨s, rfl, hs⟩ := hp
  have he : ¬ s.expired a.now := by
    rw [hs.expired_iff]
    exact Nat.not_le.mpr hv
  simp [Provider.credentials, OAuthClient.credentials, hs.accessToken_isNone, he, hs.credentials_eq]

/-- Whatever is done to a provider and whatever it is answered, the next action is answered
freshly. -/
theorem credentials_fresh (client : OAuthClient) (access : TokenAccess)
    (actions : List TokenAction) (action : TokenAction) :
    Fresh ((start client access).history actions)
      ⟨(start client access).actAll actions, action⟩ := by
  have hk := keeps_actAll (keeps_start client access) actions
  generalize (start client access).history actions = past at *
  generalize (start client access).actAll actions = r at *
  have hf : Follows ⟨r, action⟩ client (lastReceived past) := follows hk
  refine ⟨fun c hc hr => ?_, fun g t hc hl hv => ?_, fun hr => ?_⟩
  · have hm : action ≠ .revoke := by
      obtain rfl : action = .credentials := hc
      nofun
    have hl := latest_of_asked (m := ⟨r, action⟩) (lastReceived past) hm
    rw [lastReceived_concat]
    cases hf.answers _ hr with
    | received g hg =>
      rw [hg] at hl
      exact ⟨g, _, hl, rfl, .inl ⟨by rw [hg]; rfl, rfl⟩⟩
    | kept g t hs hg hv =>
      rw [received, hs] at hl
      exact ⟨g, t, hl.trans hg, rfl, .inr hv⟩
  · obtain rfl : action = .credentials := hc
    rw [hl] at hk
    have ha : r.act .credentials = (some (.ok (g.credentials t)), r) := by
      rw [act, shared_of_keeps hk hv]
      rfl
    constructor
    · rw [sent, after, ha]
      exact List.drop_length
    · rw [result, ha]
  · cases hf.answers _ hr with
    | refused e hg hne => exact hne rfl

end TokenRun
end Interchange
