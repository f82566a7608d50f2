import Interchange.Proofs.Auth.Exchanges
import Interchange.Proofs.Auth.Freshness

/-! # Which grants are asked for

Main statement: a provider that needs a token asks with the refresh token that was issued to it
last, unless that was forgotten or refused since; only then, or when it is refused now, does it ask
in its own name. A refresh token that was refused is not sent again before it is issued again.
-/

namespace Interchange

/-- The exchanges that follow from requests one after another. -/
def TokenEndpoints.exchanges (e : TokenEndpoints) : List TokenRequest → List TokenExchange
  | [] => []
  | r :: rest => ⟨r, (e.post r).1⟩ :: exchanges (e.post r).2 rest

/-- A refresh token is held along with an access token only. -/
def TokenState.Proper (s : TokenState) : Prop := s.refreshToken.isSome → s.accessToken.isSome

namespace OAuthClient

open TokenEvent

variable {c : OAuthClient} {s : TokenState} {a : TokenAccess} {t : String}
  {x : TokenExchange} {xs : List TokenExchange}

def exchange (c : OAuthClient) (a : TokenAccess) (form : List (String × String)) : TokenExchange :=
  ⟨c.requestOf a form, (a.endpoints.post (c.requestOf a form)).1⟩

theorem exchange_reply (c : OAuthClient) (a : TokenAccess) (form : List (String × String)) :
    (c.exchange a form).reply = (a.endpoints.post (c.requestOf a form)).1 := rfl

theorem refreshToken?_clientForm (c : OAuthClient) (a : TokenAccess) :
    (c.requestOf a c.clientForm).refreshToken? = none := rfl

theorem refreshToken?_refreshForm (c : OAuthClient) (a : TokenAccess) (t : String) :
    (c.requestOf a (c.refreshForm t)).refreshToken? = some t := rfl

/-- What a client asks for when it needs a token: with the refresh token that it holds, and in its
own name if it holds none, or else if that is refused. -/
inductive Asks (c : OAuthClient) (a : TokenAccess) (Held : String → Prop) :
    List TokenExchange → Prop
  | own (reply : TokenReply) : (∀ t, ¬ Held t) →
      Asks c a Held [⟨c.requestOf a c.clientForm, reply⟩]
  | refreshed (t : String) (reply : TokenReply) : Held t → reply.granted?.isSome →
      Asks c a Held [⟨c.requestOf a (c.refreshForm t), reply⟩]
  | refused (t : String) (refusal reply : TokenReply) : Held t → refusal.granted? = none →
      Asks c a Held [⟨c.requestOf a (c.refreshForm t), refusal⟩,
        ⟨c.requestOf a c.clientForm, reply⟩]

/-- What comes of some exchanges: they decide which refresh token is held then, and the last of them
the result. -/
structure Comes (s : TokenState) (a : TokenAccess) (xs : List TokenExchange)
    (y : Result Credentials × TokenState × TokenAccess) : Prop where
  exchanges : a.endpoints.exchanges (xs.map (·.request)) = xs
  access : y.2.2 = a.after (xs.map (·.request))
  refreshToken : y.2.1.refreshToken = (xs.map exchanged).foldl next s.refreshToken
  proper : s.Proper → y.2.1.Proper
  result : ∀ x, xs.getLast? = some x → y.1 = x.outcome a.now

theorem authenticate_comes (c : OAuthClient) (s : TokenState) (a : TokenAccess) :
    Comes s a [c.exchange a c.clientForm] (c.authenticate s a) := by
  have hn : (c.exchange a c.clientForm).request.refreshToken? = none := rfl
  unfold authenticate
  rw [request_eq]
  cases hg : (c.exchange a c.clientForm).reply.granted? with
  | some g =>
    have hr : (c.exchange a c.clientForm).reply.grant "token" = .ok g :=
      TokenReply.grant_of_granted hg
    rw [← exchange_reply, hr]
    refine ⟨rfl, rfl, by simp [next, hg, TokenState.accept], fun _ _ => rfl, ?_⟩
    have hc := (TokenState.keeps_accept s g a.now).credentials_eq
    simp [TokenExchange.outcome, hn, hr, hc, Except.map, TokenAccess.after]
  | none =>
    obtain ⟨⟨e, he⟩, -⟩ := TokenReply.grant_of_not_granted "token" hg
    rw [← exchange_reply, he]
    refine ⟨rfl, rfl, by simp [next, hg, hn], id, ?_⟩
    simp [TokenExchange.outcome, hn, he, Except.map]

/-- Exchanges of which the first refuses what is held come to what the rest of them comes to. -/
theorem Comes.of_refused {y : Result Credentials × TokenState × TokenAccess}
    (hx : (c.exchange a (c.refreshForm t)).Refuses t)
    (h : Comes { s with refreshToken := none } (a.after [c.requestOf a (c.refreshForm t)])
      (x :: xs) y) : Comes s a (c.exchange a (c.refreshForm t) :: x :: xs) y where
  exchanges := congrArg (_ :: ·) h.exchanges
  access := by
    rw [h.access]
    simp [TokenAccess.after, exchange]
  refreshToken := by
    rw [h.refreshToken]
    simp [next, hx.1, hx.2]
  proper _ := h.proper nofun
  result z hz := h.result z (by rwa [List.getLast?_cons_cons] at hz)

theorem refresh_comes (c : OAuthClient) (s : TokenState) (a : TokenAccess) :
    ∃ xs, Asks c a (s.refreshToken = some ·) xs ∧ Comes s a xs (c.refresh s a) := by
  unfold refresh
  cases ht : s.refreshToken with
  | none => exact ⟨_, .own _ nofun, c.authenticate_comes s a⟩
  | some t =>
    simp only [request_eq, ← exchange_reply]
    cases hg : (c.exchange a (c.refreshForm t)).reply.granted? with
    | some g =>
      have hr : (c.exchange a (c.refreshForm t)).reply.grant "refresh" = .ok g :=
        TokenReply.grant_of_granted hg
      have hc := (TokenState.keeps_accept s g a.now).credentials_eq
      rw [hr]
      refine ⟨_, .refreshed t _ rfl (by rw [hg]; rfl), rfl, rfl, ?_, fun _ _ => rfl, ?_⟩
      · simp [next, hg, TokenState.accept]
      · simp [TokenExchange.outcome, refreshToken?_refreshForm, hr, hc, Except.map,
          TokenAccess.after]
    | none =>
      -- the refresh token is dropped, and the client asks again as if it had none
      obtain ⟨⟨e, he⟩, -⟩ := TokenReply.grant_of_not_granted "refresh" hg
      rw [he]
      exact ⟨_, .refused t _ _ rfl hg, .of_refused ⟨rfl, hg⟩ (c.authenticate_comes _ _)⟩

theorem Asks.sendable {h : Option String} (hx : Asks c a (h = some ·) xs) :
    Sendable h (xs.map exchanged) := by
  cases hx with
  | own reply _ => simp [Sendable, sends?, refreshToken?_clientForm]
  | refreshed t reply ht _ => simp [Sendable, sends?, refreshToken?_refreshForm, ht]
  | refused t refusal reply ht _ =>
    simp [Sendable, sends?, refreshToken?_refreshForm, refreshToken?_clientForm, ht]

theorem Asks.length_le {Held : String → Prop} (h : Asks c a Held xs) : xs.length ≤ 2 := by
  cases h <;> simp

theorem Asks.ne_nil {Held : String → Prop} (h : Asks c a Held xs) : xs ≠ [] := by
  cases h <;> simp

end OAuthClient

theorem TokenEndpoints.map_request_exchanges (e : TokenEndpoints) (rs : List TokenRequest) :
    (e.exchanges rs).map (·.request) = rs := by
  induction rs generalizing e with
  | nil => rfl
  | cons r rest ih => exact congrArg (r :: ·) (ih _)

/-! ## Runs -/

namespace TokenMoment

open OAuthClient TokenEvent

variable {m : TokenMoment} {client : OAuthClient} {s : TokenState} {xs : List TokenExchange}
  {last : Option (TokenGrant × Instant)} {y : Result Credentials × TokenState × TokenAccess}

/-- The requests that the provider sends, with the replies to them. -/
def exchanges (m : TokenMoment) : List TokenExchange :=
  m.before.access.endpoints.exchanges m.sent

def events (m : TokenMoment) : List TokenEvent :=
  match m.action with
  | .revoke => [.revoked]
  | _ => m.exchanges.map .exchanged

/-- Whether a token has to be asked for: at a renewal always, and when credentials are wanted if the
last token has expired or there is none. -/
def Due (m : TokenMoment) (last : Option (TokenGrant × Instant)) : Prop :=
  m.action = .refresh ∨
    m.action = .credentials ∧ ∀ g t, last = some (g, t) → t + g.lifetime.nanos ≤ m.now

/-- What a moment comes to where a state is held before it. -/
structure Sends (m : TokenMoment) (client : OAuthClient) (s : TokenState)
    (last : Option (TokenGrant × Instant)) : Prop where
  after : ∃ s', m.after.provider = .oauth2 client s' ∧ s'.Proper ∧
    s'.refreshToken = m.events.foldl next s.refreshToken
  asks : m.Due last → Asks client m.before.access (s.refreshToken = some ·) m.exchanges
  rest : ¬ m.Due last → m.exchanges = [] ∨
    m.action = .authenticate ∧ ∃ reply,
      m.exchanges = [⟨client.requestOf m.before.access client.clientForm, reply⟩]
  result : ∀ x, m.exchanges.getLast? = some x → m.result = some (x.outcome m.now)

theorem exchanges_of_comes (h : Comes s m.before.access xs y)
    (hy : m.before.act m.action = TokenRun.answered (y.1, .oauth2 client y.2.1, y.2.2)) :
    m.exchanges = xs := by
  have hs : m.sent = xs.map (·.request) := by
    rw [sent, TokenMoment.after, hy]
    simp [TokenRun.answered, h.access, TokenAccess.after]
  rw [exchanges, hs, h.exchanges]

/-- An action that is answered sends what its answer comes from. -/
theorem sends_of_comes (h : Comes s m.before.access xs y) (hs : s.Proper)
    (hy : m.before.act m.action = TokenRun.answered (y.1, .oauth2 client y.2.1, y.2.2))
    (asks : m.Due last → Asks client m.before.access (s.refreshToken = some ·) xs)
    (rest : ¬ m.Due last → xs = [] ∨ m.action = .authenticate ∧ ∃ reply,
      xs = [⟨client.requestOf m.before.access client.clientForm, reply⟩]) :
    m.Sends client s last := by
  have hx := exchanges_of_comes h hy
  have he : m.events = xs.map exchanged := by
    unfold events
    split
    · next ha =>
      rw [ha] at hy
      cases hy
    · rw [hx]
  refine ⟨⟨y.2.1, ?_, h.proper hs, ?_⟩, ?_, ?_, ?_⟩
  · rw [TokenMoment.after, hy]
    rfl
  · rw [he, h.refreshToken]
  · rwa [hx]
  · rwa [hx]
  · intro x hl
    rw [hx] at hl
    rw [result, hy, TokenRun.answered, h.result x hl]
    rfl

theorem sends_of_sent_nil (hx : m.exchanges = []) (ha : m.action ≠ .refresh)
    (hc : m.action ≠ .credentials) (after : ∃ s', m.after.provider = .oauth2 client s' ∧ s'.Proper ∧
      s'.refreshToken = m.events.foldl next s.refreshToken) : m.Sends client s last := by
  refine ⟨after, ?_, fun _ => .inl hx, ?_⟩
  · rintro (h | ⟨h, -⟩)
    · exact absurd h ha
    · exact absurd h hc
  · intro x hl
    rw [hx] at hl
    cases hl

/-- Every action sends what the state before it calls for. -/
theorem sends (hm : m.before.provider = .oauth2 client s) (hk : s.Keeps last) (hp : s.Proper) :
    m.Sends client s last := by
  obtain ⟨⟨p, a⟩, action⟩ := m
  obtain rfl : p = .oauth2 client s := hm
  cases action with
  | credentials =>
    cases last with
    | none =>
      have hn : s.accessToken = none := hk
      have hr : s.refreshToken = none := by
        by_contra hr
        simpa [hn] using hp (Option.isSome_iff_ne_none.mpr hr)
      refine sends_of_comes (client.authenticate_comes s a) hp ?_ ?_ ?_
      · simp [TokenRun.act, Provider.credentials, OAuthClient.credentials, hn]
      · intro _
        exact .own _ (by simp [hr])
      · intro hd
        refine absurd (.inr ⟨rfl, ?_⟩) hd
        rintro _ _ ⟨⟩
    | some l =>
      obtain ⟨g, t⟩ := l
      have hn := hk.accessToken_isNone
      by_cases he : s.expired a.now = true
      · obtain ⟨xs, hx, hc⟩ := client.refresh_comes s a
        refine sends_of_comes hc hp ?_ (fun _ => hx) ?_
        · simp [TokenRun.act, Provider.credentials, OAuthClient.credentials, hn, he]
        · intro hd
          refine absurd (.inr ⟨rfl, ?_⟩) hd
          rintro _ _ ⟨⟩
          exact hk.expired_iff.mp he
      · have hc : Comes s a [] (s.credentials, s, a) := by
          refine ⟨rfl, by simp [TokenAccess.after], rfl, id, ?_⟩
          rintro _ ⟨⟩
        refine sends_of_comes hc hp ?_ ?_ fun _ => .inl rfl
        · simp [TokenRun.act, Provider.credentials, OAuthClient.credentials, hn, he]
        · rintro (⟨⟨⟩⟩ | ⟨-, hd⟩)
          exact absurd (hk.expired_iff.mpr (hd g t rfl)) he
  | refresh =>
    obtain ⟨xs, hx, hc⟩ := client.refresh_comes s a
    exact sends_of_comes hc hp rfl (fun _ => hx) fun hd => absurd (.inl rfl) hd
  | authenticate =>
    refine sends_of_comes (client.authenticate_comes s a) hp rfl ?_ fun _ => .inr ⟨rfl, _, rfl⟩
    rintro (⟨⟨⟩⟩ | ⟨⟨⟩, -⟩)
  | revoke =>
    have hx : (TokenMoment.mk ⟨.oauth2 client s, a⟩ .revoke).sent = [] := List.drop_length
    refine sends_of_sent_nil (by rw [exchanges, hx]; rfl) (by simp) (by simp) ⟨{}, rfl, ?_, rfl⟩
    rintro ⟨⟩
  | advance span =>
    have hs : (TokenMoment.mk ⟨.oauth2 client s, a⟩ (.advance span)).sent = [] := List.drop_length
    have hx : (TokenMoment.mk ⟨.oauth2 client s, a⟩ (.advance span)).exchanges = [] := by
      rw [exchanges, hs]
      rfl
    refine sends_of_sent_nil hx (by simp) (by simp) ⟨s, rfl, hp, ?_⟩
    rw [events, hx]
    rfl

theorem Sends.sendable (h : m.Sends client s last) : Sendable s.refreshToken m.events := by
  unfold events
  split
  · exact ⟨nofun, trivial⟩
  · by_cases hd : m.Due last
    · exact (h.asks hd).sendable
    · rcases h.rest hd with hx | ⟨-, reply, hx⟩
      · rw [hx]
        trivial
      · rw [hx]
        exact ⟨nofun, trivial⟩

theorem Sends.length_le (h : m.Sends client s last) : m.sent.length ≤ 2 := by
  have hs := m.before.access.endpoints.map_request_exchanges m.sent
  rw [← exchanges] at hs
  rw [← hs, List.length_map]
  by_cases hd : m.Due last
  · exact (h.asks hd).length_le
  · rcases h.rest hd with hx | ⟨-, reply, hx⟩ <;> simp [hx]

end TokenMoment

namespace TokenRun

open OAuthClient TokenEvent TokenMoment

/-- What the moments of a run mean for the refresh token. -/
def events (past : List TokenMoment) : List TokenEvent := past.flatMap (·.events)

theorem events_concat (past : List TokenMoment) (m : TokenMoment) :
    events (past ++ [m]) = events past ++ m.events := by
  simp [events]

/-- The state that a run leads to: it keeps the last token and the refresh token held, and no
refresh token was ever sent but the one held. -/
structure Reaches (p : Provider) (client : OAuthClient) (past : List TokenMoment) (s : TokenState) :
    Prop where
  provider : p = .oauth2 client s
  keeps : s.Keeps (lastReceived past)
  proper : s.Proper
  refreshToken : s.refreshToken = held (events past)
  sendable : Sendable none (events past)

variable {client : OAuthClient} {past : List TokenMoment} {m : TokenMoment} {s : TokenState}

theorem Reaches.sends (h : Reaches m.before.provider client past s) :
    m.Sends client s (lastReceived past) :=
  TokenMoment.sends h.provider h.keeps h.proper

theorem Reaches.concat (h : Reaches m.before.provider client past s) :
    ∃ s', Reaches m.after.provider client (past ++ [m]) s' := by
  obtain ⟨s', hs, hp, hr⟩ := h.sends.after
  obtain ⟨_, hs', hk⟩ := (follows ⟨s, h.provider, h.keeps⟩ : m.Follows client _).keeps
  obtain rfl : s' = _ := (Provider.oauth2.inj (hs.symm.trans hs')).2
  refine ⟨s', hs, ?_, hp, ?_, ?_⟩
  · rwa [lastReceived_concat]
  · rw [hr, h.refreshToken, events_concat, held, held, List.foldl_append]
  · rw [events_concat, sendable_append]
    refine ⟨h.sendable, ?_⟩
    rw [← held, ← h.refreshToken]
    exact h.sends.sendable

end TokenRun
end Interchange
