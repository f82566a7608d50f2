import Interchange.Auth.Provider

/-! # Tokens of one provider

An OAuth 2 provider asks a token endpoint at most twice at a time. What it hands out and what it
keeps depend on the replies alone: the last token that was granted, or an error and the token that
was there before. A run of a provider is any list of actions on it, with time passing in between.
-/

namespace Interchange

/-! ## Grants in replies -/

def TokenState.incomplete : Error := .authentication "OAuth2 token state incomplete"

theorem TokenState.incomplete_ne (start detail : String)
    (h : ¬ start.toList <+: "OAuth2 token state incomplete".toList) :
    Error.authentication (start ++ detail) ≠ incomplete := by
  intro he
  refine h ⟨detail.toList, ?_⟩
  rw [← String.toList_append, Error.authentication.inj he]

/-- The grant in a reply: one of success that can be read. -/
def TokenReply.granted? : TokenReply → Option TokenGrant
  | .unreachable _ => none
  | .reply status body =>
    if status < 200 ∨ 300 ≤ status then none
    else (Json.parseVerbatim? body).bind TokenGrant.ofJson?

namespace TokenReply

variable {action : String} {reply : TokenReply} {g : TokenGrant}

theorem grant_of_granted (h : reply.granted? = some g) : reply.grant action = .ok g := by
  cases reply with
  | unreachable detail => cases h
  | reply status body =>
    by_cases hs : status < 200 ∨ 300 ≤ status
    · simp [granted?, hs] at h
    · simp only [granted?, if_neg hs] at h
      simp only [grant, if_neg hs, h]

/-- A reply without a grant is an error, and never that of a token in part. -/
theorem grant_of_not_granted (action : String) (h : reply.granted? = none) :
    (∃ e, reply.grant action = .error e) ∧
      reply.grant "token" ≠ .error TokenState.incomplete := by
  cases reply with
  | unreachable detail =>
    refine ⟨⟨_, rfl⟩, fun he => ?_⟩
    exact TokenState.incomplete_ne "OAuth2 token request failed: " detail (by decide)
      (Except.error.inj he)
  | reply status body =>
    by_cases hs : status < 200 ∨ 300 ≤ status
    · simp only [grant, if_pos hs]
      refine ⟨⟨_, rfl⟩, fun he => ?_⟩
      refine TokenState.incomplete_ne "OAuth2 token failed with status "
        (statusText status ++ ": " ++ body) (by decide) ?_
      rw [← Except.error.inj he]
      simp [String.append_assoc]
    · simp only [granted?, if_neg hs] at h
      simp only [grant, if_neg hs, h]
      refine ⟨⟨_, rfl⟩, fun he => ?_⟩
      exact TokenState.incomplete_ne "Failed to parse OAuth2 token response: " "not a grant"
        (by decide) (Except.error.inj he)

end TokenReply

namespace TokenGrant

def lifetime (g : TokenGrant) : Duration :=
  .ofSeconds (min (g.expiresIn.getD TokenState.defaultSeconds) TokenState.maxSeconds)

def credentials (g : TokenGrant) (received : Instant) : Credentials :=
  .oauth2 g.accessToken (g.tokenType.getD "Bearer") received
    (some (received + g.lifetime.nanos))

end TokenGrant

/-! ## What is kept -/

namespace TokenState

variable {s : TokenState} {g : TokenGrant} {t now : Instant} {refreshToken : Option String}

/-- A state that keeps a token since a moment, or none. The refresh token does not matter. -/
def Keeps (s : TokenState) : Option (TokenGrant × Instant) → Prop
  | none => s.accessToken = none
  | some (g, t) => s.accept g t = { s with refreshToken := (s.accept g t).refreshToken }

theorem keeps_accept (s : TokenState) (g : TokenGrant) (t : Instant) :
    (s.accept g t).Keeps (some (g, t)) := rfl

theorem Keeps.withRefreshToken {h : Option (TokenGrant × Instant)} (hs : s.Keeps h) :
    { s with refreshToken }.Keeps h := by
  cases h with
  | none => exact hs
  | some h =>
    obtain ⟨g, t⟩ := h
    simp only [Keeps, accept, mk.injEq] at hs ⊢
    exact ⟨hs.1, trivial, hs.2.2⟩

theorem Keeps.credentials_eq (hs : s.Keeps (some (g, t))) :
    s.credentials = .ok (g.credentials t) := by
  simp only [Keeps, accept, mk.injEq] at hs
  obtain ⟨ha, -, hk, hl, ht⟩ := hs
  simp only [credentials, credentials?, ← ha, ← hk, ← hl, ← ht]
  rfl

theorem Keeps.expired_iff (hs : s.Keeps (some (g, t))) :
    s.expired now = true ↔ t + g.lifetime.nanos ≤ now := by
  simp only [Keeps, accept, mk.injEq] at hs
  obtain ⟨-, -, -, hl, ht⟩ := hs
  simp only [expired, ← hl, ← ht, decide_eq_true_iff]
  rfl

theorem Keeps.accessToken_isNone (hs : s.Keeps (some (g, t))) : s.accessToken.isNone = false := by
  simp only [Keeps, accept, mk.injEq] at hs
  rw [← hs.1]
  rfl

end TokenState

/-! ## Asking for tokens -/

namespace TokenEndpoints

def replies (e : TokenEndpoints) : List TokenRequest → List TokenReply
  | [] => []
  | r :: rest => (e.post r).1 :: replies (e.post r).2 rest

def grants (e : TokenEndpoints) (rs : List TokenRequest) : List TokenGrant :=
  (e.replies rs).filterMap TokenReply.granted?

end TokenEndpoints

def TokenAccess.after (a : TokenAccess) (rs : List TokenRequest) : TokenAccess :=
  { a with endpoints := { a.endpoints with sent := a.endpoints.sent ++ rs } }

namespace OAuthClient

variable {c : OAuthClient} {s : TokenState} {a : TokenAccess} {rs : List TokenRequest}

/-- What comes of asking for a token with some requests: it is granted and kept, or an error, and
the token from before is kept. -/
inductive Renews (s : TokenState) (a : TokenAccess) (rs : List TokenRequest) :
    Result Credentials × TokenState × TokenAccess → Prop
  | granted (g : TokenGrant) (refreshToken : Option String) : a.endpoints.grants rs = [g] →
      Renews s a rs
        (.ok (g.credentials a.now), { s with refreshToken }.accept g a.now, a.after rs)
  | refused (e : Error) (refreshToken : Option String) : a.endpoints.grants rs = [] →
      e ≠ TokenState.incomplete → Renews s a rs (.error e, { s with refreshToken }, a.after rs)

def requestOf (c : OAuthClient) (a : TokenAccess) (form : List (String × String)) :
    TokenRequest := ⟨a.systemId, c.tokenUrl, form⟩

theorem request_eq (c : OAuthClient) (a : TokenAccess) (action : String)
    (form : List (String × String)) :
    c.request a action form =
      ((a.endpoints.post (c.requestOf a form)).1.grant action, a.after [c.requestOf a form]) := rfl

theorem grants_singleton (e : TokenEndpoints) (r : TokenRequest) :
    e.grants [r] = (e.post r).1.granted?.toList := by
  cases h : (e.post r).1.granted? <;> simp [TokenEndpoints.grants, TokenEndpoints.replies, h]

theorem authenticate_renews (c : OAuthClient) (s : TokenState) (a : TokenAccess) :
    Renews s a [c.requestOf a c.clientForm] (c.authenticate s a) := by
  have hgs := grants_singleton a.endpoints (c.requestOf a c.clientForm)
  unfold authenticate
  rw [request_eq]
  cases hg : (a.endpoints.post (c.requestOf a c.clientForm)).1.granted? with
  | some g =>
    rw [hg] at hgs
    rw [TokenReply.grant_of_granted hg]
    exact .granted g s.refreshToken hgs
  | none =>
    rw [hg] at hgs
    obtain ⟨⟨e, he⟩, hne⟩ := TokenReply.grant_of_not_granted "token" hg
    rw [he] at hne ⊢
    exact .refused e s.refreshToken hgs fun h => hne (h ▸ rfl)

/-- Requests of which the first is refused come to what the rest of them comes to. -/
theorem Renews.of_refused {x : Result Credentials × TokenState × TokenAccess} {r : TokenRequest}
    {refreshToken : Option String} (hr : (a.endpoints.post r).1.granted? = none)
    (h : Renews { s with refreshToken } (a.after [r]) rs x) : Renews s a (r :: rs) x := by
  have hg : a.endpoints.grants (r :: rs) = (a.after [r]).endpoints.grants rs := by
    simp [TokenEndpoints.grants, TokenEndpoints.replies, hr]
    rfl
  have ha : (a.after [r]).after rs = a.after (r :: rs) := by simp [TokenAccess.after]
  cases h with
  | granted g refreshToken h =>
    rw [ha]
    exact .granted g refreshToken (hg.trans h)
  | refused e refreshToken h hne =>
    rw [ha]
    exact .refused e refreshToken (hg.trans h) hne

theorem refresh_renews (c : OAuthClient) (s : TokenState) (a : TokenAccess) :
    ∃ rs, Renews s a rs (c.refresh s a) := by
  unfold refresh
  cases s.refreshToken with
  | none => exact ⟨_, c.authenticate_renews s a⟩
  | some t =>
    have hgs := grants_singleton a.endpoints (c.requestOf a (c.refreshForm t))
    simp only [request_eq]
    cases hg : (a.endpoints.post (c.requestOf a (c.refreshForm t))).1.granted? with
    | some g =>
      rw [hg] at hgs
      rw [TokenReply.grant_of_granted hg]
      exact ⟨_, .granted g s.refreshToken hgs⟩
    | none =>
      -- the refresh token is dropped, and the client asks again as if it had none
      obtain ⟨⟨e, he⟩, -⟩ := TokenReply.grant_of_not_granted "refresh" hg
      rw [he]
      exact ⟨_, .of_refused hg (c.authenticate_renews _ _)⟩

end OAuthClient

/-! ## Runs -/

/-- What is done to a provider, or the passing of time. -/
inductive TokenAction where
  | credentials
  | refresh
  | authenticate
  | revoke
  | advance (span : Duration)

/-- A provider, with the token endpoints as it reaches them. -/
structure TokenRun where
  provider : Provider
  access : TokenAccess

namespace TokenRun

/-- The run after a provider has been asked for credentials, with the answer. -/
def answered (x : Result Credentials × Provider × TokenAccess) :
    Option (Result Credentials) × TokenRun := (some x.1, ⟨x.2.1, x.2.2⟩)

def act (r : TokenRun) : TokenAction → Option (Result Credentials) × TokenRun
  | .credentials => answered (r.provider.credentials r.access)
  | .refresh => answered (r.provider.refresh r.access)
  | .authenticate => answered (r.provider.authenticate r.access)
  | .revoke => (none, { r with provider := r.provider.revoke })
  | .advance span => (none, { r with access := { r.access with now := r.access.now + span.nanos } })

def actAll (r : TokenRun) (actions : List TokenAction) : TokenRun :=
  actions.foldl (fun r action => (r.act action).2) r

end TokenRun

/-- An action, and the run that it meets. -/
structure TokenMoment where
  before : TokenRun
  action : TokenAction

namespace TokenMoment

def now (m : TokenMoment) : Instant := m.before.access.now

def after (m : TokenMoment) : TokenRun := (m.before.act m.action).2

/-- What the provider answers, if it is asked for credentials. -/
def result (m : TokenMoment) : Option (Result Credentials) := (m.before.act m.action).1

def sent (m : TokenMoment) : List TokenRequest :=
  m.after.access.endpoints.sent.drop m.before.access.endpoints.sent.length

def received (m : TokenMoment) : List TokenGrant := m.before.access.endpoints.grants m.sent

/-- The last token received, when there was one before or none. -/
def latest (m : TokenMoment) (last : Option (TokenGrant × Instant)) :
    Option (TokenGrant × Instant) :=
  match m.action with
  | .revoke => none
  | _ => (m.received.getLast?.map fun g => (g, m.now)).or last

end TokenMoment

namespace TokenRun

def history (r : TokenRun) : List TokenAction → List TokenMoment
  | [] => []
  | action :: actions => ⟨r, action⟩ :: history (r.act action).2 actions

def lastReceived (ms : List TokenMoment) : Option (TokenGrant × Instant) :=
  ms.foldl (fun last m => m.latest last) none

theorem lastReceived_concat (ms : List TokenMoment) (m : TokenMoment) :
    lastReceived (ms ++ [m]) = m.latest (lastReceived ms) := by
  simp [lastReceived]

theorem actAll_concat (r : TokenRun) (actions : List TokenAction) (action : TokenAction) :
    r.actAll (actions ++ [action]) = ((r.actAll actions).act action).2 := by
  simp [actAll]

theorem history_concat (r : TokenRun) (actions : List TokenAction) (action : TokenAction) :
    r.history (actions ++ [action]) = r.history actions ++ [⟨r.actAll actions, action⟩] := by
  induction actions generalizing r with
  | nil => rfl
  | cons a actions ih => exact congrArg (_ :: ·) (ih _)

end TokenRun

end Interchange
