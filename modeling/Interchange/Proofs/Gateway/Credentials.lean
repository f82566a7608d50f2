import Interchange.Proofs.Gateway.Systems

/-! # Credentials where nobody interferes

A call that gets credentials while no other call does anything comes to what the provider issues in
one go, and leaves the provider as that would.
-/

namespace Interchange
namespace Gateway

variable {late : String → List AdapterCall → Result Json.Value} {systemId : String} {g : Gateway}
  {turns : List (Seat × Nat)} {i : Issuer} {p : Provider} {c : SystemConfig} {s : TokenState}

def access (i : Issuer) (g : Gateway) : TokenAccess := ⟨i.systemId, g.now, g.endpoints⟩

/-- A provider in use, as a caller holds it. -/
structure Holds (i : Issuer) (p : Provider) (g : Gateway) : Prop where
  number : i.number = (g.retiredOf i.systemId).length
  provider : g.security.providers.get? i.systemId = some p

theorem Holds.held? (h : Holds i p g) : g.held? i = some p := by
  rw [Gateway.held?, h.number, List.getElem?_length, Option.none_or, h.provider]

theorem Holds.remember (h : Holds i p g) (f : Provider → Provider) :
    g.remember i f =
      { g with security :=
        { g.security with providers := g.security.providers.insert i.systemId (f p) } } := by
  rw [Gateway.remember, h.number, if_neg (Nat.lt_irrefl _), h.provider]

theorem Holds.tokenState {client : OAuthClient} (h : Holds i (.oauth2 client s) g)
    (s₀ : TokenState) : g.tokenState i s₀ = s := by
  rw [Gateway.tokenState, h.held?]

/-- The endpoints and a provider in use are changed, the latter to what an issuer has made of it. -/
def Issued (i : Issuer) (p : Provider) (endpoints : TokenEndpoints) (g h : Gateway) : Prop :=
  ∃ security, Security.Sets i.systemId (some p) g.security security ∧
    h = { g with security, endpoints }

variable {g' h : Gateway} {q : Provider} {e e' : TokenEndpoints} {n : Nat}

theorem Holds.issued (h : Holds i p g) (e : TokenEndpoints) :
    Issued i p e g { g with endpoints := e } :=
  ⟨g.security, ⟨rfl, rfl, rfl, h.provider, fun _ _ => rfl⟩, rfl⟩

theorem Holds.issued_remember (h : Holds i p g) (f : Provider → Provider) :
    Issued i (f p) g.endpoints g (g.remember i f) :=
  ⟨_, Security.sets_insert .., h.remember f⟩

theorem Issued.trans (h₁ : Issued i p e g g') (h₂ : Issued i q e' g' h) : Issued i q e' g h := by
  obtain ⟨security, hs, rfl⟩ := h₁
  obtain ⟨security', hs', rfl⟩ := h₂
  exact ⟨security', hs.trans hs', rfl⟩

theorem Holds.of_issued (h : Holds i p g) (hi : Issued i q e g g') : Holds i q g' := by
  obtain ⟨security, hs, rfl⟩ := hi
  exact ⟨h.number, hs.provider⟩

/-- Who waits for a token alone gets what the endpoint answers to the request. -/
theorem alone_requestToken (late : String → List AdapterCall → Result Json.Value)
    (systemId : String) (hg : g.endpoints.pending = []) (i : Issuer) (client : OAuthClient)
    (action : String) (form : List (String × String)) :
    ∃ r g', client.request (access i g) action form = (r, access i g') ∧
      (requestToken i client action form).run.alone (serve late systemId) g = some (r, g') ∧
      g' = { g with endpoints := g'.endpoints } ∧ g'.endpoints.pending = [] := by
  let q : TokenRequest := ⟨i.systemId, client.tokenUrl, form⟩
  let n := g.endpoints.sent.length
  let posted : Gateway := { g with endpoints := (g.endpoints.post q).2 }
  have hposted : posted.endpoints.pending = [] := hg
  refine ⟨_, posted, rfl, ?_, rfl, hposted⟩
  unfold requestToken
  rw [alone_bind_ok (a := ((g.endpoints.post q).1, n))
    (h := { g with endpoints := (g.endpoints.send q).2 }) rfl]
  rw [alone_bind_ok (a := ()) (h := posted)]
  · rfl
  · rw [await, alone_lift, Call.alone_await]
    by_cases hl : g.endpoints.late g.endpoints.sent q
    · have hs : (g.endpoints.send q).2 = { (g.endpoints.post q).2 with pending := [n] } := by
        simp only [TokenEndpoints.send, if_pos hl, TokenEndpoints.post, hg, n]
      have hserve :
          serve late systemId { g with endpoints := (g.endpoints.send q).2 } = posted := by
        have he : { (g.endpoints.post q).2 with pending := [] } = (g.endpoints.post q).2 := by
          simp only [TokenEndpoints.post, hg]
        rw [hs, serve_of_pending late (List.cons_ne_nil n [])]
        exact congrArg (fun endpoints => { g with endpoints }) he
      rw [if_neg (by simp [hs]), hserve, if_pos (by simp [hposted])]
      rfl
    · have hs : (g.endpoints.send q).2 = (g.endpoints.post q).2 := if_neg hl
      rw [hs, if_pos (by simp [show (g.endpoints.post q).2.pending = [] from hg])]
      rfl

variable {client : OAuthClient}

theorem issued_setTokenState (h : Holds i (.oauth2 client s) g) (t : TokenState) :
    Issued i (.oauth2 client t) g.endpoints g (g.setTokenState i t) :=
  ⟨_, Security.sets_insert .., h.remember _⟩

theorem issued_acceptToken (h : Holds i (.oauth2 client s) g) (s₀ : TokenState) (t : TokenGrant) :
    (acceptToken i s₀ t g).1 = (s.accept t g.now).credentials ∧
      Issued i (.oauth2 client (s.accept t g.now)) g.endpoints g (acceptToken i s₀ t g).2 := by
  rw [acceptToken, h.tokenState]
  exact ⟨rfl, issued_setTokenState h _⟩

/-- A call comes to what a client does in one go, and leaves its provider as that would. -/
def Does (late : String → List AdapterCall → Result Json.Value) (systemId : String) (i : Issuer)
    (client : OAuthClient) (x : GatewayCall Credentials) (g : Gateway)
    (r : Result Credentials × TokenState × TokenAccess) : Prop :=
  ∃ h, x.run.alone (serve late systemId) g = some (r.1, h) ∧
    Issued i (.oauth2 client r.2.1) r.2.2.endpoints g h

theorem does_authenticate (late : String → List AdapterCall → Result Json.Value)
    (systemId : String) (hg : g.endpoints.pending = []) (h : Holds i (.oauth2 client s) g)
    (s₀ : TokenState) :
    Does late systemId i client (authenticate i client s₀) g
      (client.authenticate s (access i g)) := by
  obtain ⟨r, g', hq, hr, he, -⟩ := alone_requestToken late systemId hg i client "token"
    client.clientForm
  have hi : Issued i (.oauth2 client s) g'.endpoints g g' := he ▸ h.issued g'.endpoints
  unfold authenticate OAuthClient.authenticate Does
  rw [hq]
  cases r with
  | error e => exact ⟨g', alone_bind_error hr, hi⟩
  | ok t =>
    obtain ⟨hc, ht⟩ := issued_acceptToken (h.of_issued hi) s₀ t
    refine ⟨(acceptToken i s₀ t g').2, ?_, hi.trans ht⟩
    rw [alone_bind_ok hr, alone_step]
    exact congrArg some (Prod.ext hc rfl)

theorem does_refresh (late : String → List AdapterCall → Result Json.Value)
    (systemId : String) (hg : g.endpoints.pending = []) (h : Holds i (.oauth2 client s) g)
    (s₀ : TokenState) {refreshToken : String} (hs : s.refreshToken = some refreshToken) :
    Does late systemId i client (refresh i client s₀ refreshToken) g
      (client.refresh s (access i g)) := by
  obtain ⟨r, g', hq, hr, he, hp⟩ := alone_requestToken late systemId hg i client "refresh"
    (client.refreshForm refreshToken)
  have hi : Issued i (.oauth2 client s) g'.endpoints g g' := he ▸ h.issued g'.endpoints
  have hattempt := alone_attempt (s := serve late systemId)
    (requestToken i client "refresh" (client.refreshForm refreshToken)) id g
  rw [hr] at hattempt
  unfold refresh OAuthClient.refresh Does
  rw [alone_bind_ok hattempt, hs]
  dsimp only
  rw [hq]
  cases r with
  | ok t =>
    obtain ⟨hc, ht⟩ := issued_acceptToken (h.of_issued hi) s₀ t
    refine ⟨(acceptToken i s₀ t g').2, ?_, hi.trans ht⟩
    rw [alone_step]
    exact congrArg some (Prod.ext hc rfl)
  | error e =>
    -- the refresh token is forgotten, and then the client asks in its own name
    have hf := issued_setTokenState (h.of_issued hi) { s with refreshToken := none }
    have hsame : access i (g'.setTokenState i { s with refreshToken := none }) = access i g' := by
      obtain ⟨security, -, hset⟩ := hf
      rw [hset]
      rfl
    have hpending : (g'.setTokenState i { s with refreshToken := none }).endpoints.pending = [] :=
      (congrArg (fun a => a.endpoints.pending) hsame).trans hp
    obtain ⟨k, hk, ha⟩ := does_authenticate late systemId hpending
      ((h.of_issued hi).of_issued hf) s₀
    rw [hsame] at hk ha
    refine ⟨k, ?_, (hi.trans hf).trans ha⟩
    refine Eq.trans (alone_bind_ok (a := ()) ?_) hk
    rw [← (h.of_issued hi).tokenState s₀]
    rfl

theorem does_renewed (late : String → List AdapterCall → Result Json.Value)
    (systemId : String) (hg : g.endpoints.pending = []) (h : Holds i (.oauth2 client s) g)
    (s₀ : TokenState) :
    Does late systemId i client (renewed i client s₀) g (client.credentials s (access i g)) := by
  have hauth := does_authenticate late systemId hg h s
  unfold renewed OAuthClient.credentials Does
  rw [alone_bind_ok (alone_look ..), h.tokenState]
  dsimp only
  by_cases ha : s.accessToken.isNone
  · rw [if_pos ha, if_pos ha]
    exact hauth
  rw [if_neg ha, if_neg ha]
  by_cases hx : s.expired g.now
  · rw [if_pos hx, if_pos (show s.expired (access i g).now from hx)]
    cases hr : s.refreshToken with
    | none =>
      rw [OAuthClient.refresh, hr]
      exact hauth
    | some t => exact does_refresh late systemId hg h s hr
  · rw [if_neg hx, if_neg (show ¬s.expired (access i g).now from hx)]
    exact ⟨g, rfl, h.issued g.endpoints⟩

/-! ## Without others -/

/-- The same gateway but for the line, where nobody is left. -/
def Unlined (g h : Gateway) : Prop := ∃ line : Line Seat, line.places = [] ∧ h = { g with line }

theorem Issued.withLine {line : Line Seat} (h : Issued i p e { g with line } g') (st : Seat)
    (hg : line.places = [(st, n)]) : ∃ k, Issued i p e g k ∧ Unlined k (leaveLine st n g') := by
  obtain ⟨security, hs, rfl⟩ := h
  exact ⟨{ g with security, endpoints := e }, ⟨security, hs, rfl⟩, _, by simp [Line.leave, hg], rfl⟩

theorem Holds.withLine (h : Holds i p g) (st : Seat) : Holds i p (inLine st g) :=
  ⟨h.number, h.provider⟩

theorem issued_issue (h : Holds i p g) :
    (issue i p g).1 = (p.credentials (access i g)).1 ∧
      Issued i (p.credentials (access i g)).2.1 g.endpoints g (issue i p g).2 := by
  rw [issue, h.held?]
  exact ⟨rfl, h.issued_remember fun p => (p.credentials (access i g)).2.1⟩

theorem alone_credentialsBy (late : String → List AdapterCall → Result Json.Value)
    (systemId : String) (hg : Tidy [] g) (h : Holds i p g) :
    ∃ g' h', (credentialsBy i p).run.alone (serve late systemId) g =
        some ((p.credentials (access i g)).1, h') ∧ Unlined g' h' ∧
      Issued i (p.credentials (access i g)).2.1 (p.credentials (access i g)).2.2.endpoints g
        g' := by
  have hplace (st : Seat) : (inLine st g).line.places = [(st, g.line.tickets)] :=
    (hg.inLine st).line
  cases p with
  | apiKey headerName key =>
    obtain ⟨hr, hi⟩ := issued_issue h
    obtain ⟨security, hs, hsame⟩ := hi
    exact ⟨_, _, (alone_step ..).trans (congrArg some (Prod.ext hr hsame)), ⟨g.line, hg.line, rfl⟩,
      security, hs, rfl⟩
  | basic username password issued =>
    have hend : ((Provider.basic username password issued).credentials (access i g)).2.2.endpoints =
        g.endpoints := by cases issued <;> rfl
    obtain ⟨hr, hi⟩ := issued_issue (h.withLine (.issuing i))
    obtain ⟨k, hk, hu⟩ := Issued.withLine hi (.issuing i) (hplace _)
    refine ⟨k, _, ?_, hu, hend.symm ▸ hk⟩
    rw [credentialsBy, alone_inTurn hg.line, alone_step]
    exact congrArg some (Prod.ext hr rfl)
  | oauth2 client s =>
    obtain ⟨g', hr, hi⟩ := does_renewed late systemId (g := inLine (.issuing i) g) hg.pending
      (h.withLine _) s
    obtain ⟨k, hk, hu⟩ := Issued.withLine hi (.issuing i) (hplace _)
    refine ⟨k, _, ?_, hu, hk⟩
    rw [credentialsBy, alone_inTurn hg.line, hr]
    rfl

/-- The provider that a call takes is the one in use or else a new one, which is in use then. -/
theorem alone_providerOf (late : String → List AdapterCall → Result Json.Value)
    (systemId : String) (hg : Tidy [] g) (c : SystemConfig) :
    (∃ e, g.security.issuer c = .error e ∧
        (providerOf c).run.alone (serve late systemId) g = some (.error e, g)) ∨
      ∃ p i security, g.security.issuer c = .ok p ∧ i.systemId = c.systemId ∧
        (providerOf c).run.alone (serve late systemId) g = some (.ok (i, p), { g with security }) ∧
        Holds i p { g with security } ∧ Security.Sets c.systemId (some p) g.security security := by
  unfold providerOf
  rw [alone_bind_ok (alone_look ..)]
  cases hp : g.security.providers.get? c.systemId with
  | some p =>
    let i : Issuer := ⟨c.systemId, (g.retiredOf c.systemId).length⟩
    refine .inr ⟨p, i, g.security, by rw [Security.issuer, hp], rfl, ?_, ⟨rfl, hp⟩, rfl, rfl, rfl,
      hp, fun _ _ => rfl⟩
    rw [provider?, hp]
    rfl
  | none =>
    have hnone : g.provider? c.systemId = none := Option.map_eq_none_iff.mpr hp
    rw [hnone]
    dsimp only
    rw [alone_bind_ok (alone_pass (hg.unheld .secrets)), alone_step, makeProvider]
    cases hb : g.security.build c with
    | error e => exact .inl ⟨e, by rw [Security.issuer, hp, hb], rfl⟩
    | ok p =>
      rw [hnone]
      exact .inr ⟨p, _, _, by rw [Security.issuer, hp, hb], rfl, rfl,
        ⟨rfl, Dict.get?_insert_self ..⟩, Security.sets_insert ..⟩

theorem tidy_credentials (hg : Tidy turns g) (c : SystemConfig) :
    Tidy turns (credentials c g).2 := by
  obtain ⟨hs, ha, hp, -⟩ := g.security.credentials_beside c g.now g.endpoints
  refine { hg with secrets := ?_, endpoints := hg.endpoints.of_answer_eq ha, pending := ?_ }
  · have hm := hg.secrets
    rwa [← hs] at hm
  · exact hp.trans hg.pending

/-- A call that gets credentials alone comes to what comes of them in one go, and leaves the
gateway so for every system. -/
theorem alone_credentialsOf (late : String → List AdapterCall → Result Json.Value)
    (systemId : String) (hg : Tidy [] g) (c : SystemConfig) :
    ∃ h, (credentialsOf c).run.alone (serve late systemId) g = some ((credentials c g).1, h) ∧
      Tidy [] h ∧ ∀ id, Alike id (credentials c g).2 h := by
  have ht := tidy_credentials hg c
  have hcases := g.security.credentials_cases c g.now g.endpoints
  unfold credentialsOf
  rw [credentials] at ht ⊢
  rcases alone_providerOf late systemId hg c with ⟨e, he, hr⟩ | ⟨p, i, s, hp, hi, hr, hh, hs⟩
  · rcases hcases with ⟨e', he', hc⟩ | ⟨p, t, hp, hst, hc⟩
    · rw [he] at he'
      cases he'
      rw [hc]
      exact ⟨g, alone_bind_error hr, hg, fun id => .refl id g⟩
    · rw [he] at hp
      cases hp
  · rcases hcases with ⟨e, he, hc⟩ | ⟨p', t, hp', hst, hc⟩
    · rw [hp] at he
      cases he
    · rw [hp] at hp'
      cases hp'
      have hgs : Tidy [] { g with security := s } :=
        { hg with secrets := by have hm := hg.secrets; rwa [← hs.store] at hm }
      obtain ⟨-, h, ha, ⟨line, hline, rfl⟩, s', hs', rfl⟩ :=
        alone_credentialsBy late systemId hgs hh
      have hreach : access i { g with security := s } = ⟨c.systemId, g.now, g.endpoints⟩ := by
        rw [access, hi]
      rw [hreach] at ha hs'
      rw [hi] at hs'
      rw [hc] at ht ⊢
      have hall (id : String) : t.Alike id s' := hst.unique (hs.trans hs') id
      refine ⟨_, (alone_bind_ok hr).trans ha, ?_, fun id => { Alike.refl id g with
        security := hall id
        endpoints := .refl .. }⟩
      exact { ht with
        secrets := by have hm := ht.secrets; rwa [hst.store, ← hs.store, ← hs'.store] at hm
        line := hline }

end Gateway
end Interchange
