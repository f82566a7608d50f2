import Interchange.Auth.Factory

/-! # Token endpoints of different systems

A system's provider asks the token endpoints in the name of its system alone. Where an endpoint's
answer to a system depends on that system's requests alone, so does all that a provider issues.
-/

namespace Interchange

namespace TokenEndpoints

variable {systemId : String} {e e' e'' : TokenEndpoints}

/-- What a system is answered depends on its own requests alone. -/
def Separate (e : TokenEndpoints) : Prop :=
  ∀ sent r, e.answer sent r = e.answer (sent.filter fun q => q.systemId = r.systemId) r

/-- Two endpoints have received the same requests of a system, and answer alike. -/
structure Alike (systemId : String) (e e' : TokenEndpoints) : Prop where
  answer : e.answer = e'.answer
  sent : (e.sent.filter fun q => q.systemId = systemId) =
    e'.sent.filter fun q => q.systemId = systemId

theorem Alike.refl (systemId : String) (e : TokenEndpoints) : Alike systemId e e := ⟨rfl, rfl⟩

theorem Alike.symm (h : Alike systemId e e') : Alike systemId e' e := ⟨h.answer.symm, h.sent.symm⟩

theorem Alike.trans (h : Alike systemId e e') (h' : Alike systemId e' e'') : Alike systemId e e'' :=
  ⟨h.answer.trans h'.answer, h.sent.trans h'.sent⟩

theorem Separate.of_answer_eq (he : e.Separate) (h : e'.answer = e.answer) : e'.Separate := by
  intro sent r
  rw [h]
  exact he sent r

theorem Alike.post_eq {r : TokenRequest} (h : Alike r.systemId e e') (he : e.Separate) :
    (e.post r).1 = (e'.post r).1 := by
  have he' := he.of_answer_eq h.answer.symm
  simp only [post]
  rw [he, he', h.sent, h.answer]

theorem Alike.post {r : TokenRequest} (h : Alike r.systemId e e') :
    Alike r.systemId (e.post r).2 (e'.post r).2 := by
  refine ⟨h.answer, ?_⟩
  simp only [TokenEndpoints.post, List.filter_append, h.sent]

theorem alike_post {r : TokenRequest} (h : r.systemId ≠ systemId) :
    Alike systemId e (e.post r).2 := by
  refine ⟨rfl, ?_⟩
  simp [TokenEndpoints.post, List.filter_append, h]

end TokenEndpoints

namespace TokenAccess

/-- A system reaches two endpoints that are alike for it, at the same moment. -/
structure Alike (a a' : TokenAccess) : Prop where
  systemId : a.systemId = a'.systemId
  now : a.now = a'.now
  endpoints : a.endpoints.Alike a.systemId a'.endpoints
  separate : a.endpoints.Separate

/-- What a system does to the endpoints: no other system notices. -/
structure Beside (a b : TokenAccess) : Prop where
  systemId : b.systemId = a.systemId
  answer : b.endpoints.answer = a.endpoints.answer
  pending : b.endpoints.pending = a.endpoints.pending
  endpoints : ∀ id, id ≠ a.systemId → a.endpoints.Alike id b.endpoints

theorem Beside.refl (a : TokenAccess) : Beside a a := ⟨rfl, rfl, rfl, fun _ _ => .refl ..⟩

theorem Beside.trans {a b c : TokenAccess} (h : Beside a b) (h' : Beside b c) : Beside a c :=
  ⟨h'.systemId.trans h.systemId, h'.answer.trans h.answer, h'.pending.trans h.pending,
    fun id hid => (h.endpoints id hid).trans (h'.endpoints id (h.systemId ▸ hid))⟩

section

variable {ρ σ τ : Type}

/-- What a provider does concerns its system alone: it comes to the same where the endpoints are
alike for that system, and no other system notices. -/
structure Confined (f : TokenAccess → ρ × σ × TokenAccess) : Prop where
  alike : ∀ a a', Alike a a' →
    (f a).1 = (f a').1 ∧ (f a).2.1 = (f a').2.1 ∧ Alike (f a).2.2 (f a').2.2
  beside : ∀ a, Beside a (f a).2.2

variable {f g : TokenAccess → ρ × σ × TokenAccess}

theorem confined_now (r : Instant → ρ) (s : Instant → σ) :
    Confined fun a => (r a.now, s a.now, a) where
  alike a a' h := by simp [h.now, h]
  beside a := .refl a

theorem Confined.map (h : Confined f) (k : σ → τ) :
    Confined fun a => ((f a).1, k (f a).2.1, (f a).2.2) where
  alike a a' ha := by
    obtain ⟨hr, hs, he⟩ := h.alike a a' ha
    exact ⟨hr, congrArg k hs, he⟩
  beside a := h.beside a

theorem Confined.ite (hf : Confined f) (hg : Confined g) (p : Instant → Bool) :
    Confined fun a => if p a.now then f a else g a where
  alike a a' ha := by
    rw [ha.now]
    split
    · exact hf.alike a a' ha
    · exact hg.alike a a' ha
  beside a := by
    split
    · exact hf.beside a
    · exact hg.beside a

end

end TokenAccess

/-! ## Clients -/

namespace OAuthClient

open TokenAccess

variable (c : OAuthClient) (s : TokenState)

theorem request_alike {a a' : TokenAccess} (h : Alike a a') (action : String)
    (form : List (String × String)) :
    (c.request a action form).1 = (c.request a' action form).1 ∧
      Alike (c.request a action form).2 (c.request a' action form).2 := by
  obtain ⟨id, now, e⟩ := a
  obtain ⟨id', now', e'⟩ := a'
  obtain ⟨hid, hnow, he, hs⟩ := h
  dsimp only at hid hnow he hs
  subst hid hnow
  have hp := he.post_eq (r := ⟨id, c.tokenUrl, form⟩) hs
  exact ⟨by simp only [request, hp], rfl, rfl, he.post (r := ⟨id, c.tokenUrl, form⟩), hs⟩

theorem request_beside (a : TokenAccess) (action : String) (form : List (String × String)) :
    Beside a (c.request a action form).2 :=
  ⟨rfl, rfl, rfl, fun _ hid => TokenEndpoints.alike_post (Ne.symm hid)⟩

theorem confined_request {ρ σ : Type} (action : String) (form : List (String × String))
    {refused : Error → TokenAccess → ρ × σ × TokenAccess}
    {granted : TokenGrant → TokenAccess → ρ × σ × TokenAccess}
    (hr : ∀ e, Confined (refused e)) (hg : ∀ g, Confined (granted g)) :
    Confined fun a => match c.request a action form with
      | (.error e, a) => refused e a
      | (.ok g, a) => granted g a where
  alike a a' h := by
    obtain ⟨hq, ha⟩ := c.request_alike h action form
    rcases hp : c.request a action form with ⟨r, b⟩
    rcases hp' : c.request a' action form with ⟨r', b'⟩
    simp only [hp, hp'] at hq ha
    subst hq
    cases r with
    | error e => exact (hr e).alike b b' ha
    | ok g => exact (hg g).alike b b' ha
  beside a := by
    have hb := c.request_beside a action form
    rcases hp : c.request a action form with ⟨r, b⟩
    rw [hp] at hb
    cases r with
    | error e => exact hb.trans ((hr e).beside b)
    | ok g => exact hb.trans ((hg g).beside b)

theorem confined_authenticate : Confined (c.authenticate s) :=
  c.confined_request "token" c.clientForm
    (fun e => confined_now (fun _ => Except.error e) fun _ => s)
    fun g => confined_now (fun now => (s.accept g now).credentials) fun now => s.accept g now

theorem confined_refresh : Confined (c.refresh s) := by
  unfold refresh
  cases s.refreshToken with
  | none => exact c.confined_authenticate s
  | some t =>
    exact c.confined_request "refresh" (c.refreshForm t)
      (fun _ => c.confined_authenticate { s with refreshToken := none })
      fun g => confined_now (fun now => (s.accept g now).credentials) fun now => s.accept g now

theorem confined_credentials : Confined (c.credentials s) := by
  unfold credentials
  cases s.accessToken.isNone with
  | true => exact c.confined_authenticate s
  | false =>
    exact (c.confined_refresh s).ite (confined_now (fun _ => s.credentials) fun _ => s) s.expired

end OAuthClient

/-! ## Providers -/

namespace Provider

open TokenAccess

theorem confined_authenticate (p : Provider) : Confined p.authenticate := by
  cases p with
  | basic username password issued =>
    exact confined_now (fun now => Except.ok (pairCredentials username password now))
      fun now => Provider.basic username password (some (pairCredentials username password now))
  | apiKey headerName key =>
    exact confined_now (fun now => Except.ok (Credentials.apiKey headerName key now))
      fun _ => Provider.apiKey headerName key
  | oauth2 client state => exact (client.confined_authenticate state).map (Provider.oauth2 client)

theorem confined_refresh (p : Provider) : Confined p.refresh := by
  cases p with
  | basic username password issued =>
    cases issued with
    | none => exact confined_authenticate (.basic username password none)
    | some c =>
      exact confined_now (fun _ => Except.ok c)
        fun _ => Provider.basic username password (some c)
  | apiKey headerName key => exact confined_authenticate (.apiKey headerName key)
  | oauth2 client state => exact (client.confined_refresh state).map (Provider.oauth2 client)

theorem confined_credentials (p : Provider) : Confined p.credentials := by
  cases p with
  | basic username password issued => exact confined_refresh (.basic username password issued)
  | apiKey headerName key => exact confined_refresh (.apiKey headerName key)
  | oauth2 client state => exact (client.confined_credentials state).map (Provider.oauth2 client)

end Provider
end Interchange
