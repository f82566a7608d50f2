import Interchange.Proofs.Gateway.Tending
import Interchange.Proofs.Security.Params

/-! # Getting credentials

On its way to credentials a call finds or makes a provider, takes turns at it with others, and asks
a token endpoint. Nothing else of the gateway changes meanwhile, and what a provider was made from
stays as it is whatever the provider issues.
-/

namespace Interchange
namespace Gateway

open Call

variable {g g' h : Gateway} {i : Issuer} {P : Gateway × Gateway → Prop}

/-- A step that sees to the providers, to the turns at them and to the token endpoints. -/
structure Providing (m : Gateway × Gateway) : Prop where
  memory : m.2 =
    { m.1 with
      security := { m.1.security with providers := m.2.security.providers }
      retired := m.2.retired, endpoints := m.2.endpoints, line := m.2.line }

/-- Such a step that makes no provider. -/
structure Issuing (m : Gateway × Gateway) : Prop extends Providing m where
  made : ∀ id, (m.2.security.providers.get? id).map Provider.revoke =
    (m.1.security.providers.get? id).map Provider.revoke

theorem providing_refl (g : Gateway) : Providing (g, g) := ⟨rfl⟩

theorem issuing_refl (g : Gateway) : Issuing (g, g) := ⟨⟨rfl⟩, fun _ => rfl⟩

theorem Issuing.trans (h₁ : Issuing (g, g')) (h₂ : Issuing (g', h)) : Issuing (g, h) where
  memory := by
    have h₁ := h₁.memory
    have h₂ := h₂.memory
    dsimp only at h₁ h₂ ⊢
    rw [h₂, h₁]
  made id := (h₂.made id).trans (h₁.made id)

theorem issuing_line (g : Gateway) (line : Line Seat) : Issuing (g, { g with line }) :=
  ⟨⟨rfl⟩, fun _ => rfl⟩

theorem issuing_endpoints (g : Gateway) (endpoints : TokenEndpoints) :
    Issuing (g, { g with endpoints }) := ⟨⟨rfl⟩, fun _ => rfl⟩

/-- A provider may change what it remembers, but not what it was made from. -/
theorem issuing_remember {f : Provider → Provider} (hf : ∀ p, (f p).revoke = p.revoke)
    (i : Issuer) (g : Gateway) : Issuing (g, remember i f g) := by
  unfold remember
  dsimp only
  split
  · exact ⟨⟨rfl⟩, fun _ => rfl⟩
  · cases hp : g.security.providers.get? i.systemId with
    | none => exact issuing_refl g
    | some p =>
      refine ⟨⟨rfl⟩, fun id => ?_⟩
      by_cases hid : i.systemId = id
      · subst hid
        dsimp only
        rw [Dict.get?_insert_self, hp, Option.map_some, Option.map_some, hf]
      · simp [Dict.get?_insert_of_ne _ _ hid]

theorem issuing_setTokenState (i : Issuer) (s : TokenState) (g : Gateway) :
    Issuing (g, setTokenState i s g) :=
  issuing_remember (fun p => by cases p <;> rfl) i g

theorem providing_makeProvider (c : SystemConfig) (g : Gateway) :
    Providing (g, (makeProvider c g).2) := by
  unfold makeProvider
  split
  · exact ⟨rfl⟩
  · split <;> exact ⟨rfl⟩

/-! ## Calls -/

theorem issuing_requestToken (i : Issuer) (client : OAuthClient) (action : String)
    (form : List (String × String)) :
    (requestToken i client action form).run.Keeps Issuing := by
  refine keeps_bind (keeps_call_step fun g => issuing_endpoints g _) fun x => ?_
  exact keeps_bind (keeps_await issuing_refl) fun _ => keeps_given _

theorem issuing_acceptToken (i : Issuer) (s : TokenState) (t : TokenGrant) :
    (step (acceptToken i s t)).run.Keeps Issuing :=
  keeps_step fun g => issuing_setTokenState i _ g

theorem issuing_authenticate (i : Issuer) (client : OAuthClient) (s : TokenState) :
    (authenticate i client s).run.Keeps Issuing :=
  keeps_bind (issuing_requestToken ..) fun t => issuing_acceptToken i s t

theorem issuing_refresh (i : Issuer) (client : OAuthClient) (s : TokenState)
    (refreshToken : String) : (refresh i client s refreshToken).run.Keeps Issuing := by
  refine keeps_bind (keeps_attempt (issuing_requestToken ..) fun _ _ h => h) fun r => ?_
  cases r with
  | ok t => exact issuing_acceptToken i s t
  | error e =>
    exact keeps_bind (keeps_change fun g => issuing_setTokenState i _ g) fun _ =>
      issuing_authenticate ..

theorem issuing_renewed (i : Issuer) (client : OAuthClient) (s : TokenState) :
    (renewed i client s).run.Keeps Issuing := by
  refine keeps_bind (keeps_look issuing_refl _) fun (now, s) => ?_
  dsimp only
  split
  · exact issuing_authenticate ..
  · split
    · split
      · exact issuing_authenticate ..
      · exact issuing_refresh ..
    · exact keeps_given _

theorem issuing_issue (i : Issuer) (p : Provider) : (step (issue i p)).run.Keeps Issuing :=
  keeps_step fun g => issuing_remember (fun p => p.revoke_credentials _) i g

theorem issuing_inTurn {α : Type} {x : GatewayCall α} (s : Seat) (hx : x.run.Keeps Issuing) :
    (inTurn s x).run.Keeps Issuing :=
  keeps_inTurn hx (fun g => issuing_line g _) (fun _ _ h hg => hg.trans (issuing_line h _))
    issuing_refl

/-- Whoever has a provider issue credentials makes none. -/
theorem issuing_credentialsBy (i : Issuer) (p : Provider) :
    (credentialsBy i p).run.Keeps Issuing := by
  cases p with
  | basic username password issued => exact issuing_inTurn _ (issuing_issue ..)
  | apiKey headerName key => exact issuing_issue ..
  | oauth2 client s => exact issuing_inTurn _ (issuing_renewed ..)

theorem providing_providerOf (c : SystemConfig) : (providerOf c).run.Keeps Providing := by
  refine keeps_bind (keeps_look providing_refl _) fun x => ?_
  cases x with
  | some x => exact keeps_pure x
  | none =>
    exact keeps_bind (keeps_pass providing_refl _) fun _ => keeps_step (providing_makeProvider c)

theorem providing_credentialsOf (c : SystemConfig) : (credentialsOf c).run.Keeps Providing := by
  refine keeps_bind (providing_providerOf c) fun x => ?_
  exact (issuing_credentialsBy x.1 x.2).mono fun _ h => h.toProviding

end Gateway
end Interchange
