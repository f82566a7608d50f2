import Mathlib.Data.List.Induction
import Interchange.Proofs.Auth.Tokens

/-! # Exchanges with a token endpoint

A refresh token is held from the reply that issues it until it is forgotten, refused or replaced.
What is held after a list of exchanges is worked out one by one, and it is the refresh token issued
last if nothing has ended it since.
-/

namespace Interchange

/-! ## Exchanges -/

/-- A request to a token endpoint with the reply to it. -/
structure TokenExchange where
  request : TokenRequest
  reply : TokenReply
deriving DecidableEq, Repr

/-- The refresh token that a request asks with, if it asks for that kind of grant. -/
def TokenRequest.refreshToken? (r : TokenRequest) : Option String :=
  if r.form.lookup "grant_type" = some "refresh_token" then r.form.lookup "refresh_token" else none

namespace TokenExchange

def issued? (x : TokenExchange) : Option String := x.reply.granted?.bind (·.refreshToken)

/-- A refresh token is sent, and no token comes back for it. -/
def Refuses (x : TokenExchange) (t : String) : Prop :=
  x.request.refreshToken? = some t ∧ x.reply.granted? = none

/-- What a reply means to the one who asked: the credentials of the token in it, or an error. -/
def outcome (x : TokenExchange) (now : Instant) : Result Credentials :=
  (x.reply.grant (if x.request.refreshToken?.isSome then "refresh" else "token")).map
    (·.credentials now)

end TokenExchange

/-- What matters for the refresh token of a provider. -/
inductive TokenEvent where
  | revoked
  | exchanged (x : TokenExchange)

namespace TokenEvent

/-- Whether the refresh token of before is no longer held: it is forgotten or refused, or another
one takes its place. -/
def Ends : TokenEvent → Prop
  | revoked => True
  | exchanged x => x.issued?.isSome ∨ x.request.refreshToken?.isSome ∧ x.reply.granted? = none

/-- A refresh token was issued, and nothing that came after it ended it. -/
def Holds (es : List TokenEvent) (t : String) : Prop :=
  ∃ earlier x later, es = earlier ++ exchanged x :: later ∧ x.issued? = some t ∧
    ∀ e ∈ later, ¬ e.Ends

def next (held : Option String) : TokenEvent → Option String
  | revoked => none
  | exchanged x => match x.reply.granted? with
    | some g => g.refreshToken.or held
    | none => if x.request.refreshToken?.isSome then none else held

def held (es : List TokenEvent) : Option String := es.foldl next none

variable {es later : List TokenEvent} {e : TokenEvent} {x : TokenExchange} {t : String}
  {before : Option String}

theorem Holds.concat (h : Holds es t) (he : ¬ e.Ends) : Holds (es ++ [e]) t := by
  obtain ⟨earlier, x, later, rfl, hx, hl⟩ := h
  refine ⟨earlier, x, later ++ [e], by simp, hx, fun d hd => ?_⟩
  rcases List.mem_append.mp hd with hd | hd
  · exact hl d hd
  · exact List.mem_singleton.mp hd ▸ he

def sends? : TokenEvent → Option String
  | revoked => none
  | exchanged x => x.request.refreshToken?

/-- A refresh token that is sent is the one held at that time. -/
def Sendable : Option String → List TokenEvent → Prop
  | _, [] => True
  | h, e :: es => (∀ t, e.sends? = some t → h = some t) ∧ Sendable (next h e) es

theorem sendable_append {es' : List TokenEvent} {h : Option String} :
    Sendable h (es ++ es') ↔ Sendable h es ∧ Sendable (es.foldl next h) es' := by
  induction es generalizing h with
  | nil => simp [Sendable]
  | cons e es ih => simp [Sendable, ih, and_assoc]

end TokenEvent

end Interchange
