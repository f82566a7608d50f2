import Interchange.Proofs.Call.Fate
import Interchange.Proofs.Call.Flights
import Mathlib.Data.Set.Basic

/-! # What calls know

A call learns from the states that its steps meet, and it goes by what it has learned when others
have long changed these states. So what its steps do is described relative to what it knows by then.
-/

namespace Interchange
namespace Call

variable {σ κ α β : Type} {learn : σ → Set κ} {R : Set κ → σ → σ → Prop} {K K' : Set κ}
  {Q Q' : Set κ → α → Prop} {P : Set κ → β → Prop} {c : Call σ α} {k : α → Call σ β}
  {f : σ → σ} {s : σ}

/-- A call that knows `K` when it goes on. Each of its steps, and what is run when it is given up,
is in `R` of what it knows by then, and it ends with `Q`. -/
def Knowing (learn : σ → Set κ) (R : Set κ → σ → σ → Prop) (Q : Set κ → α → Prop) :
    Call σ α → Set κ → Prop
  | done a, K => Q K a
  | act f next, K => ∀ s, R (K ∪ learn s) s (f s) ∧ Knowing learn R Q (next s) (K ∪ learn s)
  | wait _ abandon next, K => (∀ s, R K s (abandon s)) ∧ Knowing learn R Q next K

/-- What calls do from one wait to the next can be put together from what their steps do. -/
structure Coherent (learn : σ → Set κ) (R : Set κ → σ → σ → Prop) : Prop where
  refl : ∀ K s, R K s s
  trans : ∀ K s t u, R K s t → R K t u → R K s u
  mono : ∀ K K' s t, K ⊆ K' → R K s t → R K' s t
  learn : ∀ K s t, R K s t → learn t = learn s

namespace Knowing

theorem andThen (h : c.Knowing learn R Q K)
    (hk : ∀ a K', K ⊆ K' → Q K' a → (k a).Knowing learn R P K') :
    (c.andThen k).Knowing learn R P K := by
  induction c generalizing K with
  | done a => exact hk a K subset_rfl h
  | act f next ih =>
    intro s
    refine ⟨(h s).1, ih s (h s).2 fun a K' hK => hk a K' ?_⟩
    exact Set.subset_union_left.trans hK
  | wait ready abandon next ih => exact ⟨h.1, ih h.2 hk⟩

theorem mono (hR : Coherent learn R) (h : c.Knowing learn R Q K) (hK : K ⊆ K')
    (hq : ∀ K K' a, K ⊆ K' → Q K a → Q' K' a) : c.Knowing learn R Q' K' := by
  induction c generalizing K K' with
  | done a => exact hq K K' a hK h
  | act f next ih =>
    intro s
    have hs := Set.union_subset_union_left (learn s) hK
    exact ⟨hR.mono _ _ _ _ hs (h s).1, ih s (h s).2 hs⟩
  | wait ready abandon next ih => exact ⟨fun s => hR.mono _ _ _ _ hK (h.1 s), ih h.2 hK⟩

theorem onAbandon (h : c.Knowing learn R Q K) (hf : ∀ K s t, R K s t → R K s (f t)) :
    (c.onAbandon f).Knowing learn R Q K := by
  induction c generalizing K with
  | done a => exact h
  | act g next ih => exact fun s => ⟨(h s).1, ih s (h s).2⟩
  | wait ready abandon next ih => exact ⟨fun s => hf _ _ _ (h.1 s), ih h.2⟩

/-- From one wait to the next a call has the state to itself, so that it learns nothing new after
the first step. -/
theorem poll (hR : Coherent learn R) (h : c.Knowing learn R (fun _ _ => True) K) (s : σ) :
    R (K ∪ learn s) s (c.poll s).2 ∧
      (c.poll s).1.Knowing learn R (fun _ _ => True) (K ∪ learn s) := by
  induction c generalizing K s with
  | done a => exact ⟨hR.refl _ s, trivial⟩
  | act f next ih =>
    obtain ⟨hf, hn⟩ := h s
    have hrest := ih s hn (f s)
    rw [hR.learn _ _ _ hf, Set.union_assoc, Set.union_self] at hrest
    exact ⟨hR.trans _ _ _ _ hf hrest.1, hrest.2⟩
  | wait ready abandon next ih =>
    rw [Call.poll]
    split
    · exact ih h.2 s
    · exact ⟨hR.refl _ s, h.mono hR Set.subset_union_left fun _ _ _ _ _ => trivial⟩

theorem giveUp (hR : Coherent learn R) (h : c.Knowing learn R (fun _ _ => True) K) (s : σ) :
    R K s (c.giveUp s) := by
  cases c with
  | wait ready abandon next => exact h.1 s
  | done a => exact hR.refl K s
  | act f next => exact hR.refl K s

end Knowing

theorem Keeps.knowing (h : c.Keeps fun m => ∀ K, R K m.1 m.2) (K : Set κ) :
    c.Knowing learn R (fun _ _ => True) K := by
  induction h generalizing K with
  | done a => trivial
  | act hf _ ih => exact fun s => ⟨hf s _, ih s _⟩
  | wait ha _ ih => exact ⟨fun s => ha s K, ih K⟩

end Call

/-! ## Calls in flight -/

namespace Flights

open Call

variable {σ κ α : Type} {learn : σ → Set κ} {R : Set κ → σ → σ → Prop} {K K' : Set κ}
  {f : Flights σ α} {c : Call σ α}

/-- What all calls in flight do is in `R` of what they know, which is `K` or less. -/
def Knowing (learn : σ → Set κ) (R : Set κ → σ → σ → Prop) (K : Set κ) (f : Flights σ α) : Prop :=
  ∀ name c, Dict.get? f.calls name = some c → c.Knowing learn R (fun _ _ => True) K

theorem Knowing.mono (h : f.Knowing learn R K) (hR : Coherent learn R) (hK : K ⊆ K') :
    f.Knowing learn R K' :=
  fun name c hc => (h name c hc).mono hR hK fun _ _ _ _ _ => trivial

theorem Knowing.erase {s : σ} (h : f.Knowing learn R K) (name : String) :
    Knowing learn R K ⟨s, Dict.erase f.calls name⟩ := by
  intro n c hc
  rw [Dict.get?_erase] at hc
  split at hc
  · cases hc
  · exact h n c hc

theorem Knowing.insert {s : σ} (h : f.Knowing learn R K)
    (hc : c.Knowing learn R (fun _ _ => True) K) (name : String) :
    Knowing learn R K ⟨s, Dict.insert f.calls name c⟩ := by
  intro n d hd
  rw [Dict.get?_insert] at hd
  split at hd
  · cases hd
    exact hc
  · exact h n d hd

theorem Knowing.cancel (h : f.Knowing learn R K) (hR : Coherent learn R) (name : String) :
    R K f.state (f.cancel name).2.state ∧ (f.cancel name).2.Knowing learn R K := by
  cases hc : Dict.get? f.calls name with
  | none =>
    rw [cancel_of_none hc]
    exact ⟨hR.refl _ _, h⟩
  | some c =>
    rw [cancel_of_some hc]
    exact ⟨(h name c hc).giveUp hR f.state, h.erase name⟩

theorem Knowing.poll (h : f.Knowing learn R K) (hR : Coherent learn R) (name : String) :
    R (K ∪ learn f.state) f.state (f.poll name).2.state ∧
      (f.poll name).2.Knowing learn R (K ∪ learn f.state) := by
  have hall := h.mono hR (Set.subset_union_left : K ⊆ K ∪ learn f.state)
  cases hc : Dict.get? f.calls name with
  | none =>
    rw [poll_of_none hc]
    exact ⟨hR.refl _ _, hall⟩
  | some c =>
    obtain ⟨hp, hs⟩ := (h name c hc).poll hR f.state
    rcases c.poll_cases f.state with ⟨a, ha⟩ | ⟨ready, abandon, next, hw⟩
    · rw [poll_of_done hc ha]
      exact ⟨hp, hall.erase name⟩
    · rw [poll_of_waiting hc (by rw [hw]; rfl)]
      exact ⟨hp, hall.insert hs name⟩

theorem Knowing.start (h : f.Knowing learn R K) (hR : Coherent learn R)
    (hc : c.Knowing learn R (fun _ _ => True) K) (name : String) :
    R (K ∪ learn f.state) f.state (f.start name c).2.state ∧
      (f.start name c).2.Knowing learn R (K ∪ learn f.state) := by
  have hall := h.mono hR (Set.subset_union_left : K ⊆ K ∪ learn f.state)
  obtain ⟨hp, hs⟩ := hc.poll hR f.state
  rcases c.poll_cases f.state with ⟨a, ha⟩ | ⟨ready, abandon, next, hw⟩
  · rw [start_of_done ha]
    exact ⟨hp, hall⟩
  · rw [start_of_waiting (by rw [hw]; rfl)]
    have hall' : Knowing learn R (K ∪ learn f.state) ⟨(c.poll f.state).2, f.calls⟩ := hall
    obtain ⟨hx, hx'⟩ := hall'.cancel hR name
    exact ⟨hR.trans _ _ _ _ hp hx, hx'.insert hs name⟩

end Flights
end Interchange
