import Interchange.Call.Flights

/-! # Polling and giving up by name

What becomes of the calls in flight when one of them is started, polled or given up.
-/

namespace Interchange

namespace Flights

variable {σ α : Type} {f : Flights σ α} {name : String} {c : Call σ α} {a : α}

theorem cancel_of_none (h : Dict.get? f.calls name = none) : f.cancel name = (false, f) := by
  rw [cancel, h]

theorem cancel_of_some (h : Dict.get? f.calls name = some c) :
    f.cancel name = (true, ⟨c.giveUp f.state, Dict.erase f.calls name⟩) := by
  rw [cancel, h]

theorem poll_of_none (h : Dict.get? f.calls name = none) : f.poll name = (none, f) := by
  rw [poll, h]

theorem poll_of_done (h : Dict.get? f.calls name = some c) (ha : (c.poll f.state).1 = .done a) :
    f.poll name = (some a, ⟨(c.poll f.state).2, Dict.erase f.calls name⟩) := by
  rw [poll, h]
  dsimp only
  generalize c.poll f.state = x at *
  obtain ⟨d, s⟩ := x
  obtain rfl : d = .done a := ha
  rfl

theorem poll_of_waiting (h : Dict.get? f.calls name = some c)
    (hn : (c.poll f.state).1.result? = none) :
    f.poll name = (none, ⟨(c.poll f.state).2, Dict.insert f.calls name (c.poll f.state).1⟩) := by
  rw [poll, h]
  dsimp only
  generalize c.poll f.state = x at *
  obtain ⟨d, s⟩ := x
  cases d with
  | done a => cases hn
  | act f next => rfl
  | wait ready abandon next => rfl

theorem start_of_done (ha : (c.poll f.state).1 = .done a) :
    f.start name c = (some a, ⟨(c.poll f.state).2, f.calls⟩) := by
  rw [start]
  generalize c.poll f.state = x at *
  obtain ⟨d, s⟩ := x
  obtain rfl : d = .done a := ha
  rfl

theorem start_of_waiting (hn : (c.poll f.state).1.result? = none) :
    f.start name c = (none,
      let f' := (cancel ⟨(c.poll f.state).2, f.calls⟩ name).2
      ⟨f'.state, Dict.insert f'.calls name (c.poll f.state).1⟩) := by
  rw [start]
  generalize c.poll f.state = x at *
  obtain ⟨d, s⟩ := x
  cases d with
  | done a => cases hn
  | act f next => rfl
  | wait ready abandon next => rfl

end Flights

end Interchange
