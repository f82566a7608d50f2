/-! # Calls that may have to wait

A `Call` is a computation over a shared state that other calls change too. It runs without a break
up to a point where it has to wait, and goes on from there when it is polled and the state lets it.
A call that waits can be given up instead; it then undoes what it holds.
-/

namespace Interchange

/-- A computation of an `α` over states `σ`. -/
inductive Call (σ α : Type) : Type where
  | done (a : α)
  /-- Changes the state by `f` and goes on with what the state was. -/
  | act (f : σ → σ) (next : σ → Call σ α)
  /-- Waits until `ready` holds; `abandon` is run when the call is given up here. -/
  | wait (ready : σ → Bool) (abandon : σ → σ) (next : Call σ α)

namespace Call

variable {σ α β : Type}

/-- A call, and behind it another one that depends on its result. -/
def andThen : Call σ α → (α → Call σ β) → Call σ β
  | done a, k => k a
  | act f next, k => act f fun s => andThen (next s) k
  | wait ready abandon next, k => wait ready abandon (andThen next k)

instance : Monad (Call σ) where
  pure := done
  bind := andThen

def look (f : σ → α) : Call σ α := act id fun s => done (f s)

def change (f : σ → σ) : Call σ Unit := act f fun _ => done ()

def step (f : σ → α × σ) : Call σ α := act (fun s => (f s).2) fun s => done (f s).1

/-- Waits until the state lets the call go on. -/
def await (ready : σ → Bool) (abandon : σ → σ) : Call σ Unit := wait ready abandon (done ())

/-- The same call, with `f` run last when it is given up. -/
def onAbandon (f : σ → σ) : Call σ α → Call σ α
  | done a => done a
  | act g next => act g fun s => onAbandon f (next s)
  | wait ready abandon next => wait ready (fun s => f (abandon s)) (onAbandon f next)

def poll : Call σ α → σ → Call σ α × σ
  | done a, s => (done a, s)
  | act f next, s => poll (next s) (f s)
  | wait ready abandon next, s => if ready s then poll next s else (wait ready abandon next, s)

def result? : Call σ α → Option α
  | done a => some a
  | _ => none

def giveUp : Call σ α → σ → σ
  | wait _ abandon _, s => abandon s
  | _, s => s

end Call
end Interchange
