import Interchange.Auth.Credentials
import Interchange.Dict
import Interchange.Error
import Interchange.Json.Basic

/-! # The systems behind adapters

What an adapter does to its system, what the system answers, and the answers that are still out. A
system answers at once or later, as a function of what was done to it before, and the adapter says
at any time whether it is connected, as a function of all that it went through before.
-/

namespace Interchange

open Json

inductive AdapterCall where
  | build (systemType : String)
  | connect
  | disconnect
  | execute (operation : String) (params : Value) (credentials : Credentials)
deriving DecidableEq

namespace AdapterCall

/-- The JSON form: a name and what belongs to it, of the credentials the header. -/
def toJson : AdapterCall → Value
  | .build systemType => .array [.string "build", .string systemType]
  | .connect => .array [.string "connect"]
  | .disconnect => .array [.string "disconnect"]
  | .execute operation params c => .array [.string "execute", .string operation, params,
      .string (c.headerName ++ ": " ++ c.headerValue)]

def isConnect : AdapterCall → Bool
  | .connect => true
  | _ => false

def isExecute : AdapterCall → Bool
  | .execute _ _ _ => true
  | _ => false

end AdapterCall

/-- An answer, at once or later. -/
inductive Reply where
  | now (r : Result Value)
  | later

/-- What an adapter goes through. -/
inductive AdapterEvent where
  | done (q : AdapterCall)
  | answered (q : AdapterCall) (r : Result Value)
  /-- It is asked whether it is connected. -/
  | asked

/-- A system, and the adapter in front of it. -/
structure Peer where
  /-- The answer, given all that was done to the system so far, the question last. The answer to
  `connect` is whether the connection is open. -/
  reply : List AdapterCall → Reply
  /-- Whether the adapter says that it is connected, given what it said before the latest event and
  all that it went through so far, the latest event last. -/
  connected : Bool → List AdapterEvent → Bool := fun said seen =>
    match seen.getLast? with
    | some (.answered .connect (.ok (.bool true))) => true
    | some (.done .disconnect) => false
    | _ => said

/-- A caller whose answer comes later. -/
structure Waiter where
  ticket : Nat
  /-- The caller has not been given up. -/
  waiting : Bool := true
deriving DecidableEq, Repr

/-- The connection to one system. -/
structure Link where
  /-- What the adapter said last of its connection, or would say now. -/
  connected : Bool := false
  /-- All that was done, oldest first. -/
  calls : List AdapterCall := []
  /-- All that the adapter went through, oldest first. -/
  seen : List AdapterEvent := []
  /-- The callers that wait for an answer, the first one in front. -/
  waiters : List Waiter := []
  /-- The answers that were given and not yet taken, by ticket. -/
  answers : List (Nat × Result Value) := []

namespace Link

def note (l : Link) (c : AdapterCall) : Link := { l with calls := l.calls ++ [c] }

/-- Something happens to the adapter in front of the system. -/
def undergo (l : Link) (peer : Peer) (e : AdapterEvent) : Link :=
  let l := match e with
    | .done q => l.note q
    | _ => l
  let seen := l.seen ++ [e]
  { l with seen, connected := peer.connected l.connected seen }

def enqueue (l : Link) (ticket : Nat) : Link := { l with waiters := l.waiters ++ [{ ticket }] }

def answered (l : Link) (ticket : Nat) : Bool := l.answers.any fun a => a.1 = ticket

def take? (l : Link) (ticket : Nat) : Option (Result Value) × Link :=
  (l.answers.lookup ticket, { l with answers := l.answers.filter fun a => a.1 ≠ ticket })

/-- The caller with a ticket is given up; a place in the queue stays taken. -/
def abandon (l : Link) (ticket : Nat) : Link :=
  { l with
    waiters := l.waiters.map fun w => if w.ticket = ticket then { w with waiting := false } else w
    answers := l.answers.filter fun a => a.1 ≠ ticket }

/-- Gives an answer to the caller in front of the queue; says whether it still waits for it. -/
def release (l : Link) (answer : Result Value) : Bool × Link :=
  match l.waiters with
  | [] => (false, l)
  | w :: rest =>
    if w.waiting then
      (true, { l with waiters := rest, answers := l.answers ++ [(w.ticket, answer)] })
    else (false, { l with waiters := rest })

end Link
end Interchange
