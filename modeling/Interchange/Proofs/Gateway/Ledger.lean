import Interchange.Proofs.Call.Flights
import Interchange.Proofs.Dict.Sorted
import Interchange.Proofs.Gateway.Reports

/-! # The ledger of a gateway

Any number of requests are in flight at a time; they are started, polled and given up in any order.
A ledger has an entry for every request, with all that it did. Main statement: every entry accounts
for what its request reported, and monitoring has been told of no other operation.
-/

namespace Interchange

namespace Gateway

open Call

/-- What some steps told monitoring of operations. -/
def reported (l : List (Gateway × Gateway)) : List Notice :=
  l.flatMap fun m => m.2.notices.drop m.1.notices.length

/-- A request that was started, with all that it did so far. -/
structure Entry where
  systemId : String
  request : GatewayRequest
  steps : List (Gateway × Gateway)

def Entry.call (e : Entry) : Call Gateway (Result GatewayAnswer) :=
  (e.request.call e.systemId).run

def Entry.did (e : Entry) (l : List (Gateway × Gateway)) : Entry := { e with steps := e.steps ++ l }

/-- A gateway and its requests in flight. -/
abbrev Traffic := Flights Gateway (Result GatewayAnswer)

/-- What happens to a gateway: requests are started, polled and given up by name, and whatever else
reports no operation. -/
inductive Happening where
  | start (name systemId : String) (r : GatewayRequest)
  | poll (name : String)
  | cancel (name : String)
  | other (change : Gateway → Gateway) (quiet : ∀ g, (change g).notices = g.notices)

/-- What comes of a happening: the answer to a request that ends, and the gateway after it. -/
def Happening.perform (f : Traffic) : Happening → Option (Result GatewayAnswer) × Traffic
  | .start name systemId r => f.start name (r.call systemId).run
  | .poll name => f.poll name
  | .cancel name => (none, (f.cancel name).2)
  | .other change _ => (none, f.change change)

/-- A gateway with an entry for each request in flight, by name, and for each one that is no longer,
with its fate. -/
structure Ledger where
  traffic : Traffic
  inFlight : Dict Entry := []
  past : List (Entry × Option (Result GatewayAnswer)) := []

namespace Ledger

def givenUp (k : Ledger) (name : String) (s : Gateway) :
    List (Entry × Option (Result GatewayAnswer)) :=
  match k.inFlight.get? name, k.traffic.calls.get? name with
  | some e, some c => [(e.did [(s, c.giveUp s)], none)]
  | _, _ => []

def step (k : Ledger) (h : Happening) : Ledger :=
  let (answer, traffic) := h.perform k.traffic
  match h with
  | .start name systemId r =>
    let c := (r.call systemId).run
    let e : Entry := ⟨systemId, r, c.polled k.traffic.state⟩
    match answer with
    | some a => { k with traffic, past := k.past ++ [(e, some a)] }
    | none => { traffic, inFlight := k.inFlight.insert name e,
                past := k.past ++ k.givenUp name (c.poll k.traffic.state).2 }
  | .poll name => match k.inFlight.get? name, k.traffic.calls.get? name with
    | some e, some c =>
      let e := e.did (c.polled k.traffic.state)
      match answer with
      | some a => { traffic, inFlight := k.inFlight.erase name, past := k.past ++ [(e, some a)] }
      | none => { k with traffic, inFlight := k.inFlight.insert name e }
    | _, _ => { k with traffic }
  | .cancel name =>
    { traffic, inFlight := k.inFlight.erase name,
      past := k.past ++ k.givenUp name k.traffic.state }
  | .other _ _ => { k with traffic }

def run (k : Ledger) (hs : List Happening) : Ledger := hs.foldl step k

def entries (k : Ledger) : List Entry := k.inFlight.values ++ k.past.map Prod.fst

def told (k : Ledger) : List Notice := k.entries.flatMap fun e => reported e.steps

theorem givenUp_of_none {k : Ledger} {name : String} {s : Gateway}
    (h : k.inFlight.get? name = none) : k.givenUp name s = [] := by
  rw [givenUp, h]

theorem givenUp_of_some {k : Ledger} {name : String} {s : Gateway} {e : Entry}
    {c : Call Gateway (Result GatewayAnswer)} (he : k.inFlight.get? name = some e)
    (hc : k.traffic.calls.get? name = some c) :
    k.givenUp name s = [(e.did [(s, c.giveUp s)], none)] := by
  rw [givenUp, he, hc]

/-! ## Steps and the log -/

variable {l l' : List (Gateway × Gateway)} {ns : List Notice} {s t : Gateway} {e : Entry}
  {c : Call Gateway (Result GatewayAnswer)} {k : Ledger} {g : Gateway} {name : String}

theorem reported_of_addAll (h : AddAll notices l ns) : reported l = ns := by
  induction h with
  | nil => rfl
  | cons hm _ ih =>
    rw [reported, List.flatMap_cons, ← reported, ih, hm, List.drop_left]

theorem addAll_of_append {m : List Notice} (h : AddAll notices (l ++ l') m) :
    ∃ ns, AddAll notices l' ns := by
  induction l generalizing m with
  | nil => exact ⟨m, h⟩
  | cons x l ih =>
    cases h with
    | cons _ h => exact ih h

theorem notices_of_linked (h : Linked s l t) (hl : AddAll notices l ns) :
    t.notices = s.notices ++ reported l := by
  rw [reported_of_addAll hl]
  induction h generalizing ns with
  | nil s =>
    cases hl
    simp
  | cons _ ih =>
    cases hl with
    | cons hm hl => rw [ih hl, hm, List.append_assoc]

/-! ## Sound ledgers -/

/-- An entry whose call has come to what is in flight of it. -/
structure Reaches (c : Call Gateway (Result GatewayAnswer)) (e : Entry) : Prop where
  leads : e.call.Leads e.steps c
  waits : c.Goes [] .inFlight
  givesUp : ∀ s, c.Goes [(s, c.giveUp s)] .givenUp

/-- A ledger that has an entry for every request, and in it all that the request did. Some of what
monitoring was told may still have to be entered. -/
structure Sound (g : Gateway) (rest : List Notice) (k : Ledger) : Prop where
  sortedCalls : Dict.Sorted k.traffic.calls
  sorted : Dict.Sorted k.inFlight
  inFlight : ∀ name, Option.Rel Reaches (k.traffic.calls.get? name) (k.inFlight.get? name)
  past : ∀ p ∈ k.past, p.1.call.Goes p.1.steps (.settled p.2)
  log : k.traffic.state.notices.Perm (g.notices ++ k.told ++ rest)

variable {rest : List Notice} {calls : Dict (Call Gateway (Result GatewayAnswer))}
  {inFlight : Dict Entry} {past : List (Entry × Option (Result GatewayAnswer))}
  {fate : Fate (Result GatewayAnswer)} {answer : Option (Result GatewayAnswer)}

theorem reaches_or_ended (hl : e.call.Leads e.steps c) (s : Gateway) :
    (∃ a, (c.poll s).1 = .done a ∧ e.call.Goes (e.did (c.polled s)).steps (.ended a)) ∨
      (c.poll s).1.result? = none ∧ Reaches (c.poll s).1 (e.did (c.polled s)) := by
  have hp := hl.trans (leads_poll c s)
  rcases poll_cases c s with ⟨a, h⟩ | ⟨ready, abandon, next, h⟩
  · rw [h] at hp
    have hg := hp [] _ (.done a)
    rw [List.append_nil] at hg
    exact .inl ⟨a, h, hg⟩
  · rw [h] at hp ⊢
    exact .inr ⟨rfl, hp, .waits, .givenUp⟩

theorem Reaches.goes (h : Reaches c e) : e.call.Goes e.steps .inFlight := by
  have hg := h.leads _ _ h.waits
  rwa [List.append_nil] at hg

theorem reported_append (l l' : List (Gateway × Gateway)) :
    reported (l ++ l') = reported l ++ reported l' := List.flatMap_append

theorem told_erase (hs : Dict.Sorted inFlight) (he : inFlight.get? name = some e) (f f' : Traffic)
    (past : List (Entry × Option (Result GatewayAnswer))) :
    (told ⟨f, inFlight, past⟩).Perm
      (reported e.steps ++ told ⟨f', inFlight.erase name, past⟩) :=
  ((((hs.perm_of_get? he).map Prod.snd).append_right (past.map Prod.fst)).flatMap_right _)

theorem told_insert (hs : Dict.Sorted inFlight) (name : String) (e : Entry) (f f' : Traffic)
    (past : List (Entry × Option (Result GatewayAnswer))) :
    (told ⟨f, inFlight.insert name e, past⟩).Perm
      (reported e.steps ++ told ⟨f', inFlight.erase name, past⟩) :=
  ((((hs.perm_insert name e).map Prod.snd).append_right (past.map Prod.fst)).flatMap_right _)

theorem told_close (f f' : Traffic) :
    told ⟨f, inFlight, past ++ [(e, answer)]⟩ = told ⟨f', inFlight, past⟩ ++ reported e.steps := by
  simp [told, entries]

namespace Sound

/-- A request is taken out of flight, and what it reported is to be entered again. -/
theorem remove (h : Sound g rest ⟨⟨s, calls⟩, inFlight, past⟩)
    (he : inFlight.get? name = some e) :
    Sound g (reported e.steps ++ rest) ⟨⟨s, calls.erase name⟩, inFlight.erase name, past⟩ where
  sortedCalls := h.sortedCalls.erase name
  sorted := h.sorted.erase name
  inFlight := by
    intro n
    have hn := h.inFlight n
    simp only [Dict.get?_erase] at hn ⊢
    split
    · exact .none
    · exact hn
  past := h.past
  log := by
    refine h.log.trans (List.perm_iff_count.mpr fun n => ?_)
    -- what the entry reported moves from the books to the rest, so every notice counts as before
    have hp := (told_erase h.sorted he ⟨s, calls⟩ ⟨s, calls.erase name⟩ past).count_eq n
    simp only [List.count_append] at hp ⊢
    omega

/-- The steps of a call are made. -/
theorem advance (h : Sound g rest ⟨⟨s, calls⟩, inFlight, past⟩) (hl : Linked s l t)
    (ha : ∃ ns, AddAll notices l ns) :
    Sound g (rest ++ reported l) ⟨⟨t, calls⟩, inFlight, past⟩ where
  sortedCalls := h.sortedCalls
  sorted := h.sorted
  inFlight := h.inFlight
  past := h.past
  log := by
    obtain ⟨ns, ha⟩ := ha
    rw [notices_of_linked hl ha, ← List.append_assoc]
    exact h.log.append_right _

theorem take (h : Sound g (reported e.steps ++ rest) ⟨⟨s, calls⟩, inFlight, past⟩)
    (hn : inFlight.get? name = none) (hc : Reaches c e) :
    Sound g rest ⟨⟨s, calls.insert name c⟩, inFlight.insert name e, past⟩ where
  sortedCalls := h.sortedCalls.insert name c
  sorted := h.sorted.insert name e
  inFlight := by
    intro n
    have hn := h.inFlight n
    simp only [Dict.get?_insert] at hn ⊢
    split
    · exact .some hc
    · exact hn
  past := h.past
  log := by
    refine h.log.trans (List.perm_iff_count.mpr fun n => ?_)
    have hp := (told_insert h.sorted name e ⟨s, calls.insert name c⟩ ⟨s, calls⟩ past).count_eq n
    rw [Dict.erase_of_get?_none hn] at hp
    simp only [List.count_append] at hp ⊢
    omega

theorem close (h : Sound g (reported e.steps ++ rest) ⟨⟨s, calls⟩, inFlight, past⟩)
    (hg : e.call.Goes e.steps (.settled answer)) :
    Sound g rest ⟨⟨s, calls⟩, inFlight, past ++ [(e, answer)]⟩ where
  sortedCalls := h.sortedCalls
  sorted := h.sorted
  inFlight := h.inFlight
  past := by
    intro p hp
    rcases List.mem_append.mp hp with hp | hp
    · exact h.past p hp
    · rw [List.mem_singleton.mp hp]
      exact hg
  log := by
    refine h.log.trans (List.perm_iff_count.mpr fun n => ?_)
    rw [told_close _ ⟨s, calls⟩]
    simp only [List.count_append]
    omega

theorem perm {rest' : List Notice} (h : Sound g rest k) (hp : rest.Perm rest') :
    Sound g rest' k := ⟨h.sortedCalls, h.sorted, h.inFlight, h.past, h.log.trans (hp.append_left _)⟩

theorem cases (h : Sound g rest k) (name : String) :
    (k.traffic.calls.get? name = none ∧ k.inFlight.get? name = none) ∨
      ∃ c e, k.traffic.calls.get? name = some c ∧ k.inFlight.get? name = some e ∧ Reaches c e := by
  have hn := h.inFlight name
  cases hc : k.traffic.calls.get? name with
  | none =>
    rw [hc] at hn
    cases he : k.inFlight.get? name with
    | none => exact .inl ⟨rfl, rfl⟩
    | some e =>
      rw [he] at hn
      cases hn
  | some c =>
    rw [hc] at hn
    cases he : k.inFlight.get? name with
    | none =>
      rw [he] at hn
      cases hn
    | some e =>
      rw [he] at hn
      cases hn with
      | some hr => exact .inr ⟨c, e, rfl, rfl, hr⟩

/-- A request in flight goes on by some steps, and is to be entered again. -/
theorem goOn (h : Sound g rest ⟨⟨s, calls⟩, inFlight, past⟩) (he : inFlight.get? name = some e)
    (hl : Linked s l t) (hg : e.call.Goes (e.did l).steps fate) :
    Sound g (reported (e.did l).steps ++ rest)
      ⟨⟨t, calls.erase name⟩, inFlight.erase name, past⟩ := by
  obtain ⟨ns, ha⟩ := (accounts_of_goes hg).addAll
  refine ((h.remove he).advance hl (addAll_of_append ha)).perm ?_
  rw [Entry.did, reported_append, List.append_assoc, List.append_assoc]
  exact List.perm_append_comm.append_left _

theorem cancel (h : Sound g rest k) (name : String) :
    Sound g rest ⟨(k.traffic.cancel name).2, k.inFlight.erase name,
      k.past ++ k.givenUp name k.traffic.state⟩ := by
  obtain ⟨⟨s, calls⟩, inFlight, past⟩ := k
  rcases h.cases name with ⟨hc, he⟩ | ⟨c, e, hc, he, hr⟩
  · rw [Flights.cancel_of_none hc, givenUp_of_none he, List.append_nil,
      Dict.erase_of_get?_none he]
    exact h
  · -- giving up is one more step of the call, from whatever state the others have left
    have hg := hr.leads _ _ (hr.givesUp s)
    rw [Flights.cancel_of_some hc, givenUp_of_some he hc]
    exact (h.goOn he (.cons (.nil _)) hg).close hg

theorem poll (h : Sound g [] k) (name : String) : Sound g [] (k.step (.poll name)) := by
  obtain ⟨⟨s, calls⟩, inFlight, past⟩ := k
  rcases h.cases name with ⟨hc, he⟩ | ⟨c, e, hc, he, hr⟩
  · simp only [step, Happening.perform, Flights.poll_of_none hc, he]
    exact h
  · simp only [step, Happening.perform, he, hc]
    rcases reaches_or_ended hr.leads s with ⟨a, ha, hg⟩ | ⟨hn, hr'⟩
    · rw [Flights.poll_of_done hc ha]
      exact (h.goOn he (linked_poll c s) hg).close hg
    · rw [Flights.poll_of_waiting hc hn]
      have ht := (h.goOn he (linked_poll c s) hr'.goes).take (Dict.get?_erase_self _ name) hr'
      rwa [h.sortedCalls.insert_erase, h.sorted.insert_erase] at ht

theorem start (h : Sound g [] k) (name systemId : String) (r : GatewayRequest) :
    Sound g [] (k.step (.start name systemId r)) := by
  obtain ⟨⟨s, calls⟩, inFlight, past⟩ := k
  -- the new request takes its first steps before the one that has its name is given up
  let e : Entry := ⟨systemId, r, []⟩
  have hs (hg : ∃ fate, e.call.Goes (e.did (e.call.polled s)).steps fate) :
      Sound g (reported (e.did (e.call.polled s)).steps ++ [])
        ⟨⟨(e.call.poll s).2, calls⟩, inFlight, past⟩ := by
    obtain ⟨fate, hg⟩ := hg
    rw [List.append_nil]
    exact h.advance (linked_poll e.call s) (accounts_of_goes hg).addAll
  simp only [step, Happening.perform]
  rcases reaches_or_ended (leads_refl e.call) s with ⟨a, ha, hg⟩ | ⟨hn, hr⟩
  · rw [Flights.start_of_done ha]
    exact (hs ⟨_, hg⟩).close hg
  · rw [Flights.start_of_waiting hn]
    have ht := ((hs ⟨_, hr.goes⟩).cancel name).take (Dict.get?_erase_self _ name) hr
    rwa [h.sorted.insert_erase] at ht

theorem happen (h : Sound g [] k) (a : Happening) : Sound g [] (k.step a) := by
  cases a with
  | start name systemId r => exact h.start name systemId r
  | poll name => exact h.poll name
  | cancel name => exact h.cancel name
  | other change quiet =>
    have hl := h.log
    rw [← quiet] at hl
    exact ⟨h.sortedCalls, h.sorted, h.inFlight, h.past, hl⟩

theorem run (h : Sound g [] k) (hs : List Happening) : Sound g [] (k.run hs) := by
  induction hs generalizing k with
  | nil => exact h
  | cons a hs ih => exact ih (h.happen a)

end Sound

/-! ## Whole runs -/

end Ledger
end Gateway
end Interchange
