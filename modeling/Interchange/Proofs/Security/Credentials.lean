import Interchange.Proofs.Secret.Moves
import Interchange.Security.Manager

/-! # Storing credentials

The entries of a map are stored in turn, each by a call of its own, and nothing is taken back. The
first that is refused ends it: the entries before it are there to stay, and everything else is as it
was, in memory and in the file.
-/

namespace Interchange
namespace Security

open SecretStore

variable {s t : Security} {fs left : Files} {systemId category : String}
  {nonces : Nat → List UInt8} {place : Nat} {entries : List (String × String)}
  {faults : Nat → ReplaceFaults}

/-! ## One entry after another -/

theorem setSecrets_of_set_error {p : String × String} {e : Error}
    (h : s.store.set fs (nonces place) systemId category p.1 p.2 (faults place) =
      (.error e, left)) :
    s.setSecrets fs systemId category nonces place (p :: entries) faults = (.error e, s, left) := by
  simp only [setSecrets, setSecret, h]

theorem setSecrets_of_set {p : String × String} {store : SecretStore}
    (h : s.store.set fs (nonces place) systemId category p.1 p.2 (faults place) =
      (.ok store, left)) :
    s.setSecrets fs systemId category nonces place (p :: entries) faults =
      { s with store }.setSecrets left systemId category nonces (place + 1) entries faults := by
  simp only [setSecrets, setSecret, h]

/-- Either all entries are stored, or those before one that is refused then. -/
theorem setSecrets_cases (s : Security) (fs : Files) (systemId category : String)
    (nonces : Nat → List UInt8) (place : Nat) (entries : List (String × String))
    (faults : Nat → ReplaceFaults) :
    (∃ t left, s.setSecrets fs systemId category nonces place entries faults = (.ok (), t, left)) ∨
    ∃ done p later t between e left, entries = done ++ p :: later ∧
      s.setSecrets fs systemId category nonces place done faults = (.ok (), t, between) ∧
      t.store.set between (nonces (place + done.length)) systemId category p.1 p.2
        (faults (place + done.length)) = (.error e, left) ∧
      s.setSecrets fs systemId category nonces place entries faults = (.error e, t, left) := by
  induction entries generalizing s fs place with
  | nil => exact .inl ⟨s, fs, rfl⟩
  | cons p entries ih =>
    rcases hset : s.store.set fs (nonces place) systemId category p.1 p.2 (faults place) with
      ⟨e | store, left⟩
    · exact .inr ⟨[], p, entries, s, fs, e, left, rfl, rfl, hset, setSecrets_of_set_error hset⟩
    · rcases ih { s with store } left (place + 1) with
        ⟨t, left', ht⟩ | ⟨done, q, later, t, between, e, left', rfl, hd, hq, he⟩
      · exact .inl ⟨t, left', (setSecrets_of_set hset).trans ht⟩
      · refine .inr ⟨p :: done, q, later, t, between, e, left', rfl,
          (setSecrets_of_set hset).trans hd, ?_, (setSecrets_of_set hset).trans he⟩
        rw [List.length_cons, Nat.add_comm done.length 1, ← Nat.add_assoc]
        exact hq

theorem moves_setSecrets {r : Result Unit} (hn : ∀ i, (nonces i).length = Encryptor.nonceLength)
    (h : s.setSecrets fs systemId category nonces place entries faults = (r, t, left)) :
    Relation.ReflTransGen Moves ⟨s.store, fs⟩ ⟨t.store, left⟩ := by
  induction entries generalizing s fs place with
  | nil =>
    cases h
    exact .refl
  | cons p entries ih =>
    rcases hset : s.store.set fs (nonces place) systemId category p.1 p.2 (faults place) with
      ⟨e | store, between⟩
    · cases (setSecrets_of_set_error hset).symm.trans h
      exact .single (.notStored (hn place) hset)
    · exact .head (.stored (hn place) hset) (ih ((setSecrets_of_set hset).symm.trans h))

/-- Once an entry is stored, the file of the store gives the store. -/
theorem synced_of_setSecrets (hs : Dict.Sorted s.store.secrets)
    (hn : ∀ i, (nonces i).length = Encryptor.nonceLength)
    (h : s.setSecrets fs systemId category nonces place entries faults = (.ok (), t, left))
    (hx : entries ≠ [] ∨ Synced ⟨s.store, fs⟩) : Synced ⟨t.store, left⟩ := by
  cases entries with
  | nil =>
    cases h
    exact hx.resolve_left (absurd rfl)
  | cons p entries =>
    rcases hset : s.store.set fs (nonces place) systemId category p.1 p.2 (faults place) with
      ⟨e | store, between⟩
    · cases (setSecrets_of_set_error hset).symm.trans h
    · have hrest := moves_setSecrets hn ((setSecrets_of_set hset).symm.trans h)
      exact synced_of_moves hrest ((Moves.stored (hn place) hset).sorted hs) (synced_of_set hs hset)

/-! ## What is read afterwards -/

/-- The secrets of some entries are read under a system and a category, and all others as before. -/
structure Adds (systemId category : String) (entries : List (String × String))
    (s t : SecretStore) : Prop where
  added : ∀ p ∈ entries, t.get? systemId category p.1 = .ok (some p.2)
  kept : ∀ k : SecretKey,
    ¬ (k.systemId = systemId ∧ k.category = category ∧ k.name ∈ Dict.keys entries) →
      t.get? k.systemId k.category k.name = s.get? k.systemId k.category k.name

theorem adds_nil (store : SecretStore) : Adds systemId category [] store store :=
  ⟨nofun, fun _ _ => rfl⟩

theorem Adds.cons {p : String × String} {a b c : SecretStore}
    (h : Adds systemId category [p] a b) (h' : Adds systemId category entries b c)
    (hp : p.1 ∉ Dict.keys entries) : Adds systemId category (p :: entries) a c := by
  constructor
  case added =>
    refine List.forall_mem_cons.mpr ⟨?_, h'.added⟩
    rw [h'.kept ⟨systemId, category, p.1⟩ fun hk => hp hk.2.2]
    exact h.added p List.mem_cons_self
  case kept =>
    intro k hk
    rw [h'.kept k fun hm => hk ⟨hm.1, hm.2.1, List.mem_cons_of_mem _ hm.2.2⟩]
    refine h.kept k fun hm => hk ⟨hm.1, hm.2.1, ?_⟩
    rw [List.mem_singleton.mp hm.2.2]
    exact List.mem_cons_self

theorem adds_of_set {store store' : SecretStore} {nonce : List UInt8} {p : String × String}
    {fault : ReplaceFaults} (hr : store.encryptor.cipher.Regular)
    (hn : nonce.length = Encryptor.nonceLength)
    (h : store.set fs nonce systemId category p.1 p.2 fault = (.ok store', left)) :
    Adds systemId category [p] store store' := by
  obtain ⟨k, hk, rfl⟩ := put_of_set h
  obtain ⟨rfl, hv⟩ := valid_of_keyOf (k := ⟨systemId, category, p.1⟩) hk
  have hget := get?_put hr hn hv p.2
  constructor
  case added =>
    intro q hq
    rw [List.mem_singleton.mp hq]
    exact (hget ⟨systemId, category, p.1⟩).trans (if_pos rfl)
  case kept =>
    intro k hk
    refine (hget k).trans (if_neg ?_)
    rintro rfl
    exact hk ⟨rfl, rfl, List.mem_cons_self⟩

theorem adds_of_setSecrets (hr : s.store.encryptor.cipher.Regular)
    (hn : ∀ i, (nonces i).length = Encryptor.nonceLength) (he : (Dict.keys entries).Nodup)
    (h : s.setSecrets fs systemId category nonces place entries faults = (.ok (), t, left)) :
    Adds systemId category entries s.store t.store := by
  induction entries generalizing s fs place with
  | nil =>
    cases h
    exact adds_nil _
  | cons p entries ih =>
    obtain ⟨hp, he⟩ := List.nodup_cons.mp he
    rcases hset : s.store.set fs (nonces place) systemId category p.1 p.2 (faults place) with
      ⟨e | store, between⟩
    · cases (setSecrets_of_set_error hset).symm.trans h
    · have hstore : store.encryptor = s.store.encryptor :=
        (Moves.stored (hn place) hset).encryptor_eq
      have hrest := ih (s := { s with store }) (hstore ▸ hr) he
        ((setSecrets_of_set hset).symm.trans h)
      exact (adds_of_set hr (hn place) hset).cons hrest hp

/-! ## The whole map -/

theorem storeCredentials_of_setSecrets {r : Result Unit}
    (h : s.setSecrets fs systemId SecretKey.authCategory nonces 0 entries faults = (r, t, left)) :
    s.storeCredentials fs nonces systemId entries faults =
      (r.map fun _ => !entries.isEmpty, t, left) := by
  rw [storeCredentials, h]

/-- What storing some entries comes to: they are read, and all else as before. If there were any,
the file of the store gives the store; if there were none, it does so if it did before. -/
structure Leaves (systemId : String) (done : List (String × String)) (x y : Kept) : Prop where
  secrets : Adds systemId SecretKey.authCategory done x.store y.store
  file : done ≠ [] ∨ Synced x → Synced y

/--
In whatever order a map of credentials is gone through, and whatever faults strike meanwhile, each
of its entries is stored as a whole or not at all, and nothing is taken back. Either all are stored,
and the answer is whether there were any; or the error is that of the first entry which is refused
after those before it were stored. Before the call the file of the store gives the store, unless it
was missing at first and something came up in its place.
-/
theorem storeCredentials_in_turn {key : MasterKey} {start : Kept} (ho : Opened key start)
    (hc : Relation.ReflTransGen Moves start ⟨s.store, fs⟩) (systemId : String)
    (entries : List (String × String)) (he : (Dict.keys entries).Nodup)
    (nonces : Nat → List UInt8) (hn : ∀ i, (nonces i).length = Encryptor.nonceLength)
    (faults : Nat → ReplaceFaults) :
    ((∀ path, start.store.path = some path → start.files.Settled path) →
      Synced ⟨s.store, fs⟩) ∧
    ((∃ t left,
        s.storeCredentials fs nonces systemId entries faults = (.ok (!entries.isEmpty), t, left) ∧
        Leaves systemId entries ⟨s.store, fs⟩ ⟨t.store, left⟩) ∨
      ∃ done p later t between e left, entries = done ++ p :: later ∧
        s.storeCredentials fs nonces systemId done faults = (.ok (!done.isEmpty), t, between) ∧
        t.store.set between (nonces done.length) systemId SecretKey.authCategory p.1 p.2
          (faults done.length) = (.error e, left) ∧
        s.storeCredentials fs nonces systemId entries faults = (.error e, t, left) ∧
        Leaves systemId done ⟨s.store, fs⟩ ⟨t.store, left⟩) := by
  have hr : s.store.encryptor.cipher.Regular := by
    have hk : s.store.encryptor = .ofMasterKey key := (encryptor_of_moves hc).trans ho.encryptor_eq
    rw [hk]
    exact Encryptor.regular_ofMasterKey key
  have hs : Dict.Sorted s.store.secrets := sorted_of_moves hc ho.sorted
  constructor
  · intro hset
    exact synced_of_moves hc ho.sorted (ho.synced hset)
  rcases setSecrets_cases s fs systemId SecretKey.authCategory nonces 0 entries faults with
    ⟨t, left, h⟩ | ⟨done, p, later, t, between, e, left, rfl, hd, hp, h⟩
  · exact .inl ⟨t, left, storeCredentials_of_setSecrets h, adds_of_setSecrets hr hn he h,
      synced_of_setSecrets hs hn h⟩
  · rw [Nat.zero_add] at hp
    have hdone : (Dict.keys done).Nodup := by
      rw [Dict.keys, List.map_append] at he
      exact (List.nodup_append.mp he).1
    -- the entry that is refused leaves the file as those before it made it
    have hfile (hx : done ≠ [] ∨ Synced ⟨s.store, fs⟩) : Synced ⟨t.store, left⟩ := by
      have hmove : Moves ⟨t.store, between⟩ ⟨t.store, left⟩ := .notStored (hn done.length) hp
      exact hmove.synced (sorted_of_moves (moves_setSecrets hn hd) hs)
        (synced_of_setSecrets hs hn hd hx)
    exact .inr ⟨done, p, later, t, between, e, left, rfl, storeCredentials_of_setSecrets hd, hp,
      storeCredentials_of_setSecrets h, adds_of_setSecrets hr hn hdone hd, hfile⟩

/-- Where the second of two names is blank, the first credential is there when the call has failed,
in the file as in memory. -/
theorem storeCredentials_in_turn_blank : ∃ s : Security, Opened ⟨"key"⟩ ⟨s.store, {}⟩ ∧
    s.store.path = some "s" ∧ ∃ e t left,
      s.storeCredentials {} (fun _ => .replicate 12 0) "crm" [("k", "v"), (" ", "w")] =
        (.error e, t, left) ∧
      t.store.get? "crm" "auth" "k" = .ok (some "v") ∧ Synced ⟨t.store, left⟩ := by
  have hset (e : Encryptor) : ∃ store left, SecretStore.set ⟨e, some "s", []⟩ {} (.replicate 12 0)
      "crm" "auth" "k" "v" = (.ok store, left) := ⟨_, _, rfl⟩
  have ho : Opened ⟨"key"⟩ ⟨⟨.ofMasterKey ⟨"key"⟩, some "s", []⟩, {}⟩ :=
    .fromFile (ofFile_of_fresh (.inl ⟨rfl, rfl⟩) _)
  refine ⟨{ store := ⟨.ofMasterKey ⟨"key"⟩, some "s", []⟩ }, ho, rfl, ?_⟩
  obtain ⟨-, ⟨t, left, -, hx⟩ | ⟨done, p, later, t, between, e, left, hl, hd, hp, h, hx⟩⟩ :=
    storeCredentials_in_turn (s := { store := ⟨.ofMasterKey ⟨"key"⟩, some "s", []⟩ }) ho .refl "crm"
      [("k", "v"), (" ", "w")] (by decide) (fun _ => .replicate 12 0) (fun _ => rfl) fun _ => {}
  · have hb : t.store.get? "crm" "auth" " " = .ok (some "w") :=
      hx.secrets.added (" ", "w") (by simp)
    cases hb
  · rcases done with _ | ⟨q, _ | ⟨q', done⟩⟩
    · cases hl
      cases hd
      obtain ⟨store, left', hk⟩ := hset (.ofMasterKey ⟨"key"⟩)
      cases hk.symm.trans hp
    · cases hl
      exact ⟨e, t, left, h, hx.secrets.added ("k", "v") List.mem_cons_self, hx.file (.inl nofun)⟩
    · simp at hl

/-- A call that fails can change what is read, so a map is not stored all or nothing. -/
theorem storeCredentials_not_atomic :
    Opened ⟨"key"⟩ ⟨⟨.ofMasterKey ⟨"key"⟩, none, []⟩, {}⟩ ∧ ∃ e t left,
      storeCredentials { store := ⟨.ofMasterKey ⟨"key"⟩, none, []⟩ } {}
        (fun _ => .replicate 12 0) "crm" [("k", "v"), (" ", "w")] = (.error e, t, left) ∧
      SecretStore.get? ⟨.ofMasterKey ⟨"key"⟩, none, []⟩ "crm" "auth" "k" = .ok none ∧
      t.store.get? "crm" "auth" "k" = .ok (some "v") := by
  have hrun (e : Encryptor) : ∃ error t left, storeCredentials { store := ⟨e, none, []⟩ } {}
      (fun _ => .replicate 12 0) "crm" [("k", "v"), (" ", "w")] = (.error error, t, left) ∧
      t.store = SecretStore.put ⟨e, none, []⟩ "crm:auth:k" (e.encrypt (.replicate 12 0) "v") :=
    ⟨_, _, _, rfl, rfl⟩
  obtain ⟨error, t, left, h, ht⟩ := hrun (.ofMasterKey ⟨"key"⟩)
  refine ⟨.inMemory {}, error, t, left, h, rfl, ?_⟩
  rw [ht]
  exact get?_put (k := ⟨"crm", "auth", "k"⟩) (Encryptor.regular_ofMasterKey _) rfl (by decide) "v"
    ⟨"crm", "auth", "k"⟩

end Security
end Interchange
