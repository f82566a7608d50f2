import Interchange.Gateway.Administer
import Interchange.Proofs.Files.Kept

/-! # Changes that fail

Stored secrets and registered systems are changed in memory and in their files, or in memory alone.
A change can be refused, its file can be in the way of something, or a fault can strike while the
file is replaced, at any point. Main statement: a change that fails, for whatever reason, leaves the
memory as it was, and its file too, and what is done with the secrets and the systems after that
goes as if it had not been tried.
-/

namespace Interchange
namespace Gateway

/-- What is done with the secrets and the systems of a gateway: changes, and reading them from their
files again. -/
inductive Task where
  | setSecret (nonce : List UInt8) (systemId category name secret : String)
  | deleteSecret (systemId category name : String)
  | register (c : SystemConfig)
  | update (c : SystemConfig)
  | unregister (systemId : String)
  | reopen (e : Encryptor)
  | reload

namespace Task

variable {t : Task} {faults : ReplaceFaults} {g g' : Gateway} {fs fs' : Files} {path : String}
  {e : Error}

def file? (g : Gateway) : Task → Option String
  | .setSecret .. | .deleteSecret .. | .reopen _ => g.security.store.path
  | .register _ | .update _ | .unregister _ | .reload => g.registry.path

def found (p : Result Unit × Gateway) : Result Bool × Gateway := (p.1.map fun _ => true, p.2)

/-- Does a task under some faults; says whether there was anything to do it with. Without a file
there is nothing to read again. -/
def run (faults : ReplaceFaults) (g : Gateway) : Task → Result Bool × Gateway
  | .setSecret nonce systemId category name secret =>
    found (g.setSecret nonce systemId category name secret faults)
  | .deleteSecret systemId category name => g.deleteSecret systemId category name faults
  | .register c => found (g.register c faults)
  | .update c => found (g.update c faults)
  | .unregister systemId => g.unregister systemId faults
  | .reopen e => match g.security.store.path with
    | none => (.ok false, g)
    | some path => found (g.reopen path e)
  | .reload => match g.registry.path with
    | none => (.ok false, g)
    | some path => found (g.reload path)

/-! ## The ways that a task can go -/

/-- The ways that a task can go, whatever is in the files: it touches none, and depends on its own
one alone; or it replaces its own one, and changes the memory if that succeeds. -/
inductive Way (t : Task) (faults : ReplaceFaults) (g : Gateway) : Prop
  | apart : (∀ fs fs', (∀ path, t.file? g = some path → fs'.find path = fs.find path) →
      ∃ r m, t.run faults { g with files := fs } = (r, { m with files := fs }) ∧
        t.run faults { g with files := fs' } = (r, { m with files := fs' }) ∧
        (∀ v : Task, v.file? m = v.file? g) ∧ ∀ e, r = .error e → m = g) → Way t faults g
  | replaces (path text : String) (answer : Bool) (err : ReplaceError → Error) (m : Gateway) :
      t.file? g = some path → (∀ v : Task, v.file? m = v.file? g) →
      (∀ fs, t.run faults { g with files := fs } = match fs.replace path text faults with
        | (.error e, left) => (.error (err e), { g with files := left })
        | (.ok _, left) => (.ok answer, { m with files := left })) → Way t faults g

theorem way_of_writes {α : Type} {file? : α → Option String} {f : Files → Result α × Files}
    (h : Files.Writes file? (t.file? g) faults f) (answer : α → Bool) (m : α → Gateway)
    (hm : ∀ a, file? a = t.file? g → ∀ v : Task, v.file? (m a) = v.file? g)
    (hrun : ∀ fs, t.run faults { g with files := fs } = match f fs with
      | (.error e, left) => (.error e, { g with files := left })
      | (.ok a, left) => (.ok (answer a), { m a with files := left })) : Way t faults g := by
  cases h with
  | apart r hr hf =>
    refine .apart fun fs fs' _ => ?_
    rw [hrun, hrun, hf, hf]
    cases r with
    | error e => exact ⟨.error e, g, rfl, rfl, fun _ => rfl, fun _ _ => rfl⟩
    | ok a => exact ⟨.ok (answer a), m a, rfl, rfl, hm a (hr a rfl), nofun⟩
  | replaces path text err a hp ha hf =>
    refine .replaces path text (answer a) err (m a) hp (hm a ha) fun fs => ?_
    rw [hrun, hf]
    rcases fs.replace path text faults with ⟨_ | _, left⟩ <;> rfl

theorem file?_of_store {store : SecretStore} (h : store.path = g.security.store.path) (v : Task) :
    v.file? { g with security := { g.security with store } } = v.file? g := by
  cases v <;> first | exact h | rfl

theorem file?_of_registry {registry : Registry} (h : registry.path = g.registry.path) (v : Task) :
    v.file? { g with registry } = v.file? g := by
  cases v <;> first | exact h | rfl

theorem way (t : Task) (faults : ReplaceFaults) (g : Gateway) : Way t faults g := by
  cases t with
  | setSecret nonce systemId category name secret =>
    refine way_of_writes (g.security.store.writes_set nonce systemId category name secret faults)
      (fun _ => true) (fun store => { g with security := { g.security with store } })
      (fun _ => file?_of_store) fun fs => ?_
    simp only [run, Gateway.setSecret, Security.setSecret]
    rcases g.security.store.set fs nonce systemId category name secret faults with
      ⟨_ | _, left⟩ <;> rfl
  | deleteSecret systemId category name =>
    refine way_of_writes (g.security.store.writes_delete systemId category name faults) Prod.fst
      (fun x => { g with security := { g.security with store := x.2 } })
      (fun _ => file?_of_store) fun fs => ?_
    simp only [run, Gateway.deleteSecret, Security.deleteSecret]
    rcases g.security.store.delete fs systemId category name faults with ⟨_ | _, left⟩ <;> rfl
  | register c =>
    refine way_of_writes (g.registry.writes_register c faults) (fun _ => true)
      (fun registry => { g with registry }) (fun _ => file?_of_registry) fun fs => ?_
    simp only [run, Gateway.register]
    rcases g.registry.register fs c faults with ⟨_ | _, left⟩ <;> rfl
  | update c =>
    refine way_of_writes (g.registry.writes_update c faults) (fun _ => true)
      (fun registry => { g with registry }) (fun _ => file?_of_registry) fun fs => ?_
    simp only [run, Gateway.update]
    rcases g.registry.update fs c faults with ⟨_ | _, left⟩ <;> rfl
  | unregister systemId =>
    refine way_of_writes (g.registry.writes_unregister systemId faults) Prod.fst
      (fun x => { g with registry := x.2 }) (fun _ => file?_of_registry) fun fs => ?_
    simp only [run, Gateway.unregister]
    rcases g.registry.unregister fs systemId faults with ⟨_ | _, left⟩ <;> rfl
  | reopen e =>
    refine .apart fun fs fs' (hf : ∀ path, g.security.store.path = some path → _) => ?_
    simp only [run]
    rcases hp : g.security.store.path with _ | path
    · exact ⟨.ok false, g, rfl, rfl, fun _ => rfl, fun _ _ => rfl⟩
    · simp only [Gateway.reopen, SecretStore.ofFile_congr (hf path hp)]
      rcases hs : SecretStore.ofFile fs path e with error | store
      · exact ⟨.error error, g, rfl, rfl, fun _ => rfl, fun _ _ => rfl⟩
      · have hpath := (SecretStore.path_of_ofFile hs).trans hp.symm
        exact ⟨.ok true, { g with security := { g.security with store } }, rfl, rfl,
          file?_of_store hpath, nofun⟩
  | reload =>
    refine .apart fun fs fs' (hf : ∀ path, g.registry.path = some path → _) => ?_
    simp only [run]
    rcases hp : g.registry.path with _ | path
    · exact ⟨.ok false, g, rfl, rfl, fun _ => rfl, fun _ _ => rfl⟩
    · simp only [Gateway.reload, Registry.ofFile_congr (hf path hp)]
      rcases hr : Registry.ofFile fs path with error | registry
      · exact ⟨.error error, g, rfl, rfl, fun _ => rfl, fun _ _ => rfl⟩
      · have hpath := (Registry.path_of_ofFile hr).trans hp.symm
        exact ⟨.ok true, { g with registry }, rfl, rfl, file?_of_registry hpath, nofun⟩

theorem file?_run (t v : Task) (faults : ReplaceFaults) (g : Gateway) :
    v.file? (t.run faults g).2 = v.file? g := by
  cases t.way faults g with
  | apart hrun =>
    obtain ⟨r, m, hr, -, hm, -⟩ := hrun g.files g.files fun _ _ => rfl
    rw [show t.run faults g = _ from hr]
    exact hm v
  | replaces path text answer err m hp hm hrun =>
    rw [show t.run faults g = _ from hrun g.files]
    rcases g.files.replace path text faults with ⟨_ | _, left⟩
    · rfl
    · exact hm v

/-! ## What is done after a change that failed -/

/-- Does tasks one after another, each under its own faults; what came of each, and the gateway in
the end. -/
def runAll : List (Task × ReplaceFaults) → Gateway → List (Result Bool) × Gateway
  | [], g => ([], g)
  | (t, faults) :: ts, g =>
    let (r, g) := t.run faults g
    let (rs, g) := runAll ts g
    (r :: rs, g)

/-- A gateway and what it can be when replacing a file has failed: the memory is the same, and the
path leads to what it led to. -/
structure Spared (path : String) (g g' : Gateway) : Prop where
  memory : g' = { g with files := g'.files }
  stopped : g.files.Stopped path g'.files
  find : g'.files.find path = g.files.find path

theorem Spared.refl (path : String) (g : Gateway) : Spared path g g := ⟨rfl, .refl .., rfl⟩

/-- A task goes the same way on both: what it finds is the same, and it fails on both or on none. -/
theorem Spared.run (h : Spared path g g') (ht : ∀ p, t.file? g = some p → p = path)
    (faults : ReplaceFaults) :
    (t.run faults g').1.toOption = (t.run faults g).1.toOption ∧
      Spared path (t.run faults g).2 (t.run faults g').2 := by
  have hfind (p : String) (hp : t.file? g = some p) : g'.files.find p = g.files.find p := by
    cases ht p hp
    exact h.find
  rw [h.memory]
  cases t.way faults g with
  | apart hrun =>
    obtain ⟨r, m, hr, hr', -⟩ := hrun g.files g'.files hfind
    rw [show t.run faults g = _ from hr, hr']
    exact ⟨rfl, rfl, h.stopped, h.find⟩
  | replaces p text answer err m hp _ hrun =>
    cases ht p hp
    rw [show t.run faults g = _ from hrun g.files, hrun]
    rcases h.stopped.replace h.find text faults with he | ⟨e, e', left, left', hl, hl', hs, hf⟩
    · rw [he]
      rcases g.files.replace path text faults with ⟨_ | _, left⟩
      · exact ⟨rfl, .refl ..⟩
      · exact ⟨rfl, .refl ..⟩
    · rw [hl, hl']
      exact ⟨rfl, rfl, hs, hf⟩

theorem Spared.runAll (h : Spared path g g') {ts : List (Task × ReplaceFaults)}
    (hts : ∀ t ∈ ts, ∀ p, t.1.file? g = some p → p = path) :
    (runAll ts g').1.map Except.toOption = (runAll ts g).1.map Except.toOption ∧
      Spared path (runAll ts g).2 (runAll ts g').2 := by
  induction ts generalizing g g' with
  | nil => exact ⟨rfl, h⟩
  | cons t ts ih =>
    obtain ⟨ht, hts⟩ := List.forall_mem_cons.mp hts
    obtain ⟨hr, hs⟩ := h.run ht t.2
    obtain ⟨hrs, hss⟩ := ih hs fun v hv p hp => hts v hv p ((file?_run t.1 v.1 t.2 g).symm.trans hp)
    exact ⟨List.cons_eq_cons.mpr ⟨hr, hrs⟩, hss⟩

/-- Whether reading its file again gives what is in memory. -/
def Agrees (g : Gateway) : Task → Prop
  | .setSecret .. | .deleteSecret .. | .reopen _ => ∀ path, g.security.store.path = some path →
      SecretStore.ofFile g.files path g.security.store.encryptor = .ok g.security.store
  | .register _ | .update _ | .unregister _ | .reload => ∀ path, g.registry.path = some path →
      Registry.ofFile g.files path = .ok g.registry

/-- A task leaves a gateway as if it had not been tried. It may be that its file could not be
replaced: then the file is as it was exactly if it is there, or is missing still once the
directories above it are made as far as they are. -/
structure Untried (t : Task) (faults : ReplaceFaults) (g g' : Gateway) : Prop where
  memory : g' = { g with files := g'.files }
  file : g' = g ∨ ∃ path text cause, t.file? g = some path ∧
    g.files.replace path text faults = (.error cause, g'.files) ∧
    (g'.files.find path = g.files.find path ↔ g.files.Settled path faults.parents)
  agrees : (∀ path, t.file? g = some path → g.files.Settled path faults.parents) →
    (t.Agrees g' ↔ t.Agrees g)
  later : ∀ path, t.file? g = some path → g.files.Settled path faults.parents →
    ∀ ts : List (Task × ReplaceFaults), (∀ v ∈ ts, v.1.file? g = none ∨ v.1.file? g = some path) →
      (Task.runAll ts g').1.map Except.toOption = (Task.runAll ts g).1.map Except.toOption ∧
      Spared path (Task.runAll ts g).2 (Task.runAll ts g').2

theorem untried_refl (t : Task) (faults : ReplaceFaults) (g : Gateway) : Untried t faults g g where
  memory := rfl
  file := .inl rfl
  agrees _ := Iff.rfl
  later path _ _ _ _ := ⟨rfl, .refl path _⟩

theorem Spared.agrees (h : Spared path g g') (ht : t.file? g = some path) :
    t.Agrees g' ↔ t.Agrees g := by
  have hstore (hf : g.security.store.path = some path) (e : Encryptor) (p : String)
      (hp : g.security.store.path = some p) :
      SecretStore.ofFile g'.files p e = SecretStore.ofFile g.files p e := by
    cases hf.symm.trans hp
    exact SecretStore.ofFile_congr h.find e
  have hregistry (hf : g.registry.path = some path) (p : String) (hp : g.registry.path = some p) :
      Registry.ofFile g'.files p = Registry.ofFile g.files p := by
    cases hf.symm.trans hp
    exact Registry.ofFile_congr h.find
  rw [h.memory]
  cases t with
  | setSecret | deleteSecret | reopen =>
    exact forall₂_congr fun p hp => by rw [hstore ht _ p hp]
  | register | update | unregister | reload =>
    exact forall₂_congr fun p hp => by rw [hregistry ht p hp]

/-- A task that fails, for whatever reason, leaves the gateway as if it had not been tried. -/
theorem untried_of_error (h : t.run faults g = (.error e, g')) : Untried t faults g g' := by
  cases t.way faults g with
  | apart hrun =>
    obtain ⟨r, m, hr, -, -, hm⟩ := hrun g.files g.files fun _ _ => rfl
    rw [show t.run faults g = _ from hr] at h
    cases h
    rw [hm e rfl]
    exact untried_refl t faults g
  | replaces path text answer err m hp _ hrun =>
    rw [show t.run faults g = _ from hrun g.files] at h
    rcases hr : g.files.replace path text faults with ⟨cause | _, left⟩
    · rw [hr] at h
      cases h
      have hiff := Files.find_eq_iff_settled hr
      have hspared (hs : g.files.Settled path faults.parents) :
          Spared path g { g with files := left } :=
        ⟨rfl, (Files.stopped_of_replace_error hr).1, hiff.mpr hs⟩
      exact {
        memory := rfl
        file := .inr ⟨path, text, cause, hp, hr, hiff⟩
        agrees := fun hs => (hspared (hs path hp)).agrees hp
        later := fun p hp' hs ts hts => by
          cases hp.symm.trans hp'
          refine (hspared hs).runAll fun v hv q hq => ?_
          rcases hts v hv with hv | hv
          · cases hv.symm.trans hq
          · exact Option.some.inj (hq.symm.trans hv) }
    · rw [hr] at h
      cases h

def token : Task := .setSecret (.replicate 12 0) "crm" "auth" "k" "v"

def holding : Gateway where
  security := { store := {
    encryptor := .ofMasterKey ⟨"key"⟩
    path := some "s"
    secrets := [("crm:auth:k", "x")] } }
  adapters := { peers := fun _ => { reply := fun _ => .later } }
  files := ⟨[("s", .file "\x7b\"crm:auth:k\":\"x\"\x7d".toUTF8 0o644)]⟩
  now := 0

/-- A disk that has room for a file and three bytes of it. -/
def fullDisk : ReplaceFaults where
  write := some ⟨.other "No space left on device (os error 28)", 4⟩

/-- A new secret is written beside the file in part. -/
theorem untried_of_full_disk :
    (token.run fullDisk holding).1 = .error (.storage
        "Failed to write s.json.tmp: No space left on device (os error 28)") ∧
      Untried token fullDisk holding (token.run fullDisk holding).2 := by
  have h : (token.run fullDisk holding).1 = .error (.storage
      "Failed to write s.json.tmp: No space left on device (os error 28)") := rfl
  exact ⟨h, untried_of_error (Prod.ext h rfl)⟩

/-- A gateway whose path to the secrets steps back out of a directory that is missing, to a file. -/
def shadowed : Gateway where
  security := { store := { encryptor := .ofMasterKey ⟨"key"⟩, path := some "a/../f" } }
  adapters := { peers := fun _ => { reply := fun _ => .later } }
  files := ⟨[("f", .file "\x7b\"crm:auth:k\":\"x\"\x7d".toUTF8 0o644),
    ("f.json.tmp", .directory)]⟩
  now := 0

/-- The directory is made before the secret fails to be written, and then the path leads to the
file: what the store holds in memory is not what is read from there. -/
theorem failure_shows_file :
    (token.run {} shadowed).1 =
        .error (.storage "Failed to write a/../f.json.tmp: Is a directory (os error 21)") ∧
      shadowed.files.find "a/../f" = .error .notFound ∧ token.Agrees shadowed ∧
      (token.run {} shadowed).2.files.find "a/../f" =
        .ok (.file "\x7b\"crm:auth:k\":\"x\"\x7d".toUTF8 0o644) ∧
      ¬ token.Agrees (token.run {} shadowed).2 := by
  refine ⟨rfl, rfl, ?_, rfl, fun h => ?_⟩
  · rintro _ ⟨⟩
    rfl
  · have hread := congrArg (fun r => r.toOption.map SecretStore.secrets) (h "a/../f" rfl)
    have hkeys : (some [("crm:auth:k", "x")] : Option (Dict String)) = some [] := hread
    cases hkeys

end Task
end Gateway
end Interchange
