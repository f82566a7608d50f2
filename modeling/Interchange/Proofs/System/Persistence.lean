import Interchange.Proofs.Files.Kept
import Interchange.Proofs.Json.Printed
import Interchange.Proofs.System.Codec

/-! # Systems that last

Main statement: whatever is registered, updated and removed in a registry whose copy is in a file,
opening the file again gives the same registry exactly if each system there can be restored: no
free-form member of its metadata has the name of a field, and no fallback of a transformation is
null.
-/

namespace Interchange

open Json

/-- A configuration as it is held, of which the JSON form is read back from its text inside the
object of all systems. -/
structure SystemConfig.Keepable (c : SystemConfig) : Prop where
  wellFormed : c.WellFormed
  legible : c.toJson.Legible (depthMax - 1)

namespace Registry

variable {r : Registry} {fs fs' : Files} {path : String} {d : Dict SystemConfig} {c : SystemConfig}

/-! ## The file of a registry -/

/-- Systems in the order of their ids, each under its own. -/
structure Ordered (d : Dict SystemConfig) : Prop where
  sorted : Dict.Sorted d
  named : ∀ p ∈ d, p.1 = p.2.systemId

theorem Ordered.insert (h : Ordered d) (c : SystemConfig) :
    Ordered (Dict.insert d c.systemId c) where
  sorted := h.sorted.insert _ _
  named p hp := by
    rcases Dict.mem_insert hp with rfl | hp
    · rfl
    · exact h.named p hp

theorem Ordered.erase (h : Ordered d) (systemId : String) : Ordered (Dict.erase d systemId) where
  sorted := h.sorted.erase _
  named p hp := h.named p (List.mem_of_mem_filter hp)

/-- Systems in the order of their ids, each under its own, of which the texts are read back. -/
structure Keepable (d : Dict SystemConfig) : Prop where
  sorted : Dict.Sorted d
  named : ∀ p ∈ d, p.1 = p.2.systemId
  each : ∀ p ∈ d, p.2.Keepable

theorem Keepable.ordered (h : Keepable d) : Ordered d := ⟨h.sorted, h.named⟩

theorem Keepable.insert (h : Keepable d) (hc : c.Keepable) :
    Keepable (Dict.insert d c.systemId c) where
  sorted := (h.ordered.insert c).sorted
  named := (h.ordered.insert c).named
  each p hp := by
    rcases Dict.mem_insert hp with rfl | hp
    · exact hc
    · exact h.each p hp

theorem Keepable.erase (h : Keepable d) (systemId : String) : Keepable (Dict.erase d systemId) where
  sorted := (h.ordered.erase systemId).sorted
  named := (h.ordered.erase systemId).named
  each p hp := h.each p (List.mem_of_mem_filter hp)

theorem of_readSystems? {text : String} (h : readSystems? text = some d) :
    Dict.Sorted d ∧ ∀ p ∈ d, p.2.Encodable := by
  unfold readSystems? at h
  split at h
  · cases h
    exact ⟨Dict.sorted_nil, nofun⟩
  · obtain ⟨v, -, hv⟩ := Option.bind_eq_some_iff.mp h
    exact ⟨Decode.sorted_of_dict hv,
      Decode.forall_mem_of_dict hv fun _ _ => SystemConfig.encodable_of_ofJson?⟩

theorem readSystems?_fileText (hl : ∀ p ∈ d, p.2.toJson.Legible (depthMax - 1)) :
    readSystems? (fileText d) =
      Decode.dict SystemConfig.ofJson? (.object (d.mapValues SystemConfig.toJson)) :=
  read_indented_map hl SystemConfig.ofJson?

/-- The text of some systems is read back as these systems exactly if its JSON form can hold each of
them. -/
theorem readSystems?_fileText_iff (hd : Dict.Sorted d)
    (hl : ∀ p ∈ d, p.2.toJson.Legible (depthMax - 1)) :
    readSystems? (fileText d) = some d ↔ ∀ p ∈ d, p.2.Encodable := by
  refine ⟨fun h => (of_readSystems? h).2, fun he => ?_⟩
  rw [readSystems?_fileText hl]
  exact Decode.dict_object hd fun p hp => (he p hp).ofJson?_toJson

/-- A file with the text of some systems is opened as the registry of these systems exactly if each
of them can be restored. -/
theorem ofFile_fileText_iff (h : Keepable d) (ht : fs.readText path = .ok (fileText d)) :
    ofFile fs path = .ok { path := some path, systems := d } ↔ ∀ p ∈ d, p.2.Restorable := by
  have hread : readSystems? (fileText d) = some d ↔ ∀ p ∈ d, p.2.Restorable :=
    (readSystems?_fileText_iff h.sorted fun p hp => (h.each p hp).legible).trans
      (forall₂_congr fun p hp => (h.each p hp).wellFormed.encodable_iff)
  have hnamed : d.find? (fun p => p.1 ≠ p.2.systemId) = none :=
    List.find?_eq_none.mpr fun p hp => by simpa using h.named p hp
  rw [← hread, ofFile, ht]
  constructor
  · intro ho
    dsimp only at ho
    split at ho
    · cases ho
    · next hd =>
      split at ho
      · cases ho
      · cases ho
        exact hd
  · intro hd
    simp only [hd, hnamed]

theorem ofFile_unreadable {text : String} (ht : fs.readText path = .ok text)
    (hn : readSystems? text = none) : ofFile fs path =
      .error (.storage ("Registry file " ++ path ++ " is invalid: not an object of systems")) := by
  simp only [ofFile, ht, hn]

theorem of_ofFile (h : ofFile fs path = .ok r) :
    Ordered r.systems ∧ ∀ p ∈ r.systems, p.2.Encodable := by
  unfold ofFile at h
  split at h
  · cases h
    exact ⟨⟨Dict.sorted_nil, nofun⟩, nofun⟩
  · cases h
  · split at h
    · cases h
    · next hd =>
      obtain ⟨hs, he⟩ := of_readSystems? hd
      split at h
      · cases h
      · next hnamed =>
        cases h
        exact ⟨⟨hs, fun p hp => by simpa using List.find?_eq_none.mp hnamed p hp⟩, he⟩

theorem keepable_of_ofFile (h : ofFile fs path = .ok r)
    (hl : ∀ p ∈ r.systems, p.2.toJson.Legible (depthMax - 1)) : Keepable r.systems := by
  obtain ⟨ho, he⟩ := of_ofFile h
  exact ⟨ho.sorted, ho.named, fun p hp => ⟨(he p hp).wellFormed, hl p hp⟩⟩

/-! ## Runs -/

/-- What is done with a registry whose copy is in a file, under which faults, and what others do to
the files meanwhile. -/
inductive Action
  | register (c : SystemConfig) (faults : ReplaceFaults := {})
  | update (c : SystemConfig) (faults : ReplaceFaults := {})
  | unregister (systemId : String) (faults : ReplaceFaults := {})
  | elsewhere (files : Files)

def Action.config? : Action → Option SystemConfig
  | .register c _ | .update c _ => some c
  | .unregister .. | .elsewhere _ => none

/-- A registry, and the files that its own file is among. -/
structure Kept where
  registry : Registry
  files : Files

/-- What comes of a change: its answer, and the registry as it was if that is an error. -/
def Kept.changed {α : Type} (x : Kept) (answer : α → Bool) (registry : α → Registry) :
    Result α × Files → Result Bool × Kept
  | (.ok a, files) => (.ok (answer a), ⟨registry a, files⟩)
  | (.error e, files) => (.error e, ⟨x.registry, files⟩)

def Kept.act (x : Kept) : Action → Result Bool × Kept
  | .register c faults => x.changed (fun _ => true) id (x.registry.register x.files c faults)
  | .update c faults => x.changed (fun _ => true) id (x.registry.update x.files c faults)
  | .unregister systemId faults =>
    x.changed Prod.fst Prod.snd (x.registry.unregister x.files systemId faults)
  | .elsewhere files => (.ok true, ⟨x.registry, files⟩)

/-- Others leave the file of the registry as it is, and put nothing in its way. -/
def Aside (path : String) (x : Kept) (a : Action) : Prop :=
  ∀ files, a = .elsewhere files → files.find path = x.files.find path ∧
    (x.files.Settled path → files.Settled path)

/-- The actions of a run with their answers, the latest first, and what it ends in. -/
inductive Reaches (path : String) (start : Kept) : List (Action × Result Bool) → Kept → Prop
  | start : Reaches path start [] start
  | act {past : List (Action × Result Bool)} {x : Kept} {a : Action} : Reaches path start past x →
      Aside path x a → Reaches path start ((a, (x.act a).1) :: past) (x.act a).2

/-- A configuration that was registered, or put in the place of another, with success. -/
def Accepted (past : List (Action × Result Bool)) (c : SystemConfig) : Prop :=
  ∃ a : Action, a.config? = some c ∧ (a, .ok true) ∈ past

/-- An action that failed because the file could not be replaced. -/
def Stopped (e : Action × Result Bool) : Prop := ∃ detail, e.2 = .error (.files detail)

section Steps

variable {x : Kept} {a : Action} {past : List (Action × Result Bool)} {start : Kept}

/-- The ways that an action can go: nothing changes; or the file comes to hold other systems, and so
does the registry; or the file cannot be replaced; or it was others who did something. -/
inductive Way (path : String) (x : Kept) (a : Action) : Result Bool × Kept → Prop
  | apart (answer : Result Bool) : Way path x a (answer, x)
  | replaced {files : Files} {faults : ReplaceFaults} (d : Dict SystemConfig) :
      x.files.replace path (fileText d) faults = (.ok (), files) →
      (Keepable x.registry.systems → (∀ c, a.config? = some c → c.Keepable) → Keepable d) →
      Way path x a (.ok true, ⟨{ path := some path, systems := d }, files⟩)
  | stopped {files : Files} {faults : ReplaceFaults} {text : String} {e : ReplaceError} :
      x.files.replace path text faults = (.error e, files) →
      Way path x a (.error (.files e.cause.message), ⟨x.registry, files⟩)
  | elsewhere {files : Files} : a = .elsewhere files →
      Way path x a (.ok true, ⟨x.registry, files⟩)

theorem way_commit (faults : ReplaceFaults) (hp : x.registry.path = some path)
    (hd : Keepable x.registry.systems → (∀ c, a.config? = some c → c.Keepable) → Keepable d) :
    Way path x a (x.changed (fun _ => true) id (x.registry.commit x.files d faults)) := by
  rcases hr : x.files.replace path (fileText d) faults with ⟨e | _, files⟩ <;>
    simp only [commit, hp, hr, Kept.changed]
  · exact .stopped hr
  · exact .replaced d hr hd

theorem way (hp : x.registry.path = some path) : Way path x a (x.act a) := by
  cases a with
  | register c =>
    simp only [Kept.act, register]
    split
    · exact .apart _
    · split
      · exact .apart _
      · exact way_commit _ hp fun h hc => h.insert (hc c rfl)
  | update c =>
    simp only [Kept.act, update]
    split
    · exact .apart _
    · split
      · exact way_commit _ hp fun h hc => h.insert (hc c rfl)
      · exact .apart _
  | unregister systemId faults =>
    simp only [Kept.act, unregister]
    split
    · have hw : Way path x (.unregister systemId faults) _ :=
        way_commit faults hp fun h _ => h.erase systemId
      rcases hc : x.registry.commit x.files (x.registry.systems.erase systemId) faults with
        ⟨e | _, files⟩ <;> rw [hc] at hw <;> exact hw
    · exact .apart _
  | elsewhere files => exact .elsewhere rfl

/-- A registry that its file gives back, or of which the file holds the text. -/
structure Sound (path : String) (x : Kept) : Prop where
  copy : x.registry.path = some path
  keepable : Keepable x.registry.systems
  file : ofFile x.files path = .ok x.registry ∨
    x.files.readText path = .ok (fileText x.registry.systems)

theorem Sound.reopens_iff (h : Sound path x) :
    ofFile x.files path = .ok x.registry ↔ ∀ p ∈ x.registry.systems, p.2.Restorable := by
  rcases h.file with ho | ht
  · refine iff_of_true ho fun p hp => ?_
    exact ((h.keepable.each p hp).wellFormed.encodable_iff).mp ((of_ofFile ho).2 p hp)
  · have hr : x.registry = { path := some path, systems := x.registry.systems } := by
      rw [← h.copy]
    rw [hr]
    exact ofFile_fileText_iff h.keepable ht

theorem Sound.act (h : Sound path x) (ha : Aside path x a)
    (hk : (x.act a).1 = .ok true → ∀ c, a.config? = some c → c.Keepable)
    (hs : x.files.Settled path ∨ ¬ Stopped (a, (x.act a).1)) : Sound path (x.act a).2 := by
  have hw := way (a := a) h.copy
  generalize x.act a = y at hw hk hs
  cases hw with
  | apart answer => exact h
  | replaced d hr hd => exact ⟨rfl, hd h.keepable (hk rfl), .inr (Files.readText_of_replace hr)⟩
  | stopped hr =>
    have hs := hs.resolve_right fun hno => hno ⟨_, rfl⟩
    refine ⟨h.copy, h.keepable, h.file.imp (fun ho => ?_) (Files.readText_of_replace_error hr)⟩
    have hfind := (Files.stopped_of_replace_error hr).1.find_eq hs
    exact (ofFile_congr hfind).trans ho
  | elsewhere he =>
    have hfind := (ha _ he).1
    exact ⟨h.copy, h.keepable,
      h.file.imp (ofFile_congr hfind).trans (Files.readText_congr hfind).trans⟩

/-- A file that is missing stays so until it is replaced. -/
theorem settled_act (hp : x.registry.path = some path) (ha : Aside path x a)
    (hs : x.files.Settled path) : (x.act a).2.files.Settled path := by
  have hw := way (a := a) hp
  generalize x.act a = y at hw
  cases hw with
  | apart answer => exact hs
  | replaced d hr _ =>
    intro hf
    have ht := Files.readText_of_replace hr
    rw [Files.readText_eq_notFound_iff.mpr hf] at ht
    cases ht
  | stopped hr => exact (Files.stopped_of_replace_error hr).1.settled hs
  | elsewhere he => exact (ha _ he).2 hs

theorem Reaches.sound (h : Reaches path start past x) (hstart : Sound path start)
    (hk : ∀ c, Accepted past c → c.Keepable)
    (hs : start.files.Settled path ∨ ∀ e ∈ past, ¬ Stopped e) :
    Sound path x ∧ (start.files.Settled path → x.files.Settled path) := by
  induction h with
  | start => exact ⟨hstart, id⟩
  | @act past x a _ ha ih =>
    obtain ⟨hx, hset⟩ := ih (fun c ⟨b, hb, hm⟩ => hk c ⟨b, hb, List.mem_cons_of_mem _ hm⟩)
      (hs.imp_right fun h e he => h e (List.mem_cons_of_mem _ he))
    refine ⟨hx.act ha (fun hok c hc => hk c ⟨a, hc, ?_⟩) ?_, fun hs => ?_⟩
    · rw [hok]
      exact List.mem_cons_self
    · exact hs.imp hset fun h => h _ List.mem_cons_self
    · exact settled_act hx.copy ha (hset hs)

end Steps

/--
A registry is opened on a file. Systems are registered, updated and removed there, with success or
not, and others do something elsewhere. If the configurations that were in the file and those that
were accepted are read back from their texts, then opening the file again gives the same registry
exactly if each of the systems that are registered now can be restored. An action may have failed
because the file could not be replaced; but where that happened, the file was there at first, or was
missing and is missing still once the directories above it have been made as far as they can be.
-/
theorem reopens_same_iff {path : String} {fs : Files} {r : Registry}
    {past : List (Action × Result Bool)} {x : Kept} (ho : ofFile fs path = .ok r)
    (hr : ∀ p ∈ r.systems, p.2.toJson.Legible (depthMax - 1)) (h : Reaches path ⟨r, fs⟩ past x)
    (hk : ∀ c, Accepted past c → c.Keepable)
    (hs : fs.Settled path ∨ ∀ e ∈ past, ¬ Stopped e) :
    ofFile x.files path = .ok x.registry ↔ ∀ p ∈ x.registry.systems, p.2.Restorable := by
  have hstart : Sound path ⟨r, fs⟩ := ⟨path_of_ofFile ho, keepable_of_ofFile ho hr, .inl ho⟩
  obtain ⟨hx, -⟩ := h.sound hstart hk hs
  exact hx.reopens_iff

/-- A system with a number among its connection parameters. -/
def crm : SystemConfig where
  systemId := "crm"
  systemType := "mock"
  name := "CRM"
  connectionParams := [("port", .ofInt 8080)]
  metadata := { extra := [("team", .string "sales")] }

theorem keepable_crm : crm.Keepable where
  wellFormed := ⟨rfl, rfl, nofun, rfl, rfl⟩
  legible := Value.legible_of_ints [8080] (by decide) rfl (by decide)

theorem restorable_crm : crm.Restorable := ⟨by decide, nofun⟩

/-- A system that is registered, and cannot be registered again, is there when the file is opened
again. -/
theorem reopens_same_iff_crm : ofFile {} "r" = .ok { path := some "r" } ∧
    ∃ past x, Reaches "r" ⟨{ path := some "r" }, {}⟩ past x ∧ Accepted past crm ∧
      ofFile x.files "r" = .ok x.registry ∧ x.registry.get? "crm" = some crm := by
  have ho : ofFile {} "r" = .ok { path := some "r" } := rfl
  have hrun : Reaches "r" ⟨{ path := some "r" }, {}⟩ _ _ :=
    .act (a := .register crm) (.act (a := .register crm) .start nofun) nofun
  refine ⟨ho, _, _, hrun, ⟨.register crm, rfl, ?_⟩, ?_, rfl⟩
  · exact List.mem_cons_of_mem _ List.mem_cons_self
  · refine (reopens_same_iff ho nofun hrun ?_ (.inl fun _ => rfl)).mpr ?_
    · rintro c ⟨a, ha, hm⟩
      have hcrm : c = crm := by
        rcases List.mem_pair.mp hm with hm | hm <;>
          rw [(Prod.mk.inj hm).1] at ha <;> exact (Option.some.inj ha).symm
      exact hcrm ▸ keepable_crm
    · rintro _ (_ | ⟨_, ⟨⟩⟩)
      exact restorable_crm

/-- A system with a free-form member that has the name of a field. -/
def shadowing : SystemConfig where
  systemId := "crm"
  systemType := "mock"
  name := "CRM"
  metadata := { extra := [("supports_batch", .bool true)] }

def fallingBack : SystemConfig where
  systemId := "crm"
  systemType := "mock"
  name := "CRM"
  transformParams := { rules := [{
    entityType := "deal"
    direction := .inbound
    valueTransformations := [("stage", .map [] (some .null))] }] }

/-- Not every registry is given back by its file. The text of a configuration with a free-form
member that has the name of a field is refused, and a fallback on null is lost. -/
theorem not_always_same :
    (∃ x, Reaches "r" ⟨{ path := some "r" }, {}⟩ [(.register shadowing, .ok true)] x ∧
      ∃ e, ofFile x.files "r" = .error e) ∧
    ∃ x, Reaches "r" ⟨{ path := some "r" }, {}⟩ [(.register fallingBack, .ok true)] x ∧
      ofFile x.files "r" ≠ .ok x.registry := by
  constructor
  · have hrun : Reaches "r" ⟨{ path := some "r" }, {}⟩ [(.register shadowing, .ok true)] _ :=
      .act (a := .register shadowing) .start nofun
    have hl : ∀ p ∈ [("crm", shadowing)], p.2.toJson.Legible (depthMax - 1) := by
      rintro _ (_ | ⟨_, ⟨⟩⟩)
      exact ⟨by decide, by decide⟩
    have hnone : readSystems? (fileText [("crm", shadowing)]) = none :=
      (readSystems?_fileText hl).trans rfl
    have hreplace : Files.replace {} "r" (fileText [("crm", shadowing)]) =
        (.ok (), ⟨[("r", .file (fileText [("crm", shadowing)]).toUTF8 0o644)]⟩) := rfl
    exact ⟨_, hrun, _, ofFile_unreadable (Files.readText_of_replace hreplace) hnone⟩
  · have hrun : Reaches "r" ⟨{ path := some "r" }, {}⟩ [(.register fallingBack, .ok true)] _ :=
      .act (a := .register fallingBack) .start nofun
    refine ⟨_, hrun, fun h => ?_⟩
    have hf := ((of_ofFile h).2 ("crm", fallingBack) List.mem_cons_self).transformParams
    have hmap := (hf.rules _ List.mem_cons_self).valueTransformations _ List.mem_cons_self
    exact (hmap.2 .null rfl).2 rfl

end Registry
end Interchange
