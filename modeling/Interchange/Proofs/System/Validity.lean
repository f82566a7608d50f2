import Interchange.Proofs.System.Persistence

/-! # Entries that are not valid

A configuration is checked where it is registered or put in the place of another, not where a
registry is opened. Main statement: the entries of a registry that are not valid are those that were
not so when it was opened, as long as nothing changes them.
-/

namespace Interchange

/-- A configuration with an id, without a colon, and a type. -/
structure SystemConfig.Proper (c : SystemConfig) : Prop where
  id : Text.allBlank c.systemId = false
  colon : ':' ∉ c.systemId.toList
  type : Text.allBlank c.systemType = false

theorem SystemConfig.validate_eq_ok_iff {c : SystemConfig} : c.validate = .ok () ↔ c.Proper := by
  unfold validate
  split_ifs with hid hcolon htype
  · exact ⟨nofun, fun h => absurd hid (by simp [h.id])⟩
  · exact ⟨nofun, fun h => absurd (List.contains_iff_mem.mp hcolon) h.colon⟩
  · exact ⟨nofun, fun h => absurd htype (by simp [h.type])⟩
  · exact ⟨fun _ => ⟨by simpa using hid, by simpa using hcolon, by simpa using htype⟩,
      fun _ => rfl⟩

namespace Registry

variable {r r' : Registry} {fs : Files} {a : Action} {answer : Result Bool} {systemId : String}
  {c : SystemConfig} {past : List (Action × Result Bool)} {start x : Kept}

/-- A registry as it is opened: empty, with given systems, or from a file. -/
inductive Opened : Registry → Prop
  | inMemory : Opened {}
  | ofSystems (cs : List SystemConfig) : Opened (ofSystems cs)
  | ofFile {fs : Files} {path : String} {r : Registry} : ofFile fs path = .ok r → Opened r

theorem Opened.ordered (h : Opened r) : Ordered r.systems := by
  cases h with
  | inMemory => exact ⟨Dict.sorted_nil, nofun⟩
  | ofSystems cs =>
    refine ⟨Dict.sorted_ofList _, fun p hp => ?_⟩
    obtain ⟨c, -, rfl⟩ := List.mem_map.mp (Dict.mem_of_mem_ofList hp)
    rfl
  | ofFile h => exact (of_ofFile h).1

/-! ## One action -/

/-- The system whose entry an action is about. -/
def Action.target? : Action → Option String
  | .register c _ | .update c _ => some c.systemId
  | .unregister systemId _ => some systemId
  | .elsewhere _ => none

/-- An action that changed the entry of a system. -/
def Changes (systemId : String) (e : Action × Result Bool) : Prop :=
  e.1.target? = some systemId ∧ e.2 = .ok true

/-- What an action does to a registry: nothing; or it stores a configuration that was checked; or it
removes an entry. -/
inductive Effect (r : Registry) (a : Action) : Result Bool → Registry → Prop
  | none {answer : Result Bool} (h : ∀ systemId, ¬ Changes systemId (a, answer)) :
      Effect r a answer r
  | stored {c : SystemConfig} (hc : c.Proper) (ha : a.target? = some c.systemId) :
      Effect r a (.ok true) { r with systems := r.systems.insert c.systemId c }
  | removed {systemId : String} (ha : a.target? = some systemId) :
      Effect r a (.ok true) { r with systems := r.systems.erase systemId }

theorem Effect.error (r : Registry) (a : Action) (e : Error) : Effect r a (.error e) r :=
  .none fun _ h => nomatch h.2

theorem commit_cases (r : Registry) (fs : Files) (d : Dict SystemConfig) (faults : ReplaceFaults) :
    (∃ e fs', r.commit fs d faults = (.error e, fs')) ∨
      ∃ fs', r.commit fs d faults = (.ok { r with systems := d }, fs') := by
  cases hp : r.path with
  | none => exact .inr ⟨fs, by simp only [commit, hp]⟩
  | some path =>
    rcases hr : fs.replace path (fileText d) faults with ⟨e | _, fs'⟩ <;> simp only [commit, hp, hr]
    · exact .inl ⟨_, fs', rfl⟩
    · exact .inr ⟨fs', rfl⟩

theorem check_cases (c : SystemConfig) :
    (∃ e, check c = .error e) ∨ check c = .ok () ∧ c.Proper := by
  unfold check
  rcases hv : c.validate with e | _
  · exact .inl ⟨_, rfl⟩
  · exact .inr ⟨rfl, SystemConfig.validate_eq_ok_iff.mp hv⟩

theorem Effect.commit {d : Dict SystemConfig} (faults : ReplaceFaults)
    (h : Effect x.registry a (.ok true) { x.registry with systems := d }) :
    Effect x.registry a (x.changed (fun _ => true) id (x.registry.commit x.files d faults)).1
      (x.changed (fun _ => true) id (x.registry.commit x.files d faults)).2.registry := by
  obtain ⟨e, fs', hc⟩ | ⟨fs', hc⟩ := commit_cases x.registry x.files d faults <;>
    simp only [hc, Kept.changed]
  · exact .error _ _ _
  · exact h

theorem effect (x : Kept) (a : Action) : Effect x.registry a (x.act a).1 (x.act a).2.registry := by
  cases a with
  | register c =>
    obtain ⟨e, hc⟩ | ⟨hc, hp⟩ := check_cases c <;> simp only [Kept.act, register, hc]
    · exact .error _ _ _
    · split
      · exact .error _ _ _
      · exact .commit _ (.stored hp rfl)
  | update c =>
    obtain ⟨e, hc⟩ | ⟨hc, hp⟩ := check_cases c <;> simp only [Kept.act, update, hc]
    · exact .error _ _ _
    · split
      · exact .commit _ (.stored hp rfl)
      · exact .error _ _ _
  | unregister systemId faults =>
    simp only [Kept.act, unregister]
    split
    · have he : Effect x.registry (.unregister systemId faults) _ _ :=
        .commit faults (.removed rfl)
      rcases hc : x.registry.commit x.files (x.registry.systems.erase systemId) faults with
        ⟨e | _, files⟩ <;> rw [hc] at he <;> exact he
    · exact .none (by rintro _ ⟨-, h⟩; cases h)
  | elsewhere files => exact .none (by rintro _ ⟨h, -⟩; cases h)

theorem Effect.ordered (h : Effect r a answer r') (hr : Ordered r.systems) :
    Ordered r'.systems := by
  cases h with
  | none => exact hr
  | stored => exact hr.insert _
  | removed => exact hr.erase _

/-- An entry that is not valid was there before, and the action did not change it. -/
theorem Effect.improper_iff (h : Effect r a answer r') (hr : Ordered r.systems)
    (hc : ¬ c.Proper) : (systemId, c) ∈ r'.systems ↔
      (systemId, c) ∈ r.systems ∧ ¬ Changes systemId (a, answer) := by
  have hr' := h.ordered hr
  cases h with
  | none h => simp [h systemId]
  | @stored c' hc' ha =>
    have hne : c' ≠ c := by
      rintro rfl
      exact hc hc'
    have hch : Changes systemId (a, .ok true) ↔ c'.systemId = systemId := by
      simp [Changes, ha]
    rw [← hr'.sorted.get?_eq_some_iff, ← hr.sorted.get?_eq_some_iff, Dict.get?_insert, hch]
    split <;> simp_all
  | @removed systemId' ha =>
    have hch : Changes systemId (a, .ok true) ↔ systemId' = systemId := by
      simp [Changes, ha]
    rw [← hr'.sorted.get?_eq_some_iff, ← hr.sorted.get?_eq_some_iff, Dict.get?_erase, hch]
    split <;> simp_all

/-! ## Runs -/

/-- The actions of a run with their answers, the latest first, and what it ends in. -/
inductive Run (start : Kept) : List (Action × Result Bool) → Kept → Prop
  | start : Run start [] start
  | act {past : List (Action × Result Bool)} {x : Kept} (a : Action) : Run start past x →
      Run start ((a, (x.act a).1) :: past) (x.act a).2

theorem Run.ordered (h : Run start past x) (hs : Ordered start.registry.systems) :
    Ordered x.registry.systems := by
  induction h with
  | start => exact hs
  | act a _ ih => exact (effect _ a).ordered ih

theorem Run.improper_iff (h : Run start past x) (hs : Ordered start.registry.systems)
    (hc : ¬ c.Proper) : (systemId, c) ∈ x.registry.systems ↔
      (systemId, c) ∈ start.registry.systems ∧ ∀ e ∈ past, ¬ Changes systemId e := by
  induction h with
  | start => simp
  | act a h ih =>
    rw [(effect _ a).improper_iff (h.ordered hs) hc, ih]
    simp only [List.forall_mem_cons]
    tauto

/--
A registry is opened, and systems are registered, updated and removed there, with success or not.
Every entry stands under the id of its own configuration. An entry that is not valid was there when
the registry was opened and was not changed since, and every such entry is there still. So all
entries are valid at all times exactly if all of those at the opening have an id without a colon and
a type.
-/
theorem always_valid_iff (ho : Opened r) :
    (∀ fs past x, Run ⟨r, fs⟩ past x → ∀ systemId c,
      ((systemId, c) ∈ x.registry.systems → c.systemId = systemId) ∧
      ((systemId, c) ∈ x.registry.systems ∧ c.validate ≠ .ok () ↔
        ((systemId, c) ∈ r.systems ∧ c.validate ≠ .ok ()) ∧ ∀ e ∈ past, ¬ Changes systemId e)) ∧
    ((∀ fs past x, Run ⟨r, fs⟩ past x → ∀ p ∈ x.registry.systems, p.2.validate = .ok ()) ↔
      ∀ p ∈ r.systems, p.2.Proper) := by
  refine ⟨fun fs past x h systemId c => ⟨fun hm => ?_, ?_⟩, fun h p hp => ?_, ?_⟩
  · exact ((h.ordered ho.ordered).named _ hm).symm
  · rw [Ne, SystemConfig.validate_eq_ok_iff]
    constructor
    · rintro ⟨hm, hc⟩
      obtain ⟨hm, hpast⟩ := (h.improper_iff ho.ordered hc).mp hm
      exact ⟨⟨hm, hc⟩, hpast⟩
    · rintro ⟨⟨hm, hc⟩, hpast⟩
      exact ⟨(h.improper_iff ho.ordered hc).mpr ⟨hm, hpast⟩, hc⟩
  · exact SystemConfig.validate_eq_ok_iff.mp (h {} [] _ .start p hp)
  · intro hr fs past x h p hp
    rw [SystemConfig.validate_eq_ok_iff]
    by_contra hc
    exact hc (hr p ((h.improper_iff ho.ordered hc).mp hp).1)

theorem always_valid_iff_crm : Opened (ofSystems [crm]) ∧ ∃ past x,
    Run ⟨ofSystems [crm], {}⟩ past x ∧ x.registry.get? "crm" = none ∧
      (∀ p ∈ x.registry.systems, p.2.validate = .ok ()) := by
  have hrun : Run ⟨ofSystems [crm], {}⟩ _ _ := .act (.unregister "crm") .start
  have hcrm : ∀ p ∈ (ofSystems [crm]).systems, p.2.Proper := by
    rintro _ (_ | ⟨_, ⟨⟩⟩)
    exact ⟨by decide, by decide, by decide⟩
  exact ⟨.ofSystems _, _, _, hrun, rfl,
    (always_valid_iff (.ofSystems [crm])).2.mpr hcrm {} _ _ hrun⟩

/-- A system whose id is that of another with a category of its secrets, and that has no type. -/
def crmApi : SystemConfig where
  systemId := "crm:api"
  systemType := " "
  name := "CRM"

/-- Neither a file nor a list of systems is checked when a registry is opened. -/
theorem opened_unchecked :
    (∃ fs r, ofFile fs "r" = .ok r ∧ r.get? "crm:api" = some crmApi) ∧
      (ofSystems [crmApi]).get? "crm:api" = some crmApi ∧
      crmApi.validate = .error (.colonInId "crm:api") ∧ Text.allBlank crmApi.systemType = true := by
  have hd : Keepable [("crm:api", crmApi)] := by
    refine ⟨by decide, ?_, ?_⟩
    all_goals rintro _ (_ | ⟨_, ⟨⟩⟩)
    · rfl
    · exact ⟨⟨rfl, rfl, nofun, rfl, rfl⟩, by decide, by decide⟩
  have ht : Files.readText ⟨[("r", .file (fileText [("crm:api", crmApi)]).toUTF8 0o644)]⟩ "r" =
      .ok (fileText [("crm:api", crmApi)]) :=
    Files.readText_eq_ok_iff.mpr ⟨_, _, rfl, Files.fromUTF8?_toUTF8 _⟩
  have ho := (ofFile_fileText_iff hd ht).mpr (by
    rintro _ (_ | ⟨_, ⟨⟩⟩)
    exact ⟨nofun, nofun⟩)
  exact ⟨⟨_, _, ho, rfl⟩, rfl, rfl, by decide⟩

end Registry
end Interchange
