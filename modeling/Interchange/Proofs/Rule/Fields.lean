import Interchange.Rule.Apply
import Interchange.Proofs.Dict.Sorted
import Interchange.Proofs.Rule.Reading

/-! # Rules, field by field

What a rule makes of an input, said for each field on its own. Main statement: the four steps come
to this for every order in which the field mappings and the value transformations are taken, as long
as no two sources of the input go to one field and no template names a field that another
transformation changes.
-/

namespace Interchange
namespace Rule

open Json

/-! ## The outcome for one field -/

/-- What a field holds once the fields are copied: the input's value of the source that goes to it,
or else what the rule starts from. -/
def mapped (r : Rule) (input : Object) (f : String) : Option Value :=
  match r.fieldMappings.find? fun m => m.2 = f ∧ input.contains m.1 with
  | some m => input.get? m.1
  | none => (r.start input).get? f

/-- What a field holds once the values are transformed. Templates read the fields as they stand
after copying, and a value that its transformation does not apply to stays. -/
def transformed (r : Rule) (input : Object) (f : String) : Option Value :=
  (r.mapped input f).map fun v =>
    ((Dict.get? r.valueTransformations f).bind fun t => t.result? (r.mapped input) v).getD v

/-- What the result of a rule holds under a field: nothing if the field goes, and the default of the
field, if there is one, in place of a missing or null value. -/
def outcome (r : Rule) (input : Object) (f : String) : Option Value :=
  if f ∈ r.fieldsToRemove then none
  else match r.transformed input f with
    | some v => if v = .null then (r.defaultValues.get? f).or (some v) else some v
    | none => r.defaultValues.get? f

/-! ## Rules and inputs for which the order does not matter -/

structure Maps (r : Rule) : Prop where
  fieldMappings : Dict.Sorted r.fieldMappings
  valueTransformations : Dict.Sorted r.valueTransformations
  defaultValues : Dict.Sorted r.defaultValues

/-- No two sources that the input has go to one field. -/
def OneSource (r : Rule) (input : Object) : Prop :=
  ∀ m ∈ r.fieldMappings, ∀ n ∈ r.fieldMappings, m.2 = n.2 →
    input.contains m.1 → input.contains n.1 → m.1 = n.1

/-- No template names a field that another transformation changes. -/
def Undisturbed (r : Rule) (input : Object) : Prop :=
  ∀ f t, (f, t) ∈ r.valueTransformations → ∀ g ∈ t.reads, g ≠ f →
    r.transformed input g = r.mapped input g

variable {r : Rule} {input o : Object} {f : String}

/-! ## Copying -/

theorem copyFields_cons (m : String × String) (ms : List (String × String)) (input o : Object) :
    copyFields (m :: ms) input o =
      copyFields ms input (match input.get? m.1 with
        | some v => o.insert m.2 v
        | none => o) := rfl

theorem get?_copyFields_of_forall {ms : List (String × String)}
    (h : ∀ m ∈ ms, m.2 = f → input.contains m.1 = false) :
    (copyFields ms input o).get? f = o.get? f := by
  induction ms generalizing o with
  | nil => rfl
  | cons m ms ih =>
    obtain ⟨hm, hms⟩ := List.forall_mem_cons.mp h
    rw [copyFields_cons, ih hms]
    cases hv : input.get? m.1 with
    | none => rfl
    | some v =>
      have hne : m.2 ≠ f := fun he => by simpa [Dict.contains, hv] using hm he
      exact Dict.get?_insert_of_ne o v hne

theorem get?_copyFields_of_mem {ms : List (String × String)} {s : String} {v : Value}
    (hs : (s, f) ∈ ms) (hv : input.get? s = some v)
    (h : ∀ m ∈ ms, m.2 = f → input.contains m.1 → m.1 = s) :
    (copyFields ms input o).get? f = some v := by
  induction ms generalizing o with
  | nil => cases hs
  | cons m ms ih =>
    obtain ⟨hm, hms⟩ := List.forall_mem_cons.mp h
    rw [copyFields_cons]
    by_cases hmem : (s, f) ∈ ms
    · exact ih hmem hms
    · have hms' : ∀ n ∈ ms, n.2 = f → input.contains n.1 = false := by
        rintro ⟨s', f'⟩ hn rfl
        by_contra hc
        have he : s' = s := hms _ hn rfl (by simpa using hc)
        exact hmem (he ▸ hn)
      obtain rfl : (s, f) = m := (List.mem_cons.mp hs).resolve_right hmem
      rw [get?_copyFields_of_forall hms']
      simp only [hv]
      exact Dict.get?_insert_self o f v

theorem get?_copyFields (h : r.OneSource input) {ms : List (String × String)}
    (hp : ms.Perm r.fieldMappings) :
    (copyFields ms input (r.start input)).get? f = r.mapped input f := by
  unfold mapped
  cases hm : r.fieldMappings.find? fun m => m.2 = f ∧ input.contains m.1 with
  | none =>
    refine get?_copyFields_of_forall fun m hmem hf => ?_
    have hn := List.find?_eq_none.mp hm m (hp.mem_iff.mp hmem)
    simpa [hf] using hn
  | some m =>
    have hmem := List.mem_of_find?_eq_some hm
    obtain ⟨rfl, hc⟩ : m.2 = f ∧ input.contains m.1 := by simpa using List.find?_some hm
    obtain ⟨v, hv⟩ := Option.isSome_iff_exists.mp hc
    simp only [hv]
    refine get?_copyFields_of_mem (hp.mem_iff.mpr hmem) hv fun n hn hf hc' => ?_
    exact h n (hp.mem_iff.mp hn) m hmem hf hc' hc

/-! ## Transforming -/

theorem get?_transformField_of_ne {g : String} (t : ValueTransform) (h : g ≠ f) :
    (transformField o g t).get? f = o.get? f := by
  unfold transformField
  split
  · rfl
  split
  · exact Dict.get?_insert_of_ne o _ h
  · rfl

theorem get?_transformField (t : ValueTransform) :
    (transformField o f t).get? f =
      (o.get? f).map fun v => ((t.apply v o).toOption).getD v := by
  unfold transformField
  cases hv : o.get? f with
  | none => exact hv
  | some v =>
    cases ht : t.apply v o with
    | error e => simpa [ht, Except.toOption] using hv
    | ok w => simp [ht, Except.toOption, Dict.get?_insert_self]

theorem get?_transformFields_of_not_mem {ts : List (String × ValueTransform)}
    (h : f ∉ Dict.keys ts) : (transformFields ts o).get? f = o.get? f := by
  induction ts generalizing o with
  | nil => rfl
  | cons t ts ih =>
    obtain ⟨hne, hts⟩ := List.ne_and_not_mem_of_not_mem_cons h
    exact (ih hts).trans (get?_transformField_of_ne t.2 (Ne.symm hne))

/-- A transformation that reads no field of the record does the same whenever its turn comes. -/
theorem get?_transformFields_of_mem {ts : List (String × ValueTransform)} {t : ValueTransform}
    {v : Value} (hts : (Dict.keys ts).Nodup) (hm : (f, t) ∈ ts) (ht : t.reads = [])
    (hv : o.get? f = some v) (record : Object) :
    (transformFields ts o).get? f = some ((t.apply v record).toOption.getD v) := by
  induction ts generalizing o with
  | nil => cases hm
  | cons t' ts ih =>
    obtain ⟨g, t'⟩ := t'
    obtain ⟨hg, hts⟩ := List.nodup_cons.mp hts
    change (transformFields ts (transformField o g t')).get? f = _
    rcases List.mem_cons.mp hm with he | hm
    · cases he
      have ha : t.apply v o = t.apply v record := ValueTransform.apply_congr (by simp [ht])
      rw [get?_transformFields_of_not_mem hg, get?_transformField, hv, Option.map_some, ha]
    · have hk : f ∈ Dict.keys ts := List.mem_map_of_mem hm
      have hne : g ≠ f := fun he => hg (he ▸ hk)
      exact ih hts hm ((get?_transformField_of_ne t' hne).trans hv)

theorem transformed_of_get?_eq_none (h : Dict.get? r.valueTransformations f = none) :
    r.transformed input f = r.mapped input f := by
  simp [transformed, h]

/-- The fields whose transformations are still to come stand as they were copied, and all others as
their transformations leave them. -/
theorem get?_transformFields (hr : r.Maps) (hu : r.Undisturbed input)
    {ts : List (String × ValueTransform)} (hts : (Dict.keys ts).Nodup)
    (hmem : ∀ t ∈ ts, t ∈ r.valueTransformations)
    (hwait : ∀ f ∈ Dict.keys ts, o.get? f = r.mapped input f)
    (hdone : ∀ f, f ∉ Dict.keys ts → o.get? f = r.transformed input f) :
    (transformFields ts o).get? f = r.transformed input f := by
  induction ts generalizing o with
  | nil => exact hdone f List.not_mem_nil
  | cons t ts ih =>
    obtain ⟨g, t⟩ := t
    obtain ⟨hg, hts⟩ := List.nodup_cons.mp hts
    obtain ⟨ht, hmem⟩ := List.forall_mem_cons.mp hmem
    have hread : ∀ f ∈ t.reads, o.get? f = r.mapped input f := by
      intro f hf
      by_cases hk : f ∈ Dict.keys ((g, t) :: ts)
      · exact hwait f hk
      · have hne : f ≠ g := fun he => hk (he ▸ List.mem_cons_self)
        rw [hdone f hk, hu g t ht f hf hne]
    change (transformFields ts (transformField o g t)).get? f = _
    refine ih hts hmem (fun f hf => ?_) fun f hf => ?_
    · have hne : g ≠ f := fun he => hg (he ▸ hf)
      rw [get?_transformField_of_ne t hne]
      exact hwait f (List.mem_cons_of_mem _ hf)
    · by_cases he : g = f
      · subst he
        have hget : Dict.get? r.valueTransformations g = some t :=
          hr.valueTransformations.get?_eq_some_iff.mpr ht
        rw [get?_transformField, hwait g List.mem_cons_self]
        simp only [transformed, hget, Option.bind_some, ValueTransform.result?_eq hread]
      · rw [get?_transformField_of_ne t he]
        exact hdone f fun hk => (List.mem_cons.mp hk).elim (fun h => he h.symm) hf

/-! ## Defaults and removal -/

/-- One default takes the place of a missing or null value. -/
theorem get?_fillDefaults_singleton (k : String) (w : Value) :
    (fillDefaults [(k, w)] o).get? f =
      if k = f ∧ (o.get? f = none ∨ o.get? f = some .null) then some w else o.get? f := by
  have hd : fillDefaults [(k, w)] o =
      if o.get? k = none ∨ o.get? k = some .null then o.insert k w else o := by
    simp only [fillDefaults, List.foldl_cons, List.foldl_nil]
    split
    · next h => rw [if_pos (.inl h)]
    · next h => rw [if_pos (.inr h)]
    · next v h hv => rw [if_neg (by simpa [hv] using h)]
  rw [hd]
  by_cases hn : o.get? k = none ∨ o.get? k = some .null
  · rw [if_pos hn, Dict.get?_insert]
    by_cases hf : k = f
    · subst hf
      rw [if_pos rfl, if_pos ⟨rfl, hn⟩]
    · rw [if_neg hf, if_neg fun h => hf h.1]
  · rw [if_neg hn, if_neg]
    rintro ⟨rfl, h⟩
    exact hn h

theorem get?_fillDefaults {ds : Dict Value} (hd : (Dict.keys ds).Nodup) :
    (fillDefaults ds o).get? f =
      match o.get? f with
      | some v => if v = .null then (Dict.get? ds f).or (some v) else some v
      | none => Dict.get? ds f := by
  induction ds generalizing o with
  | nil => cases hv : o.get? f <;> simp [fillDefaults, hv]
  | cons d ds ih =>
    obtain ⟨k, w⟩ := d
    obtain ⟨hk, hds⟩ := List.nodup_cons.mp hd
    change (fillDefaults ds (fillDefaults [(k, w)] o)).get? f = _
    rw [ih hds, Dict.get?_cons, get?_fillDefaults_singleton]
    by_cases hf : k = f
    · subst hf
      rw [Dict.get?_eq_none_iff.mpr hk]
      rcases o.get? k with _ | v
      · simp
      · by_cases hv : v = .null <;> simp [hv]
    · simp only [hf, false_and, if_false]

theorem get?_removeFields (fs : List String) :
    (removeFields fs o).get? f = if f ∈ fs then none else o.get? f := by
  induction fs generalizing o with
  | nil => rfl
  | cons g fs ih =>
    change (removeFields fs (Dict.erase o g)).get? f = _
    rw [ih, Dict.get?_erase]
    by_cases hf : f ∈ fs
    · simp [hf]
    · by_cases hg : g = f <;> simp [hf, hg, Ne.symm]

/-! ## Key order -/

theorem sorted_copyFields (ms : List (String × String)) (ho : Dict.Sorted o) :
    Dict.Sorted (copyFields ms input o) := by
  refine List.foldlRecOn ms _ ho fun o ho m _ => ?_
  split
  · exact ho.insert _ _
  · exact ho

theorem sorted_transformFields (ts : List (String × ValueTransform)) (ho : Dict.Sorted o) :
    Dict.Sorted (transformFields ts o) := by
  refine List.foldlRecOn ts _ ho fun o ho t _ => ?_
  unfold transformField
  split
  · exact ho
  split
  · exact ho.insert _ _
  · exact ho

theorem sorted_fillDefaults (ds : List (String × Value)) (ho : Dict.Sorted o) :
    Dict.Sorted (fillDefaults ds o) := by
  refine List.foldlRecOn ds _ ho fun o ho d _ => ?_
  split
  · exact ho.insert _ _
  · exact ho.insert _ _
  · exact ho

theorem sorted_removeFields (fs : List String) (ho : Dict.Sorted o) :
    Dict.Sorted (removeFields fs o) :=
  List.foldlRecOn fs _ ho fun _ ho f _ => ho.erase f

theorem sorted_start (r : Rule) (hi : Dict.Sorted input) : Dict.Sorted (r.start input) := by
  unfold start
  split
  · exact Dict.sorted_nil
  · exact hi

theorem sorted_applyInOrder (r : Rule) (mappings : List (String × String))
    (transforms : List (String × ValueTransform)) (hi : Dict.Sorted input) :
    Dict.Sorted (r.applyInOrder mappings transforms input) :=
  sorted_removeFields _ <| sorted_fillDefaults _ <| sorted_transformFields _ <|
    sorted_copyFields _ <| sorted_start r hi

/-! ## The four steps together -/

variable {mappings : List (String × String)} {transforms : List (String × ValueTransform)}

theorem get?_transformed (hr : r.Maps) (hs : r.OneSource input) (hu : r.Undisturbed input)
    (hm : mappings.Perm r.fieldMappings) (ht : transforms.Perm r.valueTransformations) :
    (transformFields transforms (copyFields mappings input (r.start input))).get? f =
      r.transformed input f := by
  have hkeys : (Dict.keys transforms).Perm (Dict.keys r.valueTransformations) := ht.map _
  refine get?_transformFields hr hu (hkeys.nodup_iff.mpr hr.valueTransformations.nodup)
    (fun t h => ht.mem_iff.mp h) (fun f _ => get?_copyFields hs hm) fun f hf => ?_
  have hnone : Dict.get? r.valueTransformations f = none :=
    Dict.get?_eq_none_iff.mpr fun h => hf (hkeys.mem_iff.mpr h)
  rw [transformed_of_get?_eq_none hnone, get?_copyFields hs hm]

/-- What the transformation of a field leaves, if it is not null, is what the rule leaves, unless
the field goes. -/
theorem get?_applyInOrder_of_reads_nil (hr : r.Maps) (ht : transforms.Perm r.valueTransformations)
    {t : ValueTransform} {v w : Value} (hf : Dict.get? r.valueTransformations f = some t)
    (hn : t.reads = []) (hv : (copyFields mappings input (r.start input)).get? f = some v)
    (record : Object) (hw : (t.apply v record).toOption.getD v = w) (hnull : w ≠ .null) :
    (r.applyInOrder mappings transforms input).get? f =
      if f ∈ r.fieldsToRemove then none else some w := by
  have hkeys : (Dict.keys transforms).Nodup :=
    (ht.map Prod.fst).nodup_iff.mpr hr.valueTransformations.nodup
  have hm : (f, t) ∈ transforms :=
    ht.mem_iff.mpr (hr.valueTransformations.get?_eq_some_iff.mp hf)
  rw [applyInOrder, get?_removeFields, get?_fillDefaults hr.defaultValues.nodup,
    get?_transformFields_of_mem hkeys hm hn hv record, hw]
  simp only [if_neg hnull]

/--
In whatever order its mappings and its transformations are taken, a rule gives every field its
outcome; so the result does not depend on the order.
-/
theorem applyInOrder_fieldwise (hr : r.Maps) (hi : Dict.Sorted input) (hs : r.OneSource input)
    (hu : r.Undisturbed input) (hm : mappings.Perm r.fieldMappings)
    (ht : transforms.Perm r.valueTransformations) :
    (∀ f, (r.applyInOrder mappings transforms input).get? f = r.outcome input f) ∧
      r.applyInOrder mappings transforms input = r.apply input := by
  have hget {ms : List (String × String)} {ts : List (String × ValueTransform)}
      (hm : ms.Perm r.fieldMappings) (ht : ts.Perm r.valueTransformations) (f : String) :
      (r.applyInOrder ms ts input).get? f = r.outcome input f := by
    unfold applyInOrder outcome
    rw [get?_removeFields, get?_fillDefaults hr.defaultValues.nodup,
      get?_transformed hr hs hu hm ht]
  refine ⟨hget hm ht, ?_⟩
  refine (sorted_applyInOrder r _ _ hi).ext (sorted_applyInOrder r _ _ hi) fun f => ?_
  exact (hget hm ht f).trans (hget (.refl _) (.refl _) f).symm

/-- A rule with two sources for one field, a template that names another field, and a transformation
that does not apply. -/
def greeting : Rule where
  entityType := "contact"
  direction := .inbound
  mode := .selective
  fieldMappings := [("First", "first"), ("Last", "last"), ("Nick", "first")]
  valueTransformations := [("first", .format "{value} {last}"), ("last", .split "," 3)]
  defaultValues := [("status", .string "new")]
  fieldsToRemove := ["last"]

/-- The rule greets with the full name when its tables are taken from the end. -/
theorem applyInOrder_fieldwise_greeting :
    greeting.Maps ∧ greeting.OneSource [("First", .string "Ann"), ("Last", .string "Lee")] ∧
    greeting.Undisturbed [("First", .string "Ann"), ("Last", .string "Lee")] ∧
    (greeting.applyInOrder [("Nick", "first"), ("Last", "last"), ("First", "first")]
      [("last", .split "," 3), ("first", .format "{value} {last}")]
      [("First", .string "Ann"), ("Last", .string "Lee")]).get? "first" =
        some (.string "Ann Lee") := by
  have hr : greeting.Maps := ⟨by decide +kernel, by decide +kernel, by decide +kernel⟩
  have hi : Dict.Sorted [("First", Value.string "Ann"), ("Last", Value.string "Lee")] := by
    decide +kernel
  have hs : greeting.OneSource [("First", .string "Ann"), ("Last", .string "Lee")] := by
    simp [OneSource, greeting, Dict.contains, Dict.get?]
  have hu : greeting.Undisturbed [("First", .string "Ann"), ("Last", .string "Lee")] := by
    have hn : Template.names "{value} {last}" = ["last"] := rfl
    simp only [Undisturbed, greeting, List.mem_cons, List.not_mem_nil, Prod.mk.injEq, or_false]
    rintro f t (⟨rfl, rfl⟩ | ⟨rfl, rfl⟩) g hg hne
    · obtain rfl : g = "last" := by simpa [ValueTransform.reads, hn] using hg
      rfl
    · cases hg
  refine ⟨hr, hs, hu, ?_⟩
  have hm : [("Nick", "first"), ("Last", "last"), ("First", "first")].Perm
    greeting.fieldMappings := by decide
  have ht : [("last", .split "," 3), ("first", .format "{value} {last}")].Perm
    greeting.valueTransformations := by decide
  exact ((applyInOrder_fieldwise hr hi hs hu hm ht).1 "first").trans rfl

/-! ## Rules whose order matters to no input -/

structure Unambiguous (r : Rule) : Prop where
  maps : r.Maps
  oneSource : ∀ m ∈ r.fieldMappings, ∀ n ∈ r.fieldMappings, m.2 = n.2 → m.1 = n.1
  apart : ∀ f t, (f, t) ∈ r.valueTransformations → ∀ g ∈ t.reads, g ≠ f →
    Dict.get? r.valueTransformations g = none

theorem Unambiguous.apply_eq (h : r.Unambiguous) (hi : Dict.Sorted input) (order : r.Order) :
    r.apply input order = r.apply input := by
  have hs : r.OneSource input := fun m hm n hn heq _ _ => h.oneSource m hm n hn heq
  have hu : r.Undisturbed input := fun f t ht g hg hne =>
    transformed_of_get?_eq_none (h.apart f t ht g hg hne)
  exact (applyInOrder_fieldwise h.maps hi hs hu order.mappings_perm order.transforms_perm).2

theorem applyAll_eq {rules : List Rule} (h : ∀ r ∈ rules, r.Unambiguous) (hi : Dict.Sorted input)
    (orders : Orders) : applyAll rules input orders = applyAll rules input := by
  induction rules generalizing input orders with
  | nil => rfl
  | cons r rest ih =>
    obtain ⟨hr, hrest⟩ := List.forall_mem_cons.mp h
    have hsorted : Dict.Sorted (r.apply input) := sorted_applyInOrder r _ _ hi
    rw [applyAll, applyAll, hr.apply_eq hi, ih hrest hsorted]

/-- Of two sources for one field, the one that is met last wins. -/
example :
    let r : Rule := { entityType := "lead", direction := .outbound, mode := .selective
                      fieldMappings := [("first", "name"), ("nick", "name")] }
    let input : Object := [("first", .string "Ann"), ("nick", .string "Annie")]
    r.apply input = [("name", .string "Annie")] ∧
      r.apply input ⟨[("nick", "name"), ("first", "name")], [], by decide, .refl _⟩ =
        [("name", .string "Ann")] := by
  decide +kernel

end Rule
end Interchange
