import Interchange.CommandLine.Command
import Interchange.Proofs.Secret.Encryptor

/-! # Names and values among the arguments

What the program makes of the arguments that tell it to store secrets: the names are not blank, and
they do not depend on the values. Nor does it depend on the values which of the pairs is the first
to be refused; but what is told about it holds its value.
-/

namespace Interchange
namespace CommandLine

variable {env : Environment} {systemId : String} {entries : List (String × String)}

/-! ## Names -/

theorem not_blank_of_pair? {text : String} {entry : String × String} (h : pair? text = some entry) :
    Text.allBlank entry.1 = false := by
  obtain ⟨⟨name, value⟩, -, h⟩ := Option.bind_eq_some_iff.mp h
  dsimp only at h
  split at h
  · cases h
  · next hn =>
    cases h
    exact Text.allBlank_trimmed hn

theorem not_blank_of_ofArguments? {given : Dict (List String)} {path : List String}
    (h : Command.ofArguments? given path = some (.storeSecrets systemId entries)) :
    ∀ name ∈ Dict.keys entries, Text.allBlank name = false := by
  unfold Command.ofArguments? at h
  dsimp only at h
  split at h <;> cases h
  intro name hn
  obtain ⟨entry, he, rfl⟩ := List.mem_map.mp hn
  obtain ⟨text, -, ht⟩ := List.mem_filterMap.mp he
  exact not_blank_of_pair? ht

theorem not_blank_of_invocation {arguments : List String} {i : Invocation}
    (h : Invocation.ofArguments env arguments = .ok i)
    (hc : i.command = .storeSecrets systemId entries) :
    ∀ name ∈ Dict.keys entries, Text.allBlank name = false := by
  unfold Invocation.ofArguments at h
  cases hr : Shape.program.read arguments with
  | error u =>
    rw [hr] at h
    cases h
  | ok r =>
    obtain ⟨given, path⟩ := r
    rw [hr] at h
    simp only [bind, Except.bind] at h
    cases ho : Command.ofArguments? given path with
    | none =>
      rw [ho] at h
      cases h
    | some command =>
      rw [ho] at h
      cases h
      exact not_blank_of_ofArguments? (ho.trans (congrArg some hc))

/-! ## Reading pairs -/

def unpaired? (given : List String) : Option String := given.find? fun p => (pair? p).isNone

def Usage.pair (text : String) : Usage := .refused Shape.pairs.label Shape.pairs.form text

/-- What is told about a value that is refused holds the value. -/
theorem Usage.complaints_refused_inj {label form value value' : String} :
    (refused label form value).complaints = (refused label form value').complaints ↔
      value = value' := by
  refine ⟨fun h => ?_, fun h => h ▸ rfl⟩
  have ht := congrArg String.toList (List.head_eq_of_cons_eq h)
  simp only [String.toList_append, List.append_assoc] at ht
  have hl := congrArg List.length ht
  simp only [List.length_append] at hl
  have hv := List.append_cancel_left ht
  exact String.toList_injective (List.append_inj hv (by omega)).1

/-- An argument that is not taken for an option. -/
def Plain (argument : String) : Prop := argument.toList.head? ≠ some '-'

instance (argument : String) : Decidable (Plain argument) :=
  inferInstanceAs (Decidable (_ ≠ _))

namespace Scan

/-- What has been read of a command to store secrets, once there are some values. -/
def storing (systemId : String) (values : List String) : Scan where
  given := [("system_id", [systemId])]
  current := some (Shape.pairs, values)
  collecting := true
  filled := 1

theorem take_of_plain {s : Scan} {argument : String} (h : Plain argument) (ha : s.awaiting = false)
    (shape : Shape) : s.take shape argument = s.takeValue shape argument := by
  unfold take
  split
  · rfl
  · split
    · next hl => exact absurd (by rw [hl]; rfl) h
    · next hl => exact absurd (by rw [hl]; rfl) h
    · next hl => exact absurd (by rw [hl]; rfl) h
    · rw [ha]

end Scan

namespace Shape

def storing : Shape := leaf [] [system, pairs]

def secrets : Shape := group [("store", storing), ("list", leaf [] [system])]

theorem take_storing {values : List String} {p : String} (hp : Plain p) :
    (Scan.storing systemId values).take storing p =
      .ok (.storing systemId (values ++ [p])) := by
  rw [Scan.take_of_plain hp rfl]
  rfl

theorem readFrom_cons (s : Scan) (argument : String) (rest : List String) :
    storing.readFrom s (argument :: rest) = (s.take storing argument).bind
      fun s => storing.readFrom s rest := by
  have hc : storing.commands = [] := rfl
  rw [readFrom, hc]
  simp only [List.lookup_nil, ite_self, ne_eq, not_true_eq_false, false_and, and_false, if_false]
  rfl

theorem readFrom_command (shape command : Shape) {name : String}
    (hc : shape.commands.lookup name = some command) (hg : shape.complete {} = .ok [])
    (rest : List String) : shape.readFrom {} (name :: rest) =
      (command.readFrom {} rest).map fun r => (Dict.insertAll [] r.1, name :: r.2) := by
  rw [readFrom]
  simp only [hc, hg, Bool.false_eq_true, or_self, if_false]
  cases command.readFrom {} rest <;> rfl

/-- What is made of a system and of pairs: the first one that is not a pair is refused. -/
def stored (systemId : String) (given : List String) : Except Usage (Dict (List String)) :=
  match unpaired? given with
  | some p => .error (.pair p)
  | none => .ok [("pairs", given), ("system_id", [systemId])]

theorem insert_pairs (systems values : List String) :
    Dict.insert [("system_id", systems)] "pairs" values =
      [("pairs", values), ("system_id", systems)] := rfl

theorem insertAll_pairs (systems values : List String) :
    Dict.insertAll [] [("pairs", values), ("system_id", systems)] =
      [("pairs", values), ("system_id", systems)] := by
  have hne : ¬ "pairs" = "system_id" := by decide
  have hlt : ¬ "system_id" < "pairs" := by decide
  simp only [Dict.insertAll, List.foldl_cons, List.foldl_nil, Dict.insert, if_neg hne, if_neg hlt]

theorem complete_storing (systemId : String) {values : List String} (hne : values ≠ []) :
    storing.complete (.storing systemId values) = stored systemId values := by
  have hs : (Scan.storing systemId values).settle = (stored systemId values).map fun given =>
      { Scan.storing systemId values with current := none, given } := by
    rw [stored, unpaired?]
    cases hv : values.find? fun p => (pair? p).isNone <;>
      simp [Scan.settle, Scan.storing, Usage.pair, pairs, hv, hne, Dict.get?, insert_pairs,
        Except.map]
  rw [complete, hs]
  unfold stored
  split <;> rfl

theorem readFrom_storing (systemId : String) (values : List String) {more : List String}
    (hm : ∀ p ∈ more, Plain p) (hne : values ≠ []) :
    storing.readFrom (.storing systemId values) more =
      (stored systemId (values ++ more)).map fun given => (given, []) := by
  induction more generalizing values with
  | nil =>
    rw [readFrom, complete_storing systemId hne, List.append_nil]
    cases stored systemId values <;> rfl
  | cons p more ih =>
    obtain ⟨hp, hm⟩ := List.forall_mem_cons.mp hm
    have hstep : storing.readFrom (.storing systemId values) (p :: more) =
        storing.readFrom (.storing systemId (values ++ [p])) more := by
      rw [readFrom_cons, take_storing hp]
      rfl
    rw [hstep, ih _ hm (by simp), List.append_assoc, List.singleton_append]

theorem read_storing {given : List String} (hs : Plain systemId) (hne : given ≠ [])
    (hp : ∀ p ∈ given, Plain p) :
    program.read ("secrets" :: "store" :: systemId :: given) =
      (stored systemId given).map fun given => (given, ["secrets", "store"]) := by
  obtain ⟨p, more, rfl⟩ := List.exists_cons_of_ne_nil hne
  obtain ⟨hp, hplain⟩ := List.forall_mem_cons.mp hp
  have hmore := readFrom_storing systemId [p] hplain nofun
  have hfirst : Scan.take {} storing systemId =
      .ok { current := some (system, [systemId]), filled := 1 } := by
    rw [Scan.take_of_plain hs rfl]
    rfl
  have hsecond : Scan.take { current := some (system, [systemId]), filled := 1 } storing p =
      .ok (.storing systemId [p]) := by
    rw [Scan.take_of_plain hp rfl]
    rfl
  have hleaf : storing.readFrom {} (systemId :: p :: more) =
      (stored systemId (p :: more)).map fun given => (given, []) := by
    rw [readFrom_cons, hfirst, Except.bind, readFrom_cons, hsecond]
    exact hmore
  refine (readFrom_command program secrets rfl rfl _).trans ?_
  rw [readFrom_command secrets storing rfl rfl, hleaf, stored]
  split
  · rfl
  · simp only [Except.map, insertAll_pairs]

end Shape

/-- To store secrets, with the settings and the log level that an environment names. -/
def Invocation.storing (env : Environment) (systemId : String) (given : List String) :
    Invocation where
  config := (Dict.get? env "SWITCHYARD_CONFIG").getD defaultConfig
  logLevel := Dict.get? env "SWITCHYARD_LOG_LEVEL"
  command := .storeSecrets systemId (given.filterMap pair?)

theorem ofArguments_storing {given : List String} (hs : Plain systemId) (hne : given ≠ [])
    (hp : ∀ p ∈ given, Plain p) :
    Invocation.ofArguments env ("secrets" :: "store" :: systemId :: given) =
      match unpaired? given with
      | some p => .error (.pair p)
      | none => .ok (.storing env systemId given) := by
  rw [Invocation.ofArguments, Shape.read_storing hs hne hp, Shape.stored]
  split <;> rfl

/-! ## Other values -/

/-- Two arguments are the same up to the first `=`. -/
def SameName (p p' : String) : Prop :=
  p = p' ∨ ∃ name value value', Text.cutAt '=' p.toList = some (name, value) ∧
    Text.cutAt '=' p'.toList = some (name, value')

variable {p p' : String} {given given' : List String}

theorem SameName.map_pair? (h : SameName p p') :
    (pair? p').map Prod.fst = (pair? p).map Prod.fst := by
  rcases h with rfl | ⟨name, value, value', hc, hc'⟩
  · rfl
  · by_cases hn : Text.trimmed name = [] <;> simp [pair?, hc, hc', hn]

/-- The texts that are refused stand in the same place. -/
theorem unpaired?_of_sameName (h : List.Forall₂ SameName given given') :
    Option.Rel SameName (unpaired? given) (unpaired? given') := by
  induction h with
  | nil => exact .none
  | @cons p p' _ _ hp _ ih =>
    have hi : (pair? p').isNone = (pair? p).isNone := by
      rw [← Option.isNone_map, hp.map_pair?, Option.isNone_map]
    rw [unpaired?, unpaired?, List.find?_cons, List.find?_cons, hi]
    cases (pair? p).isNone with
    | true => exact .some hp
    | false => exact ih

theorem keys_filterMap_pair? (h : List.Forall₂ SameName given given') :
    Dict.keys (given.filterMap pair?) = Dict.keys (given'.filterMap pair?) := by
  rw [Dict.keys, Dict.keys, List.map_filterMap, List.map_filterMap]
  induction h with
  | nil => rfl
  | cons hp _ ih => rw [List.filterMap_cons, List.filterMap_cons, hp.map_pair?, ih]

end CommandLine
end Interchange
