import Interchange.CommandLine.Run
import Interchange.Proofs.Json.Decoding
import Interchange.Proofs.Settings.Overrides
import Interchange.Proofs.Settings.Substitution
import Interchange.Proofs.Toml.Document
import Interchange.Proofs.Toml.Quoted
import Mathlib.Data.List.Permutation

/-! # Settings as they are written

The path of the master key is put into the text of settings as it is. Read again, the text gives
that path exactly if nothing in it means anything else in a text of settings.
-/

namespace Interchange
namespace CommandLine

open Json Toml Environment

variable {path text : String} {cs rest : List Char} {env : Environment} {σ : Settings} {n : Nat}

/-! ## The text -/

/-- Lines with a line feed behind each of them. -/
def spelled (ls : List String) : List Char := ls.flatMap fun l => l.toList ++ ['\n']

theorem toList_keyLine (path : String) :
    (keyLine path).toList = "master_key_path = ".toList ++ '"' :: (path.toList ++ ['"']) := by
  have hs : "master_key_path = \"".toList = "master_key_path = ".toList ++ ['"'] := by
    decide +kernel
  have hq : "\"".toList = ['"'] := by decide
  unfold keyLine
  simp only [String.toList_append, hs, hq, List.append_assoc, List.cons_append,
    List.nil_append]

theorem toList_settingsText (path : String) : (settingsText path).toList =
    spelled (linesBefore ++ keyLine path :: linesAfter) := by
  simp [settingsText, spelled, List.flatMap_map]

theorem toList_settingsText_eq (path : String) : (settingsText path).toList =
    spelled linesBefore ++ ("master_key_path = ".toList ++
      '"' :: (path.toList ++ '"' :: '\n' :: spelled linesAfter)) := by
  simp [toList_settingsText, toList_keyLine, spelled]

/-! ## References -/

theorem linesFrom_spelled {ls : List String}
    (h : ∀ l ∈ ls, '\n' ∉ l.toList ∧ l.toList.getLast? ≠ some '\r') :
    linesFrom [] (spelled ls) = ls.map String.toList := by
  induction ls with
  | nil => rfl
  | cons l ls ih =>
    obtain ⟨⟨hn, hr⟩, hls⟩ := List.forall_mem_cons.mp h
    rw [List.map_cons, ← ih hls]
    exact linesFrom_ended hn (.feed hr) (spelled ls)

theorem no_lineEnd : ∀ l ∈ linesBefore ++ linesAfter, '\n' ∉ l.toList ∧ '\r' ∉ l.toList := by
  decide +kernel

theorem linesOf_settingsText (h : '\n' ∉ path.toList) : linesOf (settingsText path).toList =
    (linesBefore ++ keyLine path :: linesAfter).map String.toList := by
  have hl : ∀ l ∈ linesBefore ++ linesAfter, '\n' ∉ l.toList ∧ l.toList.getLast? ≠ some '\r' :=
    fun l hl => ⟨(no_lineEnd l hl).1, fun hr => (no_lineEnd l hl).2 (List.mem_of_getLast? hr)⟩
  have hk : '\n' ∉ (keyLine path).toList ∧ (keyLine path).toList.getLast? ≠ some '\r' := by
    rw [toList_keyLine, ← List.cons_append, ← List.append_assoc, List.getLast?_concat]
    simp [h]
  obtain ⟨hb, ha⟩ := List.forall_mem_append.mp hl
  rw [toList_settingsText, linesOf, if_neg (by simp [spelled]), linesFrom_spelled]
  exact List.forall_mem_append.mpr ⟨hb, List.forall_mem_cons.mpr ⟨hk, ha⟩⟩

theorem infix_of_infix_append {c : Char} {xs ys : List Char} (h : c :: cs <:+: xs ++ ys)
    (hc : c ∉ xs) : c :: cs <:+: ys := by
  rcases List.infix_append_iff.mp h with hi | hi | ⟨start, more, he, hs, hp⟩
  · exact absurd (hi.subset List.mem_cons_self) hc
  · exact hi
  · cases start with
    | nil => exact he ▸ hp.isInfix
    | cons d start =>
      obtain ⟨rfl, -⟩ := List.cons.inj he
      exact absurd (hs.subset List.mem_cons_self) hc

theorem infix_of_infix_concat {c : Char} {xs ys : List Char} (h : xs <:+: ys ++ [c])
    (hc : c ∉ xs) : xs <:+: ys := by
  rcases List.infix_concat_iff.mp h with hs | hi
  · rcases List.suffix_concat_iff.mp hs with rfl | ⟨xs, rfl, -⟩
    · exact List.nil_infix
    · exact absurd (by simp) hc
  · exact hi

theorem unreferring_keyLine_iff : Unreferring (keyLine path).toList ↔
    ∀ name, IsName name → ¬ marking.text name <:+: path.toList := by
  have hc : ¬ Comment (keyLine path).toList := by
    rw [← isComment_iff, toList_keyLine]
    generalize path.toList ++ ['"'] = cs
    have hm : isComment ("master_key_path = ".toList ++ '"' :: cs) = false := by cbv
    rw [hm]
    exact Bool.false_ne_true
  have hk : (keyLine path).toList = ("master_key_path = ".toList ++ ['"']) ++
      (path.toList ++ ['"']) := by
    rw [toList_keyLine, List.append_assoc, List.singleton_append]
  rw [Unreferring, hk, or_iff_right (hk ▸ hc)]
  refine forall₂_congr fun name hn => not_congr ⟨fun hi => ?_, fun hi => ?_⟩
  · refine infix_of_infix_concat (infix_of_infix_append hi (by decide +kernel)) ?_
    have hq : '"' ∉ name := fun hm => absurd ((isName_iff.mp hn).2 _ hm) (by decide)
    simp [Text.Marking.text, marking, hq]
  · exact (hi.trans (List.prefix_append ..).isInfix).trans (List.suffix_append ..).isInfix

/-! ## The document -/

def tableBefore : Table :=
  [("application", .table .header [("log_level", .value (.string "info"))]),
    ("security", .table .header [])]

def tableWith (path : String) : Table :=
  [("application", .table .header [("log_level", .value (.string "info"))]),
    ("security", .table .header [("master_key_path", .value (.string path))])]

theorem readLines_before (n : Nat) (cs : List Char) :
    Document.readLines (n + 7) {} (spelled linesBefore ++ cs) =
      Document.readLines n ⟨tableBefore, ["security"]⟩ cs := by
  cbv

theorem statement?_key (cs : List Char) :
    statement? ("master_key_path = ".toList ++ '"' :: cs) = (text? ('"' :: cs)).bind fun r =>
      (lineEnd? r.2).map fun rest => (.entry ["master_key_path"] (.string r.1), rest) := by
  have hk : keys? Toml.depthMax ("master_key_path = ".toList ++ '"' :: cs) =
      some (["master_key_path"], '=' :: ' ' :: '"' :: cs) := by cbv
  exact statement?_text (by decide) hk

def statementsAfter : List Statement :=
  [.entry ["secrets_path"] (.string ".switchyard/secrets.json"),
    .entry ["default_auth_type"] (.string "oauth2"),
    .header ["registry"],
    .entry ["path"] (.string ".switchyard/registry.json"),
    .header ["schemas"],
    .header ["circuit_breaker"],
    .entry ["failure_threshold"] (.ofInt 5),
    .entry ["reset_timeout_seconds"] (.ofInt 60),
    .header ["logging"],
    .entry ["local_enabled"] (.bool false),
    .entry ["local_path"] (.string "/var/log/switchyard"),
    .entry ["local_rotation"] (.string "daily")]

theorem statements?_after : statements? 20 (spelled linesAfter) = some statementsAfter := by
  decide +kernel

def tableAfter (path : String) : Table :=
  [("application", .table .header [("log_level", .value (.string "info"))]),
    ("circuit_breaker", .table .header [("failure_threshold", .value (.ofInt 5)),
      ("reset_timeout_seconds", .value (.ofInt 60))]),
    ("logging", .table .header [("local_enabled", .value (.bool false)),
      ("local_path", .value (.string "/var/log/switchyard")),
      ("local_rotation", .value (.string "daily"))]),
    ("registry", .table .header [("path", .value (.string ".switchyard/registry.json"))]),
    ("schemas", .table .header []),
    ("security", .table .header [("default_auth_type", .value (.string "oauth2")),
      ("master_key_path", .value (.string path)),
      ("secrets_path", .value (.string ".switchyard/secrets.json"))])]

theorem foldlM_after (path : String) :
    statementsAfter.foldlM Document.take ⟨tableWith path, ["security"]⟩ =
      some ⟨tableAfter path, ["logging"]⟩ := by
  rfl

theorem readLines_text (n : Nat) (cs : List Char) : Document.readLines (n + 8) {}
      (spelled linesBefore ++ ("master_key_path = ".toList ++ '"' :: cs)) =
    (text? ('"' :: cs)).bind fun r => (lineEnd? r.2).bind fun rest =>
      (statements? n rest).bind fun ss =>
        ss.foldlM Document.take ⟨tableWith r.1, ["security"]⟩ := by
  have hm : "master_key_path = ".toList = 'm' :: "aster_key_path = ".toList := by decide +kernel
  have ht : ∀ s, Document.take ⟨tableBefore, ["security"]⟩
      (.entry ["master_key_path"] (.string s)) = some ⟨tableWith s, ["security"]⟩ := fun _ => rfl
  have hk := statement?_key cs
  rw [hm, List.cons_append] at hk
  rw [readLines_before, readLines_eq, hm, List.cons_append,
    statements?_cons (by decide) (by decide), hk]
  simp only [Option.bind_assoc, Option.map_eq_bind, Function.comp_apply, Option.bind_some,
    List.foldlM_cons, Option.bind_eq_bind, ht]

/-- What becomes of the text, if something else stands for the path. -/
theorem read?_text (cs : List Char) : ∃ n, 20 ≤ n ∧
    Toml.read? (String.ofList (spelled linesBefore ++ ("master_key_path = ".toList ++ '"' :: cs))) =
      ((text? ('"' :: cs)).bind fun r => (lineEnd? r.2).bind fun rest =>
        (statements? n rest).bind fun ss =>
          ss.foldlM Document.take ⟨tableWith r.1, ["security"]⟩).map fun d => d.table.value := by
  have hl : 27 ≤ (spelled linesBefore).length := by decide +kernel
  have hh : (spelled linesBefore).head? = some '#' := by decide +kernel
  obtain ⟨k, hk⟩ := Nat.exists_eq_add_of_le hl
  refine ⟨20 + (k + ("master_key_path = ".toList ++ '"' :: cs).length), Nat.le_add_right .., ?_⟩
  have hn : (spelled linesBefore ++ ("master_key_path = ".toList ++ '"' :: cs)).length + 1 =
      20 + (k + ("master_key_path = ".toList ++ '"' :: cs).length) + 8 := by
    rw [List.length_append, hk]
    omega
  rw [read?_eq, String.toList_ofList, hn, readLines_text]
  rw [String.toList_ofList, List.head?_append, hh]
  nofun

/-! ## The settings -/

theorem get?_map_shorten (ms : List (String × Value)) (k : String) :
    Dict.get? (ms.map fun m =>
      (m.1, Settings.shorten ((Settings.sections.lookup m.1).getD []) m.2)) k =
    (Dict.get? ms k).map (Settings.shorten ((Settings.sections.lookup k).getD [])) := by
  induction ms with
  | nil => rfl
  | cons m ms ih =>
    obtain ⟨k', v⟩ := m
    rw [List.map_cons, Dict.get?_cons, Dict.get?_cons, ih]
    split
    · next hk => rw [hk]; rfl
    · rfl

theorem masterKeyPath_of_valueAt? {t : Table} {s : String} (h : Settings.ofToml? t.value = some σ)
    (hv : t.valueAt? ["security", "master_key_path"] = some (.string s)) :
    σ.security.masterKeyPath = s := by
  obtain ⟨members, hm, hs⟩ := Table.get?_of_valueAt? hv
  simp only [Table.value, Settings.ofToml?, Settings.ofJson?, Option.bind_eq_bind,
    Option.bind_eq_some_iff] at h
  obtain ⟨fs, hfs, application, -, security, hsec, registry, -, schemas, -, breaker, -,
    logging, -, h⟩ := h
  cases h
  have hg : fs.get? "security" = _ := Decode.get?_of_record hfs (by decide) (by decide)
  rw [Decode.written, get?_map_shorten, hm, Option.map_some] at hg
  rw [Decode.fieldOr, hg] at hsec
  simp only [Settings.shorten, SecuritySettings.ofJson?, Option.bind_eq_bind,
    Option.bind_eq_some_iff] at hsec
  obtain ⟨fs', hfs', path, hp, key, -, secrets, -, kind, -, hsec⟩ := hsec
  cases hsec
  have hg' : fs'.get? "master_key_path" = _ :=
    Decode.get?_of_record hfs' (by decide) (by decide)
  rw [Decode.written, hs] at hg'
  rw [Decode.fieldOr, hg'] at hp
  cases hp
  rfl

def sectioned (application breaker logging registry schemas security : Object) : Object :=
  [("application", .object application), ("circuit_breaker", .object breaker),
    ("logging", .object logging), ("registry", .object registry), ("schemas", .object schemas),
    ("security", .object security)]

theorem ofToml?_sectioned (application breaker logging registry schemas security : Object) :
    Settings.ofToml? (.object
      (sectioned application breaker logging registry schemas security)) = (do
    let application ← ApplicationSettings.ofJson? (.object application)
    let security ← SecuritySettings.ofJson? (.object security)
    let registry ← RegistrySettings.ofJson? (.object registry)
    let schemas ← SchemaSettings.ofJson? (.object schemas)
    let circuitBreaker ← BreakerSettings.ofJson? (.object breaker)
    let logging ← LogSettings.ofJson? (.object logging)
    pure { application, security, registry, schemas, circuitBreaker, logging }) := by
  have hr : Decode.record (Settings.sections.map Prod.fst)
      (.object (sectioned application breaker logging registry schemas security)) =
      some (sectioned application breaker logging registry schemas security) := rfl
  change Settings.ofJson? (.object
    (sectioned application breaker logging registry schemas security)) = _
  rw [Settings.ofJson?, hr]
  rfl

theorem ofToml?_tableAfter (path : String) : Settings.ofToml? (tableAfter path).value =
    some { security.masterKeyPath := path } := by
  let keyed : Object := [("default_auth_type", .string "oauth2"),
    ("master_key_path", .string path), ("secrets_path", .string ".switchyard/secrets.json")]
  have hs : SecuritySettings.ofJson? (.object keyed) = some { masterKeyPath := path } := rfl
  refine (ofToml?_sectioned [("log_level", .string "info")]
    [("failure_threshold", .ofInt 5), ("reset_timeout_seconds", .ofInt 60)]
    [("local_enabled", .bool false), ("local_path", .string "/var/log/switchyard"),
      ("local_rotation", .string "daily")]
    [("path", .string ".switchyard/registry.json")] [] keyed).trans ?_
  rw [hs]
  rfl

theorem validate_path (path : String) :
    ({ security.masterKeyPath := path } : Settings).validate =
      if Text.allBlank path then .error .blankMasterKeyPath else .ok () := by
  have ha : ({} : ApplicationSettings).validate = .ok () := by decide +kernel
  have hr : ({} : RegistrySettings).validate = .ok () := by decide +kernel
  have hb : ({} : BreakerSettings).validate = .ok () := by decide +kernel
  have hl : ({} : LogSettings).validate = .ok () := by decide +kernel
  have hs : ({ masterKeyPath := path } : SecuritySettings).validate =
      if Text.allBlank path then .error .blankMasterKeyPath else .ok () := by
    have hp : Text.allBlank ({} : SecuritySettings).secretsPath = false := by decide +kernel
    have hk : AuthKind.parse ({} : SecuritySettings).defaultAuthType = .ok .oauth2 := by
      decide +kernel
    rw [SecuritySettings.validate, hk]
    simp only [true_and, hp, Bool.false_eq_true, if_false]
  rw [Settings.validate, ha, hs, hr, hb, hl]
  split <;> rfl

/-! ## Paths that are carried over -/

/-- A path that means only itself in a text of settings: it is not blank, its characters stand for
themselves between quotes, and nothing in it is a reference to the environment. -/
structure Carried (path : String) : Prop where
  not_blank : Text.allBlank path = false
  verbatim : ∀ c ∈ path.toList, Verbatim c
  no_reference : ∀ name, IsName name → ¬ marking.text name <:+: path.toList

theorem getLast?_spelled {ls : List String} (h : ls ≠ []) : (spelled ls).getLast? = some '\n' := by
  rcases List.eq_nil_or_concat ls with rfl | ⟨ls, l, rfl⟩
  · exact absurd rfl h
  · simp [spelled]

theorem return_not_mem_spelled {ls : List String} (h : ∀ l ∈ ls, '\r' ∉ l.toList) :
    '\r' ∉ spelled ls := by
  simpa [spelled] using h

theorem getLast?_settingsText (path : String) :
    (settingsText path).toList.getLast? = some '\n' := by
  rw [toList_settingsText]
  exact getLast?_spelled (by simp)

theorem withFeeds_settingsText (path : String) : withFeeds (settingsText path).toList =
    spelled linesBefore ++ ("master_key_path = ".toList ++
      '"' :: (withFeeds path.toList ++ '"' :: '\n' :: spelled linesAfter)) := by
  obtain ⟨hb, ha⟩ := List.forall_mem_append.mp fun l hl => (no_lineEnd l hl).2
  have hm : '\r' ∉ "master_key_path = ".toList := by decide +kernel
  have ha : '\r' ∉ '"' :: '\n' :: spelled linesAfter := by
    simpa using return_not_mem_spelled ha
  rw [toList_settingsText_eq, withFeeds_append_of_not_mem (return_not_mem_spelled hb),
    withFeeds_append_of_not_mem hm, withFeeds_cons (fun hc => absurd hc (by decide)),
    withFeeds_append _ (by simp), withFeeds_of_not_mem ha]

theorem unreferring_lines (hr : ∀ name, IsName name → ¬ marking.text name <:+: path.toList) :
    ∀ l ∈ linesBefore ++ keyLine path :: linesAfter, Unreferring l.toList := by
  have h : ∀ l ∈ linesBefore ++ linesAfter, lineReferences (parts l.toList) = [] := by
    decide +kernel
  obtain ⟨hb, ha⟩ := List.forall_mem_append.mp fun l hl => unreferring_iff.mpr (h l hl)
  exact List.forall_mem_append.mpr
    ⟨hb, List.forall_mem_cons.mpr ⟨unreferring_keyLine_iff.mpr hr, ha⟩⟩

theorem newline_not_mem (hv : ∀ c ∈ path.toList, Verbatim c) : '\n' ∉ path.toList :=
  fun hm => (hv _ hm).ne_newline rfl

theorem settings_of_verbatim (hv : ∀ c ∈ path.toList, Verbatim c) :
    (Toml.read? (String.ofList (withFeeds (settingsText path).toList))).bind Settings.ofToml? =
      some { security.masterKeyPath := path } := by
  obtain ⟨n, hn, hread⟩ := read?_text (path.toList ++ '"' :: '\n' :: spelled linesAfter)
  have he : lineEnd? ('\n' :: spelled linesAfter) = some (spelled linesAfter) := rfl
  rw [withFeeds_settingsText, withFeeds_line (newline_not_mem hv), hread,
    text?_of_verbatim hv (by simp), Option.bind_some, he, Option.bind_some,
    statements?_mono statements?_after hn, Option.bind_some, String.ofList_toList,
    foldlM_after]
  exact ofToml?_tableAfter path

theorem verbatim_of_settings
    (h : (Toml.read? (String.ofList (withFeeds (settingsText path).toList))).bind
      Settings.ofToml? = some σ) (hp : σ.security.masterKeyPath = path) :
    ∀ c ∈ path.toList, Verbatim c := by
  have hq : ¬ threeQuotes <:+: '"' :: '\n' :: spelled linesAfter := by decide +kernel
  obtain ⟨n, -, hread⟩ := read?_text (withFeeds path.toList ++ '"' :: '\n' :: spelled linesAfter)
  rw [withFeeds_settingsText, hread] at h
  obtain ⟨v, hv, h⟩ := Option.bind_eq_some_iff.mp h
  obtain ⟨d, hd, rfl⟩ := Option.map_eq_some_iff.mp hv
  obtain ⟨⟨s, rest⟩, ht, hd⟩ := Option.bind_eq_some_iff.mp hd
  obtain ⟨rest', -, hd⟩ := Option.bind_eq_some_iff.mp hd
  obtain ⟨ss, -, hd⟩ := Option.bind_eq_some_iff.mp hd
  -- the path is given before all that follows it, and a value that has been given stays
  have hs := keeps_of_foldlM hd ["security", "master_key_path"] (.string s) rfl
  obtain rfl : s = path := (masterKeyPath_of_valueAt? h hs).symm.trans hp
  obtain ⟨he, hv⟩ := eq_of_text? ht hq (length_withFeeds_le _)
  exact he ▸ hv

theorem read_eq_ok_iff : Settings.read env text = .ok σ ↔ ∃ out s,
    env.substitute text = .ok out ∧ (Toml.read? out).bind Settings.ofToml? = some s ∧
      (s.override env).validate = .ok () ∧ s.override env = σ := by
  rw [Settings.read]
  cases env.substitute text with
  | error names =>
    constructor
    · intro h
      cases h
    · rintro ⟨out, s, h, -⟩
      cases h
  | ok out =>
    simp only [pure_bind, Except.ok.injEq, exists_eq_left', exists_and_left]
    cases (Toml.read? out).bind Settings.ofToml? with
    | none =>
      constructor
      · intro h
        cases h
      · rintro ⟨s, h, -⟩
        cases h
    | some s =>
      simp only [Option.some.injEq, exists_eq_left']
      cases (s.override env).validate with
      | error p =>
        constructor
        · intro h
          cases h
        · rintro ⟨h, -⟩
          cases h
      | ok => exact ⟨fun h => ⟨rfl, Except.ok.inj h⟩, fun h => congrArg _ h.2⟩

theorem read_of_carried (h : Carried path)
    (he : ∀ name ∈ Settings.overridingVariables, Dict.get? env name = none) :
    Settings.read env (settingsText path) = .ok { security.masterKeyPath := path } := by
  have hl := linesOf_settingsText (newline_not_mem h.verbatim)
  have hn : ∀ line ∈ linesOf (settingsText path).toList, Unreferring line := by
    rw [hl]
    exact List.forall_mem_map.mpr (unreferring_lines h.no_reference)
  refine read_eq_ok_iff.mpr ⟨_, _,
    substitute_of_unreferring (getLast?_settingsText path) hn env,
    settings_of_verbatim h.verbatim, ?_, Settings.override_eq_self he _⟩
  rw [Settings.override_eq_self he, validate_path, h.not_blank]
  rfl

theorem carried_of_read (h : Settings.read [] (settingsText path) = .ok σ)
    (hp : σ.security.masterKeyPath = path) : Carried path := by
  have he : ∀ s : Settings, s.override [] = s := Settings.override_eq_self fun _ _ => rfl
  obtain ⟨out, s, hs, ht, hv, rfl⟩ := read_eq_ok_iff.mp h
  rw [he] at hv hp
  -- no variable is set, so that the text refers to none, and it is the text itself that is read
  have hn := unreferring_of_substitute hs
  have hout := hs.symm.trans (substitute_of_unreferring (getLast?_settingsText path) hn [])
  rw [Except.ok.inj hout] at ht
  have hverb := verbatim_of_settings ht hp
  have hkey : Unreferring (keyLine path).toList := by
    refine hn _ ?_
    rw [linesOf_settingsText (newline_not_mem hverb)]
    exact List.mem_map_of_mem (List.mem_append_right _ List.mem_cons_self)
  refine ⟨?_, hverb, unreferring_keyLine_iff.mp hkey⟩
  rw [settings_of_verbatim hverb, Option.some.injEq] at ht
  rw [← ht, validate_path] at hv
  split at hv
  · cases hv
  · next hb => exact Bool.eq_false_iff.mpr hb

end CommandLine
end Interchange
