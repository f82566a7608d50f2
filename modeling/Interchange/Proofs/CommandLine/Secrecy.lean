import Interchange.CommandLine.Program
import Interchange.Proofs.CommandLine.Agreement
import Interchange.Proofs.CommandLine.Pairs
import Interchange.Proofs.Security.Names

/-! # Secrets on the command line

Main statement: what the program prints when secrets are stored or listed, how it ends, and the keys
that are in the file of the secrets then, tell nothing about the secrets, unless a pair is refused:
such a pair is told with its value.
-/

namespace Interchange
namespace CommandLine

open Printing SecretStore

/-! ## Commands -/

theorem EntryOrder.perm_keys (order : EntryOrder) (entries : List (String × String)) :
    (Dict.keys (order.list entries)).Perm (Dict.keys entries) := (order.perm entries).map Prod.fst

/-- Two commands do the same, up to the values of the secrets that are to be stored. -/
inductive Command.SameNames : Command → Command → Prop
  | store (systemId : String) {entries entries' : List (String × String)} :
      Dict.keys entries = Dict.keys entries' →
      SameNames (.storeSecrets systemId entries) (.storeSecrets systemId entries')
  | list (systemId : String) : SameNames (.listSecrets systemId) (.listSecrets systemId)

/-- Two settings differ in the text of the master key at most, and two trees in the text of its file
and in the sealed secrets. -/
def SameButSecrets (fs fs' : Files) (σ σ' : Settings) : Prop :=
  σ.security.SameButKey σ'.security ∧ Files.Alike σ.security.SameButSecrets fs fs'

/-- Two programs agree on files that `P` relates, and there are the same keys in a file then. -/
def KeepKeys {α : Type} (P : Files → Files → Prop) (path : String) (p p' : Printing α) : Prop :=
  Agree P (fun a b fs fs' => a = b ∧ storedKeys fs path = storedKeys fs' path)
    (fun fs fs' => storedKeys fs path = storedKeys fs' path) p p'

/-- Under the file that settings name for the secrets there are the same keys in two trees. -/
def KeysAgree (r : Result Settings) (fs fs' : Files) : Prop :=
  ∀ σ, r = .ok σ → storedKeys fs σ.security.secretsPath = storedKeys fs' σ.security.secretsPath

/-- Two programs agree on two trees, and there are the same keys in the file of the secrets then. -/
def Unseen (r : Result Settings) (fs fs' : Files) (p p' : Printing Nat) : Prop :=
  Agree (fun a b => a = fs ∧ b = fs') (fun a b c d => a = b ∧ KeysAgree r c d) (KeysAgree r) p p'

section Stores

variable {path systemId : String} {t t' : Security} {entries entries' : List (String × String)}

theorem keepKeys_storeCredentials (ht : SameNames path t.store t'.store)
    (he : (Dict.keys entries).Perm (Dict.keys entries'))
    (hn : ∀ name ∈ Dict.keys entries, Text.allBlank name = false)
    (nonces nonces' : Nat → List UInt8) :
    KeepKeys (Files.Alike (KeysKept path)) path
      (commit fun fs =>
        let (r, _, fs) := t.storeCredentials fs nonces systemId entries
        (r, fs))
      (commit fun fs =>
        let (r, _, fs) := t'.storeCredentials fs nonces' systemId entries'
        (r, fs)) := by
  refine agree_commit (fun c d h => ?_) fun _ _ h => h
  obtain ⟨r, _, _, left, left', hr, hr', hk⟩ :=
    Security.storeCredentials_alike ht h he hn nonces nonces' systemId
  simp only [hr, hr']
  exact ⟨Result.alike_eq_iff.mpr rfl, hk⟩

/-- Printing the same lines does no harm. -/
theorem keepKeys_lines (path : String) (keys : List String) :
    KeepKeys (Files.Alike (KeysKept path)) path
      (do
        for key in keys do line ("  " ++ key)
        pure 0)
      (do
        for key in keys do line ("  " ++ key)
        pure 0) := by
  refine (agree_forIn fun key => ?_).bind fun _ _ => ?_
  · exact (agree_line _).bind fun _ _ => agree_pure fun _ _ h => ⟨rfl, rfl, h⟩
  · exact agree_pure fun _ _ h => ⟨rfl, storedKeys_eq h⟩

end Stores

section Commands

variable {s s' : Surroundings} {config config' systemId : String} {fs fs' : Files}
  {entries entries' : List (String × String)} {order order' : EntryOrder}
  (hr : Result.Alike (SameButSecrets fs fs') (Settings.load fs s.environment config)
    (Settings.load fs' s'.environment config'))
  (ha : ∀ σ, Settings.load fs s.environment config = .ok σ → σ.security.Apart)

theorem agree_securityOf {σ σ' : Settings} (hσ : σ.security.SameButKey σ'.security)
    (ha : σ.security.Apart) :
    Agree (Files.Alike σ.security.SameButSecrets)
      (fun t t' a b => SameNames σ.security.secretsPath t.store t'.store ∧
        Files.Alike (KeysKept σ.security.secretsPath) a b)
      (fun a b => storedKeys a σ.security.secretsPath = storedKeys b σ.security.secretsPath)
      (securityOf s σ) (securityOf s' σ') :=
  agree_commit (fun _ _ h => Security.ofSettings_alike hσ ha h _ _) fun _ _ h => storedKeys_eq h

include hr

theorem agree_settingsOf :
    Agree (fun a b => a = fs ∧ b = fs')
      (fun σ σ' a b => Settings.load fs s.environment config = .ok σ ∧ SameButSecrets a b σ σ')
      (KeysAgree (Settings.load fs s.environment config))
      (settingsOf s config) (settingsOf s' config') := by
  refine agree_files.bind fun a b => ?_
  rintro lines _ _ ⟨rfl, rfl, rfl, rfl⟩
  revert hr
  generalize Settings.load a s.environment config = r, Settings.load b s'.environment config' = r'
  rintro (hσ | e)
  · exact .value ⟨rfl, hσ⟩
  · exact .stop _ nofun

include ha

/-- Programs that open the secrets of their settings agree, if what they do then agrees for all
stores with the same keys. -/
theorem unseen_of_keepKeys {k k' : Security → Printing Nat}
    (hk : ∀ path t t', SameNames path t.store t'.store →
      KeepKeys (Files.Alike (KeysKept path)) path (k t) (k' t')) :
    Unseen (Settings.load fs s.environment config) fs fs'
      (do
        let settings ← settingsOf s config
        let security ← securityOf s settings
        k security)
      (do
        let settings ← settingsOf s' config'
        let security ← securityOf s' settings
        k' security) := by
  refine (agree_settingsOf hr).bind fun σ σ' => ?_
  rintro lines a b ⟨hload, hσ, hfiles⟩
  have hkeys : ∀ c d, storedKeys c σ.security.secretsPath = storedKeys d σ.security.secretsPath →
      KeysAgree (Settings.load fs s.environment config) c d := by
    rintro c d hk τ hτ
    cases hload.symm.trans hτ
    exact hk
  have hopened : KeepKeys (Files.Alike σ.security.SameButSecrets) σ.security.secretsPath
      (securityOf s σ >>= k) (securityOf s' σ' >>= k') := by
    refine (agree_securityOf hσ (ha σ hload)).bind fun t t' => ?_
    rintro lines c d ⟨hn, hfiles⟩
    exact hk _ t t' hn lines c d hfiles
  exact hopened.mono (fun _ _ _ _ h => ⟨h.1, hkeys _ _ h.2⟩) hkeys lines a b hfiles

theorem unseen_storeSecrets (he : Dict.keys entries = Dict.keys entries')
    (hn : ∀ name ∈ Dict.keys entries, Text.allBlank name = false) :
    Unseen (Settings.load fs s.environment config) fs fs'
      (storeSecrets s config systemId entries order)
      (storeSecrets s' config' systemId entries' order') := by
  have hd := Dict.keys_ofList he
  have hp := order.perm_keys (Dict.ofList entries)
  have hp' := order'.perm_keys (Dict.ofList entries')
  have hl : (Dict.ofList entries).length = (Dict.ofList entries').length := by
    simpa [Dict.keys] using congrArg List.length hd
  refine unseen_of_keepKeys hr ha fun path t t' ht => ?_
  refine (keepKeys_storeCredentials ht ?_ (fun name hm => ?_) _ _).bind fun _ _ => ?_
  · exact hp.trans (hd ▸ hp'.symm)
  · exact hn name (Dict.mem_keys_ofList.mp (hp.mem_iff.mp hm))
  · rw [hl, hd]
    exact (agree_line _).bind fun _ _ => agree_pure fun _ _ h => ⟨rfl, h.2⟩

theorem unseen_listSecrets : Unseen (Settings.load fs s.environment config) fs fs'
    (listSecrets s config systemId) (listSecrets s' config' systemId) := by
  refine unseen_of_keepKeys hr ha fun path t t' ht => ?_
  rw [ht.keys_eq]
  cases t'.store.keys (systemId ++ ":") with
  | nil => exact (agree_line _).bind fun _ _ => agree_pure fun _ _ h => ⟨rfl, storedKeys_eq h⟩
  | cons key keys => exact (agree_line _).bind fun _ _ => keepKeys_lines path (key :: keys)

variable (s s' order order') in
theorem unseen_run {c c' : Command} (hc : c.SameNames c')
    (hn : ∀ systemId entries, c = .storeSecrets systemId entries →
      ∀ name ∈ Dict.keys entries, Text.allBlank name = false) :
    Unseen (Settings.load fs s.environment config) fs fs' (c.run s config order)
      (c'.run s' config' order') := by
  cases hc with
  | store systemId he =>
    rw [Command.run, Command.run]
    exact unseen_storeSecrets hr ha he (hn _ _ rfl)
  | list systemId =>
    rw [Command.run, Command.run]
    exact unseen_listSecrets hr ha

end Commands

/-! ## Runs of the program -/

/-- What a run of the program starts from. -/
structure Start where
  surroundings : Surroundings
  arguments : List String
  files : Files
  order : EntryOrder := .same

namespace Start

def environment (x : Start) : Environment :=
  EnvironmentFile.load x.surroundings.environment x.files

def invocation (x : Start) : Except Usage Invocation :=
  Invocation.ofArguments x.environment x.arguments

def settings (x : Start) (i : Invocation) : Result Settings :=
  Settings.load x.files x.environment i.config

def commanded (x : Start) (i : Invocation) : Except Failure Nat × Console :=
  (i.command.run { x.surroundings with environment := x.environment } i.config x.order).onFiles
    x.files

def ending (x : Start) : Ending := program x.surroundings x.arguments x.files x.order

/-- The master key is not kept in the file of the secrets. -/
def Apart (x : Start) : Prop :=
  ∀ i σ, x.invocation = .ok i → x.settings i = .ok σ → σ.security.Apart

/-- Two runs are to store secrets under the same names, or to list them, for the same system, and
their settings and files differ in the master key and in the sealed secrets at most. -/
structure SameRequest (x x' : Start) (i i' : Invocation) : Prop where
  logLevel : i.logLevel = i'.logLevel
  command : i.command.SameNames i'.command
  settings : Result.Alike (SameButSecrets x.files x'.files) (x.settings i) (x'.settings i')

/-- Two runs differ in secrets alone. The arguments of both are accepted; or a pair is refused in
both, in which they may differ behind the `=`; or they are the same arguments, and are refused. -/
inductive Twins (x x' : Start) : Prop
  | accepted {i i' : Invocation} : x.invocation = .ok i → x'.invocation = .ok i' →
      SameRequest x x' i i' → Twins x x'
  | unpaired {p p' : String} : x.invocation = .error (.pair p) →
      x'.invocation = .error (.pair p') → SameName p p' → Twins x x'
  | refused {u : Usage} : x.arguments = x'.arguments → x.invocation = .error u →
      x'.invocation = .error u → Twins x x'

/-- Two runs print the same and end in the same way, with the same keys in the file that the
settings name for the secrets; or they end before any settings are read, and change nothing. -/
structure SameOutcome (x x' : Start) : Prop where
  exitCode : x.ending.exitCode = x'.ending.exitCode
  lines : x.ending.lines = x'.ending.lines
  complaints : x.ending.complaints = x'.ending.complaints
  keys : ∀ i, x.invocation = .ok i → KeysAgree (x.settings i) x.ending.files x'.ending.files
  files : ∀ u, x.invocation = .error u →
    x.ending.files = x.files ∧ x'.ending.files = x'.files

variable {x x' : Start} {i i' : Invocation}

theorem ending_of_refused {u : Usage} (h : x.invocation = .error u) :
    x.ending = { exitCode := u.exitCode, complaints := u.complaints, files := x.files } := by
  unfold invocation environment at h
  unfold ending program
  simp only [h]

theorem ending_eq (h : x.invocation = .ok i) : x.ending =
    match Log.level (i.logLevel.getD defaultLogLevel) with
    | .error e => { exitCode := 5, complaints := ["Failed to initialize logging: " ++ e.message],
                    files := x.files }
    | .ok _ => match x.commanded i with
      | (.ok exitCode, c) => { exitCode, lines := c.lines, files := c.files }
      | (.error f, c) =>
        { exitCode := f.exitCode, lines := c.lines, complaints := ["Error: " ++ f.message],
          files := c.files } := by
  unfold invocation environment at h
  unfold ending program commanded environment
  simp only [h]
  cases Log.level (i.logLevel.getD defaultLogLevel) with
  | error e => rfl
  | ok level =>
    generalize Printing.onFiles _ x.files = y
    obtain ⟨_ | _, c⟩ := y <;> rfl

/-- The keys agree before anything is done. -/
theorem SameRequest.keysAgree (h : SameRequest x x' i i')
    (ha : ∀ σ, x.settings i = .ok σ → σ.security.Apart) :
    KeysAgree (x.settings i) x.files x'.files := by
  intro σ hσ
  have hr := h.settings
  rw [hσ] at hr
  generalize x'.settings i' = r' at hr
  cases hr with
  | ok h => exact storedKeys_eq (h.2.mono (keysKept_of_sameButSecrets (ha σ hσ)))

theorem SameRequest.commanded (h : SameRequest x x' i i') (hi : x.invocation = .ok i)
    (ha : ∀ σ, x.settings i = .ok σ → σ.security.Apart) :
    (x.commanded i).1 = (x'.commanded i').1 ∧
      (x.commanded i).2.lines = (x'.commanded i').2.lines ∧
      KeysAgree (x.settings i) (x.commanded i).2.files (x'.commanded i').2.files :=
  (unseen_run { x.surroundings with environment := x.environment }
    { x'.surroundings with environment := x'.environment } x.order x'.order h.settings ha h.command
    fun _ _ => not_blank_of_invocation hi).onFiles ⟨rfl, rfl⟩

/-- Once the arguments are accepted, the command decides. -/
theorem SameRequest.sameOutcome (h : SameRequest x x' i i') (hi : x.invocation = .ok i)
    (hi' : x'.invocation = .ok i') (ha : ∀ σ, x.settings i = .ok σ → σ.security.Apart) :
    SameOutcome x x' := by
  have hbefore := h.keysAgree ha
  obtain ⟨hend, hlines, hkeys⟩ := h.commanded hi ha
  suffices hs : x.ending.exitCode = x'.ending.exitCode ∧ x.ending.lines = x'.ending.lines ∧
      x.ending.complaints = x'.ending.complaints ∧
      KeysAgree (x.settings i) x.ending.files x'.ending.files by
    refine ⟨hs.1, hs.2.1, hs.2.2.1, fun j hj => ?_, fun u hu => ?_⟩
    · cases hi.symm.trans hj
      exact hs.2.2.2
    · cases hi.symm.trans hu
  rw [ending_eq hi, ending_eq hi', ← h.logLevel]
  cases Log.level (i.logLevel.getD defaultLogLevel) with
  | error e => exact ⟨rfl, rfl, rfl, hbefore⟩
  | ok level =>
    generalize x.commanded i = y, x'.commanded i' = y' at hend hlines hkeys
    obtain ⟨r, c⟩ := y
    obtain ⟨_, c'⟩ := y'
    cases hend
    cases r with
    | error f => exact ⟨rfl, hlines, rfl, hkeys⟩
    | ok code => exact ⟨rfl, hlines, rfl, hkeys⟩

/-- A run that ends before any settings are read says no more than why. -/
theorem sameOutcome_of_refused {u u' : Usage} (h : x.invocation = .error u)
    (h' : x'.invocation = .error u') (hc : u.exitCode = u'.exitCode)
    (ht : u.complaints = u'.complaints) : SameOutcome x x' := by
  have hx := ending_of_refused h
  have hx' := ending_of_refused h'
  refine ⟨?_, ?_, ?_, fun i hi => ?_, fun v hv => ?_⟩
  · rw [hx, hx', hc]
  · rw [hx, hx']
  · rw [hx, hx', ht]
  · cases h.symm.trans hi
  · rw [hx, hx']
    exact ⟨rfl, rfl⟩

/-- Runs that are given other values under the same names are twins, if their settings and their
files are. -/
theorem twins_of_pairs {systemId : String} {given given' : List String} (hs : Plain systemId)
    (hne : given ≠ []) (hp : ∀ p ∈ given, Plain p) (hp' : ∀ p ∈ given', Plain p)
    (hn : List.Forall₂ SameName given given')
    (ha : x.arguments = "secrets" :: "store" :: systemId :: given)
    (ha' : x'.arguments = "secrets" :: "store" :: systemId :: given')
    (hl : Dict.get? x.environment "SWITCHYARD_LOG_LEVEL" =
      Dict.get? x'.environment "SWITCHYARD_LOG_LEVEL")
    (hr : Result.Alike (SameButSecrets x.files x'.files)
      (x.settings (.storing x.environment systemId given))
      (x'.settings (.storing x'.environment systemId given'))) : Twins x x' := by
  have hne' : given' ≠ [] := by
    rintro rfl
    exact hne (List.forall₂_nil_right_iff.mp hn)
  have hi : x.invocation = _ := (congrArg _ ha).trans (ofArguments_storing hs hne hp)
  have hi' : x'.invocation = _ := (congrArg _ ha').trans (ofArguments_storing hs hne' hp')
  have hu := unpaired?_of_sameName hn
  revert hi hi' hu
  generalize unpaired? given = r, unpaired? given' = r'
  rintro hi hi' (hu | _)
  · exact .unpaired hi hi' hu
  · exact .accepted hi hi' ⟨hl, .store systemId (keys_filterMap_pair? hn), hr⟩

/--
Runs that differ in secrets alone, and do not keep the master key in the file of the secrets, cannot
be told apart, unless a pair is refused: then they are told apart exactly by the first such pair,
which is printed with its value.
-/
theorem secrets_unseen_iff (h : Twins x x') (ha : x.Apart) :
    SameOutcome x x' ↔ ∀ p p', x.invocation = .error (.pair p) →
      x'.invocation = .error (.pair p') → p = p' := by
  cases h with
  | @accepted i i' hi hi' h =>
    refine iff_of_true (h.sameOutcome hi hi' fun σ => ha i σ hi) fun p p' hp => ?_
    cases hi.symm.trans hp
  | @unpaired p p' hp hp' _ =>
    constructor
    · intro ho q q' hq hq'
      cases hp.symm.trans hq
      cases hp'.symm.trans hq'
      have ht := ho.complaints
      rw [ending_of_refused hp, ending_of_refused hp'] at ht
      exact Usage.complaints_refused_inj.mp ht
    · intro heq
      cases heq p p' hp hp'
      exact sameOutcome_of_refused hp hp' rfl rfl
  | refused _ hu hu' =>
    refine iff_of_true (sameOutcome_of_refused hu hu' rfl rfl) fun p p' hp hp' => ?_
    cases hu.symm.trans hp
    cases hu'.symm.trans hp'
    rfl

/-- Settings that name the files of the master key and of the secrets, as they are written. -/
def settingsNaming (masterKeyPath secretsPath : String) : FileNode :=
  .file ("[security]\nmaster_key_path = \"" ++ masterKeyPath ++ "\"\nsecrets_path = \""
    ++ secretsPath ++ "\"\n").toUTF8 0o644

/-- A run that stores a token and a user, with a master key in the file of the environment and a
sealed token in that of the secrets. -/
def storing (masterKey sealed token user : String) (random : Randomness) (order : EntryOrder) :
    Start where
  surroundings := ⟨[], random⟩
  arguments := ["secrets", "store", "crm", "token=" ++ token, "user=" ++ user]
  files := ⟨[(".env", .file ("SWITCHYARD_SECURITY_MASTER_KEY=" ++ masterKey).toUTF8 0o600),
    ("secrets", .file ("\x7b\"crm:auth:token\":\"" ++ sealed ++ "\"\x7d").toUTF8 0o644),
    ("switchyard.toml", settingsNaming "key" "secrets")]⟩
  order := order

def storingFirst : Start := storing "k1" "old" "a" "b" (fun _ => []) .same

/-- Another one, with other values in another order. -/
def storingSecond : Start :=
  storing "k2" "new" "c" "d=e" (fun _ => [1]) ⟨List.reverse, List.reverse_perm⟩

theorem secrets_unseen_storing : SameOutcome storingFirst storingSecond := by
  let σ (key : String) : Settings :=
    { security := { masterKey := some key, masterKeyPath := "key", secretsPath := "secrets" } }
  have hσ : storingFirst.settings (.storing storingFirst.environment "crm"
      ["token=a", "user=b"]) = .ok (σ "k1") := by decide +kernel
  have hσ' : storingSecond.settings (.storing storingSecond.environment "crm"
      ["token=c", "user=d=e"]) = .ok (σ "k2") := by decide +kernel
  have hfiles : Files.Alike (σ "k1").security.SameButSecrets storingFirst.files
      storingSecond.files := by
    refine Files.alike_of_forall₂ (.cons ⟨rfl, .file _ (.inr (.inr (.inr ⟨?_, nofun⟩)))⟩
      (.cons ⟨rfl, .file _ (.inr (.inl ⟨?_, ?_⟩))⟩ (.cons ⟨rfl, .file _ (.inl rfl)⟩ .nil)))
    · decide +kernel
    · decide +kernel
    · exact Files.texts_of_rel ⟨[("crm:auth:token", "old")], [("crm:auth:token", "new")],
        by decide +kernel, by decide +kernel, rfl⟩
  have hn : List.Forall₂ SameName ["token=a", "user=b"] ["token=c", "user=d=e"] :=
    .cons (.inr ⟨"token".toList, "a".toList, "c".toList, by decide, by decide⟩)
      (.cons (.inr ⟨"user".toList, "b".toList, "d=e".toList, by decide, by decide⟩) .nil)
  have hr : Result.Alike (SameButSecrets storingFirst.files storingSecond.files)
      (storingFirst.settings (.storing storingFirst.environment "crm" ["token=a", "user=b"]))
      (storingSecond.settings
        (.storing storingSecond.environment "crm" ["token=c", "user=d=e"])) := by
    rw [hσ, hσ']
    exact .ok ⟨⟨rfl, rfl, rfl, .some (.inr (by decide))⟩, hfiles⟩
  have hi : storingFirst.invocation =
      .ok (.storing storingFirst.environment "crm" ["token=a", "user=b"]) := by decide +kernel
  refine (secrets_unseen_iff (twins_of_pairs (by decide) (by decide) (by decide) (by decide) hn rfl
    rfl (by decide +kernel) hr) fun i τ hi' hτ => ?_).mpr fun p p' hp => ?_
  · cases hi.symm.trans hi'
    cases hσ.symm.trans hτ
    exact nofun
  · cases hi.symm.trans hp

def nameless (value : String) : Start where
  surroundings := ⟨[], fun _ => []⟩
  arguments := ["secrets", "store", "crm", "=" ++ value]
  files := {}

theorem secrets_seen_nameless :
    Twins (nameless "s3cr3t") (nameless "hunter2") ∧ (nameless "s3cr3t").Apart ∧
      ¬ SameOutcome (nameless "s3cr3t") (nameless "hunter2") := by
  have hi : (nameless "s3cr3t").invocation = .error (.pair "=s3cr3t") := by decide +kernel
  have hi' : (nameless "hunter2").invocation = .error (.pair "=hunter2") := by decide +kernel
  refine ⟨.unpaired hi hi' (.inr ⟨[], "s3cr3t".toList, "hunter2".toList, by decide, by decide⟩),
    fun i σ h => ?_, fun h => absurd h.complaints (by decide +kernel)⟩
  cases hi.symm.trans h

/-- A run that lists secrets, with one file for the master key and for the secrets. -/
def listing (name : String) : Start where
  surroundings := ⟨[], fun _ => []⟩
  arguments := ["secrets", "list", "crm"]
  files := ⟨[("k", .file ("\x7b\"crm:auth:" ++ name ++ "\":\"x\"\x7d").toUTF8 0o600),
    ("switchyard.toml", settingsNaming "k" "k")]⟩

/-- Where the master key is the text of the file of the secrets, another one shows. -/
theorem secrets_seen_in_key_file :
    Twins (listing "a") (listing "b") ∧ ¬ SameOutcome (listing "a") (listing "b") := by
  let i : Invocation := ⟨"switchyard.toml", none, .listSecrets "crm"⟩
  let σ : Settings := { security := { masterKeyPath := "k", secretsPath := "k" } }
  have hi : (listing "a").invocation = .ok i := by decide +kernel
  have hi' : (listing "b").invocation = .ok i := by decide +kernel
  have hσ : (listing "a").settings i = .ok σ := by decide +kernel
  have hσ' : (listing "b").settings i = .ok σ := by decide +kernel
  have hfiles : Files.Alike σ.security.SameButSecrets (listing "a").files (listing "b").files := by
    refine Files.alike_of_forall₂ (.cons ⟨rfl, .file _ (.inr (.inr (.inl ⟨rfl, ?_, ?_⟩)))⟩
      (.cons ⟨rfl, .file _ (.inl rfl)⟩ .nil))
    · decide +kernel
    · exact Files.texts_of_rel (by decide)
  constructor
  · refine .accepted hi hi' ⟨rfl, .list "crm", ?_⟩
    rw [hσ, hσ']
    exact .ok ⟨⟨rfl, rfl, rfl, .none⟩, hfiles⟩
  · intro h
    exact absurd h.lines (by decide +kernel)

end Start

end CommandLine
end Interchange
