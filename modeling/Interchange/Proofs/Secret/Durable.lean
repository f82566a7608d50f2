import Interchange.Proofs.Files.Stopped
import Interchange.Proofs.Json.Printed
import Interchange.Proofs.Secret.Store
import Interchange.Proofs.Text.Marks

/-! # Secrets that last

Main statement: whatever is stored and deleted in a store whose copy is in a file, whatever faults
strike while that is done, and however often the store is closed and opened again, a key has the
secret that was last stored under it with success, unless that was deleted since. Opening the store
again does not fail.
-/

namespace Interchange

/-! ## Keys -/

namespace SecretKey

/-- A key that is accepted as it is. -/
def Valid (k : SecretKey) : Prop := make k.systemId k.category k.name = .ok k

instance (k : SecretKey) : Decidable k.Valid :=
  inferInstanceAs (Decidable (make k.systemId k.category k.name = .ok k))

theorem Valid.colon_not_mem {k : SecretKey} (h : k.Valid) :
    ':' ∉ k.systemId.toList ∧ ':' ∉ k.category.toList := by
  unfold Valid make at h
  split_ifs at h with h1 h2 h3 h4
  simpa using h4

/-- Keys without colons before the name are told apart by their texts. -/
theorem eq_of_text_eq {k k' : SecretKey} (hk : ':' ∉ k.systemId.toList ∧ ':' ∉ k.category.toList)
    (hk' : ':' ∉ k'.systemId.toList ∧ ':' ∉ k'.category.toList) (h : k.text = k'.text) :
    k = k' := by
  have ht (k : SecretKey) : k.text.toList =
      k.systemId.toList ++ ':' :: (k.category.toList ++ ':' :: k.name.toList) := by
    simp [text, start]
  have hl := congrArg String.toList h
  rw [ht, ht] at hl
  obtain ⟨hs, hl⟩ := Text.append_cons_inj hk.1 hk'.1 hl
  obtain ⟨hc, hn⟩ := Text.append_cons_inj hk.2 hk'.2 hl
  cases k
  cases k'
  exact mk.injEq .. ▸ ⟨String.toList_injective hs, String.toList_injective hc,
    String.toList_injective hn⟩

theorem Valid.text_inj {k k' : SecretKey} (hk : k.Valid) (hk' : k'.Valid) (h : k.text = k'.text) :
    k = k' := eq_of_text_eq hk.colon_not_mem hk'.colon_not_mem h

end SecretKey

namespace SecretStore

variable {s s' : SecretStore} {fs fs' : Files} {path : String} {d : Dict String} {key : MasterKey}
  {faults : ReplaceFaults}

theorem keyOf_of_valid {k : SecretKey} (h : k.Valid) :
    keyOf k.systemId k.category k.name = .ok k := by
  rw [keyOf, h]

theorem keyOf_ne_error {k : SecretKey} (h : k.Valid) {e : Error} :
    keyOf k.systemId k.category k.name ≠ .error e := by
  rw [keyOf_of_valid h]
  nofun

theorem valid_of_keyOf {k k' : SecretKey} (h : keyOf k.systemId k.category k.name = .ok k') :
    k = k' ∧ k.Valid := by
  obtain ⟨rfl, -⟩ := keyOf_eq_ok h
  refine ⟨rfl, ?_⟩
  unfold keyOf at h
  split at h
  · next hk =>
    cases h
    exact hk
  · cases h

/-! ## The file of a store -/

theorem readSecrets?_fileText (h : Dict.Sorted d) : readSecrets? (fileText d) = some d := by
  have hd : Json.Decode.dict Json.Decode.text (.object (Dict.mapValues .string d)) = some d :=
    Json.Decode.dict_object h fun _ _ => rfl
  exact (Json.read_indented_map (fun p _ => Json.Value.legible_string _ p.2) _).trans hd

/-- A file that holds no secrets yet: it is missing, or there is nothing but white space in it. -/
def Fresh (fs : Files) (path : String) : Prop :=
  fs.Missing path ∨ ∃ text, fs.readText path = .ok text ∧ Text.allBlank text

/-- A file holds some sealed secrets: their text, or none. -/
def OnFile (fs : Files) (path : String) (d : Dict String) : Prop :=
  d = [] ∧ Fresh fs path ∨ fs.readText path = .ok (fileText d)

theorem ofFile_of_fresh (h : Fresh fs path) (e : Encryptor) :
    ofFile fs path e = .ok { encryptor := e, path := some path } := by
  unfold ofFile
  rcases h with h | ⟨text, ht, hb⟩
  · rw [h.1]
  · simp only [ht, readSecrets?, hb, if_true]

/-- A store is opened again with the secrets that its file holds. -/
theorem ofFile_of_onFile (h : OnFile fs path d) (hd : Dict.Sorted d) (e : Encryptor) :
    ofFile fs path e = .ok { encryptor := e, path := some path, secrets := d } := by
  rcases h with ⟨rfl, hf⟩ | ht
  · exact ofFile_of_fresh hf e
  · simp only [ofFile, ht, readSecrets?_fileText hd]

theorem OnFile.of_replace_error {e : ReplaceError} {text : String} (h : OnFile fs path d)
    (hr : fs.replace path text faults = (.error e, fs')) : OnFile fs' path d := by
  rcases h with ⟨rfl, hm | ⟨old, ho, hb⟩⟩ | ht
  · exact .inl ⟨rfl, .inl (Files.missing_of_replace_error hr hm)⟩
  · exact .inl ⟨rfl, .inr ⟨old, Files.readText_of_replace_error hr ho, hb⟩⟩
  · exact .inr (Files.readText_of_replace_error hr ht)

theorem OnFile.congr (h : OnFile fs path d) (hr : fs'.readText path = fs.readText path)
    (hm : fs.Missing path → fs'.Missing path) : OnFile fs' path d := by
  rcases h with ⟨rfl, hf | ⟨old, ho, hb⟩⟩ | ht
  · exact .inl ⟨rfl, .inl (hm hf)⟩
  · exact .inl ⟨rfl, .inr ⟨old, hr.trans ho, hb⟩⟩
  · exact .inr (hr.trans ht)

/-- An error that says why a file cannot be replaced under some faults. -/
def Refused (fs : Files) (path : String) (faults : ReplaceFaults) (e : Error) : Prop :=
  ∃ text cause, (fs.replace path text faults).1 = .error cause ∧ e = replaceError path cause

/-- The secrets of a store change together with its file, or neither does. -/
theorem commit_cases (hp : s.path = some path) (hh : OnFile fs path s.secrets) (d : Dict String)
    (faults : ReplaceFaults) :
    (∃ fs', s.commit fs d faults = (.ok { s with secrets := d }, fs') ∧ OnFile fs' path d) ∨
      ∃ e fs', s.commit fs d faults = (.error e, fs') ∧ OnFile fs' path s.secrets ∧
        Refused fs path faults e := by
  unfold commit
  rw [hp]
  dsimp only
  split
  · next hr => exact .inr ⟨_, _, rfl, hh.of_replace_error hr, _, _, congrArg Prod.fst hr, rfl⟩
  · next hr => exact .inl ⟨_, rfl, .inr (Files.readText_of_replace hr)⟩

theorem set_cases (hp : s.path = some path) (hf : OnFile fs path s.secrets) (nonce : List UInt8)
    (k : SecretKey) (secret : String) (faults : ReplaceFaults) :
    (∃ e fs', s.set fs nonce k.systemId k.category k.name secret faults = (.error e, fs') ∧
      OnFile fs' path s.secrets ∧ (k.Valid → Refused fs path faults e)) ∨
    k.Valid ∧ ∃ fs', s.set fs nonce k.systemId k.category k.name secret faults =
        (.ok (s.put k.text (s.encryptor.encrypt nonce secret)), fs') ∧
      OnFile fs' path (s.put k.text (s.encryptor.encrypt nonce secret)).secrets := by
  unfold SecretStore.set
  split
  · next he => exact .inl ⟨_, _, rfl, hf, fun hv => absurd he (keyOf_ne_error hv)⟩
  · next hk =>
    obtain ⟨rfl, hv⟩ := valid_of_keyOf hk
    rcases commit_cases hp hf (s.secrets.insert k.text (s.encryptor.encrypt nonce secret)) faults
      with ⟨fs', hc, hf'⟩ | ⟨e, fs', hc, hf', hr⟩
    · exact .inr ⟨hv, fs', hc, hf'⟩
    · exact .inl ⟨e, fs', hc, hf', fun _ => hr⟩

theorem delete_cases (hp : s.path = some path) (hf : OnFile fs path s.secrets) (k : SecretKey)
    (faults : ReplaceFaults) :
    (∃ e fs', s.delete fs k.systemId k.category k.name faults = (.error e, fs') ∧
      OnFile fs' path s.secrets ∧
      (k.Valid → s.secrets.contains k.text ∧ Refused fs path faults e)) ∨
    (k.Valid ∧ s.delete fs k.systemId k.category k.name faults = (.ok (false, s), fs) ∧
      s.secrets.get? k.text = none) ∨
    k.Valid ∧ s.secrets.contains k.text ∧ ∃ fs', s.delete fs k.systemId k.category k.name faults =
        (.ok (true, { s with secrets := s.secrets.erase k.text }), fs') ∧
      OnFile fs' path (s.secrets.erase k.text) := by
  unfold SecretStore.delete
  split
  · next he => exact .inl ⟨_, _, rfl, hf, fun hv => absurd he (keyOf_ne_error hv)⟩
  · next hk =>
    obtain ⟨rfl, hv⟩ := valid_of_keyOf hk
    by_cases hc : s.secrets.contains k.text
    · rw [if_pos hc]
      rcases commit_cases hp hf (s.secrets.erase k.text) faults with
        ⟨fs', he, hf'⟩ | ⟨e, fs', he, hf', hr⟩
      · rw [he]
        exact .inr (.inr ⟨hv, hc, fs', rfl, hf'⟩)
      · rw [he]
        exact .inl ⟨e, fs', rfl, hf', fun _ => ⟨hc, hr⟩⟩
    · rw [if_neg hc]
      exact .inr (.inl ⟨hv, rfl, by simpa [Dict.contains] using hc⟩)

/-! ## Runs -/

/-- What is done with a store whose copy is in a file, under which faults, and what others do to the
files meanwhile. A secret is stored under any texts, a valid key or not. -/
inductive Action
  | set (nonce : Vector UInt8 Encryptor.nonceLength) (k : SecretKey) (secret : String)
    (faults : ReplaceFaults)
  | delete (k : SecretKey) (faults : ReplaceFaults)
  | reopen
  | elsewhere (files : Files)

/-- What was done, with the answers. -/
inductive Event
  | set (k : SecretKey) (secret : String) (answer : Result Unit)
  | delete (k : SecretKey) (answer : Result Bool)
  | reopen (answer : Result Unit)
  | elsewhere

/-- The secret that a key has after some events, the latest of which comes first: the last one that
was stored with success, unless it was deleted since. -/
def lastStored (k : SecretKey) : List Event → Option String
  | [] => none
  | .set k' secret (.ok _) :: past => if k' = k then some secret else lastStored k past
  | .delete k' (.ok true) :: past => if k' = k then none else lastStored k past
  | _ :: past => lastStored k past

/-- A store, and the files that its own file is among. -/
structure Kept where
  store : SecretStore
  files : Files

/-- A store under a master key that is used; it is closed before it is opened again. -/
def Kept.act (path : String) (key : MasterKey) (x : Kept) : Action → Event × Kept
  | .set nonce k secret faults =>
    match x.store.set x.files nonce.toList k.systemId k.category k.name secret faults with
    | (.ok store, files) => (.set k secret (.ok ()), ⟨store, files⟩)
    | (.error e, files) => (.set k secret (.error e), ⟨x.store, files⟩)
  | .delete k faults => match x.store.delete x.files k.systemId k.category k.name faults with
    | (.ok (gone, store), files) => (.delete k (.ok gone), ⟨store, files⟩)
    | (.error e, files) => (.delete k (.error e), ⟨x.store, files⟩)
  | .reopen => match ofFile x.files path (.ofMasterKey key) with
    | .ok store => (.reopen (.ok ()), ⟨store, x.files⟩)
    | .error e => (.reopen (.error e), x)
  | .elsewhere files => (.elsewhere, ⟨x.store, files⟩)

/-- Others leave the file of the store as it is: what is read there stays the same, and if it is
missing nothing is put in its way. -/
def Aside (path : String) (x : Kept) (a : Action) : Prop :=
  ∀ files, a = .elsewhere files → files.readText path = x.files.readText path ∧
    (x.files.Missing path → files.Missing path)

/-- The events of a run, the latest first, and what it ends in. -/
inductive Reaches (path : String) (key : MasterKey) (start : Kept) : List Event → Kept → Prop
  | start : Reaches path key start [] start
  | act {past : List Event} {x : Kept} {a : Action} : Reaches path key start past x →
      Aside path x a → Reaches path key start ((x.act path key a).1 :: past) (x.act path key a).2

/-- The secrets of a store are those that its past says, and its file holds them. -/
structure Sound (path : String) (key : MasterKey) (past : List Event) (x : Kept) : Prop where
  copy : x.store.path = some path
  encryptor : x.store.encryptor = .ofMasterKey key
  sorted : Dict.Sorted x.store.secrets
  opened : ∀ k : SecretKey, k.Valid →
    (x.store.secrets.get? k.text).map x.store.encryptor.decrypt = (lastStored k past).map .ok
  file : OnFile x.files path x.store.secrets

section Steps

variable {x : Kept} {past : List Event} {start : Kept}

theorem Kept.act_reopen (path : String) (key : MasterKey) (x : Kept) :
    ∃ answer, (x.act path key .reopen).1 = .reopen answer := by
  simp only [Kept.act]
  split
  · exact ⟨_, rfl⟩
  · exact ⟨_, rfl⟩

theorem Sound.set (h : Sound path key past x) (nonce : Vector UInt8 Encryptor.nonceLength)
    (k : SecretKey) (secret : String) (faults : ReplaceFaults) :
    Sound path key ((x.act path key (.set nonce k secret faults)).1 :: past)
      (x.act path key (.set nonce k secret faults)).2 := by
  rcases set_cases h.copy h.file nonce.toList k secret faults with
    ⟨e, fs', hs, hf, -⟩ | ⟨hk, fs', hs, hf⟩
  · simp only [Kept.act, hs]
    exact ⟨h.copy, h.encryptor, h.sorted, h.opened, hf⟩
  · simp only [Kept.act, hs]
    refine ⟨h.copy, h.encryptor, h.sorted.insert _ _, fun k' hk' => ?_, hf⟩
    have hr : x.store.encryptor.cipher.Regular := by
      rw [h.encryptor]
      exact Encryptor.regular_ofMasterKey key
    -- another valid key has another text, so what is stored there stays
    by_cases hkk : k = k'
    · subst hkk
      have hn : nonce.toList.length = Encryptor.nonceLength := Vector.length_toList
      have hd := Encryptor.decrypt_encrypt hr hn secret
      simp [lastStored, SecretStore.put, Dict.get?_insert_self, hd]
    · have ht : k.text ≠ k'.text := fun he => hkk (hk.text_inj hk' he)
      simp only [lastStored, SecretStore.put, Dict.get?_insert_of_ne _ _ ht, if_neg hkk]
      exact h.opened k' hk'

theorem Sound.delete (h : Sound path key past x) (k : SecretKey) (faults : ReplaceFaults) :
    Sound path key ((x.act path key (.delete k faults)).1 :: past)
      (x.act path key (.delete k faults)).2 := by
  rcases delete_cases h.copy h.file k faults with
    ⟨e, fs', hd, hf, -⟩ | ⟨hk, hd, hn⟩ | ⟨hk, hc, fs', hd, hf⟩
  · simp only [Kept.act, hd]
    exact ⟨h.copy, h.encryptor, h.sorted, h.opened, hf⟩
  · simp only [Kept.act, hd]
    exact ⟨h.copy, h.encryptor, h.sorted, h.opened, h.file⟩
  · simp only [Kept.act, hd]
    refine ⟨h.copy, h.encryptor, h.sorted.erase _, fun k' hk' => ?_, hf⟩
    by_cases hkk : k = k'
    · subst hkk
      simp [lastStored, Dict.get?_erase_self]
    · have ht : k.text ≠ k'.text := fun he => hkk (hk.text_inj hk' he)
      simp only [lastStored, Dict.get?_erase, if_neg ht, if_neg hkk]
      exact h.opened k' hk'

theorem Sound.reopen (h : Sound path key past x) :
    Sound path key ((x.act path key .reopen).1 :: past) (x.act path key .reopen).2 := by
  simp only [Kept.act, ofFile_of_onFile h.file h.sorted]
  refine ⟨rfl, rfl, h.sorted, fun k hk => ?_, h.file⟩
  -- the new encryptor is made from the same master key
  have ho := h.opened k hk
  rw [h.encryptor] at ho
  exact ho

theorem Sound.elsewhere (h : Sound path key past x) {files : Files}
    (ha : Aside path x (.elsewhere files)) :
    Sound path key ((x.act path key (.elsewhere files)).1 :: past)
      (x.act path key (.elsewhere files)).2 :=
  have ⟨hr, hm⟩ := ha files rfl
  ⟨h.copy, h.encryptor, h.sorted, h.opened, h.file.congr hr hm⟩

theorem sound_of_fresh (hf : Fresh fs path) :
    Sound path key [] ⟨{ encryptor := .ofMasterKey key, path := some path }, fs⟩ :=
  ⟨rfl, rfl, Dict.sorted_nil, fun _ _ => rfl, .inl ⟨rfl, hf⟩⟩

theorem Reaches.sound (hs : Sound path key [] start) (h : Reaches path key start past x) :
    Sound path key past x := by
  induction h with
  | start => exact hs
  | @act past x a _ ha ih =>
    cases a with
    | set nonce k secret faults => exact ih.set nonce k secret faults
    | delete k faults => exact ih.delete k faults
    | reopen => exact ih.reopen
    | elsewhere files => exact ih.elsewhere ha

theorem Sound.get?_eq (h : Sound path key past x) {k : SecretKey} (hk : k.Valid) :
    x.store.get? k.systemId k.category k.name = .ok (lastStored k past) := by
  rw [SecretStore.get?_eq, keyOf_of_valid hk, Result.ok_bind, h.opened k hk]
  cases lastStored k past <;> rfl

theorem Sound.contains_iff (h : Sound path key past x) {k : SecretKey} (hk : k.Valid) :
    x.store.secrets.contains k.text ↔ (lastStored k past).isSome := by
  rw [← Option.isSome_map (f := Except.ok), ← h.opened k hk, Option.isSome_map]
  rfl

theorem Sound.delete_eq_ok (h : Sound path key past x) {k : SecretKey} {gone : Bool}
    {store : SecretStore} {files : Files}
    (hd : x.store.delete x.files k.systemId k.category k.name faults = (.ok (gone, store), files)) :
    gone = true ↔ (lastStored k past).isSome := by
  rcases delete_cases h.copy h.file k faults with
    ⟨e, fs', he, -⟩ | ⟨hk, he, hn⟩ | ⟨hk, hc, fs', he, -⟩
  · cases he.symm.trans hd
  · cases he.symm.trans hd
    rw [← h.contains_iff hk, Dict.contains, hn]
    rfl
  · cases he.symm.trans hd
    exact iff_of_true rfl ((h.contains_iff hk).mp hc)

theorem Sound.delete_of_none (h : Sound path key past x) {k : SecretKey} (hk : k.Valid)
    (hn : lastStored k past = none) (faults : ReplaceFaults) :
    x.store.delete x.files k.systemId k.category k.name faults =
      (.ok (false, x.store), x.files) := by
  have hno : ¬ x.store.secrets.contains k.text := by
    rw [h.contains_iff hk, hn]
    exact Bool.false_ne_true
  rcases delete_cases h.copy h.file k faults with ⟨e, fs', -, -, hc⟩ | ⟨-, he, -⟩ | ⟨-, hc, -⟩
  · exact absurd (hc hk).1 hno
  · exact he
  · exact absurd hc hno

theorem Sound.refused (h : Sound path key past x) {k : SecretKey} (hk : k.Valid) {e : Error}
    (he : (∃ nonce secret,
        (x.store.set x.files nonce k.systemId k.category k.name secret faults).1 = .error e) ∨
      (x.store.delete x.files k.systemId k.category k.name faults).1 = .error e) :
    Refused x.files path faults e := by
  rcases he with ⟨nonce, secret, he⟩ | he
  · rcases set_cases h.copy h.file nonce k secret faults with
      ⟨e', fs', hs, -, hr⟩ | ⟨-, fs', hs, -⟩
    · rw [hs] at he
      cases he
      exact hr hk
    · rw [hs] at he
      cases he
  · rcases delete_cases h.copy h.file k faults with
      ⟨e', fs', hd, -, hr⟩ | ⟨-, hd, -⟩ | ⟨-, -, fs', hd, -⟩
    · rw [hd] at he
      cases he
      exact (hr hk).2
    · rw [hd] at he
      cases he
    · rw [hd] at he
      cases he

end Steps

/-- A store that has what its past says, and has it for good. -/
structure Lasting (path : String) (key : MasterKey) (past : List Event) (x : Kept) : Prop where
  /-- A key has the secret that was last stored under it, unless it was deleted since. -/
  stored : ∀ k : SecretKey, k.Valid →
    x.store.get? k.systemId k.category k.name = .ok (lastStored k past)
  /-- Deleting says whether there was a secret. -/
  deleted : ∀ (k : SecretKey) faults gone store files,
    x.store.delete x.files k.systemId k.category k.name faults = (.ok (gone, store), files) →
      (gone = true ↔ (lastStored k past).isSome)
  absent : ∀ (k : SecretKey) faults, k.Valid → lastStored k past = none →
    x.store.delete x.files k.systemId k.category k.name faults = (.ok (false, x.store), x.files)
  /-- Under a valid key, nothing is refused but for the files and the faults. -/
  refused : ∀ (k : SecretKey) faults e, k.Valid →
    (∃ nonce secret,
        (x.store.set x.files nonce k.systemId k.category k.name secret faults).1 = .error e) ∨
      (x.store.delete x.files k.systemId k.category k.name faults).1 = .error e →
      Refused x.files path faults e
  reopens : ∃ store, ofFile x.files path (.ofMasterKey key) = .ok store

/--
A store is opened on a file that is missing, and stays so once the directories above it are there,
or that has nothing but white space in it. Whatever is stored and deleted there, under keys that are
valid or not, with success or not, whatever faults strike meanwhile, and however often the store is
closed and opened again, it is lasting.
-/
theorem secrets_last (path : String) (key : MasterKey) {fs : Files} (hf : Fresh fs path) :
    ∃ store, ofFile fs path (.ofMasterKey key) = .ok store ∧
      ∀ past x, Reaches path key ⟨store, fs⟩ past x → Lasting path key past x := by
  refine ⟨_, ofFile_of_fresh hf _, fun past x hx => ?_⟩
  have h := hx.sound (sound_of_fresh hf)
  constructor
  case stored => exact fun k hk => h.get?_eq hk
  case deleted => exact fun k faults gone store files hd => h.delete_eq_ok hd
  case absent => exact fun k faults hk hn => h.delete_of_none hk hn faults
  case refused => exact fun k faults e hk he => h.refused hk he
  case reopens => exact ⟨_, ofFile_of_onFile h.file h.sorted _⟩

/-- A secret that is stored in an empty directory is there when the store is opened again. -/
theorem secrets_last_reopened : Fresh {} "s" ∧
    ∃ past x, Reaches "s" ⟨"key"⟩ ⟨⟨.ofMasterKey ⟨"key"⟩, some "s", []⟩, {}⟩ past x ∧
      (∃ answer, past.head? = some (.reopen answer)) ∧
      x.store.get? "crm" "auth" "token" = .ok (some "t") := by
  have hf : Fresh {} "s" := .inl ⟨rfl, rfl⟩
  have hv : SecretKey.Valid ⟨"crm", "auth", "token"⟩ := by decide
  obtain ⟨store, ho, h⟩ := secrets_last "s" ⟨"key"⟩ hf
  rw [ofFile_of_fresh hf] at ho
  cases ho
  have hset (e : Encryptor) : (Kept.act "s" ⟨"key"⟩ ⟨⟨e, some "s", []⟩, {}⟩
      (.set (.replicate 12 0) ⟨"crm", "auth", "token"⟩ "t" {})).1 =
        .set ⟨"crm", "auth", "token"⟩ "t" (.ok ()) := rfl
  have hrun : Reaches "s" ⟨"key"⟩ ⟨⟨.ofMasterKey ⟨"key"⟩, some "s", []⟩, {}⟩ _ _ :=
    .act (a := .reopen) (.act (a := .set (.replicate 12 0) ⟨"crm", "auth", "token"⟩ "t" {}) .start
      nofun) nofun
  obtain ⟨answer, ha⟩ := Kept.act_reopen "s" ⟨"key"⟩ (Kept.act "s" ⟨"key"⟩
    ⟨⟨.ofMasterKey ⟨"key"⟩, some "s", []⟩, {}⟩
    (.set (.replicate 12 0) ⟨"crm", "auth", "token"⟩ "t" {})).2
  refine ⟨hf, _, _, hrun, ⟨answer, congrArg some ha⟩, ?_⟩
  have hg := (h _ _ hrun).stored ⟨"crm", "auth", "token"⟩ hv
  rw [ha, hset] at hg
  exact hg

/-- Where two dots lead out of a directory that is missing, making it can show a file in the place
of another directory. So a store that is opened on a missing file cannot always be opened again. -/
theorem missing_not_reopened :
    Files.readText ⟨[("f", .file "x".toUTF8 0o644)]⟩ "a/../f/s" = .error .notFound ∧
    ∃ store, ofFile ⟨[("f", .file "x".toUTF8 0o644)]⟩ "a/../f/s" (.ofMasterKey ⟨"key"⟩) =
        .ok store ∧
      ∃ past x, Reaches "a/../f/s" ⟨"key"⟩ ⟨store, ⟨[("f", .file "x".toUTF8 0o644)]⟩⟩ past x ∧
        ∃ error, ofFile x.files "a/../f/s" (.ofMasterKey ⟨"key"⟩) = .error error := by
  have hread : Files.readText ⟨[("f", .file "x".toUTF8 0o644)]⟩ "a/../f/s" = .error .notFound := rfl
  have hset (e : Encryptor) : (Kept.act "a/../f/s" ⟨"key"⟩
      ⟨⟨e, some "a/../f/s", []⟩, ⟨[("f", .file "x".toUTF8 0o644)]⟩⟩
      (.set (.replicate 12 0) ⟨"crm", "auth", "k"⟩ "v" {})).2.files.readText "a/../f/s" =
        .error .notDirectory := rfl
  refine ⟨hread, _, by rw [ofFile, hread], _, _,
    .act (a := .set (.replicate 12 0) ⟨"crm", "auth", "k"⟩ "v" {}) .start nofun, ?_⟩
  rw [ofFile, hset]
  exact ⟨_, rfl⟩

end SecretStore
end Interchange
