import Interchange.Auth.Factory
import Interchange.Proofs.Dict.Sorted
import Interchange.Proofs.Text.Lowercase

/-! # Types of providers by their names

Under each entry a factory has the constructor that was registered last for it. An entry is a text
in lower case with no white space around it, so it is its own normal form, with two exceptions: the
second names of built-in types. These become entries when they are registered with white space
around them, and are still read as the names of the built-in types afterwards.
-/

namespace Interchange
namespace AuthFactory

/-- The name of a type and how its providers are made. -/
abbrev Registration := String × (AuthParams → Result Provider)

def registerAll (f : AuthFactory) (rs : List Registration) : AuthFactory :=
  rs.foldl (fun f r => f.register r.1 r.2) f

def builtInTypes : List Registration :=
  [("basic", Provider.basicOf), ("oauth2", Provider.oauth2Of), ("api_key", Provider.apiKeyOf)]

def lastFor (rs : List Registration) (entry : String) : Option (AuthParams → Result Provider) :=
  (rs.reverse.find? fun r => normalTag r.1 = entry).map Prod.snd

/-- The second names of built-in types, and the entries of these. -/
def secondTags : List (String × String) := [("oauth", "oauth2"), ("apikey", "api_key")]

variable {rs : List Registration} {tag t k : String} {c : AuthParams → Result Provider}

/-! ## Entries -/

/-- The entry that a text in lower case names: itself, unless it is a second name. -/
def canonical (t : String) : String :=
  if t = "oauth" then "oauth2" else if t = "apikey" then "api_key" else t

theorem canonical_of_mem (h : (t, k) ∈ secondTags) : canonical t = k := by
  rcases List.mem_pair.mp h with h | h <;> cases h <;> rfl

theorem canonical_eq_or (t : String) : canonical t = t ∨ (t, canonical t) ∈ secondTags := by
  by_cases ho : t = "oauth"
  · exact .inr (by simp [canonical, secondTags, ho])
  by_cases ha : t = "apikey"
  · exact .inr (by simp [canonical, secondTags, ha])
  · exact .inl (by rw [canonical, if_neg ho, if_neg ha])

theorem canonical_ne_of_mem (h : (t, k) ∈ secondTags) (s : String) : canonical s ≠ t := by
  have hk : ∀ p ∈ secondTags, canonical p.1 ≠ p.1 ∧ ∀ q ∈ secondTags, q.2 ≠ p.1 := by decide
  obtain ⟨hself, hother⟩ := hk _ h
  rcases canonical_eq_or s with he | hm
  · rw [he]
    rintro rfl
    exact hself he
  · exact hother _ hm

/-- A text that is its own lower-case form and has no white space around it. -/
def Plain (t : String) : Prop := Text.lowercase t = t ∧ Text.trim t = t

instance (t : String) : Decidable (Plain t) :=
  inferInstanceAs (Decidable (Text.lowercase t = t ∧ Text.trim t = t))

theorem plain_lowercase (h : Text.trim t = t) : Plain (Text.lowercase t) :=
  ⟨Text.lowercase_lowercase t, Text.trim_lowercase_iff.mpr h⟩

theorem plain_canonical (h : Plain t) : Plain (canonical t) := by
  rcases canonical_eq_or t with ht | ht
  · rwa [ht]
  · have hk : ∀ p ∈ secondTags, Plain p.2 := by decide +kernel
    exact hk (t, canonical t) ht

/-- Without white space around it, a name is taken in lower case, second names as the first. -/
theorem normalTag_of_trim_eq (h : Text.trim tag = tag) :
    normalTag tag = canonical (Text.lowercase tag) := by
  simp only [normalTag, AuthKind.parse, h]
  generalize Text.lowercase tag = t
  split_ifs with hb ho ha
  · rw [hb]
    rfl
  · rcases ho with rfl | rfl <;> rfl
  · rcases ha with rfl | rfl <;> rfl
  · rw [canonical, if_neg fun h => ho (.inr h), if_neg fun h => ha (.inr h)]

/-- With white space around it, a name is none of those of the built-in types. -/
theorem normalTag_of_trim_ne (h : Text.trim tag ≠ tag) :
    normalTag tag = Text.lowercase (Text.trim tag) := by
  have hne (s : String) (hs : Text.trim s = s) : Text.lowercase tag ≠ s := by
    rintro rfl
    exact h (Text.trim_lowercase_iff.mp hs)
  have hparse : AuthKind.parse tag = .error (Text.lowercase tag) := by
    simp only [AuthKind.parse]
    rw [if_neg (hne _ (by decide)), if_neg, if_neg]
    · exact not_or.mpr ⟨hne _ (by decide), hne _ (by decide)⟩
    · exact not_or.mpr ⟨hne _ (by decide), hne _ (by decide)⟩
  rw [normalTag, hparse]

theorem plain_normalTag (tag : String) : Plain (normalTag tag) := by
  by_cases h : Text.trim tag = tag
  · rw [normalTag_of_trim_eq h]
    exact plain_canonical (plain_lowercase h)
  · rw [normalTag_of_trim_ne h]
    exact plain_lowercase (Text.trim_trim tag)

theorem Plain.normalTag_eq (h : Plain t) : normalTag t = canonical t := by
  rw [normalTag_of_trim_eq h.2, h.1]

/-- A second name is the normal form of names with white space around it only. -/
theorem normalTag_eq_second_iff (h : (t, k) ∈ secondTags) :
    normalTag tag = t ↔ Text.trim tag ≠ tag ∧ Text.lowercase (Text.trim tag) = t := by
  constructor
  · intro ht
    have hne : Text.trim tag ≠ tag := fun he =>
      canonical_ne_of_mem h _ ((normalTag_of_trim_eq he).symm.trans ht)
    exact ⟨hne, (normalTag_of_trim_ne hne).symm.trans ht⟩
  · rintro ⟨hne, ht⟩
    exact (normalTag_of_trim_ne hne).trans ht

/-! ## What a factory has under an entry -/

theorem lastFor_append (rs after : List Registration) (t : String) :
    lastFor (rs ++ after) t = (lastFor after t).or (lastFor rs t) := by
  rw [lastFor, List.reverse_append, List.find?_append, Option.map_or]
  rfl

theorem lastFor_singleton (r : Registration) (t : String) :
    lastFor [r] t = if normalTag r.1 = t then some r.2 else none := by
  by_cases h : normalTag r.1 = t <;> simp [lastFor, h]

theorem lastFor_eq_none_iff : lastFor rs t = none ↔ ∀ r ∈ rs, normalTag r.1 ≠ t := by
  simp [lastFor]

theorem exists_lastFor_iff : (∃ c, lastFor rs t = some c) ↔ ∃ r ∈ rs, normalTag r.1 = t := by
  rw [← Option.ne_none_iff_exists', ne_eq, lastFor_eq_none_iff]
  simp

theorem get?_registerAll (f : AuthFactory) (rs : List Registration) (t : String) :
    Dict.get? (registerAll f rs).constructors t =
      (lastFor rs t).or (Dict.get? f.constructors t) := by
  induction rs generalizing f with
  | nil => rfl
  | cons r rs ih =>
    have hr : Dict.get? (f.register r.1 r.2).constructors t =
        (lastFor [r] t).or (Dict.get? f.constructors t) := by
      rw [lastFor_singleton]
      exact (Dict.get?_insert _ _ _ _).trans (by split <;> rfl)
    rw [← List.singleton_append, lastFor_append, Option.or_assoc, ← hr]
    exact ih (f.register r.1 r.2)

/-- A factory has under each entry what was registered last for it, also from the start. -/
theorem get?_reached (rs : List Registration) (t : String) :
    Dict.get? (registerAll builtIn rs).constructors t = lastFor (builtInTypes ++ rs) t := by
  have hb : builtIn = registerAll ⟨[]⟩ builtInTypes := rfl
  rw [get?_registerAll, hb, get?_registerAll, Dict.get?_nil, Option.or_none, lastFor_append]

theorem mem_types_iff : t ∈ (registerAll builtIn rs).types ↔
    ∃ r ∈ builtInTypes ++ rs, normalTag r.1 = t := by
  rw [← exists_lastFor_iff, ← Option.ne_none_iff_exists', ← get?_reached, ne_eq,
    Dict.get?_eq_none_iff, not_not, types]

theorem create_of_lastFor (h : lastFor (builtInTypes ++ rs) (normalTag tag) = some c)
    (ps : AuthParams) : (registerAll builtIn rs).create tag ps = c ps := by
  rw [create, get?_reached, h]

theorem exists_lastFor_first (h : (t, k) ∈ secondTags) (rs : List Registration) :
    ∃ c, lastFor (builtInTypes ++ rs) k = some c := by
  have hk : ∀ p ∈ secondTags, ∃ r ∈ builtInTypes, normalTag r.1 = p.2 := by decide +kernel
  obtain ⟨r, hr, he⟩ := hk _ h
  exact exists_lastFor_iff.mpr ⟨r, List.mem_append_left rs hr, he⟩

/-- A listed entry runs its constructor exactly when it is no second name, or the first name has the
same one. -/
theorem create_listed_iff (ht : Plain t) (hc : lastFor (builtInTypes ++ rs) t = some c) :
    (∀ ps, (registerAll builtIn rs).create t ps = c ps) ↔
      ∀ k, (t, k) ∈ secondTags → lastFor (builtInTypes ++ rs) k = some c := by
  constructor
  · intro h k hk
    obtain ⟨c', hc'⟩ := exists_lastFor_first hk rs
    have hkt : normalTag t = k := ht.normalTag_eq.trans (canonical_of_mem hk)
    have hcc' : c = c' := funext fun ps => (h ps).symm.trans (create_of_lastFor (hkt ▸ hc') ps)
    rw [hc', hcc']
  · intro h ps
    refine create_of_lastFor ?_ ps
    rw [ht.normalTag_eq]
    rcases canonical_eq_or t with he | hm
    · rwa [he]
    · exact h _ hm

/-! ## Registered types are found -/

/-- Each listed type has a constructor, the one registered last for it, and its name runs it unless
it is the second name of a built-in type with another constructor. A registered name that was not
replaced runs its own constructor and is listed with it. A second name is listed exactly when it was
registered with white space around it. -/
theorem listed_reachable_iff (rs : List Registration) :
    (∀ t ∈ (registerAll builtIn rs).types, ∃ c, lastFor (builtInTypes ++ rs) t = some c ∧
      ((∀ ps, (registerAll builtIn rs).create t ps = c ps) ↔
        ∀ k, (t, k) ∈ secondTags → lastFor (builtInTypes ++ rs) k = some c)) ∧
    (∀ before tag c after, builtInTypes ++ rs = before ++ (tag, c) :: after →
      (∀ r ∈ after, normalTag r.1 ≠ normalTag tag) →
        (∀ ps, (registerAll builtIn rs).create tag ps = c ps) ∧
        normalTag tag ∈ (registerAll builtIn rs).types ∧
        lastFor (builtInTypes ++ rs) (normalTag tag) = some c) ∧
    ∀ t k, (t, k) ∈ secondTags → (t ∈ (registerAll builtIn rs).types ↔
      ∃ r ∈ rs, Text.trim r.1 ≠ r.1 ∧ Text.lowercase (Text.trim r.1) = t) := by
  refine ⟨fun t ht => ?listed, fun before tag c after hrs hafter => ?registered,
    fun t k hk => ?second⟩
  case listed =>
    have hr := mem_types_iff.mp ht
    obtain ⟨c, hc⟩ := exists_lastFor_iff.mpr hr
    obtain ⟨r, -, rfl⟩ := hr
    exact ⟨c, hc, create_listed_iff (plain_normalTag r.1) hc⟩
  case registered =>
    have hc : lastFor (builtInTypes ++ rs) (normalTag tag) = some c := by
      rw [hrs, ← List.singleton_append, lastFor_append, lastFor_append,
        lastFor_eq_none_iff.mpr hafter, lastFor_singleton, if_pos rfl]
      rfl
    exact ⟨create_of_lastFor hc, mem_types_iff.mpr (exists_lastFor_iff.mp ⟨c, hc⟩), hc⟩
  case second =>
    have hb : ∀ p ∈ secondTags, ∀ r ∈ builtInTypes, normalTag r.1 ≠ p.1 := by decide +kernel
    simp only [mem_types_iff, ← normalTag_eq_second_iff hk, List.mem_append, or_and_right,
      exists_or]
    refine or_iff_right ?_
    rintro ⟨r, hr, he⟩
    exact hb _ hk r hr he

/-- A type under the second name of another one, with white space around it: as it was registered
the name runs it, as it is listed the name does not. -/
theorem listed_reachable_iff_blanks :
    let key : AuthParams → Result Provider := fun _ => .ok (.apiKey "X-Static" "static")
    let f := registerAll builtIn [(" oauth ", key)]
    (∀ ps, f.create " oauth " ps = key ps) ∧ "oauth" ∈ f.types ∧
      ¬ ∀ ps, f.create "oauth" ps = key ps := by
  intro key f
  obtain ⟨-, hregistered, hsecond⟩ := listed_reachable_iff [(" oauth ", key)]
  obtain ⟨hrun, -⟩ := hregistered builtInTypes " oauth " key [] rfl nofun
  have hmem : "oauth" ∈ f.types := (hsecond "oauth" "oauth2" (by decide)).mpr
    ⟨_, List.mem_singleton_self _, by decide +kernel, by decide +kernel⟩
  exact ⟨hrun, hmem, fun h => absurd (h []) (by decide +kernel)⟩

/-- The name that a registered type is listed by may be that of another type: the one listed here
makes providers out of nothing, and the name asks for the parameters of a client. -/
theorem listed_type_unreachable :
    ¬ ∀ rs : List Registration, ∀ t ∈ (registerAll builtIn rs).types, ∃ c,
      lastFor (builtInTypes ++ rs) t = some c ∧
        ∀ ps, (registerAll builtIn rs).create t ps = c ps := by
  intro h
  let key : AuthParams → Result Provider := fun _ => .ok (.apiKey "X-Static" "static")
  obtain ⟨c, hc, hrun⟩ := h [(" oauth ", key)] "oauth" (by decide +kernel)
  have htag : normalTag " oauth " = "oauth" := by decide +kernel
  have hlast : lastFor (builtInTypes ++ [(" oauth ", key)]) "oauth" = some key := by
    rw [lastFor_append, lastFor_singleton, if_pos htag, Option.some_or]
  have hempty : (registerAll builtIn [(" oauth ", key)]).create "oauth" [] ≠ key [] := by
    decide +kernel
  rw [hlast] at hc
  rw [hrun, ← Option.some.inj hc] at hempty
  exact hempty rfl

end AuthFactory
end Interchange
