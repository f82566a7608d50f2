import Interchange.Proofs.Dict.Sorted
import Interchange.Proofs.Toml.Quoted

/-! # Documents as sequences of statements

What stands on the lines of a document can be read line by line, without regard to what stood there
before, and is then taken in one after another. A value that has been given stays.
-/

namespace Interchange
namespace Toml

open Json

/-! ## Values that stay -/

namespace Table

variable {t t' sub sub' : Table} {k : String} {ks path : List String} {v : Value} {e : Entry}
  {dotted : Bool} {origin origin' : Origin} {f : Origin → Table → Option Table}

/-- The value that a path leads to through tables. -/
def valueAt? (t : Table) : List String → Option Value
  | [] => none
  | k :: ks => match Dict.get? t k with
    | some (.value v) => if ks = [] then some v else none
    | some (.table _ sub) => valueAt? sub ks
    | _ => none

/-- Every value of one table is a value of another, at the same path. -/
def Keeps (t t' : Table) : Prop := ∀ path v, valueAt? t path = some v → valueAt? t' path = some v

theorem Keeps.refl (t : Table) : Keeps t t := fun _ _ h => h

/-- Values are kept if what replaces an entry has the values that the entry had. -/
theorem keeps_insert (h : ∀ ks v, valueAt? t (k :: ks) = some v →
    valueAt? [(k, e)] (k :: ks) = some v) : Keeps t (Dict.insert t k e) := by
  rintro (_ | ⟨k', ks⟩) v hv
  · exact hv
  · rw [valueAt?, Dict.get?_insert]
    by_cases hk : k = k'
    · subst hk
      rw [if_pos rfl]
      simpa [valueAt?, Dict.get?_cons] using h ks v hv
    · rw [if_neg hk]
      exact hv

theorem keeps_insert_of_none (h : Dict.get? t k = none) (e : Entry) :
    Keeps t (Dict.insert t k e) :=
  keeps_insert fun ks v hv => by simp [valueAt?, h] at hv

theorem keeps_insert_of_tables {ts : List Table} (h : Dict.get? t k = some (.tables ts))
    (e : Entry) : Keeps t (Dict.insert t k e) :=
  keeps_insert fun ks v hv => by simp [valueAt?, h] at hv

theorem keeps_insert_of_table (h : Dict.get? t k = some (.table origin sub))
    (hs : Keeps sub sub') (origin' : Origin) :
    Keeps t (Dict.insert t k (.table origin' sub')) := by
  refine keeps_insert fun ks v hv => ?_
  rw [valueAt?, h] at hv
  simpa [valueAt?, Dict.get?_cons] using hs ks v hv

theorem keeps_of_alter (hf : ∀ origin t t', f origin t = some t' → Keeps t t')
    (h : alter dotted f origin t path = some t') : Keeps t t' := by
  induction path generalizing origin t t' with
  | nil => exact hf _ _ _ h
  | cons k ks ih =>
    rw [alter] at h
    split at h
    · next hg =>
      obtain ⟨sub, -, rfl⟩ := Option.map_eq_some_iff.mp h
      exact keeps_insert_of_none hg _
    · cases h
    · next hg =>
      split at h
      · cases h
      · obtain ⟨sub', hs, rfl⟩ := Option.map_eq_some_iff.mp h
        exact keeps_insert_of_table hg (ih hs) _
    · next hg =>
      split at h
      · cases h
      · obtain ⟨sub', -, rfl⟩ := Option.map_eq_some_iff.mp h
        exact keeps_insert_of_tables hg _

theorem keeps_of_define (h : define t path v = some t') : Keeps t t' := by
  refine keeps_of_alter (fun origin t t' h => ?_) h
  obtain ⟨k, -, h⟩ := Option.bind_eq_some_iff.mp h
  split at h
  · cases h
  · next hn =>
    cases h
    refine keeps_insert_of_none ?_ _
    simpa [Dict.contains] using (not_or.mp hn).2

theorem keeps_of_defineBelow {header : List String} (h : defineBelow t header path v = some t') :
    Keeps t t' :=
  keeps_of_alter (fun _ _ _ => keeps_of_define) h

theorem keeps_of_addHeader (h : addHeader t path = some t') : Keeps t t' := by
  refine keeps_of_alter (fun origin t t' h => ?_) h
  obtain ⟨k, -, h⟩ := Option.bind_eq_some_iff.mp h
  split at h
  · next hg =>
    cases h
    exact keeps_insert_of_none hg _
  · next hg =>
    cases h
    exact keeps_insert_of_table hg (.refl _) _
  · cases h

theorem keeps_of_addItem (h : addItem t path = some t') : Keeps t t' := by
  refine keeps_of_alter (fun origin t t' h => ?_) h
  obtain ⟨k, -, h⟩ := Option.bind_eq_some_iff.mp h
  split at h
  · next hg =>
    cases h
    exact keeps_insert_of_none hg _
  · next hg =>
    cases h
    exact keeps_insert_of_tables hg _
  · cases h

end Table

/-! ## Statements -/

/-- What can stand on a line. -/
inductive Statement where
  | item (path : List String)
  | header (path : List String)
  | entry (path : List String) (v : Value)
deriving DecidableEq

/-- What stands on the next line, which is neither empty nor a comment. -/
def statement? : Reads Statement
  | '[' :: '[' :: cs => do
    let (path, cs) ← keys? depthMax cs
    let rest ← lineEnd? (← behind? ']' (← behind? ']' cs))
    pure (.item path, rest)
  | '[' :: cs => do
    let (path, cs) ← keys? depthMax cs
    let rest ← lineEnd? (← behind? ']' cs)
    pure (.header path, rest)
  | cs => do
    let (path, cs) ← keys? depthMax cs
    let cs := spaces (← behind? '=' cs)
    let (v, cs) ← value? (2 * cs.length + 1) depthMax cs
    let rest ← lineEnd? cs
    pure (.entry path v, rest)

def statements? : Nat → List Char → Option (List Statement)
  | 0, _ => none
  | fuel + 1, cs => match spaces cs with
    | [] => some []
    | c :: cs =>
      if c = '\n' ∨ c = '\r' ∨ c = '#' then (lineEnd? (c :: cs)).bind (statements? fuel)
      else (statement? (c :: cs)).bind fun r => (statements? fuel r.2).map (r.1 :: ·)

def Document.take (d : Document) : Statement → Option Document
  | .item path => (d.table.addItem path).map fun t => ⟨t, path⟩
  | .header path => (d.table.addHeader path).map fun t => ⟨t, path⟩
  | .entry path v => (d.table.defineBelow d.header path v).map fun t => { d with table := t }

variable {d d' : Document} {ss : List Statement} {cs : List Char} {n m : Nat} {text : String}

theorem nextLine?_eq (d : Document) (cs : List Char) : d.nextLine? cs =
    (statement? cs).bind fun r => (d.take r.1).map fun d => (d, r.2) := by
  unfold Document.nextLine? statement?
  split
  all_goals
    simp only [Option.bind_eq_bind, Option.bind_assoc, Option.pure_def, Option.bind_some,
      Document.take, Option.map_eq_bind]
    rfl

theorem readLines_eq (n : Nat) (d : Document) (cs : List Char) :
    Document.readLines n d cs = (statements? n cs).bind (List.foldlM Document.take d) := by
  induction n generalizing d cs with
  | zero => rfl
  | succ n ih =>
    rw [Document.readLines, statements?]
    cases spaces cs with
    | nil => rfl
    | cons c cs =>
      dsimp only
      split
      · rw [Option.bind_assoc]
        exact Option.bind_congr fun rest _ => ih d rest
      · rw [nextLine?_eq, Option.bind_assoc, Option.bind_assoc]
        refine Option.bind_congr fun r _ => ?_
        rw [Option.bind_map, Option.bind_map]
        simp only [Function.comp_def, ih, List.foldlM_cons]
        exact Option.bind_comm ..

theorem statements?_mono (h : statements? n cs = some ss) (hnm : n ≤ m) :
    statements? m cs = some ss := by
  induction n generalizing m cs ss with
  | zero => cases h
  | succ n ih =>
    cases m with
    | zero => exact absurd hnm (Nat.not_succ_le_zero n)
    | succ m =>
      have hnm := Nat.le_of_succ_le_succ hnm
      rw [statements?] at h ⊢
      cases hs : spaces cs with
      | nil =>
        rw [hs] at h
        exact h
      | cons c cs =>
        rw [hs] at h
        dsimp only at h ⊢
        split at h
        · next hc =>
          obtain ⟨rest, hr, h⟩ := Option.bind_eq_some_iff.mp h
          rw [if_pos hc, hr]
          exact ih h hnm
        · next hc =>
          obtain ⟨r, hr, h⟩ := Option.bind_eq_some_iff.mp h
          obtain ⟨ss', hss, rfl⟩ := Option.map_eq_some_iff.mp h
          rw [if_neg hc, hr, Option.bind_some, ih hss hnm]
          rfl

theorem statements?_cons {c : Char} (hs : isSpace c = false)
    (hc : ¬ (c = '\n' ∨ c = '\r' ∨ c = '#')) (n : Nat) (cs : List Char) :
    statements? (n + 1) (c :: cs) =
      (statement? (c :: cs)).bind fun r => (statements? n r.2).map (r.1 :: ·) := by
  have hd : spaces (c :: cs) = c :: cs := List.dropWhile_cons_of_neg (by simp [hs])
  rw [statements?, hd]
  exact if_neg hc

/-- A key whose value is a text. -/
theorem statement?_text {c : Char} {path : List String} {rest : List Char} (hc : c ≠ '[')
    (hk : keys? depthMax (c :: cs) = some (path, '=' :: ' ' :: '"' :: rest)) :
    statement? (c :: cs) = (text? ('"' :: rest)).bind fun r =>
      (lineEnd? r.2).map fun after => (.entry path (.string r.1), after) := by
  unfold statement?
  split
  · next he => exact absurd (List.cons.inj he).1 hc
  · next he => exact absurd (List.cons.inj he).1 hc
  · have hb : spaces (' ' :: '"' :: rest) = '"' :: rest := rfl
    rw [hk]
    simp only [Option.bind_eq_bind, Option.bind_some, behind?, if_true, hb, value?_quote,
      Function.comp_def, Option.map_eq_bind, Option.bind_assoc]
    rfl

theorem keeps_of_take {s : Statement} (h : d.take s = some d') : d.table.Keeps d'.table := by
  cases s with
  | item path =>
    obtain ⟨t, ht, rfl⟩ := Option.map_eq_some_iff.mp h
    exact Table.keeps_of_addItem ht
  | header path =>
    obtain ⟨t, ht, rfl⟩ := Option.map_eq_some_iff.mp h
    exact Table.keeps_of_addHeader ht
  | entry path v =>
    obtain ⟨t, ht, rfl⟩ := Option.map_eq_some_iff.mp h
    exact Table.keeps_of_defineBelow ht

theorem keeps_of_foldlM (h : ss.foldlM Document.take d = some d') : d.table.Keeps d'.table := by
  induction ss generalizing d with
  | nil =>
    cases h
    exact .refl _
  | cons s ss ih =>
    obtain ⟨mid, hm, h⟩ := Option.bind_eq_some_iff.mp h
    exact fun path v hv => ih h path v (keeps_of_take hm path v hv)

theorem read?_eq (h : text.toList.head? ≠ some '\ufeff') : read? text =
    (Document.readLines (text.toList.length + 1) {} text.toList).map fun d => d.table.value := by
  unfold read?
  split
  · next hc => exact absurd (hc ▸ rfl) h
  · rfl

/-! ## Values of tables -/

theorem get?_membersOf (t : Table) (k : String) :
    Dict.get? (membersOf t) k = (Dict.get? t k).map Entry.read := by
  induction t with
  | nil => rfl
  | cons p t ih =>
    obtain ⟨k', e⟩ := p
    rw [membersOf, Dict.get?_cons, Dict.get?_cons, ih]
    split <;> rfl

/-- A value in a table of the document, as the object has it that the document stands for. -/
theorem Table.get?_of_valueAt? {t : Table} {k k' : String} {v : Value}
    (h : t.valueAt? [k, k'] = some v) : ∃ members, Dict.get? (membersOf t) k =
      some (.object members) ∧ Dict.get? members k' = some v := by
  rw [valueAt?] at h
  split at h
  · next hg => cases h
  · next sub hg =>
    refine ⟨membersOf sub, by rw [get?_membersOf, hg]; rfl, ?_⟩
    rw [valueAt?] at h
    split at h
    · next hg' =>
      rw [get?_membersOf, hg']
      exact h
    · cases h
    · cases h
  · cases h

end Toml
end Interchange
