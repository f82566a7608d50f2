/-! # Finite maps with text keys

A `Dict` lists its pairs in ascending order of their keys, so two dicts with the same contents
are the same list. Look-up takes the first pair with the key; insertion keeps the order.
-/

namespace Interchange

/-- A finite map from texts to `α`, as pairs in ascending key order. -/
abbrev Dict (α : Type) := List (String × α)

namespace Dict

variable {α β : Type}

def empty : Dict α := []

def get? : Dict α → String → Option α
  | [], _ => none
  | (k', v) :: d, k => if k' = k then some v else get? d k

def contains (d : Dict α) (k : String) : Bool := (get? d k).isSome

/-- Stores a value under a key, in place of the one that was there. -/
def insert (d : Dict α) (k : String) (v : α) : Dict α :=
  match d with
  | [] => [(k, v)]
  | (k', v') :: d =>
    if k' = k then (k, v) :: d
    else if k < k' then (k, v) :: (k', v') :: d
    else (k', v') :: insert d k v

def erase (d : Dict α) (k : String) : Dict α := d.filter fun p => p.1 ≠ k

def keys (d : Dict α) : List String := d.map Prod.fst

def values (d : Dict α) : List α := d.map Prod.snd

/-- The map of a list of pairs; the last pair with a key wins. -/
def ofList (ps : List (String × α)) : Dict α := ps.foldl (fun d p => insert d p.1 p.2) []

def insertAll (d e : Dict α) : Dict α := e.foldl (fun d p => insert d p.1 p.2) d

def mapValues (f : α → β) (d : Dict α) : Dict β := d.map fun p => (p.1, f p.2)

/-- The invariant of a `Dict`: keys ascend, so no key occurs twice. -/
def Sorted (d : Dict α) : Prop := d.Pairwise fun p q => p.1 < q.1

@[simp] theorem get?_nil (k : String) : get? ([] : Dict α) k = none := rfl

theorem get?_cons (k' k : String) (v : α) (d : Dict α) :
    get? ((k', v) :: d) k = if k' = k then some v else get? d k := rfl

theorem get?_insert (d : Dict α) (k k' : String) (v : α) :
    get? (insert d k v) k' = if k = k' then some v else get? d k' := by
  induction d with
  | nil => simp [insert, get?]
  | cons p d ih =>
    obtain ⟨q, w⟩ := p
    simp only [insert]
    split
    · next h => subst h; by_cases h : q = k' <;> simp [get?, h]
    · split
      · simp [get?]
      · next h _ =>
        by_cases hk : q = k'
        · subst hk; simp [get?, Ne.symm h]
        · simp [get?, hk, ih]

theorem get?_insert_self (d : Dict α) (k : String) (v : α) : get? (insert d k v) k = some v := by
  simp [get?_insert]

theorem get?_insert_of_ne (d : Dict α) {k k' : String} (v : α) (h : k ≠ k') :
    get? (insert d k v) k' = get? d k' := by
  simp [get?_insert, h]

theorem get?_erase (d : Dict α) (k k' : String) :
    get? (erase d k) k' = if k = k' then none else get? d k' := by
  induction d with
  | nil => simp [erase, get?]
  | cons p d ih =>
    obtain ⟨q, w⟩ := p
    by_cases hq : q = k
    · subst hq
      have : erase ((q, w) :: d) q = erase d q := by simp [erase]
      rw [this, ih]
      by_cases h : q = k' <;> simp [get?, h]
    · have : erase ((q, w) :: d) k = (q, w) :: erase d k := by simp [erase, hq]
      rw [this, get?_cons, ih]
      by_cases h : k = k'
      · subst h; simp [hq]
      · simp [get?, h]

theorem contains_insert (d : Dict α) (k k' : String) (v : α) :
    contains (insert d k v) k' = (k == k' || contains d k') := by
  by_cases h : k = k' <;> simp [contains, get?_insert, h]

theorem get?_eq_none_of_lt {d : Dict α} {k : String} (h : ∀ p ∈ d, k < p.1) : get? d k = none := by
  induction d with
  | nil => rfl
  | cons p d ih =>
    obtain ⟨q, w⟩ := p
    have hq : k < q := h (q, w) (by simp)
    have hne : q ≠ k := fun e => String.lt_irrefl k (e ▸ hq)
    rw [get?_cons, if_neg hne]
    exact ih fun p hp => h p (List.mem_cons_of_mem _ hp)

theorem mem_insert {d : Dict α} {k : String} {v : α} {p : String × α} (h : p ∈ insert d k v) :
    p = (k, v) ∨ p ∈ d := by
  induction d with
  | nil => simpa [insert] using h
  | cons q d ih =>
    obtain ⟨q, w⟩ := q
    simp only [insert] at h
    split at h
    · rcases List.mem_cons.1 h with h | h
      · exact .inl h
      · exact .inr (List.mem_cons_of_mem _ h)
    · split at h
      · rcases List.mem_cons.1 h with h | h
        · exact .inl h
        · exact .inr h
      · rcases List.mem_cons.1 h with h | h
        · exact .inr (h ▸ List.mem_cons_self)
        · exact (ih h).imp id (List.mem_cons_of_mem _)

theorem sorted_nil : Sorted ([] : Dict α) := List.Pairwise.nil

end Dict
end Interchange
