import Interchange.Proofs.Json.Decoding
import Interchange.Proofs.Json.Tokens
import Interchange.Text.Trim

/-! # Values, written and read back

Main statement: the indented text of a value is read back as that value, if each of its numbers is
read back from its text and no more arrays and objects are open at once than the reader allows.
-/

namespace Interchange
namespace Json

variable {stack : List Frame}

namespace Value

mutual

/-- The most arrays and objects that are open at once in a value. -/
def depth : Value → Nat
  | .array items => 1 + itemDepth items
  | .object members => 1 + memberDepth members
  | _ => 0

def itemDepth : List Value → Nat
  | [] => 0
  | v :: vs => max (depth v) (itemDepth vs)

def memberDepth : List (String × Value) → Nat
  | [] => 0
  | (_, v) :: ms => max (depth v) (memberDepth ms)

end

/-- A value that is read back from its text where so many more arrays and objects may be open. -/
structure Legible (room : Nat) (v : Value) : Prop where
  depth : v.depth ≤ room
  numbers : ∀ n ∈ v.numbers, n.Legible

theorem memberDepth_le_iff {ms : List (String × Value)} {n : Nat} :
    memberDepth ms ≤ n ↔ ∀ m ∈ ms, m.2.depth ≤ n := by
  induction ms with
  | nil => simp [memberDepth]
  | cons m ms ih => rw [memberDepth, Nat.max_le, ih, List.forall_mem_cons]

theorem forall_mem_memberNumbers {ms : List (String × Value)} {P : Number → Prop} :
    (∀ n ∈ memberNumbers ms, P n) ↔ ∀ m ∈ ms, ∀ n ∈ m.2.numbers, P n := by
  induction ms with
  | nil => simp [memberNumbers]
  | cons m ms ih => rw [memberNumbers, List.forall_mem_append, ih, List.forall_mem_cons]

theorem legible_iff {room : Nat} {v : Value} :
    v.Legible room ↔ v.depth ≤ room ∧ ∀ n ∈ v.numbers, n.Legible :=
  ⟨fun h => ⟨h.depth, h.numbers⟩, fun h => ⟨h.1, h.2⟩⟩

/-- A value is legible if it is shallow enough and has no numbers but whole ones that fit 64
bits. -/
theorem legible_of_ints {room : Nat} {v : Value} (is : List Int) (hd : v.depth ≤ room)
    (hn : v.numbers = is.map .int) (hi : ∀ i ∈ is, Number.InRange i) : v.Legible room where
  depth := hd
  numbers n hm := by
    rw [hn] at hm
    obtain ⟨i, him, rfl⟩ := List.mem_map.mp hm
    exact Number.legible_int (hi i him)

theorem legible_object_iff {room : Nat} {ms : List (String × Value)} :
    (object ms).Legible (room + 1) ↔ ∀ m ∈ ms, m.2.Legible room := by
  rw [legible_iff, depth, numbers, Nat.add_comm, Nat.add_le_add_iff_right, memberDepth_le_iff,
    forall_mem_memberNumbers, ← forall₂_and]
  simp only [legible_iff]

theorem legible_string (room : Nat) (s : String) : (string s).Legible room :=
  ⟨Nat.zero_le _, nofun⟩

/-! ## What stands in front -/

theorem prefix_append (s t : String) : s.toList <+: (s ++ t).toList :=
  ⟨t.toList, String.toList_append.symm⟩

theorem prefix_push (s : String) (c : Char) : s.toList <+: (s.push c).toList :=
  ⟨[c], (String.toList_push ..).symm⟩

mutual

theorem prefix_indentedOnto : ∀ (v : Value) (depth : Nat) (text : String),
    text.toList <+: (indentedOnto text depth v).toList
  | .null, _, _ => prefix_append _ _
  | .bool _, _, _ => prefix_append _ _
  | .number _, _, _ => prefix_append _ _
  | .string _, _, _ => prefix_append _ _
  | .array [], _, _ => prefix_append _ _
  | .array (v :: vs), depth, text =>
    ((prefix_push text '[').trans (prefix_append _ _)).trans
      ((prefix_indentedOnto v (depth + 1) _).trans (prefix_indentedItems vs depth _))
  | .object [], _, _ => prefix_append _ _
  | .object ((k, v) :: ms), depth, text =>
    ((prefix_push text '{').trans (prefix_append _ _)).trans
      (((prefix_append _ (quoted k)).trans (prefix_append _ ": ")).trans
        ((prefix_indentedOnto v (depth + 1) _).trans (prefix_indentedMembers ms depth _)))

theorem prefix_indentedItems : ∀ (vs : List Value) (depth : Nat) (text : String),
    text.toList <+: (indentedItems text depth vs).toList
  | [], _, _ => (prefix_append _ _).trans (prefix_push _ ']')
  | v :: vs, depth, text =>
    ((prefix_push text ',').trans (prefix_append _ _)).trans
      ((prefix_indentedOnto v (depth + 1) _).trans (prefix_indentedItems vs depth _))

theorem prefix_indentedMembers : ∀ (ms : List (String × Value)) (depth : Nat) (text : String),
    text.toList <+: (indentedMembers text depth ms).toList
  | [], _, _ => (prefix_append _ _).trans (prefix_push _ '}')
  | (k, v) :: ms, depth, text =>
    ((prefix_push text ',').trans (prefix_append _ _)).trans
      (((prefix_append _ (quoted k)).trans (prefix_append _ ": ")).trans
        ((prefix_indentedOnto v (depth + 1) _).trans (prefix_indentedMembers ms depth _)))

end

/-- The text of an object begins with a brace. -/
theorem head_indented_object (ms : List (String × Value)) :
    ∃ rest, (object ms).indented.toList = '{' :: rest := by
  have h : ['{'] <+: (object ms).indented.toList := by
    rcases ms with _ | ⟨⟨k, v⟩, ms⟩
    · exact ⟨['}'], rfl⟩
    · exact ((prefix_append ("".push '{') _).trans (prefix_append _ (quoted k))).trans
        ((prefix_append _ ": ").trans
          ((prefix_indentedOnto v 1 _).trans (prefix_indentedMembers ms 0 _)))
  obtain ⟨rest, hr⟩ := h
  exact ⟨rest, hr.symm⟩

/-! ## What the machine makes of the tokens of a value -/

theorem foldlM_tokens_firstItem (v : Value) :
    v.tokens.foldlM ReadState.step ⟨stack, .firstItem⟩ =
      v.tokens.foldlM ReadState.step ⟨stack, .value⟩ := by
  rcases v with _ | _ | _ | _ | (_ | _) | (_ | _) <;> rfl

mutual

theorem foldlM_tokens : ∀ (stack : List Frame) (v : Value), stack.length + v.depth ≤ depthMax →
    v.tokens.foldlM ReadState.step ⟨stack, .value⟩ = some (.complete stack v)
  | _, .null, _ => rfl
  | _, .bool _, _ => rfl
  | _, .number _, _ => rfl
  | _, .string _, _ => rfl
  | stack, .array [], h => by
    rw [depth, itemDepth] at h
    have hroom : stack.length < depthMax := by omega
    simp [tokens, ReadState.step, ReadState.begin, hroom]
  | stack, .array (v :: vs), h => by
    rw [depth, itemDepth] at h
    have hroom : stack.length < depthMax := by omega
    have hopen : ReadState.step ⟨stack, .value⟩ .openArray =
        some ⟨.array [] :: stack, .firstItem⟩ := if_pos hroom
    have hfirst := foldlM_tokens (.array [] :: stack) v (by rw [List.length_cons]; omega)
    simp only [tokens, List.foldlM_cons, List.foldlM_append, hopen, foldlM_tokens_firstItem,
      hfirst, Option.bind_eq_bind, Option.bind_some]
    exact foldlM_laterItems stack vs [v] (by omega)
  | stack, .object [], h => by
    rw [depth, memberDepth] at h
    have hroom : stack.length < depthMax := by omega
    simp [tokens, ReadState.step, ReadState.begin, hroom]
  | stack, .object ((k, v) :: ms), h => by
    rw [depth, memberDepth] at h
    have hroom : stack.length < depthMax := by omega
    have hopen : ReadState.step ⟨stack, .value⟩ .openObject = some ⟨stack, .firstKey⟩ :=
      if_pos hroom
    have hkey : ReadState.step ⟨stack, .firstKey⟩ (.text k) = some ⟨stack, .colon [] k⟩ := rfl
    have hcolon : ReadState.step ⟨stack, .colon [] k⟩ .colon =
        some ⟨.object [] k :: stack, .value⟩ := rfl
    have hfirst := foldlM_tokens (.object [] k :: stack) v (by rw [List.length_cons]; omega)
    simp only [tokens, List.foldlM_cons, List.foldlM_append, hopen, hkey, hcolon, hfirst,
      Option.bind_eq_bind, Option.bind_some]
    exact foldlM_laterMembers stack ms [(k, v)] k (by omega)

theorem foldlM_laterItems : ∀ (stack : List Frame) (vs done : List Value),
    stack.length + 1 + itemDepth vs ≤ depthMax →
      (laterItems vs).foldlM ReadState.step ⟨.array done :: stack, .separator⟩ =
        some (.complete stack (.array (done.reverse ++ vs)))
  | _, [], _, _ => by simp [laterItems, ReadState.step]
  | stack, v :: vs, done, h => by
    rw [itemDepth] at h
    have hcomma : ReadState.step ⟨.array done :: stack, .separator⟩ .comma =
        some ⟨.array done :: stack, .value⟩ := rfl
    have hitem := foldlM_tokens (.array done :: stack) v (by rw [List.length_cons]; omega)
    have hrest := foldlM_laterItems stack vs (v :: done) (by omega)
    rw [List.reverse_cons, List.append_assoc] at hrest
    simp only [laterItems, List.foldlM_cons, List.foldlM_append, hcomma, hitem,
      Option.bind_eq_bind, Option.bind_some]
    exact hrest

theorem foldlM_laterMembers : ∀ (stack : List Frame) (ms done : List (String × Value))
    (key : String), stack.length + 1 + memberDepth ms ≤ depthMax →
      (laterMembers ms).foldlM ReadState.step ⟨.object done key :: stack, .separator⟩ =
        some (.complete stack (.object (done.reverse ++ ms)))
  | _, [], _, _, _ => by simp [laterMembers, ReadState.step]
  | stack, (k, v) :: ms, done, key, h => by
    rw [memberDepth] at h
    have hcomma : ReadState.step ⟨.object done key :: stack, .separator⟩ .comma =
        some ⟨stack, .key done⟩ := rfl
    have hkey : ReadState.step ⟨stack, .key done⟩ (.text k) = some ⟨stack, .colon done k⟩ := rfl
    have hcolon : ReadState.step ⟨stack, .colon done k⟩ .colon =
        some ⟨.object done k :: stack, .value⟩ := rfl
    have hmember := foldlM_tokens (.object done k :: stack) v (by rw [List.length_cons]; omega)
    have hrest := foldlM_laterMembers stack ms ((k, v) :: done) k (by omega)
    rw [List.reverse_cons, List.append_assoc] at hrest
    simp only [laterMembers, List.foldlM_cons, List.foldlM_append, hcomma, hkey, hcolon, hmember,
      Option.bind_eq_bind, Option.bind_some]
    exact hrest

end

theorem tokens?_indented {v : Value} (h : ∀ n ∈ v.numbers, n.Legible) :
    tokens? v.indented.toList = some v.tokens := by
  have hl := lexed_indentedOnto v 0 h lexed_empty [] nofun
  rw [List.append_nil, List.append_nil] at hl
  rw [tokens?, indented, hl]
  simp [lexFrom]

/-- The indented text of a value is read back as that value. -/
theorem Legible.parseVerbatim?_indented {v : Value} (h : v.Legible depthMax) :
    parseVerbatim? v.indented = some v := by
  have hrun := foldlM_tokens [] v (by simpa using h.depth)
  rw [parseVerbatim?, tokens?_indented h.numbers, Option.bind_some, hrun]
  rfl

end Value

/-- The text of a map is not blank, and what is read there is made of the texts of its values. -/
theorem read_indented_map {α β : Type} {f : α → Value} {d : Dict α}
    (h : ∀ p ∈ d, (f p.2).Legible (depthMax - 1)) (g : Value → Option β) :
    (if Text.allBlank (Value.object (Dict.mapValues f d)).indented then some []
      else
        (parseVerbatim? (Value.object (Dict.mapValues f d)).indented).bind (Decode.dict g)) =
      Decode.dict g (.object (Dict.mapValues f d)) := by
  have hobject : (Value.object (Dict.mapValues f d)).Legible (depthMax - 1 + 1) := by
    refine Value.legible_object_iff.mpr fun m hm => ?_
    obtain ⟨p, hp, rfl⟩ := List.mem_map.mp hm
    exact h p hp
  obtain ⟨rest, hr⟩ := Value.head_indented_object (Dict.mapValues f d)
  have hblank : ¬ Text.allBlank (Value.object (Dict.mapValues f d)).indented := by
    rw [Text.allBlank, hr]
    exact Bool.false_ne_true
  rw [if_neg hblank, hobject.parseVerbatim?_indented, Option.bind_some]

end Json
end Interchange
