import Interchange.Proofs.Json.Numbers

/-! # The tokens of JSON text

How far a text is cut into tokens does not depend on what follows, except that a word goes on until
a character ends it. Main statement: the indented text of a value is cut into the tokens of that
value.
-/

namespace Interchange
namespace Json

variable {ts : List Token} {rest : List Char}

/-! ## Quoted texts -/

theorem hexValue?_hexDigit : ∀ n < 16, hexValue? (hexDigit n) = some n := by decide

/-- A character is read back from the way it stands inside a quoted text. -/
theorem lexFrom_escape (c : Char) (acc : List Char) :
    lexFrom (.quoted acc) ts (escape c ++ rest) = lexFrom (.quoted (c :: acc)) ts rest := by
  unfold escape
  -- seven characters have an escape of one letter, other control characters one of four digits
  split
  · next h => subst h; rfl
  split
  · next h => subst h; rfl
  split
  · next h => subst h; rfl
  split
  · next h => subst h; rfl
  split
  · next h => subst h; rfl
  split
  · next h => subst h; rfl
  split
  · next h => subst h; rfl
  split
  · next h =>
    have hx := hexValue?_hexDigit (c.toNat / 16) (by omega)
    have hy := hexValue?_hexDigit (c.toNat % 16) (by omega)
    have h0 : hexValue? '0' = some 0 := by decide
    have hunit : lexUnit acc none c.toNat = some (.quoted (c :: acc)) := by
      rw [lexUnit, if_neg (by omega), if_neg (by omega), Char.ofNat_toNat]
    simp [lexFrom, lexStep, h0, hx, hy, Nat.div_add_mod, hunit]
  · next hq hb _ _ _ _ _ hc =>
    simp [lexFrom, lexStep, hq, hb, hc]

theorem lexFrom_escapes (cs acc : List Char) :
    lexFrom (.quoted acc) ts (cs.flatMap escape ++ rest) =
      lexFrom (.quoted (cs.reverse ++ acc)) ts rest := by
  induction cs generalizing acc with
  | nil => rfl
  | cons c cs ih =>
    rw [List.flatMap_cons, List.append_assoc, lexFrom_escape, ih, List.reverse_cons,
      List.append_assoc, List.singleton_append]

theorem lexFrom_quoted (s : String) :
    lexFrom .between ts ((quoted s).toList ++ rest) =
      lexFrom .between (.text s :: ts) rest := by
  have hopen : lexFrom .between ts ('"' :: (s.toList.flatMap escape ++ '"' :: rest)) =
      lexFrom (.quoted []) ts (s.toList.flatMap escape ++ '"' :: rest) := rfl
  have hclose : lexFrom (.quoted s.toList.reverse) ts ('"' :: rest) =
      lexFrom .between (.text (String.ofList s.toList.reverse.reverse) :: ts) rest := rfl
  rw [quoted, String.toList_ofList, List.cons_append, List.append_assoc, List.singleton_append,
    hopen, lexFrom_escapes, List.append_nil, hclose, List.reverse_reverse, String.ofList_toList]

theorem lexFrom_lineBreak (depth : Nat) :
    lexFrom .between ts ((Value.lineBreak depth).toList ++ rest) = lexFrom .between ts rest := by
  have hspaces (n : Nat) : lexFrom .between ts (List.replicate n ' ' ++ rest) =
      lexFrom .between ts rest := by
    induction n with
    | zero => rfl
    | succ n ih => exact ih
  rw [Value.lineBreak, String.toList_ofList]
  exact hspaces (2 * depth)

/-! ## Bare words -/

theorem lexBetween_of_not_endsWord {c : Char} (h : ¬ EndsWord c) :
    lexBetween c = (.word [c], []) := by
  simp only [EndsWord, not_or] at h
  simp [lexBetween, h]

theorem lexFrom_word {cs : List Char} (h : ∀ c ∈ cs, ¬ EndsWord c) (acc : List Char) :
    lexFrom (.word acc) ts (cs ++ rest) = lexFrom (.word (cs.reverse ++ acc)) ts rest := by
  induction cs generalizing acc with
  | nil => rfl
  | cons c cs ih =>
    obtain ⟨hc, hcs⟩ := List.forall_mem_cons.mp h
    have hstep : lexStep (.word acc) c = some (.word (c :: acc), []) := if_neg hc
    rw [List.cons_append, lexFrom, hstep, List.reverse_cons, List.append_assoc]
    exact ih hcs (c :: acc)

/-- A word ends where the text ends, or at a character that ends it. -/
theorem lexFrom_word_end {cs : List Char} {v : Value} (h : wordValue? cs.reverse = some v)
    (hr : ∀ c ∈ rest.head?, EndsWord c) :
    lexFrom (.word cs) ts rest = lexFrom .between (.scalar v :: ts) rest := by
  cases rest with
  | nil => simp [lexFrom, h]
  | cons c rest =>
    have hc : EndsWord c := hr c rfl
    have hstep : lexStep (.word cs) c =
        some ((lexBetween c).1, .scalar v :: (lexBetween c).2) := by
      refine (if_pos hc).trans ?_
      rw [h]
      rfl
    rw [lexFrom, lexFrom, hstep]
    simp [lexStep]

theorem lexFrom_scalar {cs : List Char} {v : Value} (h : wordValue? cs = some v)
    (hcs : ∀ c ∈ cs, ¬ EndsWord c) (hr : ∀ c ∈ rest.head?, EndsWord c) :
    lexFrom .between ts (cs ++ rest) = lexFrom .between (.scalar v :: ts) rest := by
  cases cs with
  | nil => cases h
  | cons c cs =>
    obtain ⟨hc, hcs⟩ := List.forall_mem_cons.mp hcs
    have hstep : lexStep .between c = some (.word [c], []) :=
      congrArg some (lexBetween_of_not_endsWord hc)
    rw [List.cons_append, lexFrom, hstep]
    refine (lexFrom_word hcs [c]).trans (lexFrom_word_end ?_ hr)
    simpa using h

theorem wordValue?_of_readNumber? {cs : List Char} {n : Number} (h : readNumber? cs = some n) :
    wordValue? cs = some (.number n) := by
  have hno {c : Char} {w : List Char} (hc : ¬ Numeric c) : cs ≠ c :: w := by
    rintro rfl
    exact hc (numeric_of_readNumber? h c List.mem_cons_self)
  rw [wordValue?, if_neg (hno (by decide)), if_neg (hno (by decide)), if_neg (hno (by decide)), h]
  rfl

/-! ## Texts that are cut into tokens -/

/-- The tokens of a text, last first, whatever follows it. -/
def Lexed (text : String) (ts : List Token) : Prop :=
  ∀ rest, lexFrom .between [] (text.toList ++ rest) = lexFrom .between ts rest

/-- The tokens of a text, last first, where no word goes on behind it. -/
def LexedWord (text : String) (ts : List Token) : Prop :=
  ∀ rest : List Char, (∀ c ∈ rest.head?, EndsWord c) →
    lexFrom .between [] (text.toList ++ rest) = lexFrom .between ts rest

variable {text : String}

theorem lexed_empty : Lexed "" [] := fun _ => rfl

theorem Lexed.lexedWord (h : Lexed text ts) : LexedWord text ts := fun rest _ => h rest

theorem LexedWord.push {c : Char} {t : Token} (h : LexedWord text ts) (hc : EndsWord c)
    (hl : lexBetween c = (.between, [t])) : Lexed (text.push c) (t :: ts) := by
  intro rest
  have hstep : lexStep .between c = some (.between, [t]) := congrArg some hl
  rw [String.toList_push, List.append_assoc, List.singleton_append, h (c :: rest), lexFrom, hstep]
  · rfl
  · rintro _ ⟨⟩
    exact hc

theorem LexedWord.quoted (h : LexedWord text ts) (s : String) :
    Lexed (text ++ Json.quoted s) (.text s :: ts) := by
  intro rest
  have hquote : ∀ c ∈ ((Json.quoted s).toList ++ rest).head?, EndsWord c := by
    rw [Json.quoted, String.toList_ofList]
    rintro _ ⟨⟩
    decide
  rw [String.toList_append, List.append_assoc, h _ hquote, lexFrom_quoted]

theorem LexedWord.lineBreak (h : LexedWord text ts) (depth : Nat) :
    Lexed (text ++ Value.lineBreak depth) ts := by
  intro rest
  have hbreak : ∀ c ∈ ((Value.lineBreak depth).toList ++ rest).head?, EndsWord c := by
    rw [Value.lineBreak, String.toList_ofList]
    rintro _ ⟨⟩
    decide
  rw [String.toList_append, List.append_assoc, h _ hbreak, lexFrom_lineBreak]

theorem Lexed.colon (h : Lexed text ts) : Lexed (text ++ ": ") (.colon :: ts) := by
  intro rest
  rw [String.toList_append, List.append_assoc, h]
  rfl

theorem Lexed.scalar (h : Lexed text ts) (word : String) {v : Value}
    (hv : wordValue? word.toList = some v) (hw : word.toList.all fun c => ¬ EndsWord c) :
    LexedWord (text ++ word) (.scalar v :: ts) := by
  intro rest hr
  have hword : ∀ c ∈ word.toList, ¬ EndsWord c := by simpa using hw
  rw [String.toList_append, List.append_assoc, h, lexFrom_scalar hv hword hr]

theorem Lexed.number (h : Lexed text ts) {n : Number} (hn : n.Legible) :
    LexedWord (text ++ n.text) (.scalar (.number n) :: ts) := by
  refine h.scalar n.text (wordValue?_of_readNumber? hn) (List.all_eq_true.mpr fun c hc => ?_)
  exact decide_eq_true fun he => he.not_numeric (numeric_of_readNumber? hn c hc)

/-! ## Values -/

namespace Value

mutual

def tokens : Value → List Token
  | .array [] => [.openArray, .closeArray]
  | .array (v :: vs) => .openArray :: (tokens v ++ laterItems vs)
  | .object [] => [.openObject, .closeObject]
  | .object ((k, v) :: ms) => .openObject :: .text k :: .colon :: (tokens v ++ laterMembers ms)
  | .string s => [.text s]
  | .null => [.scalar .null]
  | .bool b => [.scalar (.bool b)]
  | .number n => [.scalar (.number n)]

/-- The tokens that are left of an array once its first items are written. -/
def laterItems : List Value → List Token
  | [] => [.closeArray]
  | v :: vs => .comma :: (tokens v ++ laterItems vs)

/-- The tokens that are left of an object once its first members are written. -/
def laterMembers : List (String × Value) → List Token
  | [] => [.closeObject]
  | (k, v) :: ms => .comma :: .text k :: .colon :: (tokens v ++ laterMembers ms)

end

mutual

def numbers : Value → List Number
  | .number n => [n]
  | .array items => itemNumbers items
  | .object members => memberNumbers members
  | _ => []

def itemNumbers : List Value → List Number
  | [] => []
  | v :: vs => numbers v ++ itemNumbers vs

def memberNumbers : List (String × Value) → List Number
  | [] => []
  | (_, v) :: ms => numbers v ++ memberNumbers ms

end

mutual

theorem lexed_indentedOnto : ∀ (v : Value) (depth : Nat) {text : String} {ts : List Token},
    (∀ n ∈ v.numbers, n.Legible) → Lexed text ts →
      LexedWord (indentedOnto text depth v) (v.tokens.reverse ++ ts)
  | .null, _, _, _, _, h => h.scalar "null" rfl (by decide)
  | .bool true, _, _, _, _, h => h.scalar "true" rfl (by decide)
  | .bool false, _, _, _, _, h => h.scalar "false" rfl (by decide)
  | .number n, _, _, _, hn, h => h.number (hn n (List.mem_singleton_self n))
  | .string s, _, _, _, _, h => (h.lexedWord.quoted s).lexedWord
  | .array [], _, text, ts, _, h => by
    have hopen : Lexed (text.push '[') (.openArray :: ts) := h.lexedWord.push (by decide) rfl
    have hclose : Lexed ((text.push '[').push ']') (.closeArray :: .openArray :: ts) :=
      hopen.lexedWord.push (by decide) rfl
    have ht : indentedOnto text 0 (.array []) = (text.push '[').push ']' :=
      String.toList_injective (by simp [indentedOnto])
    exact ht ▸ hclose.lexedWord
  | .array (v :: vs), depth, text, ts, hn, h => by
    obtain ⟨hv, hvs⟩ := List.forall_mem_append.mp hn
    have hopen : Lexed (text.push '[' ++ lineBreak (depth + 1)) (.openArray :: ts) :=
      (h.lexedWord.push (by decide) rfl).lexedWord.lineBreak (depth + 1)
    have hfirst := lexed_indentedOnto v (depth + 1) hv hopen
    have hrest := lexed_indentedItems vs depth hvs hfirst
    simpa [tokens, indentedOnto] using hrest
  | .object [], _, text, ts, _, h => by
    have hopen : Lexed (text.push '{') (.openObject :: ts) := h.lexedWord.push (by decide) rfl
    have hclose : Lexed ((text.push '{').push '}') (.closeObject :: .openObject :: ts) :=
      hopen.lexedWord.push (by decide) rfl
    have ht : indentedOnto text 0 (.object []) = (text.push '{').push '}' :=
      String.toList_injective (by simp [indentedOnto])
    exact ht ▸ hclose.lexedWord
  | .object ((k, v) :: ms), depth, text, ts, hn, h => by
    obtain ⟨hv, hvs⟩ := List.forall_mem_append.mp hn
    have hopen : Lexed (text.push '{' ++ lineBreak (depth + 1)) (.openObject :: ts) :=
      (h.lexedWord.push (by decide) rfl).lexedWord.lineBreak (depth + 1)
    have hfirst := lexed_indentedOnto v (depth + 1) hv (hopen.lexedWord.quoted k).colon
    have hrest := lexed_indentedMembers ms depth hvs hfirst
    simpa [tokens, indentedOnto] using hrest

theorem lexed_indentedItems : ∀ (vs : List Value) (depth : Nat) {text : String} {ts : List Token},
    (∀ n ∈ itemNumbers vs, n.Legible) → LexedWord text ts →
      LexedWord (indentedItems text depth vs) ((laterItems vs).reverse ++ ts)
  | [], depth, text, ts, _, h => by
    have hclose : Lexed ((text ++ lineBreak depth).push ']') (.closeArray :: ts) :=
      (h.lineBreak depth).lexedWord.push (by decide) rfl
    exact hclose.lexedWord
  | v :: vs, depth, text, ts, hn, h => by
    obtain ⟨hv, hvs⟩ := List.forall_mem_append.mp hn
    have hcomma : Lexed (text.push ',' ++ lineBreak (depth + 1)) (.comma :: ts) :=
      (h.push (by decide) rfl).lexedWord.lineBreak (depth + 1)
    have hfirst := lexed_indentedOnto v (depth + 1) hv hcomma
    have hrest := lexed_indentedItems vs depth hvs hfirst
    simpa [laterItems, indentedItems] using hrest

theorem lexed_indentedMembers : ∀ (ms : List (String × Value)) (depth : Nat) {text : String}
    {ts : List Token}, (∀ n ∈ memberNumbers ms, n.Legible) → LexedWord text ts →
      LexedWord (indentedMembers text depth ms) ((laterMembers ms).reverse ++ ts)
  | [], depth, text, ts, _, h => by
    have hclose : Lexed ((text ++ lineBreak depth).push '}') (.closeObject :: ts) :=
      (h.lineBreak depth).lexedWord.push (by decide) rfl
    exact hclose.lexedWord
  | (k, v) :: ms, depth, text, ts, hn, h => by
    obtain ⟨hv, hvs⟩ := List.forall_mem_append.mp hn
    have hcomma : Lexed (text.push ',' ++ lineBreak (depth + 1)) (.comma :: ts) :=
      (h.push (by decide) rfl).lexedWord.lineBreak (depth + 1)
    have hfirst := lexed_indentedOnto v (depth + 1) hv (hcomma.lexedWord.quoted k).colon
    have hrest := lexed_indentedMembers ms depth hvs hfirst
    simpa [laterMembers, indentedMembers] using hrest

end

end Value
end Json
end Interchange
