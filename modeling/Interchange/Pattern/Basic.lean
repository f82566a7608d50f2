import Interchange.Text.Letters

/-! # Patterns

A pattern describes the texts that contain a match of it. `ends` lists where a match that begins at
a given place may end, `found` says whether there is a match anywhere.
-/

namespace Interchange

/-- A pattern over the characters of a text. -/
inductive Pattern where
  | empty
  | char (test : Char → Bool)
  | seq (first second : Pattern)
  | alt (left right : Pattern)
  | times (body : Pattern) (least : Nat) (most : Option Nat)
  | textStart
  | textEnd
  | lineStart
  | lineEnd
  | wordEdge (wanted : Bool)
  | ahead (wanted : Bool) (body : Pattern)
  | behind (wanted : Bool) (body : Pattern)

namespace Pattern

def merge (old new : List Nat) : List Nat :=
  new.foldl (fun acc n => if acc.contains n then acc else n :: acc) old

/-- The places reached from `places` by exactly `n` rounds of `step`. -/
def rounds (step : Nat → List Nat) : Nat → List Nat → List Nat
  | 0, places => places
  | n + 1, places => rounds step n (merge [] (places.flatMap step))

/-- The places reached from `seen` by up to `n` further rounds, `fresh` being those that were
reached in the last one. -/
def closure (step : Nat → List Nat) : Nat → (seen fresh : List Nat) → List Nat
  | 0, seen, _ => seen
  | n + 1, seen, fresh =>
    let new := (merge [] (fresh.flatMap step)).filter fun p => !seen.contains p
    if new.isEmpty then seen else closure step n (seen ++ new) new

def atWordEdge (text : Array Char) (p : Nat) : Bool :=
  let word (i : Nat) : Bool := match text[i]? with
    | some c => Text.isWordChar c
    | none => false
  (p != 0 && word (p - 1)) != word p

/-- The places where a match that begins at `p` may end. -/
def ends (text : Array Char) : Pattern → Nat → List Nat
  | .empty, p => [p]
  | .char test, p => match text[p]? with
    | some c => if test c then [p + 1] else []
    | none => []
  | .seq first second, p => merge [] ((ends text first p).flatMap (ends text second))
  | .alt left right, p => merge (ends text left p) (ends text right p)
  | .times body least most, p =>
    let first := rounds (ends text body) least [p]
    let more := match most with
      | some n => min (n - least) (text.size + 1)
      | none => text.size + 1
    closure (ends text body) more first first
  | .textStart, p => if p = 0 then [p] else []
  | .textEnd, p => if p = text.size then [p] else []
  | .lineStart, p => if p = 0 ∨ text[p - 1]? = some '\n' then [p] else []
  | .lineEnd, p => if p = text.size ∨ text[p]? = some '\n' then [p] else []
  | .wordEdge wanted, p => if atWordEdge text p = wanted then [p] else []
  | .ahead wanted body, p => if (ends text body p).isEmpty = wanted then [] else [p]
  | .behind wanted body, p =>
    let hit := (List.range (p + 1)).any fun q => (ends text body q).contains p
    if hit = wanted then [p] else []

def found (pattern : Pattern) (s : String) : Bool :=
  let text := s.toList.toArray
  (List.range (text.size + 1)).any fun p => !(ends text pattern p).isEmpty

end Pattern
end Interchange
