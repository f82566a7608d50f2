import Interchange.Toml.Text

/-! # Numbers, truth values, dates and times in TOML

What is read becomes a JSON value. JSON has no infinity, no NaN and no dates: the first two are read
as zero, which no reader of a record takes for anything else than a float, and a date or time is an
object that holds its text.
-/

namespace Interchange
namespace Toml

open Text Json

def isOctal (c : Char) : Bool := '0' ≤ c && c ≤ '7'

def isBinary (c : Char) : Bool := c == '0' || c == '1'

def isHex (c : Char) : Bool := (hexValue? c).isSome

/-- The digits that go on a number; one underscore may stand between two of them. -/
def moreDigits (ok : Char → Bool) : List Char → List Char × List Char
  | '_' :: c :: cs =>
    if ok c then ((moreDigits ok cs).map (c :: ·) id) else ([], '_' :: c :: cs)
  | c :: cs => if ok c then ((moreDigits ok cs).map (c :: ·) id) else ([], c :: cs)
  | [] => ([], [])

def digits? (ok : Char → Bool) : Reads (List Char)
  | c :: cs => if ok c then some ((moreDigits ok cs).map (c :: ·) id) else none
  | [] => none

/-- A run of digits that does not start with a superfluous zero. -/
def wholeDigits? : Reads (List Char)
  | '0' :: cs => some (['0'], cs)
  | cs => digits? isDigit cs

def sign : List Char → Bool × List Char
  | '-' :: cs => (true, cs)
  | '+' :: cs => (false, cs)
  | cs => (false, cs)

/-- The whole number with the given digits in a base, if 64 bits with a sign hold it. -/
def integer? (negative : Bool) (base : Nat) (ds : List Char) : Option Value :=
  let magnitude := ds.foldl (fun n d => base * n + (hexValue? d).getD 0) 0
  let n : Int := if negative then -(magnitude : Int) else magnitude
  if -Nat.pow 2 63 ≤ n ∧ n < Nat.pow 2 63 then some (.ofInt n) else none

def exponent? : Reads Int
  | e :: cs =>
    if e = 'e' ∨ e = 'E' then
      let (negative, cs) := sign cs
      (digits? isDigit cs).map fun r =>
        (if negative then -(digitsValue r.1 : Int) else digitsValue r.1, r.2)
    else some (0, e :: cs)
  | [] => some (0, [])

/-- The value of a float; one that is too small to be finite is read as zero, and one that is too
large is refused. -/
def float? (negative : Bool) (ds : List Char) (power : Int) : Option Value :=
  match Binary64.ofDecimal negative (digitsValue ds) power with
  | some x => some (.number (.float x))
  | none => if negative then some (.number (.float .zero)) else none

/-- A whole number in base ten, or a float. -/
def decimal? (negative : Bool) (cs : List Char) : Option (Value × List Char) := do
  let (whole, rest) ← wholeDigits? cs
  match rest with
  | '.' :: rest =>
    let (fraction, rest) ← digits? isDigit rest
    let (power, rest) ← exponent? rest
    pure (← float? negative (whole ++ fraction) (power - fraction.length), rest)
  | e :: _ =>
    if e = 'e' ∨ e = 'E' then
      let (power, rest) ← exponent? rest
      pure (← float? negative whole power, rest)
    else pure (← integer? negative 10 whole, rest)
  | [] => pure (← integer? negative 10 whole, [])

def number? (cs : List Char) : Option (Value × List Char) :=
  let based (ok : Char → Bool) (base : Nat) (cs : List Char) : Option (Value × List Char) := do
    let (ds, rest) ← digits? ok cs
    pure (← integer? false base ds, rest)
  match cs with
  | '0' :: 'x' :: cs => based isHex 16 cs
  | '0' :: 'o' :: cs => based isOctal 8 cs
  | '0' :: 'b' :: cs => based isBinary 2 cs
  | cs => match sign cs with
    | (_, 'i' :: 'n' :: 'f' :: rest) => some (.number (.float .zero), rest)
    | (_, 'n' :: 'a' :: 'n' :: rest) => some (.number (.float .zero), rest)
    | (negative, rest) => decimal? negative rest

/-- A number of `width` digits between two bounds. -/
def field? (width low high : Nat) (cs : List Char) : Option (Nat × List Char) :=
  let ds := cs.take width
  let n := digitsValue ds
  if ds.length = width ∧ ds.all isDigit ∧ low ≤ n ∧ n ≤ high then some (n, cs.drop width) else none

def behind? (c : Char) : List Char → Option (List Char)
  | d :: cs => if c = d then some cs else none
  | [] => none

def daysOf (year month : Nat) : Nat :=
  if month = 2 then
    if year % 4 = 0 ∧ (year % 100 ≠ 0 ∨ year % 400 = 0) then 29 else 28
  else if month = 4 ∨ month = 6 ∨ month = 9 ∨ month = 11 then 30
  else 31

def date? (cs : List Char) : Option (List Char) := do
  let (year, cs) ← field? 4 0 9999 cs
  let (month, cs) ← field? 2 1 12 (← behind? '-' cs)
  let (_, cs) ← field? 2 1 (daysOf year month) (← behind? '-' cs)
  pure cs

/-- What stands behind a time of day; a minute may have a leap second. -/
def time? (cs : List Char) : Option (List Char) := do
  let (_, cs) ← field? 2 0 23 cs
  let (_, cs) ← field? 2 0 59 (← behind? ':' cs)
  let (_, cs) ← field? 2 0 60 (← behind? ':' cs)
  match cs with
  | '.' :: rest => pure (if (rest.takeWhile isDigit).isEmpty then cs else rest.dropWhile isDigit)
  | cs => pure cs

/-- What stands behind the distance of a time zone, if one starts here. -/
def offset (cs : List Char) : List Char :=
  match cs with
  | [] => []
  | c :: rest =>
    if c = 'Z' ∨ c = 'z' then rest
    else if c = '+' ∨ c = '-' then
      let distance : Option (List Char) := do
        let (_, rest) ← field? 2 0 23 rest
        let (_, rest) ← field? 2 0 59 (← behind? ':' rest)
        pure rest
      distance.getD cs
    else cs

/-- What stands behind a date, a time, or both. -/
def moment? (cs : List Char) : Option (List Char) :=
  match date? cs with
  | none => time? cs
  | some rest => match rest with
    | c :: later =>
      if c = 'T' ∨ c = 't' ∨ c = ' ' then some (((time? later).map offset).getD rest)
      else some rest
    | [] => some []

/-- A value that is neither a text nor made of values. -/
def scalar? (cs : List Char) : Option (Value × List Char) :=
  match cs with
  | 't' :: 'r' :: 'u' :: 'e' :: rest => some (.bool true, rest)
  | 'f' :: 'a' :: 'l' :: 's' :: 'e' :: rest => some (.bool false, rest)
  | cs => match moment? cs with
    | some rest =>
      let text := String.ofList (cs.take (cs.length - rest.length))
      some (.object [("moment", .string text)], rest)
    | none => number? cs

end Toml
end Interchange
