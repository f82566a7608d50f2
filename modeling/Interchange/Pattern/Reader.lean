import Interchange.Pattern.Basic
import Interchange.Text.Ascii
import Interchange.Json.Reader

/-! # Reading patterns

The written form of patterns: alternatives, groups with their flags, repetitions, sets of
characters with nesting and set operations, anchors, look-around and escapes. `\d`, `\w` and `\s`
stand for the sets that JSON Schema gives them.
-/

namespace Interchange
namespace Pattern

open Text

/-- The flags that are in force in a group. -/
structure Flags where
  ignoreCase : Bool := false
  multiLine : Bool := false
  dotAll : Bool := false

/-- A set of characters. -/
abbrev CharSet := Char → Bool

def digitSet : CharSet := isDigit

/-- Letters, digits and the underscore, of ASCII. -/
def wordSet : CharSet := fun c => isAlphanumeric c || c == '_'

def spaceSet : CharSet := fun c =>
  let n := c.toNat
  (9 ≤ n && n ≤ 13) || n == 0x20 || n == 0xa0 || n == 0xfeff || n == 0x1680
    || (0x2000 ≤ n && n ≤ 0x200a) || n == 0x2028 || n == 0x2029 || n == 0x202f || n == 0x205f
    || n == 0x3000

/-- The set with the other case of each letter, where case is ignored. -/
def CharSet.withFlags (flags : Flags) (s : CharSet) : CharSet :=
  if flags.ignoreCase then fun c => s c || s (lowerChar c) || s c.toUpper else s

def namedSet? (name : List Char) : Option CharSet :=
  match String.ofList name with
  | "alpha" => some isLetter
  | "alnum" => some isAlphanumeric
  | "digit" => some isDigit
  | "lower" => some fun c => 'a' ≤ c && c ≤ 'z'
  | "upper" => some fun c => 'A' ≤ c && c ≤ 'Z'
  | "space" => some fun c => (9 ≤ c.toNat && c.toNat ≤ 13) || c == ' '
  | "blank" => some fun c => c == ' ' || c == '\t'
  | "punct" => some fun c => '!' ≤ c && c ≤ '~' && !isAlphanumeric c
  | "xdigit" => some fun c => (Json.hexValue? c).isSome
  | "word" => some wordSet
  | "ascii" => some fun c => c.toNat < 128
  | "cntrl" => some fun c => c.toNat < 32 || c.toNat == 127
  | "graph" => some fun c => '!' ≤ c && c ≤ '~'
  | "print" => some fun c => ' ' ≤ c && c ≤ '~'
  | _ => none

def propertySet? (name : List Char) : Option CharSet :=
  match String.ofList name with
  | "L" | "Letter" => some isUnicodeLetter
  | "Lu" | "Uppercase_Letter" | "Uppercase" => some isUnicodeUpper
  | "Ll" | "Lowercase_Letter" | "Lowercase" => some isUnicodeLower
  | "Alphabetic" => some isUnicodeLetter
  | "N" | "Number" => some isUnicodeNumber
  | "Nd" | "Decimal_Number" => some isUnicodeDigit
  | "M" | "Mark" => some fun c => inRanges markRanges c.toNat
  | "ASCII" => some fun c => c.toNat < 128
  | "Any" => some fun _ => true
  | "White_Space" => some fun c => spaceSet c && c.toNat != 0xfeff
  | _ => none

inductive Escape where
  | char (c : Char)
  | set (s : CharSet)
  | edge (p : Pattern)

def hexChar? (ds : List Char) : Option Char := do
  let n ← ds.foldlM (fun n d => (Json.hexValue? d).map fun v => 16 * n + v) 0
  if ds ≠ [] ∧ (n < 0xd800 ∨ 0xe000 ≤ n) ∧ n < 0x110000 then some (Char.ofNat n) else none

/-- Reads `count` hexadecimal digits, or any number of them between braces. -/
def readHex? (count : Nat) : List Char → Option (Char × List Char)
  | '{' :: cs =>
    let ds := cs.takeWhile (· ≠ '}')
    match cs.dropWhile (· ≠ '}') with
    | _ :: rest => (hexChar? ds).map fun c => (c, rest)
    | [] => none
  | cs =>
    if (cs.take count).length = count then
      (hexChar? (cs.take count)).map fun c => (c, cs.drop count)
    else none

/-- Reads the name of a property, one letter or between braces, perhaps negated. -/
def readProperty? (negated : Bool) : List Char → Option (CharSet × List Char)
  | '{' :: cs =>
    let name := cs.takeWhile (· ≠ '}')
    let (turned, name) := match name with
      | '^' :: name => (true, name)
      | name => (false, name)
    match cs.dropWhile (· ≠ '}') with
    | _ :: rest => (propertySet? name).map fun s => ((fun c => s c != (negated != turned)), rest)
    | [] => none
  | c :: rest => (propertySet? [c]).map fun s => ((fun c => s c != negated), rest)
  | [] => none

def readEscape? : List Char → Option (Escape × List Char)
  | [] => none
  | c :: cs =>
    match c with
    | 'd' => some (.set digitSet, cs)
    | 'D' => some (.set fun c => !digitSet c, cs)
    | 'w' => some (.set wordSet, cs)
    | 'W' => some (.set fun c => !wordSet c, cs)
    | 's' => some (.set spaceSet, cs)
    | 'S' => some (.set fun c => !spaceSet c, cs)
    | 'p' => (readProperty? false cs).map fun (s, cs) => (.set s, cs)
    | 'P' => (readProperty? true cs).map fun (s, cs) => (.set s, cs)
    | 'b' => some (.edge (.wordEdge true), cs)
    | 'B' => some (.edge (.wordEdge false), cs)
    | 'A' => some (.edge .textStart, cs)
    | 'z' => some (.edge .textEnd, cs)
    | 'f' => some (.char '\x0c', cs)
    | 't' => some (.char '\t', cs)
    | 'n' => some (.char '\n', cs)
    | 'r' => some (.char '\r', cs)
    | 'v' => some (.char '\x0b', cs)
    | 'x' => (readHex? 2 cs).map fun (c, cs) => (.char c, cs)
    | 'u' => (readHex? 4 cs).map fun (c, cs) => (.char c, cs)
    | 'U' => (readHex? 8 cs).map fun (c, cs) => (.char c, cs)
    | 'c' => match cs with
      | l :: cs => if isLetter l then some (.char (Char.ofNat (l.toNat % 32)), cs) else none
      | [] => none
    | c =>
      if c.toNat < 128 ∧ ¬ isAlphanumeric c ∧ c ≠ '<' ∧ c ≠ '>' then some (.char c, cs) else none

/-- Combines two sets by the operation that stands between them. -/
def combineSets (op : Char) (s t : CharSet) : CharSet :=
  if op = '&' then fun c => s c && t c
  else if op = '-' then fun c => s c && !t c
  else fun c => s c != t c

/-- Reads one end of a range inside brackets. -/
def readMember? : List Char → Option (Escape × List Char)
  | [] => none
  | '\\' :: cs => match readEscape? cs with
    | some (.edge _, _) => none
    | r => r
  | c :: cs => some (.char c, cs)

mutual

/-- Reads the inside of a set up to its closing bracket. `left` is the operand and the operation
that await the members in `acc`; `fresh` says that no member has been read yet. -/
def readMembers (fuel : Nat) (left : Option (CharSet × Char)) (acc : CharSet) (fresh : Bool)
    (cs : List Char) : Option (CharSet × List Char) :=
  match fuel with
  | 0 => none
  | fuel + 1 =>
    let whole : CharSet := match left with
      | none => acc
      | some (s, op) => combineSets op s acc
    match cs with
    | [] => none
    | ']' :: rest =>
      if fresh then readRange fuel left acc cs else some (whole, rest)
    | '&' :: '&' :: rest => readMembers fuel (some (whole, '&')) (fun _ => false) false rest
    | '-' :: '-' :: rest =>
      if fresh then readRange fuel left acc cs
      else readMembers fuel (some (whole, '-')) (fun _ => false) false rest
    | '~' :: '~' :: rest => readMembers fuel (some (whole, '~')) (fun _ => false) false rest
    | '[' :: ':' :: rest =>
      let name := rest.takeWhile (· ≠ ':')
      let (turned, bare) := match name with
        | '^' :: bare => (true, bare)
        | bare => (false, bare)
      match rest.dropWhile (· ≠ ':'), namedSet? bare with
      | ':' :: ']' :: rest, some s =>
        readMembers fuel left (fun c => acc c || (s c != turned)) false rest
      | _, _ => readNested fuel left acc (':' :: rest)
    | '[' :: rest => readNested fuel left acc rest
    | cs => readRange fuel left acc cs

def readNested (fuel : Nat) (left : Option (CharSet × Char)) (acc : CharSet) (cs : List Char) :
    Option (CharSet × List Char) :=
  match fuel with
  | 0 => none
  | fuel + 1 => (readSet fuel cs).bind fun (s, rest) =>
    readMembers fuel left (fun c => acc c || s c) false rest

def readRange (fuel : Nat) (left : Option (CharSet × Char)) (acc : CharSet) (cs : List Char) :
    Option (CharSet × List Char) :=
  match fuel with
  | 0 => none
  | fuel + 1 => (readMember? cs).bind fun (lo, rest) =>
    match rest with
    | '-' :: rest' =>
      if rest'.head? = some ']' ∨ rest'.head? = some '-' then single fuel left acc lo rest
      else (readMember? rest').bind fun (hi, rest'') =>
        match lo, hi with
        | .char a, .char b =>
          if a ≤ b then
            readMembers fuel left (fun c => acc c || (a ≤ c && c ≤ b)) false rest''
          else none
        | _, _ => none
    | rest => single fuel left acc lo rest

def single (fuel : Nat) (left : Option (CharSet × Char)) (acc : CharSet) (e : Escape)
    (rest : List Char) : Option (CharSet × List Char) :=
  match fuel with
  | 0 => none
  | fuel + 1 => match e with
    | .char d => readMembers fuel left (fun c => acc c || c == d) false rest
    | .set s => readMembers fuel left (fun c => acc c || s c) false rest
    | .edge _ => none

def readSet (fuel : Nat) (cs : List Char) : Option (CharSet × List Char) :=
  match fuel with
  | 0 => none
  | fuel + 1 => match cs with
    | '^' :: cs => (readMembers fuel none (fun _ => false) true cs).map fun (s, rest) =>
      ((fun c => !s c), rest)
    | cs => readMembers fuel none (fun _ => false) true cs

end

/-- Reads the bounds of a counted repetition behind its opening brace. -/
def readBounds? (cs : List Char) : Option (Nat × Option Nat × List Char) :=
  let low := cs.takeWhile isDigit
  if low = [] then none
  else match cs.dropWhile isDigit with
    | '}' :: rest => some (digitsValue low, some (digitsValue low), rest)
    | ',' :: rest =>
      let high := rest.takeWhile isDigit
      match rest.dropWhile isDigit with
      | '}' :: rest =>
        if high = [] then some (digitsValue low, none, rest)
        else if digitsValue low ≤ digitsValue high then
          some (digitsValue low, some (digitsValue high), rest)
        else none
      | _ => none
    | _ => none

def readRepeats (fuel : Nat) (p : Pattern) (cs : List Char) : Option (Pattern × List Char) :=
  match fuel with
  | 0 => none
  | fuel + 1 =>
    let lazy (cs : List Char) : List Char := match cs with
      | '?' :: cs => cs
      | cs => cs
    match cs with
    | '*' :: cs => readRepeats fuel (.times p 0 none) (lazy cs)
    | '+' :: cs => readRepeats fuel (.times p 1 none) (lazy cs)
    | '?' :: cs => readRepeats fuel (.times p 0 (some 1)) (lazy cs)
    | '{' :: cs => (readBounds? cs).bind fun (least, most, cs) =>
      readRepeats fuel (.times p least most) (lazy cs)
    | cs => some (p, cs)

/-- Sets flags by their letters, up to `)` or `:`; a minus sign turns the ones behind it off. -/
def readFlags (flags : Flags) (on : Bool) : List Char → Option (Flags × List Char)
  | [] => none
  | c :: cs =>
    match c with
    | ')' => some (flags, c :: cs)
    | ':' => some (flags, c :: cs)
    | '-' => if on then readFlags flags false cs else none
    | 'i' => readFlags { flags with ignoreCase := on } on cs
    | 'm' => readFlags { flags with multiLine := on } on cs
    | 's' => readFlags { flags with dotAll := on } on cs
    | 'u' | 'U' | 'R' => readFlags flags on cs
    | _ => none

mutual

def readAlternatives (fuel : Nat) (flags : Flags) (cs : List Char) :
    Option (Pattern × List Char) :=
  match fuel with
  | 0 => none
  | fuel + 1 => (readSequence fuel flags .empty cs).bind fun (p, flags, rest) =>
    match rest with
    | '|' :: rest => (readAlternatives fuel flags rest).map fun (q, rest) => (.alt p q, rest)
    | rest => some (p, rest)

def readSequence (fuel : Nat) (flags : Flags) (acc : Pattern) (cs : List Char) :
    Option (Pattern × Flags × List Char) :=
  match fuel with
  | 0 => none
  | fuel + 1 => match cs with
    | [] => some (acc, flags, [])
    | '|' :: rest => some (acc, flags, '|' :: rest)
    | ')' :: rest => some (acc, flags, ')' :: rest)
    | '(' :: '?' :: rest => readSpecialGroup fuel flags acc rest
    | cs => (readItem fuel flags cs).bind fun (p, rest) =>
      (readRepeats fuel p rest).bind fun (p, rest) =>
        readSequence fuel flags (.seq acc p) rest

/-- Reads a group behind `(?`: a name, flags or look-around. -/
def readSpecialGroup (fuel : Nat) (flags : Flags) (acc : Pattern) (cs : List Char) :
    Option (Pattern × Flags × List Char) :=
  match fuel with
  | 0 => none
  | fuel + 1 =>
    let group (inner : Flags) (wrap : Pattern → Pattern) (cs : List Char) :=
      (readAlternatives fuel inner cs).bind fun (p, rest) =>
        match rest with
        | ')' :: rest => (readRepeats fuel (wrap p) rest).bind fun (p, rest) =>
          readSequence fuel flags (.seq acc p) rest
        | _ => none
    let named (cs : List Char) :=
      let name := cs.takeWhile (· ≠ '>')
      match name, cs.dropWhile (· ≠ '>') with
      | c :: name, _ :: rest =>
        if (isLetter c ∨ c = '_') ∧ name.all fun c => isAlphanumeric c || c == '_' then
          group flags id rest
        else none
      | _, _ => none
    match cs with
    | '=' :: cs => group flags (.ahead true) cs
    | '!' :: cs => group flags (.ahead false) cs
    | '<' :: '=' :: cs => group flags (.behind true) cs
    | '<' :: '!' :: cs => group flags (.behind false) cs
    | 'P' :: '<' :: cs => named cs
    | '<' :: cs => named cs
    | cs => match readFlags flags true cs with
      | some (inner, ':' :: rest) => group inner id rest
      | some (inner, ')' :: rest) =>
        if cs.head? = some ')' then none else readSequence fuel inner acc rest
      | _ => none

def readItem (fuel : Nat) (flags : Flags) (cs : List Char) : Option (Pattern × List Char) :=
  match fuel with
  | 0 => none
  | fuel + 1 => match cs with
    | [] => none
    | '(' :: cs => (readAlternatives fuel flags cs).bind fun (p, rest) =>
      match rest with
      | ')' :: rest => some (p, rest)
      | _ => none
    | '[' :: cs => (readSet fuel cs).map fun (s, rest) => (.char (s.withFlags flags), rest)
    | '\\' :: cs => (readEscape? cs).map fun (e, rest) => match e with
      | .char c => (.char (CharSet.withFlags flags fun d => d == c), rest)
      | .set s => (.char s, rest)
      | .edge p => (p, rest)
    | c :: cs =>
      if c = '*' ∨ c = '+' ∨ c = '?' ∨ c = '{' then none
      else if c = '.' then some (.char fun d => flags.dotAll || d != '\n', cs)
      else if c = '^' then some (if flags.multiLine then .lineStart else .textStart, cs)
      else if c = '$' then some (if flags.multiLine then .lineEnd else .textEnd, cs)
      else some (.char (CharSet.withFlags flags fun d => d == c), cs)

end

def read? (s : String) : Option Pattern :=
  match readAlternatives (4 * s.length + 8) {} s.toList with
  | some (p, []) => some p
  | _ => none

end Pattern
end Interchange
