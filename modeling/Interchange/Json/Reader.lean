import Interchange.Json.Number

/-! # Reading JSON text

The text is cut into tokens, and a machine with a stack of open arrays and objects takes the
tokens one by one. At most `depthMax` arrays and objects may be open at once. The members of an
object are kept as they stand, in their order and with repetitions, for readers that refuse a
repeated key; `parse?` gives the normalized value.
-/

namespace Interchange
namespace Json

open Text

/-- The lexical units of JSON text. -/
inductive Token where
  | openArray
  | closeArray
  | openObject
  | closeObject
  | comma
  | colon
  | text (s : String)
  | scalar (v : Value)

/-- The most arrays and objects that may be open at once. -/
def depthMax : Nat := 127

def isSpace (c : Char) : Bool := c == ' ' || c == '\n' || c == '\t' || c == '\r'

/-- The value of a hexadecimal digit of either case. -/
def hexValue? (c : Char) : Option Nat :=
  if '0' ≤ c ∧ c ≤ '9' then some (c.toNat - 48)
  else if 'a' ≤ c ∧ c ≤ 'f' then some (c.toNat - 87)
  else if 'A' ≤ c ∧ c ≤ 'F' then some (c.toNat - 55)
  else none

def simpleEscape? (c : Char) : Option Char :=
  if c = '"' ∨ c = '\\' ∨ c = '/' then some c
  else if c = 'b' then some '\x08'
  else if c = 'f' then some '\x0c'
  else if c = 'n' then some '\n'
  else if c = 'r' then some '\r'
  else if c = 't' then some '\t'
  else none

/-- Where the lexer stands. `acc` holds the characters read so far, last first. -/
inductive LexMode where
  | between
  | word (acc : List Char)
  | quoted (acc : List Char)
  | escaped (acc : List Char)
  | unicode (acc : List Char) (high : Option Nat) (value left : Nat)
  | afterHigh (acc : List Char) (high : Nat)
  | afterHighEscape (acc : List Char) (high : Nat)

def wordValue? (cs : List Char) : Option Value :=
  if cs = ['t', 'r', 'u', 'e'] then some (.bool true)
  else if cs = ['f', 'a', 'l', 's', 'e'] then some (.bool false)
  else if cs = ['n', 'u', 'l', 'l'] then some .null
  else (readNumber? cs).map .number

def lexBetween (c : Char) : LexMode × List Token :=
  if isSpace c then (.between, [])
  else if c = '[' then (.between, [.openArray])
  else if c = ']' then (.between, [.closeArray])
  else if c = '{' then (.between, [.openObject])
  else if c = '}' then (.between, [.closeObject])
  else if c = ',' then (.between, [.comma])
  else if c = ':' then (.between, [.colon])
  else if c = '"' then (.quoted [], [])
  else (.word [c], [])

/-- The mode after the last digit of a `\u` escape. -/
def lexUnit (acc : List Char) (high : Option Nat) (unit : Nat) : Option LexMode :=
  match high with
  | none =>
    if 0xd800 ≤ unit ∧ unit < 0xdc00 then some (.afterHigh acc unit)
    else if 0xdc00 ≤ unit ∧ unit < 0xe000 then none
    else some (.quoted (Char.ofNat unit :: acc))
  | some high =>
    if 0xdc00 ≤ unit ∧ unit < 0xe000 then
      some (.quoted (Char.ofNat (0x10000 + (high - 0xd800) * 0x400 + (unit - 0xdc00)) :: acc))
    else none

/-- One character: the next mode and the tokens that it completes, or `none` on an error. -/
def lexStep (mode : LexMode) (c : Char) : Option (LexMode × List Token) :=
  match mode with
  | .between => some (lexBetween c)
  | .word acc =>
    if isSpace c ∨ c = '[' ∨ c = ']' ∨ c = '{' ∨ c = '}' ∨ c = ',' ∨ c = ':' ∨ c = '"' then
      (wordValue? acc.reverse).map fun v =>
        let (mode, tokens) := lexBetween c
        (mode, .scalar v :: tokens)
    else some (.word (c :: acc), [])
  | .quoted acc =>
    if c = '"' then some (.between, [.text (String.ofList acc.reverse)])
    else if c = '\\' then some (.escaped acc, [])
    else if c.toNat < 0x20 then none
    else some (.quoted (c :: acc), [])
  | .escaped acc =>
    if c = 'u' then some (.unicode acc none 0 4, [])
    else (simpleEscape? c).map fun d => (.quoted (d :: acc), [])
  | .unicode acc high value left =>
    (hexValue? c).bind fun d =>
      if left ≤ 1 then (lexUnit acc high (16 * value + d)).map fun mode => (mode, [])
      else some (.unicode acc high (16 * value + d) (left - 1), [])
  | .afterHigh acc high => if c = '\\' then some (.afterHighEscape acc high, []) else none
  | .afterHighEscape acc high => if c = 'u' then some (.unicode acc (some high) 0 4, []) else none

/-- The tokens of a text, last first, read from a mode on. -/
def lexFrom (mode : LexMode) (tokens : List Token) : List Char → Option (List Token)
  | [] => match mode with
    | .between => some tokens
    | .word acc => (wordValue? acc.reverse).map fun v => .scalar v :: tokens
    | _ => none
  | c :: cs => (lexStep mode c).bind fun (mode, new) => lexFrom mode (new.reverse ++ tokens) cs

def tokens? (cs : List Char) : Option (List Token) := (lexFrom .between [] cs).map List.reverse

/-- An array or object that is still open; its parts are listed last first. -/
inductive Frame where
  | array (items : List Value)
  | object (members : List (String × Value)) (key : String)

/-- What may come next. -/
inductive Expected where
  | value
  | firstItem
  | firstKey
  | key (members : List (String × Value))
  | colon (members : List (String × Value)) (key : String)
  | separator
  | finished (v : Value)

/-- The state of the machine that reads tokens: open arrays and objects, innermost first. -/
structure ReadState where
  stack : List Frame
  expected : Expected

def ReadState.complete (stack : List Frame) (v : Value) : ReadState :=
  match stack with
  | [] => ⟨[], .finished v⟩
  | .array items :: stack => ⟨.array (v :: items) :: stack, .separator⟩
  | .object members key :: stack => ⟨.object ((key, v) :: members) key :: stack, .separator⟩

/-- Starts a value. For an object the frame is made when its first key is known, so the depth is
checked here. -/
def ReadState.begin (stack : List Frame) : Token → Option ReadState
  | .openArray => if stack.length < depthMax then some ⟨.array [] :: stack, .firstItem⟩ else none
  | .openObject => if stack.length < depthMax then some ⟨stack, .firstKey⟩ else none
  | .text s => some (.complete stack (.string s))
  | .scalar v => some (.complete stack v)
  | _ => none

def ReadState.step (s : ReadState) (t : Token) : Option ReadState :=
  match s.expected, t with
  | .value, t => ReadState.begin s.stack t
  | .firstItem, .closeArray => match s.stack with
    | .array _ :: stack => some (.complete stack (.array []))
    | _ => none
  | .firstItem, t => ReadState.begin s.stack t
  | .firstKey, .closeObject => some (.complete s.stack (.object []))
  | .firstKey, .text key => some ⟨s.stack, .colon [] key⟩
  | .key members, .text key => some ⟨s.stack, .colon members key⟩
  | .colon members key, .colon => some ⟨.object members key :: s.stack, .value⟩
  | .separator, .comma => match s.stack with
    | .array items :: stack => some ⟨.array items :: stack, .value⟩
    | .object members _ :: stack => some ⟨stack, .key members⟩
    | [] => none
  | .separator, .closeArray => match s.stack with
    | .array items :: stack => some (.complete stack (.array items.reverse))
    | _ => none
  | .separator, .closeObject => match s.stack with
    | .object members _ :: stack => some (.complete stack (.object members.reverse))
    | _ => none
  | _, _ => none

/-- The value that JSON text writes, with the members of objects as they stand. -/
def parseVerbatim? (s : String) : Option Value :=
  (tokens? s.toList).bind fun ts =>
    (ts.foldlM ReadState.step ⟨[], .value⟩).bind fun state =>
      match state.expected with
      | .finished v => some v
      | _ => none

def parse? (s : String) : Option Value := (parseVerbatim? s).map Value.normalize

end Json
end Interchange
