import Interchange.Json.Decode
import Interchange.Text.Ascii

/-! # Time

Durations and instants are counts of nanoseconds. An instant counts from the epoch of civil time and
is written in the form of RFC 3339.
-/

namespace Interchange

open Json

/-- A span of time in nanoseconds. -/
structure Duration where
  nanos : Nat
deriving DecidableEq, Repr

namespace Duration

def ofSeconds (n : Nat) : Duration := ⟨n * 1000000000⟩

def ofMillis (n : Nat) : Duration := ⟨n * 1000000⟩

def millis (d : Duration) : Nat := d.nanos / 1000000

/-- The JSON form: seconds and the nanoseconds beyond them. -/
def toJson (d : Duration) : Value :=
  .object [("secs", .ofNat (d.nanos / 1000000000)), ("nanos", .ofNat (d.nanos % 1000000000))]

def hasMore : Value → Bool
  | .object members => !members.all fun m => m.1 = "secs" ∨ m.1 = "nanos"
  | _ => false

/-- Reads a span, which has no other members; nanoseconds beyond a second carry over, as far as 64
bits hold the seconds. -/
def ofJson? (v : Value) : Option Duration := do
  guard (!hasMore v)
  let fs ← Decode.record ["secs", "nanos"] v
  let secs ← Decode.field fs "secs" (Decode.natBelow (Nat.pow 2 64))
  let nanos ← Decode.field fs "nanos" (Decode.natBelow (Nat.pow 2 32))
  if secs + nanos / 1000000000 < Nat.pow 2 64 then some ⟨secs * 1000000000 + nanos⟩ else none

end Duration

/-- A moment, in nanoseconds since 1970. -/
abbrev Instant := Nat

namespace Instant

/-- Year, month and day of a count of days since 1970-01-01, in the Gregorian calendar. -/
def civil (days : Nat) : Nat × Nat × Nat :=
  let z := days + 719468
  let era := z / 146097
  let dayOfEra := z % 146097
  let yearOfEra := (dayOfEra - dayOfEra / 1460 + dayOfEra / 36524 - dayOfEra / 146096) / 365
  let dayOfYear := dayOfEra - (365 * yearOfEra + yearOfEra / 4 - yearOfEra / 100)
  let shifted := (5 * dayOfYear + 2) / 153
  let day := dayOfYear - (153 * shifted + 2) / 5 + 1
  let month := if shifted < 10 then shifted + 3 else shifted - 9
  (yearOfEra + era * 400 + (if month ≤ 2 then 1 else 0), month, day)

def fraction (nanos : Nat) : String :=
  if nanos = 0 then ""
  else if nanos % 1000000 = 0 then "." ++ Text.padded 3 (nanos / 1000000)
  else if nanos % 1000 = 0 then "." ++ Text.padded 6 (nanos / 1000)
  else "." ++ Text.padded 9 nanos

def date (t : Instant) : String :=
  let (year, month, day) := civil (t / 1000000000 / 86400)
  (if year ≤ 9999 then "" else "+") ++ Text.padded 4 year ++ "-" ++ Text.padded 2 month ++ "-"
    ++ Text.padded 2 day

def hour (t : Instant) : Nat := t / 1000000000 % 86400 / 3600

/-- The RFC 3339 text of an instant in universal time. -/
def rfc3339 (t : Instant) : String :=
  let seconds := t / 1000000000
  date t ++ "T" ++ Text.padded 2 (hour t) ++ ":" ++ Text.padded 2 (seconds % 3600 / 60) ++ ":"
    ++ Text.padded 2 (seconds % 60) ++ fraction (t % 1000000000) ++ "Z"

end Instant
end Interchange
