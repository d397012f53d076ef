/-!
# `OrderDesk.Time` — durations and instants

Time is counted in nanoseconds; instants count from the start of 1970.

## Contents
- `Duration` and its text, the largest unit that leaves a whole part; the longest pause.
- `Instant`, the time between two instants, and its calendar text.
-/

namespace OrderDesk

/-- A span of time. -/
structure Duration where
  nanos : Nat
deriving DecidableEq, Repr, Inhabited

namespace Duration

def ofNanos (n : Nat) : Duration := ⟨n⟩
def ofMicros (n : Nat) : Duration := ⟨n * 1000⟩
def ofMillis (n : Nat) : Duration := ⟨n * 1000000⟩
def ofSeconds (n : Nat) : Duration := ⟨n * 1000000000⟩

/-- The longest pause that the timers keep, thirty years of 365 days: one of 946080000001 ms is over
after 946080000000 ms. -/
def longestPause : Duration := ofSeconds 946080000

/-- How long a timer pauses that is asked for a pause of `d`. -/
def asPause (d : Duration) : Duration := ⟨Nat.min d.nanos longestPause.nanos⟩

/-- Whole milliseconds. -/
def millis (d : Duration) : Nat := d.nanos / 1000000

instance : LE Duration := ⟨fun a b => a.nanos ≤ b.nanos⟩
instance : LT Duration := ⟨fun a b => a.nanos < b.nanos⟩
instance (a b : Duration) : Decidable (a ≤ b) := inferInstanceAs (Decidable (a.nanos ≤ b.nanos))
instance (a b : Duration) : Decidable (a < b) := inferInstanceAs (Decidable (a.nanos < b.nanos))
instance : Add Duration := ⟨fun a b => ⟨a.nanos + b.nanos⟩⟩

/-- `nanos` in a unit of `10 ^ places` nanoseconds, without trailing zeros behind the point. -/
def inUnit (nanos places : Nat) (unit : String) : String :=
  let whole := toString (nanos / Nat.pow 10 places)
  let digits := (toString (nanos % Nat.pow 10 places)).toList
  let padded := List.replicate (places - digits.length) '0' ++ digits
  let kept := (padded.reverse.dropWhile (· == '0')).reverse
  if nanos % Nat.pow 10 places = 0 then whole ++ unit
  else whole ++ "." ++ String.ofList kept ++ unit

/-- Seconds, milliseconds, microseconds or nanoseconds, whichever first has a whole part. -/
def text (d : Duration) : String :=
  if 1000000000 ≤ d.nanos then inUnit d.nanos 9 "s"
  else if 1000000 ≤ d.nanos then inUnit d.nanos 6 "ms"
  else if 1000 ≤ d.nanos then inUnit d.nanos 3 "µs"
  else toString d.nanos ++ "ns"

end Duration

/-- A point in time. -/
structure Instant where
  nanos : Nat
deriving DecidableEq, Repr, Inhabited

namespace Instant

/-- A later instant. -/
def after (start : Instant) (d : Duration) : Instant := ⟨start.nanos + d.nanos⟩

/-- The time from `start` on, none if it is still to come. -/
def since (now start : Instant) : Duration := ⟨now.nanos - start.nanos⟩

instance : LE Instant := ⟨fun a b => a.nanos ≤ b.nanos⟩
instance (a b : Instant) : Decidable (a ≤ b) := inferInstanceAs (Decidable (a.nanos ≤ b.nanos))

/-- Year, month and day of a count of days since 1970-01-01. Years are counted from March, so that
the leap day ends them. -/
def civil (days : Nat) : Nat × Nat × Nat :=
  let z := days + 719468
  let era := z / 146097
  let dayOfEra := z % 146097
  let yearOfEra := (dayOfEra - dayOfEra / 1460 + dayOfEra / 36524 - dayOfEra / 146096) / 365
  let dayOfYear := dayOfEra - (365 * yearOfEra + yearOfEra / 4 - yearOfEra / 100)
  let m := (5 * dayOfYear + 2) / 153
  let month := if m < 10 then m + 3 else m - 9
  let year := yearOfEra + era * 400 + (if month ≤ 2 then 1 else 0)
  (year, month, dayOfYear - (153 * m + 2) / 5 + 1)

/-- A number with at least `width` digits. -/
def padded (width n : Nat) : String :=
  let digits := toString n
  String.ofList (List.replicate (width - digits.length) '0') ++ digits

/-- Date and time of day to the second. -/
def calendar (t : Instant) : String :=
  let seconds := t.nanos / 1000000000
  let (year, month, day) := civil (seconds / 86400)
  let time := seconds % 86400
  padded 4 year ++ "-" ++ padded 2 month ++ "-" ++ padded 2 day ++ " " ++
    padded 2 (time / 3600) ++ ":" ++ padded 2 (time / 60 % 60) ++ ":" ++ padded 2 (time % 60)

end Instant
end OrderDesk
