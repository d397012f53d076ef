import OrderDesk.Text.Numeral

/-!
# `OrderDesk.Toml.Moment` — dates and times in a settings document

No setting is a date or a time, so only their form is read: each reader hands on the text behind.

## Contents
- `Toml.skipDate`, `Toml.skipTime`, `Toml.skipOffset`: the parts.
- `Toml.skipMoment`: a date, a time, or both with or without an offset.
-/

namespace OrderDesk.Toml

/-- A number of as many digits, within bounds. -/
def readFixed (count least greatest : Nat) (text : List Char) : Option (Nat × List Char) :=
  if text.length < count then none
  else do
    let n ← Numeral.read? 10 (text.take count)
    if least ≤ n ∧ n ≤ greatest then some (n, text.drop count) else none

/-- The text behind a mark. -/
def skipMark (mark : Char) : List Char → Option (List Char)
  | c :: rest => if c = mark then some rest else none
  | [] => none

/-- Whether a year has a leap day. -/
def isLeap (year : Nat) : Bool := year % 4 == 0 && (year % 100 != 0 || year % 400 == 0)

/-- The number of days of a month. -/
def daysIn (year month : Nat) : Nat :=
  if month = 2 then (if isLeap year then 29 else 28)
  else if month = 4 ∨ month = 6 ∨ month = 9 ∨ month = 11 then 30
  else 31

/-- A year, a month and a day of that month. -/
def skipDate (text : List Char) : Option (List Char) := do
  let (year, rest) ← readFixed 4 0 9999 text
  let (month, rest) ← readFixed 2 1 12 (← skipMark '-' rest)
  let (_, rest) ← readFixed 2 1 (daysIn year month) (← skipMark '-' rest)
  some rest

/-- Hours and minutes. -/
def skipClock (text : List Char) : Option (List Char) := do
  let (_, rest) ← readFixed 2 0 23 text
  let (_, rest) ← readFixed 2 0 59 (← skipMark ':' rest)
  some rest

/-- A fraction of a second, if one follows. -/
def skipSubsecond : List Char → List Char
  | '.' :: c :: rest => if c.isDigit then rest.dropWhile Char.isDigit else '.' :: c :: rest
  | rest => rest

/-- Hours, minutes and seconds, of which a minute may have sixty-one. -/
def skipTime (text : List Char) : Option (List Char) := do
  let rest ← skipClock text
  let (_, rest) ← readFixed 2 0 60 (← skipMark ':' rest)
  some (skipSubsecond rest)

/-- The distance from the time of the zero meridian, if one follows. -/
def skipOffset : List Char → List Char
  | 'Z' :: rest | 'z' :: rest => rest
  | '+' :: rest => (skipClock rest).getD ('+' :: rest)
  | '-' :: rest => (skipClock rest).getD ('-' :: rest)
  | rest => rest

/-- A time behind a date, if one follows. -/
def skipTimeOfDay (text : List Char) : List Char :=
  match text with
  | 'T' :: rest | 't' :: rest | ' ' :: rest => ((skipTime rest).map skipOffset).getD text
  | _ => text

/-- A date, with or without a time, or a time. -/
def skipMoment (text : List Char) : Option (List Char) :=
  (skipDate text).map skipTimeOfDay <|> skipTime text

end OrderDesk.Toml
