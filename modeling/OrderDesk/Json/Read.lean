import OrderDesk.Json.Value
import OrderDesk.Text.Codepoint
import OrderDesk.Text.Numeral

/-!
# `OrderDesk.Json.Read` — reading JSON

Each reader takes characters from the front of a text and hands on the rest.

## Contents
- `Json.read?`: the value of a whole text.
- `Json.readString`, `Json.readNumber`, `Json.readValue`: its parts.
-/

namespace OrderDesk.Json

/-- Leaves out leading blanks. -/
def skipBlanks (text : List Char) : List Char :=
  text.dropWhile fun c => c == ' ' || c == '\t' || c == '\n' || c == '\r'

/-- The character that a single letter stands for behind a backslash. -/
def escapedChar? : Char → Option Char
  | '"' => some '"'
  | '\\' => some '\\'
  | '/' => some '/'
  | 'b' => some '\x08'
  | 't' => some '\t'
  | 'n' => some '\n'
  | 'f' => some '\x0c'
  | 'r' => some '\r'
  | _ => none

/-- The character that two halves make. -/
def charOfPair? (high low : Nat) : Option Char :=
  if 0xd800 ≤ high ∧ high < 0xdc00 ∧ 0xdc00 ≤ low ∧ low < 0xe000 then
    some (Char.ofNat (0x10000 + (high - 0xd800) * 1024 + (low - 0xdc00)))
  else none

/-- The rest of a string behind its opening mark; `seen` holds what came before, last first. -/
def readString (seen : List Char) : List Char → Option (String × List Char)
  | '"' :: rest => some (String.ofList seen.reverse, rest)
  | '\\' :: 'u' :: a :: b :: c :: d :: rest =>
    match (Numeral.read? 16 [a, b, c, d]).bind Codepoint.char? with
    | some char => readString (char :: seen) rest
    | none =>
      match rest with
      | '\\' :: 'u' :: e :: f :: g :: h :: rest => do
        let high ← Numeral.read? 16 [a, b, c, d]
        let low ← Numeral.read? 16 [e, f, g, h]
        readString ((← charOfPair? high low) :: seen) rest
      | _ => none
  | '\\' :: c :: rest => do readString ((← escapedChar? c) :: seen) rest
  | c :: rest => if c.toNat < 0x20 ∨ c = '\\' then none else readString (c :: seen) rest
  | [] => none

/-- The longest run of decimal digits, and the rest. -/
def readDigits (text : List Char) : List Char × List Char := text.span Char.isDigit

/-- The digits behind a point, if there is one. -/
def readFraction : List Char → Option (List Char × List Char)
  | '.' :: rest =>
    let (digits, rest) := readDigits rest
    if digits.isEmpty then none else some (digits, rest)
  | rest => some ([], rest)

/-- The power of ten behind a number, if one is given. -/
def readPower : List Char → Option (Option Int × List Char)
  | c :: rest =>
    if c = 'e' ∨ c = 'E' then
      let (negative, rest) := match rest with
        | '-' :: rest => (true, rest)
        | '+' :: rest => (false, rest)
        | rest => (false, rest)
      let (digits, rest) := readDigits rest
      if digits.isEmpty then none
      else do
        let power : Int := ← Numeral.read? 10 digits
        some (some (if negative then -power else power), rest)
    else some (none, c :: rest)
  | [] => some (none, [])

/-- A significand is no larger. -/
def greatestSignificand : Nat := UInt64.size - 1

/-- The magnitude of the least whole number. -/
def leastMagnitude : Nat := 0x8000000000000000

/-- Appends digits to a significand as long as it stays in its range. The answer also counts the digits
that are left. -/
def appendDigits (significand : Nat) : List Char → Nat × Nat
  | [] => (significand, 0)
  | c :: rest =>
    let longer := significand * 10 + (c.toNat - '0'.toNat)
    if longer ≤ greatestSignificand then appendDigits longer rest
    else (significand, (c :: rest).length)

/-- A whole number; those outside of the range of 64-bit numbers, and a negative zero, are not kept
as whole. -/
def wholeNumber (negative : Bool) (significand : Nat) : Option Json :=
  if negative then
    if 0 < significand ∧ significand ≤ leastMagnitude then
      some (integer (-(significand : Int)))
    else (Binary64.nearest? significand 1).map fun x => float { x with negative }
  else some (integer significand)

/-- A number behind its sign. Whole digits that the significand does not take are worth a power of ten
each; those of a fraction are passed over. -/
def readMagnitude (negative : Bool) (text : List Char) : Option (Json × List Char) := do
  let (whole, rest) := readDigits text
  if whole.isEmpty ∨ whole.head? = some '0' ∧ 1 < whole.length then none
  let (part, rest) ← readFraction rest
  let (power, rest) ← readPower rest
  let (significand, left) := appendDigits 0 whole
  if part.isEmpty ∧ power.isNone ∧ left = 0 then
    some (← wholeNumber negative significand, rest)
  else
    let (significand, passed) := appendDigits significand part
    let exponent : Int := left - (part.length - passed : Nat) + power.getD 0
    let x ← Binary64.ofDecimal? significand exponent
    some (float { x with negative }, rest)

/-- A number. -/
def readNumber : List Char → Option (Json × List Char)
  | '-' :: text => readMagnitude true text
  | text => readMagnitude false text

mutual

/-- A value at the front of a text. -/
def readValue : (fuel : Nat) → List Char → Option (Json × List Char)
  | 0, _ => none
  | fuel + 1, text =>
    match skipBlanks text with
    | 'n' :: 'u' :: 'l' :: 'l' :: rest => some (null, rest)
    | 't' :: 'r' :: 'u' :: 'e' :: rest => some (bool true, rest)
    | 'f' :: 'a' :: 'l' :: 's' :: 'e' :: rest => some (bool false, rest)
    | '"' :: rest => do
      let (text, rest) ← readString [] rest
      some (string text, rest)
    | '[' :: rest =>
      match skipBlanks rest with
      | ']' :: rest => some (array [], rest)
      | rest => readItems fuel [] rest
    | '\x7b' :: rest =>
      match skipBlanks rest with
      | '\x7d' :: rest => some (object [], rest)
      | rest => readFields fuel [] rest
    | rest => readNumber rest

/-- The items of an array behind those already seen, last first. -/
def readItems : (fuel : Nat) → List Json → List Char → Option (Json × List Char)
  | 0, _, _ => none
  | fuel + 1, seen, text => do
    let (item, rest) ← readValue fuel text
    match skipBlanks rest with
    | ',' :: rest => readItems fuel (item :: seen) rest
    | ']' :: rest => some (array (item :: seen).reverse, rest)
    | _ => none

/-- The fields of an object behind those already seen. -/
def readFields : (fuel : Nat) → List (String × Json) → List Char → Option (Json × List Char)
  | 0, _, _ => none
  | fuel + 1, seen, text =>
    match skipBlanks text with
    | '"' :: rest => do
      let (name, rest) ← readString [] rest
      match skipBlanks rest with
      | ':' :: rest =>
        let (value, rest) ← readValue fuel rest
        match skipBlanks rest with
        | ',' :: rest => readFields fuel (insertField name value seen) rest
        | '\x7d' :: rest => some (object (insertField name value seen), rest)
        | _ => none
      | _ => none
    | _ => none

end

/-- The value that a text writes, with nothing but blanks around it. Every reader takes at least one
character for each that it calls, so the fuel suffices. -/
def read? (text : String) : Option Json := do
  let chars := text.toList
  let (value, rest) ← readValue (2 * chars.length + 2) chars
  if (skipBlanks rest).isEmpty then some value else none

end OrderDesk.Json
