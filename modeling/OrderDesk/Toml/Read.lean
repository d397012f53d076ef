import OrderDesk.Toml.Document
import OrderDesk.Toml.Moment
import OrderDesk.Toml.Text

/-!
# `OrderDesk.Toml.Read` — reading a settings document

Strings, whole numbers, flags, arrays and tables are kept. Numbers with a fraction, dates and times are
read for their form only; no setting takes one. Values are nested to a limited depth, and keys have a
limited number of parts.

## Contents
- `Toml.readInteger`, `Toml.skipFloat`, `Toml.readValue`.
- `Toml.read?`: the fields of a whole document.
-/

namespace OrderDesk.Toml

/-- Digits of a base, with single underscores between them; `n` is the number so far. -/
def readDigits (base n : Nat) : List Char → Nat × List Char
  | '_' :: c :: rest =>
    match Numeral.digit? base c with
    | some d => readDigits base (n * base + d) rest
    | none => (n, '_' :: c :: rest)
  | c :: rest =>
    match Numeral.digit? base c with
    | some d => readDigits base (n * base + d) rest
    | none => (n, c :: rest)
  | [] => (n, [])

/-- Numbers stay within 64 bits. -/
def bounded (n : Int) : Option Toml :=
  if Int64.minValue.toInt ≤ n ∧ n ≤ Int64.maxValue.toInt then some (.integer n) else none

/-- A decimal number without a sign. Only zero begins with zero. -/
def readDecimal : List Char → Option (Nat × List Char)
  | '0' :: rest => some (0, rest)
  | c :: rest => do some (readDigits 10 (← Numeral.digit? 10 c) rest)
  | [] => none

/-- A number of another base, behind its mark. -/
def readBased (base : Nat) : List Char → Option (Toml × List Char)
  | c :: rest => do
    let (n, rest) := readDigits base (← Numeral.digit? base c) rest
    some (← bounded n, rest)
  | [] => none

/-! ## Numbers with a fraction -/

/-- Decimal digits, with single underscores between them. -/
def readPlaces : List Char → List Char × List Char
  | '_' :: c :: rest =>
    if c.isDigit then
      let (places, rest) := readPlaces rest
      (c :: places, rest)
    else ([], '_' :: c :: rest)
  | c :: rest =>
    if c.isDigit then
      let (places, rest) := readPlaces rest
      (c :: places, rest)
    else ([], c :: rest)
  | [] => ([], [])

/-- Decimal digits, at least one and the first without an underscore. -/
def readGroup : List Char → Option (List Char × List Char)
  | c :: rest => if c.isDigit then some (readPlaces (c :: rest)) else none
  | [] => none

/-- The digits of a decimal number without a sign. Only zero begins with zero. -/
def readWhole : List Char → Option (List Char × List Char)
  | '0' :: rest => some (['0'], rest)
  | text => readGroup text

/-- A power of ten, if one is given. -/
def readPower : List Char → Option (Int × List Char)
  | c :: rest =>
    if c = 'e' ∨ c = 'E' then do
      let (negative, rest) := match rest with
        | '-' :: rest => (true, rest)
        | '+' :: rest => (false, rest)
        | rest => (false, rest)
      let (digits, rest) ← readGroup rest
      let power : Int := (readDigits 10 0 digits).1
      some (if negative then -power else power, rest)
    else none
  | [] => none

/-- What is rounded to infinity: half a unit beyond the largest number of 64-bit floating point. -/
def unboundedFrom : Nat := Nat.pow 2 1024 - Nat.pow 2 970

/-- Whether `coefficient · 10^exponent` is too large for a number. Numbers far below or above the bound
are told by the count of their digits. -/
def isUnbounded (coefficient : Nat) (exponent : Int) : Bool :=
  let order : Int := (Nat.toDigits 10 coefficient).length + exponent
  if coefficient = 0 ∨ order < 300 then false
  else if 320 < order then true
  else if 0 ≤ exponent then unboundedFrom ≤ coefficient * Nat.pow 10 exponent.toNat
  else unboundedFrom * Nat.pow 10 (-exponent).toNat ≤ coefficient

/-- A number with a fraction, a power of ten, or both, without a sign. The answer says how large it
is. -/
def readReal (text : List Char) : Option (Bool × List Char) := do
  let (whole, rest) ← readWhole text
  let (part, rest) ← match rest with
    | '.' :: rest => (readGroup rest).map fun (part, rest) => (part, rest)
    | rest => if (readPower rest).isSome then some ([], rest) else none
  let (power, rest) := (readPower rest).getD (0, rest)
  let coefficient := (readDigits 10 0 (whole ++ part)).1
  some (isUnbounded coefficient (power - part.length), rest)

/-- The words for numbers that are none of the line. -/
def skipSpecial : List Char → Option (List Char)
  | 'i' :: 'n' :: 'f' :: rest => some rest
  | 'n' :: 'a' :: 'n' :: rest => some rest
  | _ => none

/-- A number of floating point. One that is too large is refused, unless it is negative. -/
def skipFloat (text : List Char) : Option (List Char) := do
  let (negative, unsigned) := match text with
    | '-' :: rest => (true, rest)
    | '+' :: rest => (false, rest)
    | rest => (false, rest)
  match readReal unsigned with
  | some (unbounded, rest) => if unbounded ∧ ¬ negative then none else some rest
  | none => skipSpecial unsigned

/-! ## Whole numbers -/

/-- A whole number. -/
def readInteger : List Char → Option (Toml × List Char)
  | '0' :: 'x' :: rest => readBased 16 rest
  | '0' :: 'o' :: rest => readBased 8 rest
  | '0' :: 'b' :: rest => readBased 2 rest
  | '-' :: rest => do
    let (n, rest) ← readDecimal rest
    some (← bounded (-n), rest)
  | '+' :: rest => do
    let (n, rest) ← readDecimal rest
    some (← bounded n, rest)
  | text => do
    let (n, rest) ← readDecimal text
    some (← bounded n, rest)

/-- A date, a time or a number. -/
def readScalar (text : List Char) : Option (Toml × List Char) :=
  match skipMoment text <|> skipFloat text with
  | some rest => some (.unused, rest)
  | none => readInteger text

/-! ## Values -/

/-- Values are nested no deeper. -/
def nesting : Nat := 79

mutual

/-- A value; `room` is how many levels may be opened yet. -/
def readValue : (fuel room : Nat) → List Char → Option (Toml × List Char)
  | 0, _, _ => none
  | fuel + 1, room, text =>
    match room, text with
    | _, 't' :: 'r' :: 'u' :: 'e' :: rest => some (.boolean true, rest)
    | _, 'f' :: 'a' :: 'l' :: 's' :: 'e' :: rest => some (.boolean false, rest)
    | room + 1, '[' :: rest => readItems fuel room [] rest
    | room + 1, '\x7b' :: rest =>
      match skipSpace rest with
      | '\x7d' :: rest => some (.table [], rest)
      | rest => readFields fuel room [] rest
    | _, '"' :: _ | _, '\'' :: _ => do
      let (text, rest) ← readString text
      some (.string text, rest)
    | _, rest => readScalar rest

/-- The items of an array behind those seen, last first. A comma may stand behind the last one. -/
def readItems : (fuel room : Nat) → List Toml → List Char → Option (Toml × List Char)
  | 0, _, _, _ => none
  | fuel + 1, room, seen, text => do
    match ← skipLayout false text with
    | ']' :: rest => some (.array seen.reverse, rest)
    | rest =>
      let (item, rest) ← readValue fuel room rest
      match ← skipLayout false rest with
      | ',' :: rest => readItems fuel room (item :: seen) rest
      | ']' :: rest => some (.array (item :: seen).reverse, rest)
      | _ => none

/-- The fields of a table on one line behind those seen. -/
def readFields : (fuel room : Nat) → TomlTable → List Char → Option (Toml × List Char)
  | 0, _, _, _ => none
  | fuel + 1, room, seen, text => do
    let (path, key, rest) ← readKey keyParts text
    match rest with
    | '=' :: rest =>
      let (value, rest) ← readValue fuel room (skipSpace rest)
      let seen ← seen.assign [] path key value
      match skipSpace rest with
      | ',' :: rest => readFields fuel room seen rest
      | '\x7d' :: rest => some (.table seen.finish, rest)
      | _ => none
    | _ => none

end

/-- The rest of a line behind a statement, and the line's end. -/
def finishLine (text : List Char) : Option (List Char) :=
  endOfLine? (skipComment (skipSpace text))

/-- A header behind its opening brackets. -/
def readHeader (double : Bool) (text : List Char) :
    Option (List String × String × List Char) := do
  let (path, key, rest) ← readKey keyParts text
  match double, rest with
  | true, ']' :: ']' :: rest | false, ']' :: rest => some (path, key, ← finishLine rest)
  | _, _ => none

/-- The statements of a document, applied to what came before; `header` is the table in force. Each
statement takes at least one character. -/
def readStatements : (fuel : Nat) → (header : List String) → TomlTable → List Char →
    Option TomlTable
  | 0, _, _, _ => none
  | fuel + 1, header, t, text => do
    match skipSpace text with
    | [] => some t
    | '#' :: rest => readStatements fuel header t (← finishLine ('#' :: rest))
    | '\n' :: rest | '\r' :: '\n' :: rest => readStatements fuel header t rest
    | '[' :: '[' :: rest =>
      let (path, key, rest) ← readHeader true rest
      readStatements fuel (path ++ [key]) (← t.openItem path key) rest
    | '[' :: rest =>
      let (path, key, rest) ← readHeader false rest
      readStatements fuel (path ++ [key]) (← t.openTable path key) rest
    | rest =>
      let (path, key, rest) ← readKey keyParts rest
      match rest with
      | '=' :: rest =>
        let (value, rest) ← readValue (2 * rest.length + 2) nesting (skipSpace rest)
        readStatements fuel header (← t.assign header path key value) (← finishLine rest)
      | _ => none

/-- The fields of a document. A mark of the byte order in front of it is passed over. -/
def read? (text : String) : Option (List (String × Toml)) := do
  let chars := match text.toList with
    | '\uFEFF' :: rest => rest
    | rest => rest
  let t ← readStatements (chars.length + 1) [] [] chars
  some t.finish

end OrderDesk.Toml
