import OrderDesk.Decimal.Basic

/-!
# `OrderDesk.Decimal.Text` — reading and printing amounts

The scale survives both ways: `1.50` is read with scale two and printed with two places.

## Contents
- `Decimal.ReadError` and its message.
- `Decimal.read`: text to decimal.
- `Decimal.text`: decimal to text, positional unless too many zeros would be needed.
-/

namespace OrderDesk.Decimal

/-- Why a text is no decimal. -/
inductive ReadError where
  | noDigits
  | unexpectedCharacter
  | negative
  | tooLarge
  /-- A number with a minus sign that would be too large without it. -/
  | tooSmall
  | exponentTooLarge
  /-- The exponent, less the places behind the point, has no place in 32 bits. Reading breaks down;
  no verdict is given. -/
  | breakdown
deriving DecidableEq, Repr

/-- The wording of a refusal. -/
def ReadError.message : ReadError → String
  | noDigits => "(fastnum) cannot parse decimal from empty string"
  | unexpectedCharacter => "(fastnum) invalid literal found in string"
  | negative => "(fastnum) number would be signed for unsigned type"
  | tooLarge => "(fastnum) number too large to fit in target type"
  | tooSmall => "(fastnum) number too small to fit in target type"
  | exponentTooLarge => "(fastnum) exponent is too large to fit in target type"
  | breakdown => ""

/-- A refusal of what stands behind a minus sign. -/
def ReadError.negated : ReadError → ReadError
  | tooLarge => tooSmall
  | e => e

/-! ## Reading -/

/-- What has been read of a number: the value of the groups of digits that are complete, the group
that is being read and its size, how many digits stand behind the point, whether a point was seen and
whether any digit was. -/
structure Mantissa where
  value : Nat := 0
  group : Nat := 0
  size : Nat := 0
  places : Nat := 0
  point : Bool := false
  digit : Bool := false

/-- Digits of a group; the value is bounded after each group. -/
def groupSize : Nat := 19

/-- Completes a group. -/
def Mantissa.close (m : Mantissa) : Except ReadError Mantissa :=
  let value := m.value * Nat.pow 10 m.size + m.group
  if coefficientRange ≤ value then .error .tooLarge else .ok { m with value, group := 0, size := 0 }

/-- One character of the digits; an underscore is skipped, a second point is refused. -/
def Mantissa.push (m : Mantissa) (c : Char) : Except ReadError Mantissa :=
  if c.isDigit then
    let m := { m with
      group := m.group * 10 + (c.toNat - '0'.toNat)
      size := m.size + 1
      places := if m.point then m.places + 1 else m.places
      digit := true }
    if m.size = groupSize then m.close else .ok m
  else if c = '_' then .ok m
  else if c = '.' ∧ ¬ m.point then .ok { m with point := true }
  else .error .unexpectedCharacter

/-- The coefficient and the scale of a number that has been read; there has to be a digit. -/
def Mantissa.finish (m : Mantissa) (exponent : Int) : Except ReadError (Nat × Int) := do
  if !m.digit then .error .noDigits
  else
    let m ← m.close
    .ok (m.value, m.places - exponent)

/-- Reads digits of a signed 32-bit number up to `limit`. -/
def readBounded (limit : Nat) : Nat → List Char → Except ReadError Nat
  | acc, [] => .ok acc
  | acc, c :: rest =>
    if c.isDigit then
      let acc := acc * 10 + (c.toNat - '0'.toNat)
      if limit < acc then .error .exponentTooLarge else readBounded limit acc rest
    else .error .unexpectedCharacter

/-- Reads an exponent: an optional sign and at least one digit, of the range of 32 bits. -/
def readExponent : List Char → Except ReadError Int
  | [] => .error .noDigits
  | ['-'] | ['+'] => .error .unexpectedCharacter
  | '-' :: digits => (readBounded 0x80000000 0 digits).map fun n => -(n : Int)
  | '+' :: digits => (readBounded 0x7fffffff 0 digits).map Int.ofNat
  | digits => (readBounded 0x7fffffff 0 digits).map Int.ofNat

/-- Marks the exponent. -/
def isExponentMark (c : Char) : Bool := c = 'e' || c = 'E'

/-- The least exponent of 32 bits. -/
def minExponent : Int := -0x80000000

/-- Reads a number character by character. The answer is the exact coefficient and its scale. -/
def readFrom (m : Mantissa) : List Char → Except ReadError (Nat × Int)
  | [] => m.finish 0
  | c :: rest =>
    if isExponentMark c then do
      let exponent ← readExponent rest
      if exponent - m.places < minExponent then .error .breakdown else m.finish exponent
    else do
      readFrom (← m.push c) rest

/-- Reads an unsigned text that is not a word. -/
def readNumber (text : List Char) : Except ReadError Decimal := do
  let (coefficient, scale) ← readFrom {} text
  match fit? coefficient scale with
  | some d => .ok d
  | none => .error .tooLarge

/-- Reads a text behind its sign; infinity has two names of any case. -/
def readUnsigned (text : List Char) : Except ReadError Decimal :=
  let word := String.ofList (text.map Char.toLower)
  if word = "inf" ∨ word = "infinity" then .ok .infinity else readNumber text

/-- Reads a decimal. A minus sign is refused once the rest is found to be a number. -/
def read (text : String) : Except ReadError Decimal :=
  match text.toList with
  | '+' :: rest => readUnsigned rest
  | '-' :: rest =>
    match readUnsigned rest with
    | .ok _ => .error .negative
    | .error e => .error e.negated
  | all => if String.ofList (all.map Char.toLower) = "nan" then .ok .nan else readUnsigned all

/-! ## Printing -/

/-- More zeros than this between the point and the first digit are written as an exponent. -/
def maxLeadingZeros : Int := 5

/-- More zeros than this behind the last digit are written as an exponent. -/
def maxTrailingZeros : Int := 15

/-- The digits with the point `places` from their end, or zeros appended. -/
def positional (digits : List Char) (scale : Int) : List Char :=
  if scale ≤ 0 then digits ++ List.replicate (-scale).toNat '0'
  else
    let places := scale.toNat
    let padded := List.replicate (places + 1 - digits.length) '0' ++ digits
    padded.take (padded.length - places) ++ '.' :: padded.drop (padded.length - places)

/-- One digit before the point and an exponent. -/
def scientific (digits : List Char) (scale : Int) : List Char :=
  let exponent := scale - (digits.length - 1 : Nat)
  let mantissa := match digits with
    | first :: second :: rest => first :: '.' :: second :: rest
    | short => short
  mantissa ++ 'E' :: (toString (-exponent)).toList

/-- The printed form of a decimal. -/
def text : Decimal → String
  | nan => "NaN"
  | infinity => "Inf"
  | finite c s =>
    let digits := (toString c.toNat).toList
    String.ofList <|
      if maxLeadingZeros < s - digits.length then scientific digits s
      else if maxTrailingZeros < -s then digits ++ 'e' :: '+' :: (toString (-s)).toList
      else positional digits s

end OrderDesk.Decimal
