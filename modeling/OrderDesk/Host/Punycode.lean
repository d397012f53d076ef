import OrderDesk.Text.Codepoint

/-!
# `OrderDesk.Host.Punycode` — labels written in ASCII

A label beyond ASCII is written as its ASCII characters, a dash, and digits that say which characters
go where. The digits are numbers of varying length; each counts how far to go on through the label,
and from its end to the front again with the next higher code.

## Contents
- `Punycode.readNumber?`: a number of varying length.
- `Punycode.decode?`: the label that is written.
-/

namespace OrderDesk.Punycode

/-- Numbers stay below this. -/
def range : Nat := 0x100000000

/-- The value of a digit. -/
def digit? (c : Char) : Option Nat :=
  if 'a' ≤ c ∧ c ≤ 'z' then some (c.toNat - 'a'.toNat)
  else if 'A' ≤ c ∧ c ≤ 'Z' then some (c.toNat - 'A'.toNat)
  else if '0' ≤ c ∧ c ≤ '9' then some (c.toNat - '0'.toNat + 26)
  else none

/-- A digit below this is the last of its number; `place` is 36 for the first digit and 36 more for each
further one. -/
def threshold (place bias : Nat) : Nat :=
  if place ≤ bias then 1 else if bias + 26 ≤ place then 26 else place - bias

/-- Adds a number of varying length to `sum`. -/
def readNumber? (bias place weight sum : Nat) : List Char → Option (Nat × List Char)
  | [] => none
  | c :: rest => do
    let d ← digit? c
    let sum := sum + d * weight
    if range ≤ sum then none
    else if d < threshold place bias then some (sum, rest)
    else
      let weight := weight * (36 - threshold place bias)
      if range ≤ weight then none else readNumber? bias (place + 36) weight sum rest

/-- How often a distance is divided, until it is small. -/
def shorten (delta steps : Nat) : Nat × Nat :=
  if 455 < delta then shorten (delta / 35) (steps + 1) else (delta, steps)
termination_by delta
decreasing_by omega

/-- The thresholds follow the size of the last number. -/
def adapt (delta length : Nat) (isFirst : Bool) : Nat :=
  let delta := if isFirst then delta / 700 else delta / 2
  let (delta, steps) := shorten (delta + delta / length) 0
  36 * steps + 36 * delta / (delta + 38)

/-- Puts characters into a label, as the digits say; each number takes at least one digit. -/
def insert? : (fuel : Nat) → (label : List Char) → (code index bias : Nat) → List Char →
    Option (List Char)
  | _, label, _, _, _, [] => some label
  | 0, _, _, _, _, _ => none
  | fuel + 1, label, code, index, bias, digits => do
    let (sum, rest) ← readNumber? bias 36 1 index digits
    let length := label.length + 1
    let code := code + sum / length
    let place := sum % length
    let c ← Codepoint.char? code
    insert? fuel (label.take place ++ c :: label.drop place) code (place + 1)
      (adapt (sum - index) length (index = 0)) rest

/-- The label that a text writes. What stands before its last dash is taken as it is. -/
def decode? (text : List Char) : Option (List Char) :=
  match text.reverse.span (· != '-') with
  | (digits, _ :: first :: before) =>
    insert? text.length (first :: before).reverse 128 0 72 digits.reverse
  | _ => insert? text.length [] 128 0 72 text

end OrderDesk.Punycode
