import OrderDesk.Json.Value
import OrderDesk.Text.Visible

/-!
# `OrderDesk.Rpc.Quantity` — numbers in a node's answers

Numbers are written in hexadecimal behind `0x`. They are read from other forms as well: octal behind
`0o`, binary behind `0b`, decimal, with underscores between digits, or as a JSON number.

## Contents
- `Quantity.write`, `Quantity.read?`.
- `Quantity.complaint`: what is said of a value that is no quantity.
-/

namespace OrderDesk.Quantity

/-- The written form of a number. -/
def write (n : Nat) : Json := .string (Hex.quantity n)

/-- The number that digits of a base write; underscores are passed over. -/
def readDigits? (base : Nat) (digits : List Char) : Option Nat :=
  digits.foldlM (fun n c =>
    if c = '_' then some n
    else match digitValue? c with
      | some d => if d < base then some (n * base + d) else none
      | none => none) 0
where
  /-- The value of a digit of any base up to 36. -/
  digitValue? (c : Char) : Option Nat :=
    if '0' ≤ c ∧ c ≤ '9' then some (c.toNat - '0'.toNat)
    else if 'a' ≤ c ∧ c ≤ 'z' then some (c.toNat - 'a'.toNat + 10)
    else if 'A' ≤ c ∧ c ≤ 'Z' then some (c.toNat - 'A'.toNat + 10)
    else none

/-- The number that a text writes; a mark in front names the base. -/
def readText? (text : String) : Option Nat :=
  match text.toList with
  | '0' :: 'x' :: digits | '0' :: 'X' :: digits => readDigits? 16 digits
  | '0' :: 'o' :: digits | '0' :: 'O' :: digits => readDigits? 8 digits
  | '0' :: 'b' :: digits | '0' :: 'B' :: digits => readDigits? 2 digits
  | digits => readDigits? 10 digits

/-- The quantity of up to `bits` bits that a value writes. -/
def read? (bits : Nat) : Json → Option Nat
  | .string text => (readText? text).filter (· < Nat.pow 2 bits)
  | .integer (.ofNat n) => if n < Nat.pow 2 (min bits 64) then some n else none
  | _ => none

/-- What a value is, in words. -/
def described : Json → String
  | .null => "invalid type: null"
  | .bool b => s!"invalid type: boolean `{b}`"
  | .integer n => s!"invalid type: integer `{n}`"
  | .float x => s!"invalid type: floating point `{x.text}`"
  | .string text => "invalid value: string " ++ Visible.quoted text
  | .array _ => "invalid type: sequence"
  | .object _ => "invalid type: map"

/-- How many bytes of a value's text are read before it is refused: all of it, or the opening bracket
of one that holds something. -/
def refusedAt (j : Json) : Nat :=
  match j with
  | .array (_ :: _) | .object (_ :: _) => 1
  | j => j.compact.utf8ByteSize

/-- What is said of a value that is no quantity of `bits` bits. -/
def complaint (bits : Nat) (j : Json) : String :=
  s!"{described j}, expected a {bits / 8} byte hex string at line 1 column {refusedAt j}\n" ++
    j.compact

end OrderDesk.Quantity
