import OrderDesk.Bytes

/-!
# `OrderDesk.Hex` — hexadecimal text

Byte strings are written `0x` and two lower-case digits a byte; either case is read.

## Contents
- `Hex.encode`, `Hex.decode?`: byte strings with the `0x` mark.
- `Hex.quantity`: numbers without leading zeros.
-/

namespace OrderDesk.Hex

/-- The digit for a value below sixteen. -/
def digit (n : Nat) : Char := (Nat.digitChar n)

/-- The value of a hexadecimal digit of either case. -/
def value? (c : Char) : Option Nat :=
  if '0' ≤ c ∧ c ≤ '9' then some (c.toNat - '0'.toNat)
  else if 'a' ≤ c ∧ c ≤ 'f' then some (c.toNat - 'a'.toNat + 10)
  else if 'A' ≤ c ∧ c ≤ 'F' then some (c.toNat - 'A'.toNat + 10)
  else none

/-- Two lower-case digits a byte, no mark. -/
def digits (bytes : Bytes) : List Char :=
  bytes.flatMap fun b => [digit (b.toNat / 16), digit (b.toNat % 16)]

/-- The written form of a byte string: `0x` and its digits. -/
def encode (bytes : Bytes) : String := String.ofList ('0' :: 'x' :: digits bytes)

/-- Reads digits in pairs; fails on an odd count or another character. -/
def readDigits? : List Char → Option Bytes
  | [] => some []
  | a :: b :: rest => do
    let high ← value? a
    let low ← value? b
    let bytes ← readDigits? rest
    return UInt8.ofNat (high * 16 + low) :: bytes
  | [_] => none

/-- The digits of a text behind its `0x` mark, if it has one; the mark's letter may be a capital. -/
def unmarked? (text : String) : Option (List Char) :=
  match text.toList with
  | '0' :: 'x' :: rest | '0' :: 'X' :: rest => some rest
  | _ => none

/-- Reads a byte string whose `0x` mark may be missing. -/
def decode? (text : String) : Option Bytes :=
  readDigits? ((unmarked? text).getD text.toList)

/-- A number in lower-case hexadecimal without leading zeros, marked `0x`. -/
def quantity (n : Nat) : String := "0x" ++ String.ofList (Nat.toDigits 16 n)

end OrderDesk.Hex
