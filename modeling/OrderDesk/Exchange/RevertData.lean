import OrderDesk.Exchange.Abi
import OrderDesk.Hex
import OrderDesk.Text.Utf8

/-!
# `OrderDesk.Exchange.RevertData` — the reason in a revert's data

## Contents
- `RevertData.read?`: the text of an `Error(string)`, of a `Panic(uint256)`, or of plain text.
-/

namespace OrderDesk.RevertData

/-- Selects `Error(string)`. -/
def errorSelector : Bytes := [0x08, 0xc3, 0x79, 0xa0]

/-- Selects `Panic(uint256)`. -/
def panicSelector : Bytes := [0x4e, 0x48, 0x7b, 0x71]

/-- What a panic code stands for. -/
def panicText? : Nat → Option String
  | 0x00 => some "generic/unspecified error"
  | 0x01 => some "assertion failed"
  | 0x11 => some "arithmetic underflow or overflow"
  | 0x12 => some "division or modulo by zero"
  | 0x21 => some "failed to convert value into enum type"
  | 0x22 => some "storage byte array incorrectly encoded"
  | 0x31 => some "called \x60.pop()\x60 on an empty array"
  | 0x32 => some "array out-of-bounds access"
  | 0x41 => some "memory allocation error"
  | 0x51 => some "called an invalid internal function"
  | _ => none

/-- At least two hexadecimal digits. -/
def twoDigits (n : Nat) : String :=
  let digits := String.ofList (Nat.toDigits 16 n)
  if digits.length < 2 then "0" ++ digits else digits

/-- The text of a panic: known codes are explained. -/
def panicReason (code : Nat) : String :=
  match panicText? code with
  | some text => "panic: " ++ text ++ " (0x" ++ twoDigits code ++ ")"
  | none => "panic: unknown code (0x" ++ String.ofList (Nat.toDigits 16 code) ++ ")"

/-- The bytes of the string argument: position and length must lie within the data. -/
def stringArgument? (data : Bytes) : Option Bytes := do
  let position ← Abi.wordAt? data 0
  let size ← if position.toNat ≤ data.length then Abi.wordAt? data position.toNat else none
  let start := position.toNat + 32
  if start + size.toNat ≤ data.length then some (Bytes.slice data start size.toNat) else none

/-- The text of an `Error(string)`. -/
def errorReason (bytes : Bytes) : String :=
  if bytes.isEmpty then "revert: <empty>" else "revert: " ++ Utf8.decodeLossy bytes

/-- A standard error or panic, if the data is one. -/
def standard? (data : Bytes) : Option String :=
  if data.take 4 = errorSelector then (stringArgument? (data.drop 4)).map errorReason
  else if data.take 4 = panicSelector then
    (Abi.wordAt? (data.drop 4) 0).map fun code => panicReason code.toNat
  else none

/-- The reason: a standard error or panic, else the data itself when it is text. -/
def read? (data : Bytes) : Option String := (standard? data).or (Utf8.decode? data)

end OrderDesk.RevertData
