import OrderDesk.Bytes

/-!
# `OrderDesk.Transaction.Rlp` — length-prefixed encoding

Byte strings and lists, each behind a mark that gives its length.

## Contents
- `Rlp.string`, `Rlp.number`, `Rlp.list`.
-/

namespace OrderDesk.Rlp

/-- The mark of a payload: one byte up to a length of 55, else the length in bytes of its own. -/
def mark (base : Nat) (length : Nat) : Bytes :=
  if length < 56 then [UInt8.ofNat (base + length)]
  else
    let digits := Bytes.minimal length
    UInt8.ofNat (base + 55 + digits.length) :: digits

/-- A byte string; a single byte below `0x80` is its own encoding. -/
def string (bytes : Bytes) : Bytes :=
  match bytes with
  | [b] => if b < 0x80 then [b] else [0x81, b]
  | _ => mark 0x80 bytes.length ++ bytes

/-- A number without leading zeros. -/
def number (n : Nat) : Bytes := string (Bytes.minimal n)

/-- A list of encoded items. -/
def list (items : List Bytes) : Bytes :=
  let payload := items.flatten
  mark 0xc0 payload.length ++ payload

end OrderDesk.Rlp
