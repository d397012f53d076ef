import OrderDesk.Address

/-!
# `OrderDesk.Exchange.Abi` — call data of contracts

Arguments are words and lists of words. Each argument has one word in the head: its value, or for a
list the position of its tail, where its length and its members stand.

## Contents
- `Abi.Arg`, `Abi.encode`: arguments to bytes.
- `Abi.Shape`, `Abi.decode?`: bytes to arguments, accepting exactly what `encode` writes.
- `Abi.wordAt?`: one word of returned data, however long the data is.
-/

namespace OrderDesk.Abi

/-- An argument of a call. -/
inductive Arg where
  | word (value : Word)
  | list (members : List Word)
deriving DecidableEq, Repr, Inhabited

/-- The kind of an argument. -/
inductive Shape where
  | word
  | list
deriving DecidableEq, Repr

def Arg.shape : Arg → Shape
  | word _ => .word
  | list _ => .list

def ofAddress (a : Address) : Word := a.bits.setWidth 256
def ofBool (b : Bool) : Word := if b then 1 else 0
def ofUInt32 (n : UInt32) : Word := BitVec.ofNat 256 n.toNat

/-- The address in the low bytes of a word. -/
def toAddress (w : Word) : Address := ⟨w.setWidth 160⟩

/-- Any word but zero is true. -/
def toBool (w : Word) : Bool := w != 0

/-- The number in the low four bytes of a word. -/
def toUInt32 (w : Word) : UInt32 := UInt32.ofNat (w.toNat % UInt32.size)

/-- The thirty-two bytes of a word. -/
def wordBytes (w : Word) : Bytes := Bytes.ofNat 32 w.toNat

/-- What stands behind the head for an argument. -/
def tail : Arg → Bytes
  | .word _ => []
  | .list members => Bytes.ofNat 32 members.length ++ members.flatMap wordBytes

/-- Heads and tails, the first tail beginning at `offset`. -/
def encodeFrom (offset : Nat) : List Arg → Bytes × Bytes
  | [] => ([], [])
  | arg :: rest =>
    let own := tail arg
    let (heads, tails) := encodeFrom (offset + own.length) rest
    match arg with
    | .word value => (wordBytes value ++ heads, tails)
    | .list _ => (Bytes.ofNat 32 offset ++ heads, own ++ tails)

/-- The arguments of a call as bytes. -/
def encode (args : List Arg) : Bytes :=
  let (heads, tails) := encodeFrom (32 * args.length) args
  heads ++ tails

/-- The word at a byte position, if there are enough bytes. -/
def wordAt? (data : Bytes) (position : Nat) : Option Word :=
  let bytes := Bytes.slice data position 32
  if bytes.length = 32 then some (BitVec.ofNat 256 (Bytes.toNat bytes)) else none

/-- `count` words from a byte position on. -/
def wordsAt? (data : Bytes) (position : Nat) : (count : Nat) → Option (List Word)
  | 0 => some []
  | count + 1 => do
    let first ← wordAt? data position
    let rest ← wordsAt? data (position + 32) count
    return first :: rest

/-- Reads arguments whose heads begin at `head` and whose next tail must stand at `next`. The answer
includes where the last tail ends. -/
def decodeFrom? (data : Bytes) (head next : Nat) : List Shape → Option (List Arg × Nat)
  | [] => some ([], next)
  | .word :: rest => do
    let value ← wordAt? data head
    let (args, final) ← decodeFrom? data (head + 32) next rest
    return (.word value :: args, final)
  | .list :: rest => do
    let offset ← wordAt? data head
    let count ← wordAt? data next
    if offset.toNat = next ∧ 32 * count.toNat ≤ data.length then
      let members ← wordsAt? data (next + 32) count.toNat
      let (args, final) ← decodeFrom? data (head + 32) (next + 32 + 32 * count.toNat) rest
      return (.list members :: args, final)
    else none

/-- Reads arguments of the given shapes; nothing may be left over. -/
def decode? (shapes : List Shape) (data : Bytes) : Option (List Arg) := do
  let (args, final) ← decodeFrom? data 0 (32 * shapes.length) shapes
  if final = data.length then some args else none

end OrderDesk.Abi
