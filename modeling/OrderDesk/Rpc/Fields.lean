import OrderDesk.Address
import OrderDesk.Rpc.Quantity

/-!
# `OrderDesk.Rpc.Fields` — parts of a node's answers

Byte strings are read from text or from arrays of numbers. A part that may be missing may also be null,
but it must not be unreadable.

## Contents
- `RpcDecode.bytes?`, `hash?`, `address?`: byte strings of any and of fixed lengths.
- `RpcDecode.required?`, `optional?`: parts of an object.
- `RpcDecode.TxKind`: the kinds of transactions, as receipts and transactions name them.
-/

namespace OrderDesk.RpcDecode

/-- A byte string, as text or as an array of numbers. -/
def bytes? : Json → Option Bytes
  | .string text => Hex.decode? text
  | .array items => items.mapM fun item =>
      match item with
      | .integer _ => (Quantity.read? 8 item).map UInt8.ofNat
      | _ => none
  | _ => none

def hash? (j : Json) : Option Hash := do
  let bytes ← bytes? j
  if bytes.length = 32 then some (.ofBytes bytes) else none

def address? (j : Json) : Option Address := do
  let bytes ← bytes? j
  if bytes.length = 20 then some (.ofBytes bytes) else none

/-- A part that has to be there. -/
def required? {α : Type} (read : Json → Option α) (name : String) (j : Json) : Option α :=
  (j.field? name).bind read

/-- A part that may be missing or null. -/
def optional? {α : Type} (read : Json → Option α) (name : String) (j : Json) : Option (Option α) :=
  match j.present? name with
  | some value => (read value).map some
  | none => some none

/-- The items of a list, all of one form. -/
def listOf? {α : Type} (read : Json → Option α) (j : Json) : Option (List α) :=
  j.items?.bind (·.mapM read)

/-- A quantity that has to be there. -/
def quantity? (bits : Nat) (name : String) (j : Json) : Option Nat :=
  required? (Quantity.read? bits) name j

def u64? (name : String) (j : Json) : Option UInt64 := (quantity? 64 name j).map UInt64.ofNat

/-- A kind of transaction. -/
inductive TxKind where
  | legacy
  /-- With a list of the storage it touches. -/
  | accessList
  /-- With a limit for the fee in place of a price. -/
  | dynamicFee
  /-- With data stored outside of the chain's state. -/
  | blob
  /-- With code set for accounts. -/
  | setCode
deriving DecidableEq, Repr

/-- The kinds in the order of their numbers. -/
def TxKind.all : List TxKind := [legacy, accessList, dynamicFee, blob, setCode]

/-- The kind of a number, which is written with one digit or two or stands for itself. -/
def TxKind.ofJson? : Json → Option TxKind
  | .string "0x0" | .string "0x00" => some legacy
  | .string "0x1" | .string "0x01" => some accessList
  | .string "0x2" | .string "0x02" => some dynamicFee
  | .string "0x3" | .string "0x03" => some blob
  | .string "0x4" | .string "0x04" => some setCode
  | .integer (.ofNat n) => all[n]?
  | _ => none

/-- Where something stands in the chain. -/
def checkPlace (j : Json) : Option Unit := do
  let _ ← optional? hash? "blockHash" j
  let _ ← optional? (Quantity.read? 64) "blockNumber" j
  let _ ← optional? (Quantity.read? 64) "transactionIndex" j

end OrderDesk.RpcDecode
