import OrderDesk.Rpc.Fields
import OrderDesk.Transaction.Call

/-!
# `OrderDesk.Rpc.Transaction` — transactions in a node's answers

A transaction is read for being repeated; what it has besides must be readable. One that names no kind
is of the first.

## Contents
- `RpcDecode.firstKindChain?`: the chain of a transaction of the first kind.
- `RpcDecode.terms?`: the gas price and the chain of a transaction of one kind.
- `RpcDecode.transaction?`.
-/

namespace OrderDesk.RpcDecode

/-! ## Prices and limits -/

/-- The number `2^128 - 1`. -/
def greatestPrice : Nat := 0xffffffffffffffffffffffffffffffff

/-- A price, cut to the range of prices. -/
def price? (j : Json) : Option Nat := (Quantity.read? 256 j).map (Nat.min greatestPrice)

/-- The gas limit, which has two names but is given under one of them. -/
def gasLimit? (j : Json) : Option UInt64 :=
  match j.field? "gas", j.field? "gasLimit" with
  | some limit, none | none, some limit => (Quantity.read? 64 limit).map UInt64.ofNat
  | _, _ => none

/-! ## Signatures -/

/-- The chain that the first number of a signature names, from the number 35 on. -/
def chainOfMark? (v : Nat) : Option (Option UInt64) :=
  if v = 27 ∨ v = 28 then some none
  else if 35 ≤ v ∧ (v - 35) / 2 < UInt64.size then some (some (UInt64.ofNat ((v - 35) / 2)))
  else none

/-- The chain of a transaction of the first kind: the one that its signature names, which must not
differ from the one stated. A signature of zeros stands for a transaction of the chain itself. -/
def firstKindChain? (j : Json) : Option (Option UInt64) := do
  let stated ← optional? (Quantity.read? 64) "chainId" j
  let v ← quantity? 128 "v" j
  let r ← quantity? 256 "r" j
  let s ← quantity? 256 "s" j
  let signed ← if v = 0 ∧ r = 0 ∧ s = 0 then some none else chainOfMark? v
  match stated, signed with
  | some a, some b => if UInt64.ofNat a = b then some signed else none
  | _, _ => some signed

/-- A first number of a signature that names a parity. -/
def marksParity (v : Nat) : Bool := v = 0 || v = 1 || v = 27 || v = 28 || 35 ≤ v

/-- The signature of a later kind, with its parity stated as such or named by its first number. -/
def checkSignature (j : Json) : Option Unit := do
  let _ ← quantity? 256 "r" j
  let _ ← quantity? 256 "s" j
  let v ← optional? (Quantity.read? 64) "v" j
  let parity ← optional? (Quantity.read? 1) "yParity" j
  if parity.isSome ∨ v.any marksParity then some () else none

/-! ## Lists -/

/-- An account with the places of its storage, as an object or as the pair of both. -/
def checkAccess (j : Json) : Option Unit := do
  let (account, keys) ← match j with
    | .array [account, keys] => some (account, keys)
    | .object _ => some (← j.field? "address", ← j.field? "storageKeys")
    | _ => none
  let _ ← address? account
  let _ ← listOf? hash? keys

/-- The storage that a transaction touches; null stands for none. -/
def checkAccessList (j : Json) : Option Unit := do
  match ← j.field? "accessList" with
  | .null => some ()
  | list => (listOf? checkAccess list).map fun _ => ()

/-- The leave to set an account's code, with its parity under one of two names. -/
def checkAuthorization (j : Json) : Option Unit := do
  let _ ← quantity? 256 "chainId" j
  let _ ← required? address? "address" j
  let _ ← u64? "nonce" j
  let parity ← match j.field? "yParity", j.field? "v" with
    | some parity, none | none, some parity => some parity
    | _, _ => none
  let _ ← Quantity.read? 8 parity
  let _ ← quantity? 256 "r" j
  let _ ← quantity? 256 "s" j

/-! ## Transactions -/

/-- The gas price and the chain of a transaction of one kind. -/
def terms? (kind : TxKind) (j : Json) : Option (Nat × UInt64) := do
  match kind with
  | .legacy =>
    let price ← required? price? "gasPrice" j
    let chain ← firstKindChain? j
    some (price, chain.getD 0)
  | kind =>
    checkSignature j
    let chain ← u64? "chainId" j
    checkAccessList j
    if kind = .accessList then some (← quantity? 128 "gasPrice" j, chain)
    else
      let _ ← quantity? 128 "maxPriorityFeePerGas" j
      some (← quantity? 128 "maxFeePerGas" j, chain)

/-- What only the last kinds have, and that they create no contract. -/
def checkKind (kind : TxKind) (target : Option Address) (j : Json) : Option Unit := do
  match kind with
  | .blob =>
    let _ ← quantity? 128 "maxFeePerBlobGas" j
    let _ ← required? (listOf? hash?) "blobVersionedHashes" j
    target.map fun _ => ()
  | .setCode =>
    let _ ← required? (listOf? checkAuthorization) "authorizationList" j
    target.map fun _ => ()
  | _ => some ()

/-- A transaction; one that creates a contract is none to be repeated. Whatever its kind, a price that
is given is read. -/
def transaction? (j : Json) : Option (Option TxRequest) := do
  let kind ← optional? TxKind.ofJson? "type" j
  let kind := kind.getD .legacy
  let _ ← required? hash? "hash" j
  checkPlace j
  let sender ← required? address? "from" j
  let target ← optional? address? "to" j
  let data ← required? bytes? "input" j
  let value ← quantity? 256 "value" j
  let nonce ← u64? "nonce" j
  let gasLimit ← gasLimit? j
  let _ ← optional? price? "gasPrice" j
  let (price, chainId) ← terms? kind j
  checkKind kind target j
  some (target.map fun target =>
    { sender, target, data, value := BitVec.ofNat 256 value, nonce, gasLimit,
      gasPrice := BitVec.ofNat 128 price, chainId })

end OrderDesk.RpcDecode
