import OrderDesk.Curve.Signature
import OrderDesk.Transaction.Call
import OrderDesk.Transaction.Rlp

/-!
# `OrderDesk.Transaction.Signed` — signed transactions

A transaction of the first kind: six fields and a signature that is bound to the chain.

## Contents
- `TxRequest.signingHash`: what is signed.
- `TxRequest.sign`: the bytes to send and their hash.
-/

namespace OrderDesk

/-- A transaction ready to be sent. -/
structure SignedTx where
  raw : Bytes
  hash : Hash
  request : TxRequest
deriving DecidableEq, Repr, Inhabited

namespace TxRequest

/-- The encoded fields before the signature. -/
def fields (r : TxRequest) : List Bytes :=
  [Rlp.number r.nonce.toNat, Rlp.number r.gasPrice.toNat, Rlp.number r.gasLimit.toNat,
   Rlp.string r.target.toBytes, Rlp.number r.value.toNat, Rlp.string r.data]

/-- The hash that is signed: the fields, then the chain and two zeros in place of the signature. -/
def signingHash (r : TxRequest) : Hash :=
  Hash.ofMessage (Rlp.list (r.fields ++ [Rlp.number r.chainId.toNat, Rlp.number 0, Rlp.number 0]))

/-- The first number of a signature, which names chain and parity. -/
def recoveryMark (r : TxRequest) (s : Signature) : Nat :=
  r.chainId.toNat * 2 + 35 + s.parity.toNat

/-- The encoded transaction with a signature. -/
def rawWith (r : TxRequest) (s : Signature) : Bytes :=
  Rlp.list (r.fields ++
    [Rlp.number (r.recoveryMark s), Rlp.number s.r, Rlp.number s.s])

/-- Signs a request; the hash is that of the bytes sent. -/
def sign (r : TxRequest) (key : SigningKey) : SignedTx :=
  let raw := r.rawWith (key.sign r.signingHash)
  ⟨raw, Hash.ofMessage raw, r⟩

end TxRequest
end OrderDesk
