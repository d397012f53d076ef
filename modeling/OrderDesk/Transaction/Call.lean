import OrderDesk.Address

/-!
# `OrderDesk.Transaction.Call` — calls, transactions and receipts

## Contents
- `Call`: what is to be executed.
- `TxRequest`: a call with the sender's terms.
- `Log`, `Receipt`: what the chain reports about a mined transaction.
-/

namespace OrderDesk

/-- Gas prices are 128-bit quantities. -/
abbrev GasPrice := BitVec 128

/-- A call of a contract. -/
structure Call where
  target : Address
  data : Bytes
  value : Word := 0
deriving DecidableEq, Repr, Inhabited

/-- The four bytes that select a function, if the data has as many. -/
def Call.selector? (c : Call) : Option Bytes :=
  if 4 ≤ c.data.length then some (c.data.take 4) else none

/-- A call with sender, nonce, gas and chain. -/
structure TxRequest where
  sender : Address
  target : Address
  data : Bytes
  value : Word := 0
  nonce : UInt64 := 0
  gasLimit : UInt64 := 0
  gasPrice : GasPrice := 0
  chainId : UInt64 := 0
deriving DecidableEq, Repr, Inhabited

namespace TxRequest

/-- The request that only reads: no nonce, gas or chain. -/
def view (sender : Address) (c : Call) : TxRequest :=
  { sender, target := c.target, data := c.data, value := c.value }

/-- The call that a request makes. -/
def call (r : TxRequest) : Call := ⟨r.target, r.data, r.value⟩

end TxRequest

/-- An event that a contract emitted. -/
structure Log where
  address : Address
  topics : List Hash
  data : Bytes
deriving DecidableEq, Repr, Inhabited

/-- The chain's record of a mined transaction. -/
structure Receipt where
  hash : Hash
  block : UInt64
  success : Bool
  gasUsed : UInt64
  logs : List Log := []
deriving DecidableEq, Repr, Inhabited

end OrderDesk
