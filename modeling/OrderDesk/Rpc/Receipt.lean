import OrderDesk.Rpc.Fields
import OrderDesk.Transaction.Call

/-!
# `OrderDesk.Rpc.Receipt` — receipts in a node's answers

All parts are read, also those that a receipt is not asked for: one that is unreadable spoils the
answer.

## Contents
- `RpcDecode.log?`, `RpcDecode.receipt?`.
-/

namespace OrderDesk.RpcDecode

/-- The mark of a log that a change of the chain took back; it may be missing. -/
def checkRemoved (j : Json) : Option Unit :=
  match j.field? "removed" with
  | none | some (.bool _) => some ()
  | some _ => none

/-- A log. The number of its block may be null but has to be there, like its place in the block. -/
def log? (j : Json) : Option Log := do
  let address ← required? address? "address" j
  let topics ← required? (listOf? hash?) "topics" j
  let data ← required? bytes? "data" j
  for name in ["blockNumber", "transactionIndex", "logIndex"] do
    let _ ← j.field? name
  checkPlace j
  let _ ← optional? (Quantity.read? 64) "logIndex" j
  let _ ← optional? (Quantity.read? 64) "blockTimestamp" j
  let _ ← optional? hash? "transactionHash" j
  checkRemoved j
  some ⟨address, topics, data⟩

/-- Whether a transaction succeeded. A receipt of the time before the mark tells its outcome by a
state; such a transaction counts as successful. -/
def success? (j : Json) : Option Bool :=
  match quantity? 1 "status" j with
  | some mark => some (mark == 1)
  | none => (required? hash? "root" j).map fun _ => true

/-- What the gas cost. -/
def checkPrices (j : Json) : Option Unit := do
  let _ ← optional? (Quantity.read? 128) "effectiveGasPrice" j
  let _ ← optional? (Quantity.read? 64) "blobGasUsed" j
  let _ ← optional? (Quantity.read? 128) "blobGasPrice" j

/-- A receipt. A block that is not known yet counts as block zero. -/
def receipt? (j : Json) : Option Receipt := do
  let _ ← required? TxKind.ofJson? "type" j
  let hash ← required? hash? "transactionHash" j
  checkPlace j
  let block ← optional? (Quantity.read? 64) "blockNumber" j
  let success ← success? j
  let gasUsed ← u64? "gasUsed" j
  let _ ← u64? "cumulativeGasUsed" j
  checkPrices j
  let _ ← required? address? "from" j
  let _ ← optional? address? "to" j
  let _ ← optional? address? "contractAddress" j
  let bloom ← required? bytes? "logsBloom" j
  if bloom.length ≠ 256 then none
  let logs ← required? (listOf? log?) "logs" j
  some ⟨hash, UInt64.ofNat (block.getD 0), success, gasUsed, logs⟩

end OrderDesk.RpcDecode
