import OrderDesk.Routine.Request

/-!
# `OrderDesk.Rehearsal.ScriptedChain` — a node that follows a script

A node in memory. Every transaction sent to it takes the next scripted outcome; where none is left it
is mined without logs. Requests are counted.

## Contents
- `TxOutcome`, `CallAnswer`: what can be scripted.
- `ScriptedChain` and `ScriptedChain.reply`.
-/

namespace OrderDesk

/-- What happens to a transaction that is sent. -/
inductive TxOutcome where
  | success (logs : List Log)
  | revert (gasUsed : UInt64)
  /-- Accepted and never mined. -/
  | pending
  | reject (reason : String)
deriving DecidableEq, Repr, Inhabited

/-- What a call is answered with. -/
inductive CallAnswer where
  | returns (data : Bytes)
  | reverts (message : String)
deriving DecidableEq, Repr, Inhabited

/-- A node with its script and what it has seen. -/
structure ScriptedChain where
  pendingNonce : Option UInt64 := some 0
  gasEstimate : Option UInt64 := some 21000
  gasPrice : Option GasPrice := some 1000000000
  /-- How many look-ups of a receipt find nothing before it shows. -/
  receiptDelay : Nat := 0
  block : UInt64 := 100
  outcomes : List TxOutcome := []
  /-- Accepted transactions, oldest first. -/
  sent : List (Hash × TxRequest) := []
  receipts : List (Hash × Receipt) := []
  lookups : List (Hash × Nat) := []
  answers : List (Bytes × CallAnswer) := []
  calls : List (TxRequest × Option UInt64) := []
  balances : List (Address × Word) := []
  requests : Nat := 0
  /-- A nonce was sent that none can follow. -/
  exhausted : Bool := false
deriving DecidableEq, Repr, Inhabited

namespace ScriptedChain

/-- How often a receipt was looked up. -/
def lookupCount (c : ScriptedChain) (hash : Hash) : Nat :=
  ((c.lookups.find? (·.1 == hash)).map (·.2)).getD 0

/-- Scripts the answer to calls of a selector. -/
def onCall (c : ScriptedChain) (selector : Bytes) (answer : CallAnswer) : ScriptedChain :=
  { c with answers := (selector, answer) :: c.answers }

def setBalance (c : ScriptedChain) (account : Address) (balance : Word) : ScriptedChain :=
  { c with balances := (account, balance) :: c.balances }

/-- The gas that a mined transaction uses where the script does not say. -/
def usualGas : UInt64 := 120000

/-- Keeps an accepted transaction. -/
def accept (c : ScriptedChain) (tx : SignedTx) (receipt : Option Receipt) : ScriptedChain :=
  let following := tx.request.nonce.toNat + 1
  { c with
    sent := c.sent ++ [(tx.hash, tx.request)]
    receipts := (receipt.map fun r => (tx.hash, r)).toList
      ++ c.receipts.filter (·.1 != tx.hash)
    pendingNonce := c.pendingNonce.map fun p => max p (UInt64.ofNat following)
    exhausted := c.exhausted || (c.pendingNonce.isSome && UInt64.size ≤ following) }

/-- Mines a transaction into the next block. -/
def mine (c : ScriptedChain) (tx : SignedTx) (success : Bool) (gasUsed : UInt64)
    (logs : List Log) : ScriptedChain :=
  let c := { c with block := c.block + 1 }
  c.accept tx (some { hash := tx.hash, block := c.block, success, gasUsed, logs })

/-- A transaction is sent. -/
def send (c : ScriptedChain) (tx : SignedTx) : Except DeskError Hash × ScriptedChain :=
  let outcome := c.outcomes.headD (.success [])
  let c := { c with outcomes := c.outcomes.tail }
  match outcome with
  | .reject reason => (.error (.invalidRequest reason), c)
  | .pending => (.ok tx.hash, c.accept tx none)
  | .success logs => (.ok tx.hash, c.mine tx true usualGas logs)
  | .revert gasUsed => (.ok tx.hash, c.mine tx false gasUsed [])

/-- A receipt is looked up. -/
def lookUp (c : ScriptedChain) (hash : Hash) : Option Receipt × ScriptedChain :=
  let count := c.lookupCount hash + 1
  let c := { c with lookups := (hash, count) :: c.lookups.filter (·.1 != hash) }
  if count ≤ c.receiptDelay then (none, c)
  else ((c.receipts.find? (·.1 == hash)).map (·.2), c)

/-- A call is made. -/
def execute (c : ScriptedChain) (tx : TxRequest) (block : Option UInt64) :
    Except DeskError Bytes × ScriptedChain :=
  let answer : Option CallAnswer := tx.call.selector?.bind fun selector =>
    (c.answers.find? (·.1 == selector)).map (·.2)
  let c := { c with calls := c.calls ++ [(tx, block)] }
  match answer with
  | some (.returns data) => (.ok data, c)
  | some (.reverts message) => (.error (.executionReverted message none), c)
  | none => (.error (.invalidRequest "eth_call not scripted"), c)

/-- A value that the script may withhold. -/
def orUnavailable {α : Type} (value : Option α) (error : DeskError) : Except DeskError α :=
  match value with
  | some a => .ok a
  | none => .error error

/-- Answers a request and counts it. -/
def reply (c : ScriptedChain) : (r : Request) → r.Reply × ScriptedChain
  | .chainId => (.error (.invalidRequest "eth_chainId unavailable"), c)
  | .pendingNonce _ =>
    (orUnavailable c.pendingNonce (.invalidRequest "eth_getTransactionCount unavailable"),
      { c with requests := c.requests + 1 })
  | .estimateGas _ _ =>
    (orUnavailable c.gasEstimate (.gasEstimationFailed "execution reverted"),
      { c with requests := c.requests + 1 })
  | .gasPrice =>
    (orUnavailable c.gasPrice (.invalidRequest "eth_gasPrice unavailable"),
      { c with requests := c.requests + 1 })
  | .balance account =>
    (.ok (((c.balances.find? (·.1 == account)).map (·.2)).getD 0),
      { c with requests := c.requests + 1 })
  | .send tx => send { c with requests := c.requests + 1 } tx
  | .receipt hash =>
    let (found, c) := lookUp { c with requests := c.requests + 1 } hash
    (.ok found, c)
  | .call tx block => execute { c with requests := c.requests + 1 } tx block
  | .transaction hash =>
    (.ok ((c.sent.find? (·.1 == hash)).map (·.2)), { c with requests := c.requests + 1 })
  | .fundsVerdict _ _ _ _ => (.ok (), c)
  | .cancelVerdict _ _ => (.error (.invalidRequest "exhausted"), c)

end ScriptedChain
end OrderDesk
