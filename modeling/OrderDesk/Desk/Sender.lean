import OrderDesk.Curve.Signature
import OrderDesk.Routine.Basic
import OrderDesk.Transaction.PollPolicy

/-!
# `OrderDesk.Desk.Sender` — sending transactions of one wallet

Under the wallet's lock a nonce is taken, gas is bought, the transaction is signed and sent. A refused
transaction is given up; its nonce is not used again.

## Contents
- `Sender`: a wallet with its terms.
- `Sender.acquire`: takes a nonce.
- `Sender.submit`: sends a call under a given nonce; `Sender.sendNext`: under the next one.
-/

namespace OrderDesk

/-- A wallet on one chain with its terms for gas and for waiting. -/
structure Sender where
  key : SigningKey
  wallet : Address
  chainId : UInt64
  gas : GasPolicy := {}
  poll : PollPolicy := {}
deriving DecidableEq, Inhabited

/-- A transaction that the node accepted. -/
structure Submitted where
  hash : Hash
  request : TxRequest
deriving DecidableEq, Repr, Inhabited

namespace Sender

/-- The sender for a key. -/
def ofKey (key : SigningKey) (chainId : UInt64) (gas : GasPolicy) (poll : PollPolicy) : Sender :=
  { key, wallet := key.address, chainId, gas, poll }

/-- Takes the next nonce of a wallet; a pending count that cannot be had is done without. -/
def acquire (wallet : Address) : Attempt UInt64 := do
  let pending ← Attempt.reply (.pendingNonce wallet)
  match ← Attempt.act (.allocate wallet pending.toOption) with
  | some nonce => pure nonce
  | none => Attempt.breakdown .arithmetic

/-- Takes several nonces of a wallet under one hold of its lock. -/
def acquireMany (wallet : Address) (count : Nat) : Attempt (List UInt64) :=
  Attempt.locked wallet ((List.range count).mapM fun _ => acquire wallet)

/-- The gas limit: from the node's estimate, or the fallback. -/
def gasLimit (s : Sender) (call : Call) : Attempt UInt64 := do
  match ← Attempt.reply (.estimateGas s.wallet call) with
  | .ok estimate =>
    match s.gas.limitFor? estimate with
    | some limit => pure limit
    | none => Attempt.breakdown .arithmetic
  | .error _ => pure s.gas.limitWithoutEstimate

/-- The gas price: the last one fetched while it is fresh, else the node's, which is kept, else the
fallback, which is not. -/
def gasPrice (s : Sender) : Attempt GasPrice := do
  match ← Attempt.act (.freshPrice s.gas.priceLifetime) with
  | some price => pure price
  | none =>
    match ← Attempt.reply .gasPrice with
    | .ok price =>
      Attempt.act (.keepPrice price)
      pure price
    | .error _ => pure s.gas.fallbackPrice

/-- The transaction for a call under the sender's terms. -/
def request (s : Sender) (call : Call) (nonce gasLimit : UInt64) (gasPrice : GasPrice) :
    TxRequest :=
  { sender := s.wallet, target := call.target, data := call.data, value := call.value, nonce,
    gasLimit, gasPrice, chainId := s.chainId }

/-- Signs a call and sends it. To be used under the wallet's lock. -/
def submit (s : Sender) (call : Call) (nonce : UInt64) : Attempt Submitted := do
  let gasLimit ← s.gasLimit call
  let gasPrice ← s.gasPrice
  let signed := (s.request call nonce gasLimit gasPrice).sign s.key
  match ← Attempt.reply (.send signed) with
  | .ok _ => pure ⟨signed.hash, signed.request⟩
  | .error e => Attempt.fail (.submissionFailed signed.hash e.message)

/-- Takes a nonce and sends a call under it. To be used under the wallet's lock. -/
def sendNext (s : Sender) (call : Call) : Attempt Submitted := do
  let nonce ← acquire s.wallet
  s.submit call nonce

/-- Sends calls one after another under one hold of the lock; a refused one does not stop the rest. -/
def session (s : Sender) (calls : List Call) : Attempt (List (Except DeskError Submitted)) :=
  Attempt.locked s.wallet <| calls.mapM fun call => do
    match ← Attempt.outcome (s.sendNext call) with
    | .ok submitted => pure (.ok submitted)
    | .error (.error e) => pure (.error e)
    | .error (.breakdown b) => Attempt.breakdown b

end Sender
end OrderDesk
