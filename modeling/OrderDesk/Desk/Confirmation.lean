import OrderDesk.Desk.Sender
import OrderDesk.Exchange.RevertData

/-!
# `OrderDesk.Desk.Confirmation` — waiting for a transaction to be mined

The receipt is looked up again and again, with a pause in between, until it is there, the attempts
are used up or the desk is told to stop. A failed transaction is repeated as a call to learn why.

## Contents
- `Confirmation`: how the wait ended.
- `revertReasonOf`: why a mined transaction failed.
- `PollPolicy.confirmWithin`, `PollPolicy.confirm`: the wait.
- `Sender.execute`: sends a call and waits for it, all under the wallet's lock.
-/

namespace OrderDesk

/-- How waiting for a transaction ended. -/
inductive Confirmation where
  | confirmed (receipt : Receipt)
  | reverted (receipt : Receipt) (reason : RevertReason)
  /-- No receipt in time; the transaction may still be mined. -/
  | timedOut (hash : Hash) (timeout : Duration)
deriving DecidableEq, Repr, Inhabited

/-- The message of a repeated call: the reason in the revert's data before the node's own words. A
call that fails in another way, or does not fail, has none. -/
def replayMessage? : Except DeskError Bytes → Option String
  | .error (.executionReverted message data) =>
    match data.bind RevertData.read? with
    | some reason => some ("execution reverted: " ++ reason)
    | none => some message
  | _ => none

/-- Why a mined transaction failed, learnt by repeating it on the state before its block. -/
def revertReasonOf (receipt : Receipt) : Attempt RevertReason := do
  match ← Attempt.reply (.transaction receipt.hash) with
  | .ok (some tx) =>
    let before : UInt64 := if receipt.block = 0 then 0 else receipt.block - 1
    let result ← Attempt.reply (.call tx (some before))
    pure ⟨replayMessage? result, receipt.gasUsed, some tx.gasLimit⟩
  | _ => pure ⟨none, receipt.gasUsed, none⟩

/-- Looks a receipt up to `attempts` times. -/
def pollReceipt (hash : Hash) (interval timeout : Duration) : (attempts : Nat) →
    Attempt Confirmation
  | 0 => pure (.timedOut hash timeout)
  | rest + 1 => do
    if ← Attempt.stopping then
      Attempt.fail (.shutdown hash)
    else
      match ← Attempt.reply (.receipt hash) with
      | .ok (some receipt) =>
        if receipt.success then pure (.confirmed receipt)
        else
          let reason ← revertReasonOf receipt
          pure (.reverted receipt reason)
      | _ =>
        if rest = 0 then pure (.timedOut hash timeout)
        else if ← Attempt.sleep interval then Attempt.fail (.shutdown hash)
        else pollReceipt hash interval timeout rest

/-- Waits for a transaction for a given time. -/
def PollPolicy.confirmWithin (p : PollPolicy) (hash : Hash) (timeout : Duration) :
    Attempt Confirmation :=
  match p.attempts? timeout with
  | some attempts => pollReceipt hash p.interval timeout attempts
  | none => Attempt.breakdown .arithmetic

/-- Waits for a transaction for the usual time. -/
def PollPolicy.confirm (p : PollPolicy) (hash : Hash) : Attempt Confirmation :=
  p.confirmWithin hash p.timeout

/-- Sends a call and waits for it without giving the wallet's lock back. -/
def Sender.execute (s : Sender) (call : Call) : Attempt (Submitted × Confirmation) :=
  Attempt.locked s.wallet do
    let submitted ← s.sendNext call
    let confirmation ← s.poll.confirm submitted.hash
    pure (submitted, confirmation)

end OrderDesk
