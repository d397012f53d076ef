import OrderDesk.Desk.Cancel
import OrderDesk.Desk.Funds

/-!
# `OrderDesk.Desk.Connector` — placing, confirming and cancelling orders

An order is placed under the trader's identifier: checked, paid for, sent under the wallet's lock and
tracked from then on. Its fate is learnt from the placement's receipt, either by a later confirmation
or before the lock is given back.

## Contents
- `Connector`: the settings of a desk.
- `Connector.place`, `Connector.confirm`, `Connector.cancel`, `Connector.adopt`.
- `Connector.settle`: what a confirmation does to an order.
-/

namespace OrderDesk

/-- The settings of a desk. -/
structure Connector where
  deployment : Deployment
  sender : Sender
  calls : CallBook
  /-- Keep the wallet's lock until the placement is confirmed. -/
  confirmInLock : Bool := false
  slippage : Decimal := OrderRequest.defaultSlippage
  funds : FundsCheck := .unchecked
  channels : List CancelChannel := CancelChannel.standard
deriving DecidableEq, Inhabited

/-- What became of a placement. -/
inductive ConfirmOutcome where
  | resting (id : UInt64)
  | immediatelyFilled
  /-- The receipt tells nothing of the order. -/
  | unresolved
  | failed (reason : RevertReason)
  /-- No receipt in time; the placement may still be mined. -/
  | timedOut
deriving DecidableEq, Repr, Inhabited

/-- The wording of an outcome. -/
def ConfirmOutcome.text : ConfirmOutcome → String
  | resting id => s!"open #{id.toNat}"
  | immediatelyFilled => "immediately filled"
  | unresolved => "unresolved"
  | failed reason => "failed: " ++ reason.text
  | timedOut => "timed out"

/-- The outcome that a record already holds. -/
def OrderRecord.outcome? (r : OrderRecord) : Option ConfirmOutcome :=
  match r.status with
  | .resting id => some (.resting id)
  | .immediatelyFilled => some .immediatelyFilled
  | .failed reason => some (.failed reason)
  | .pendingSubmit | .awaitingConfirmation | .cancelled _ => none

/-- A placement that was sent. -/
structure OrderHandle where
  id : String
  hash : Hash
  nonce : UInt64
  entryPoint : EntryPoint
  /-- Set when the placement was confirmed before its lock was given back. -/
  outcome : Option ConfirmOutcome := none
deriving DecidableEq, Repr, Inhabited

namespace Connector

/-- A desk of one key on a deployment, with the usual settings. -/
def standard (deployment : Deployment) (key : SigningKey) (gas : GasPolicy) (poll : PollPolicy) :
    Connector :=
  let sender := Sender.ofKey key deployment.chainId gas poll
  { deployment, sender, calls := CallBook.ofDeployment deployment sender.wallet }

/-- What cancelling needs of a desk. -/
def cancelDesk (c : Connector) : CancelDesk := ⟨c.sender, c.calls, c.channels⟩

/-- A token of the deployment. -/
def resolve (c : Connector) (symbol : String) : Attempt Token :=
  match c.deployment.resolve? symbol with
  | some token => pure token
  | none => Attempt.fail (.unknownToken symbol)

/-- Applies a resolution to an order, if it is still tracked. -/
def resolveOrder (id : String) (resolution : Resolution) : Attempt Unit := do
  let result ← Attempt.act (.resolve id resolution)
  let _ ← Attempt.ofOutcome result

/-- What a successful receipt means for its order. -/
def outcomeOfTrace : OrderTrace → ConfirmOutcome
  | .placed id => .resting id
  | .immediatelyFilled => .immediatelyFilled
  | .notFound => .unresolved

/-- Counts a confirmation and applies it to the order. A wait that ended without a receipt leaves the
order as it is. -/
def settle (c : Connector) (id : String) : Confirmation → Attempt ConfirmOutcome
  | .confirmed receipt => do
    Attempt.act (.count (.confirmed receipt.gasUsed))
    let trace := receipt.trace c.deployment.exchange
    resolveOrder id (.ofTrace trace)
    pure (outcomeOfTrace trace)
  | .reverted receipt reason => do
    Attempt.act (.count (.reverted receipt.gasUsed))
    let _ ← Attempt.act .recordFailure
    resolveOrder id (.failed reason)
    pure (.failed reason)
  | .timedOut _ _ => do
    Attempt.act (.count .timedOut)
    pure .timedOut

/-- Gives a reservation up if what it was made for fails. -/
def orRelease {α : Type} (id : String) (body : Attempt α) : Attempt α := do
  match ← Attempt.outcome body with
  | .ok a => pure a
  | .error fault =>
    let _ ← Attempt.act (.release id)
    throw fault

/-- Counts a refused placement and lets the failure go on. -/
def countRefusal {α : Type} (body : Attempt α) : Attempt α := do
  match ← Attempt.outcome body with
  | .ok a => pure a
  | .error (.error e) =>
    Attempt.act (.count .submissionFailed)
    let _ ← Attempt.act .recordFailure
    Attempt.fail e
  | .error (.breakdown b) => Attempt.breakdown b

/-- Sends a reserved placement and completes its record. -/
def broadcast (c : Connector) (id : String) (placement : Placement) : Attempt Submitted := do
  let submitted ← orRelease id (countRefusal (c.sender.sendNext placement.call))
  let result ← Attempt.act (.broadcast id submitted.hash)
  let _ ← Attempt.ofOutcome result
  Attempt.act (.count .submitted)
  pure submitted

/-- What is checked of an order before anything is reserved: failures in the recent past, the
identifier, the tokens, the price and the amounts. The answer has the tokens and the call. -/
def prepare (c : Connector) (id : String) (order : OrderRequest) :
    Attempt (Token × Token × Placement) := do
  let verdict ← Attempt.act .checkLimiter
  Attempt.ofExcept verdict
  if (← Attempt.order id).isSome then
    Attempt.fail (.duplicateOrder id)
  else
    let base ← c.resolve order.pair.base
    let quote ← c.resolve order.pair.quote
    let price ← Attempt.ofFault (order.executionPrice c.slippage)
    let placement ← Attempt.ofFault (c.calls.placement order.side base quote order.amount price)
    pure (base, quote, placement)

/-- Places an order. The identifier is reserved before funds are checked and free again if the
placement is not sent. -/
def place (c : Connector) (id : String) (order : OrderRequest) : Attempt OrderHandle := do
  let (base, quote, placement) ← c.prepare id order
  let created ← Attempt.now
  let reserved ← Attempt.act (.reserve
    { id, pair := order.pair, base := base.address, quote := quote.address, side := order.side,
      created })
  Attempt.ofExcept reserved
  let spent := if order.side.isBid then quote else base
  orRelease id (c.funds.check c.sender.wallet spent placement.spend c.calls.exchange)
  let (submitted, confirmation) ← Attempt.locked c.sender.wallet do
    let submitted ← c.broadcast id placement
    if c.confirmInLock then
      let result ← Attempt.outcome (c.sender.poll.confirm submitted.hash)
      pure (submitted, some result)
    else pure (submitted, none)
  let handle : OrderHandle :=
    { id, hash := submitted.hash, nonce := submitted.request.nonce,
      entryPoint := placement.entryPoint }
  match confirmation with
  | none => pure handle
  | some result =>
    let outcome ← c.settle id (← Attempt.ofFault result)
    pure { handle with outcome := some outcome }

/-- The record of an order whose placement was sent. -/
def sentOrder (id : String) : Attempt OrderRecord := do
  match ← Attempt.order id with
  | none => Attempt.fail (.unknownOrder id)
  | some record =>
    if record.state = .pendingSubmit then Attempt.fail (.notBroadcast id) else pure record

/-- Waits for an order's placement and settles it. A settled order answers from its record. -/
def confirm (c : Connector) (id : String) : Attempt ConfirmOutcome := do
  let record ← sentOrder id
  match record.outcome? with
  | some outcome => pure outcome
  | none =>
    let confirmation ← c.sender.poll.confirm record.hash
    c.settle id confirmation

/-- Cancels an order and stops tracking it. -/
def cancel (c : Connector) (id : String) : Attempt CancelOutcome := do
  let record ← sentOrder id
  let outcome ← c.cancelDesk.route record
  let _ ← Attempt.act (.clear id)
  pure outcome

/-- Tracks an order that was placed elsewhere, by its placement and, if known, its number. -/
def adopt (c : Connector) (id : String) (pair : Pair) (side : Side) (hash : Hash)
    (orderId : Option UInt64) : Attempt OrderRecord := do
  let base ← c.resolve pair.base
  let quote ← c.resolve pair.quote
  let created ← Attempt.now
  let sent := OrderRecord.broadcast
    { id, pair, base := base.address, quote := quote.address, side, created } hash
  let record := match orderId with
    | some number => sent.apply (.placed number)
    | none => sent
  let tracked ← Attempt.act (.adopt record)
  Attempt.ofExcept tracked
  pure record

end Connector
end OrderDesk
