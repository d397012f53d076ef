import OrderDesk.Desk.Confirmation

/-!
# `OrderDesk.Desk.Cancel` — the ways of cancelling an order

Channels are tried in order until one does not fail; only a stop of the desk ends the search early.

## Contents
- `CancelChannel`: the batched call, the single call with or without a look at the book, or a
  channel of another kind.
- `CancelDesk.resolvePlacement`: the number of an order that is known by its placement only.
- `CancelDesk.route`: the whole search.
-/

namespace OrderDesk

/-- Why nothing was cancelled on the chain. -/
inductive LocalCancelReason where
  /-- The order was matched when placed and never rested. -/
  | immediatelyFilled
  /-- The placement failed and created nothing. -/
  | nothingOnChain
  /-- The order's number could not be learnt from its placement. -/
  | unresolved
  /-- The order does not rest on the book any more. -/
  | notOnBook
  /-- Every channel failed. -/
  | exhausted
deriving DecidableEq, Repr, Inhabited

namespace LocalCancelReason

def text : LocalCancelReason → String
  | immediatelyFilled => "immediately filled"
  | nothingOnChain => "nothing on-chain"
  | unresolved => "order id unresolved"
  | notOnBook => "not on book"
  | exhausted => "all channels failed"

def all : List LocalCancelReason :=
  [immediatelyFilled, nothingOnChain, unresolved, notOnBook, exhausted]

end LocalCancelReason

/-- How a cancellation ended. -/
inductive CancelOutcome where
  | cancelled (hash : Hash) (channel : String)
  /-- Only the desk's own record was dropped. -/
  | localOnly (reason : LocalCancelReason)
deriving DecidableEq, Repr, Inhabited

/-- One way of cancelling an order. -/
inductive CancelChannel where
  /-- The call that takes a list of orders. -/
  | batch
  /-- The call for one order, after a look at the book if `probe` is set. -/
  | direct (probe : Bool)
  /-- A channel of another kind. -/
  | other (name : String) (channel : Nat)
deriving DecidableEq, Repr, Inhabited

/-- The name under which a channel reports. -/
def CancelChannel.name : CancelChannel → String
  | batch => "batch"
  | direct _ => "direct"
  | other name _ => name

/-- The channels used where no others are set. -/
def CancelChannel.standard : List CancelChannel := [.batch, .direct true]

/-- What cancelling needs: a sender, the terms of calls and the channels. -/
structure CancelDesk where
  sender : Sender
  calls : CallBook
  channels : List CancelChannel := CancelChannel.standard
deriving DecidableEq, Inhabited

namespace CancelDesk

/-- Sends a cancelling call and waits for its success. -/
def execute (c : CancelDesk) (call : Call) : Attempt CancelAttempt := do
  let (_, confirmation) ← c.sender.execute call
  match confirmation with
  | .confirmed receipt => pure (.cancelled receipt.hash)
  | .reverted receipt reason => Attempt.fail (.transactionReverted receipt.hash reason)
  | .timedOut hash timeout => Attempt.fail (.confirmationTimedOut hash timeout)

/-- Whether an order rests on the book; none if that cannot be learnt. -/
def onBook? (c : CancelDesk) (target : CancelTarget) : Attempt (Option Bool) := do
  match c.calls.getOrder target with
  | .error _ => pure none
  | .ok call =>
    match ← Attempt.reply (.call (TxRequest.view c.sender.wallet call) none) with
    | .ok returned => pure (CallBook.restsOnBook? returned)
    | .error _ => pure none

/-- Tries one channel. -/
def tryChannel (c : CancelDesk) (target : CancelTarget) : CancelChannel → Attempt CancelAttempt
  | .batch => do
    let call ← Attempt.ofExcept (c.calls.cancelOrders [target])
    c.execute call
  | .direct probe => do
    let gone ← if probe then (· == some false) <$> c.onBook? target else pure false
    if gone then pure .notOnBook
    else
      let call ← Attempt.ofExcept (c.calls.cancelOrder target)
      c.execute call
  | .other _ channel => Attempt.ask (.cancelVerdict channel target)

/-- Tries channels in order. -/
def tryChannels (c : CancelDesk) (target : CancelTarget) : List CancelChannel →
    Attempt CancelOutcome
  | [] => pure (.localOnly .exhausted)
  | channel :: rest => do
    match ← Attempt.outcome (c.tryChannel target channel) with
    | .ok (.cancelled hash) => pure (.cancelled hash channel.name)
    | .ok .notOnBook => pure (.localOnly .notOnBook)
    | .error (.breakdown b) => Attempt.breakdown b
    | .error (.error e) =>
      if e.isShutdown then Attempt.fail e else c.tryChannels target rest

/-- Waits for a placement and learns the number of its order, or why there is none to cancel. -/
def resolvePlacement (c : CancelDesk) (hash : Hash) :
    Attempt (Except LocalCancelReason UInt64) := do
  match ← c.sender.poll.confirm hash with
  | .confirmed receipt =>
    pure (match receipt.trace c.calls.exchange with
      | .placed id => .ok id
      | .immediatelyFilled => .error .immediatelyFilled
      | .notFound => .error .unresolved)
  | .reverted _ _ => pure (.error .nothingOnChain)
  | .timedOut _ _ => pure (.error .unresolved)

/-- Cancels the order of a numbered record. -/
def cancelNumber (c : CancelDesk) (record : OrderRecord) (id : UInt64) : Attempt CancelOutcome :=
  c.tryChannels ⟨record.base, record.quote, record.side, id⟩ c.channels

/-- Cancels the order that a record describes. -/
def route (c : CancelDesk) (record : OrderRecord) : Attempt CancelOutcome := do
  if record.state = .immediatelyFilled then pure (.localOnly .immediatelyFilled)
  else match record.reference? with
    | none => pure (.localOnly .nothingOnChain)
    | some (.number id) => c.cancelNumber record id
    | some (.placement hash) =>
      match ← c.resolvePlacement hash with
      | .ok id => c.cancelNumber record id
      | .error reason => pure (.localOnly reason)

end CancelDesk
end OrderDesk
