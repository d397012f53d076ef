import OrderDesk.DeskError
import OrderDesk.Exchange.Events
import OrderDesk.Market.Pair
import OrderDesk.Market.Side

/-!
# `OrderDesk.Order.Record` — an order the desk keeps track of

The status says how far an order has come and holds what is known at that stage. The placement's
transaction stands in for the order's number until a receipt has yielded it.

## Contents
- `OrderStatus`, `OrderState` (the stage alone) and `OrderRef`.
- `OrderRecord` with `broadcast`, `apply` and `cancelled`, the steps of its life.
- `Resolution`: what a receipt settles.
-/

namespace OrderDesk

/-- How an order is named on the chain. -/
inductive OrderRef where
  | number (id : UInt64)
  | placement (hash : Hash)
deriving DecidableEq, Repr, Inhabited

/-- The written form of a reference. -/
def OrderRef.text : OrderRef → String
  | number id => s!"#{id.toNat}"
  | placement hash => "tx:" ++ hash.text

/-- The stage of an order's life. -/
inductive OrderState where
  | pendingSubmit
  | awaitingConfirmation
  /-- The order rests on the book. -/
  | resting
  | immediatelyFilled
  | cancelled
  | failed
deriving DecidableEq, Repr, Inhabited

namespace OrderState

def text : OrderState → String
  | pendingSubmit => "PendingSubmit"
  | awaitingConfirmation => "AwaitingConfirmation"
  | resting => "Open"
  | immediatelyFilled => "ImmediatelyFilled"
  | cancelled => "Cancelled"
  | failed => "Failed"

/-- No other stage follows. -/
def isTerminal : OrderState → Bool
  | cancelled | failed => true
  | _ => false

/-- All stages, in the order of an order's life. -/
def all : List OrderState :=
  [pendingSubmit, awaitingConfirmation, resting, immediatelyFilled, cancelled, failed]

end OrderState

/-- The stage of an order with what is known there. -/
inductive OrderStatus where
  | pendingSubmit
  | awaitingConfirmation
  /-- The order rests on the book under a number. -/
  | resting (id : UInt64)
  | immediatelyFilled
  /-- The order was dropped; the reference is the last one it had. -/
  | cancelled (last : Option OrderRef)
  | failed (reason : RevertReason)
deriving DecidableEq, Repr, Inhabited

/-- The stage alone. -/
def OrderStatus.state : OrderStatus → OrderState
  | pendingSubmit => .pendingSubmit
  | awaitingConfirmation => .awaitingConfirmation
  | resting _ => .resting
  | immediatelyFilled => .immediatelyFilled
  | cancelled _ => .cancelled
  | failed _ => .failed

/-- What a receipt settles about an order. -/
inductive Resolution where
  | placed (id : UInt64)
  | immediatelyFilled
  /-- The placement succeeded but its receipt tells nothing of the order. -/
  | unresolved
  | failed (reason : RevertReason)
deriving DecidableEq, Repr, Inhabited

/-- What an order's trace settles. -/
def Resolution.ofTrace : OrderTrace → Resolution
  | .placed id => .placed id
  | .immediatelyFilled => .immediatelyFilled
  | .notFound => .unresolved

/-- The status that a resolution leads to. -/
def Resolution.status : Resolution → OrderStatus
  | placed id => .resting id
  | immediatelyFilled => .immediatelyFilled
  | unresolved => .awaitingConfirmation
  | failed reason => .failed reason

/-- An order under the trader's own identifier. -/
structure OrderRecord where
  id : String
  pair : Pair
  base : Address
  quote : Address
  side : Side
  /-- The placement's transaction, zero before it is sent. -/
  hash : Hash := Hash.zero
  status : OrderStatus := .pendingSubmit
  created : Instant
deriving DecidableEq, Repr, Inhabited

namespace OrderRecord

def state (r : OrderRecord) : OrderState := r.status.state

/-- How the order is named on the chain: by number once it is known, by its placement before; a
filled or failed order needs no name. -/
def reference? (r : OrderRecord) : Option OrderRef :=
  match r.status with
  | .awaitingConfirmation => some (.placement r.hash)
  | .resting id => some (.number id)
  | .cancelled last => last
  | .pendingSubmit | .immediatelyFilled | .failed _ => none

/-- The exchange's number of the order. -/
def orderId? (r : OrderRecord) : Option UInt64 :=
  match r.reference? with
  | some (.number id) => some id
  | _ => none

/-- Why the placement failed. -/
def failure? (r : OrderRecord) : Option RevertReason :=
  match r.status with
  | .failed reason => some reason
  | _ => none

/-- The placement was sent. -/
def broadcast (r : OrderRecord) (hash : Hash) : OrderRecord :=
  { r with hash, status := .awaitingConfirmation }

/-- The placement's receipt was seen. -/
def apply (r : OrderRecord) (resolution : Resolution) : OrderRecord :=
  { r with status := resolution.status }

/-- The order was dropped; a failed one stays failed. -/
def cancelled (r : OrderRecord) : OrderRecord :=
  if r.state.isTerminal then r else { r with status := .cancelled r.reference? }

/-- A one-line description. -/
def text (r : OrderRecord) : String :=
  s!"[{r.id} {r.side.verb} {r.pair.text} {r.state.text}" ++
    (match r.reference? with
    | some reference => " " ++ reference.text
    | none => "") ++ "]"

end OrderRecord
end OrderDesk
