import OrderDesk.Desk.Limiter
import OrderDesk.Desk.Nonces
import OrderDesk.Desk.Stats
import OrderDesk.Order.Registry
import OrderDesk.Transaction.GasPolicy

/-!
# `OrderDesk.Desk.State` — what a desk remembers

## Contents
- `Common`: what desks of one wallet share.
- `Book`: what each desk has of its own.
- `Desk`: both together, as an operation sees them.
- `Effect`: the steps an operation takes on them, each with its answer, and `Effect.apply`.
-/

namespace OrderDesk

/-- What desks of one wallet share: nonces, the last gas price, recent failures and the clock. -/
structure Common where
  nonces : Nonces := {}
  quote : Option PriceQuote := none
  limiter : Limiter := {}
  now : Instant := ⟨0⟩
deriving DecidableEq, Repr, Inhabited

/-- What a desk has of its own: its orders, its counters, and whether it is to stop waiting. -/
structure Book where
  registry : Registry := .empty
  stats : Stats := {}
  stopping : Bool := false
deriving DecidableEq, Repr, Inhabited

/-- The state that an operation of a desk works on. -/
structure Desk where
  common : Common := {}
  book : Book := {}
deriving DecidableEq, Repr, Inhabited

/-- A step on a desk's state. Steps take no time and nothing comes between them. -/
inductive Effect where
  | now
  | stopping
  | checkLimiter
  | recordFailure
  | order (id : String)
  /-- All tracked orders. -/
  | orders
  /-- Reserves an identifier for a placement. -/
  | reserve (record : OrderRecord)
  /-- Tracks an order placed elsewhere. -/
  | adopt (record : OrderRecord)
  | broadcast (id : String) (hash : Hash)
  | release (id : String)
  | resolve (id : String) (resolution : Resolution)
  | clear (id : String)
  | count (tally : Tally)
  | allocate (wallet : Address) (pending : Option UInt64)
  | freshPrice (lifetime : Duration)
  | keepPrice (price : GasPrice)

/-- What a step answers. -/
abbrev Effect.Answer : Effect → Type
  | now => Instant
  | stopping => Bool
  | checkLimiter => Except DeskError Unit
  | recordFailure => Bool
  | order _ => Option OrderRecord
  | orders => List OrderRecord
  | reserve _ => Except DeskError Unit
  | adopt _ => Except DeskError Unit
  | broadcast _ _ => Except Breakdown (Option OrderRecord)
  | release _ => Bool
  | resolve _ _ => Except Breakdown (Option OrderRecord)
  | clear _ => Option OrderRecord
  | count _ => Unit
  | allocate _ _ => Option UInt64
  | freshPrice _ => Option GasPrice
  | keepPrice _ => Unit

namespace Desk

/-- The desk with other orders. -/
def withRegistry (d : Desk) (registry : Registry) : Desk :=
  { d with book := { d.book with registry } }

/-- The desk with other recent failures. -/
def withLimiter (d : Desk) (limiter : Limiter) : Desk :=
  { d with common := { d.common with limiter } }

/-- Tells a desk to stop waiting for receipts. -/
def stop (d : Desk) : Desk := { d with book := { d.book with stopping := true } }

/-- A record is tracked if its identifier is free. -/
def track (d : Desk) (record : OrderRecord) : Except DeskError Unit × Desk :=
  match d.book.registry.track record with
  | .ok registry => (.ok (), d.withRegistry registry)
  | .error e => (.error e, d)

end Desk

/-- The effect of a step and its answer. A contradiction between records changes nothing. -/
def Effect.apply : (e : Effect) → Desk → e.Answer × Desk
  | now, d => (d.common.now, d)
  | stopping, d => (d.book.stopping, d)
  | checkLimiter, d =>
    let (verdict, limiter) := d.common.limiter.check d.common.now
    (verdict, d.withLimiter limiter)
  | recordFailure, d =>
    let (below, limiter) := d.common.limiter.record d.common.now
    (below, d.withLimiter limiter)
  | order id, d => (d.book.registry.get? id, d)
  | orders, d => (d.book.registry.records, d)
  | reserve record, d => d.track record
  | adopt record, d => d.track record
  | broadcast id hash, d =>
    match d.book.registry.broadcast id hash with
    | .ok (record, registry) => (.ok record, d.withRegistry registry)
    | .error b => (.error b, d)
  | release id, d =>
    let (released, registry) := d.book.registry.release id
    (released, d.withRegistry registry)
  | resolve id resolution, d =>
    match d.book.registry.resolve id resolution with
    | .ok (record, registry) => (.ok record, d.withRegistry registry)
    | .error b => (.error b, d)
  | clear id, d =>
    let (record, registry) := d.book.registry.clear id
    (record, d.withRegistry registry)
  | count tally, d => ((), { d with book := { d.book with stats := d.book.stats.add tally } })
  | allocate wallet pending, d =>
    match d.common.nonces.allocate? wallet pending with
    | some (nonce, nonces) => (some nonce, { d with common := { d.common with nonces } })
    | none => (none, d)
  | freshPrice lifetime, d => (d.common.quote.bind (·.fresh? d.common.now lifetime), d)
  | keepPrice price, d =>
    ((), { d with common := { d.common with quote := some ⟨price, d.common.now⟩ } })

end OrderDesk
