import OrderDesk.Time
import OrderDesk.Transaction.Call

/-!
# `OrderDesk.Transaction.GasPolicy` — gas limits and prices

## Contents
- `GasPolicy.limitFor?`: the limit for an estimate, with a margin and a floor.
- `GasPolicy.fallbackLimit`: the limit without an estimate.
- `PriceQuote`: a fetched gas price and when it is still good.
-/

namespace OrderDesk

/-- How gas is bought. -/
structure GasPolicy where
  /-- Added to an estimate, in percent. -/
  marginPercent : UInt64 := 20
  /-- No limit is lower. -/
  minLimit : UInt64 := 3000000
  /-- The limit when there is no estimate. -/
  fallbackLimit : UInt64 := 3000000
  /-- The price when the node gives none. -/
  fallbackPrice : GasPrice := 20000000000
  /-- How long a fetched price is used. -/
  priceLifetime : Duration := .ofSeconds 30
deriving DecidableEq, Repr, Inhabited

namespace GasPolicy

/-- The estimate with its margin, at least the minimum. The product with the percentage stops at the
largest 64-bit number before it is divided; a percentage of which `100 +` leaves 64 bits has no
result. -/
def limitFor? (p : GasPolicy) (estimate : UInt64) : Option UInt64 :=
  let percent := 100 + p.marginPercent.toNat
  if percent < UInt64.size then
    let padded := min (estimate.toNat * percent) (UInt64.size - 1) / 100
    some (max (UInt64.ofNat padded) p.minLimit)
  else none

/-- The limit used without an estimate. -/
def limitWithoutEstimate (p : GasPolicy) : UInt64 := max p.fallbackLimit p.minLimit

end GasPolicy

/-- A gas price and when it was fetched. -/
structure PriceQuote where
  price : GasPrice
  fetched : Instant
deriving DecidableEq, Repr, Inhabited

/-- The price of a quote younger than `lifetime`. -/
def PriceQuote.fresh? (q : PriceQuote) (now : Instant) (lifetime : Duration) : Option GasPrice :=
  if now.since q.fetched < lifetime then some q.price else none

end OrderDesk
