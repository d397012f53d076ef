import OrderDesk.Decimal.Arithmetic
import OrderDesk.Decimal.Text
import OrderDesk.DeskError
import OrderDesk.Market.Pair
import OrderDesk.Market.Side

/-!
# `OrderDesk.Market.Order` — what a trader asks for

## Contents
- `OrderRequest`: pair, side, kind, amount of base and price in quote per base.
- `OrderRequest.executionPrice`: the price sent to the exchange; a market order moves its price
  against itself by a slippage below one.
-/

namespace OrderDesk

/-- An order to be placed. -/
structure OrderRequest where
  pair : Pair
  side : Side
  kind : OrderKind
  amount : Decimal
  price : Decimal
deriving DecidableEq, Repr, Inhabited

namespace OrderRequest

/-- The slippage of market orders where none is set: 0.3 percent. -/
def defaultSlippage : Decimal := .finite 3 3

/-- The refusal of a slippage. -/
def slippageRefusal (slippage : Decimal) : DeskError :=
  .invalidArgument s!"market slippage {slippage.text} must be below 1"

/-- The price sent to the exchange: the order's own for a limit order, raised by the slippage for a
market bid and lowered by it for a market ask. -/
def executionPrice (order : OrderRequest) (slippage : Decimal) : Except Fault Decimal :=
  match order.kind with
  | .limit => .ok order.price
  | .market =>
    if slippage.atLeastOne then .error (.error (slippageRefusal slippage))
    else
      let one := Decimal.ofNat 1
      let factor := match order.side with
        | .bid => Decimal.add? one slippage
        | .ask => Decimal.sub? one slippage
      match factor.bind order.price.mul? with
      | some price => .ok price
      | none => .error (.breakdown .arithmetic)

end OrderRequest
end OrderDesk
