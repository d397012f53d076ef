import OrderDesk.Decimal.FixedPoint
import OrderDesk.Exchange.EntryPoint
import OrderDesk.Market.Deployment
import OrderDesk.Market.Order
import OrderDesk.Transaction.Call

/-!
# `OrderDesk.Exchange.Calls` — calls of the exchange

## Contents
- `CallBook`: the terms that all calls of one desk share.
- `CallBook.placement`: the call that places an order, with the price and the amount it spends.
- `CallBook.cancelOrder`, `CallBook.cancelOrders`, `CallBook.getOrder`: calls about a resting order.
- `FundsCall.balanceOf`, `FundsCall.allowance`: calls of a token.
-/

namespace OrderDesk

/-- The terms of a desk's calls. -/
structure CallBook where
  exchange : Address
  recipient : Address
  priceDecimals : UInt8
  maxMatches : UInt32
  /-- What is not matched rests on the book. -/
  maker : Bool := true
deriving DecidableEq, Repr, Inhabited

/-- An encoded placement. -/
structure Placement where
  entryPoint : EntryPoint
  call : Call
  /-- The price in units of the exchange's precision. -/
  price : Word
  /-- The amount of the spent token in its units. -/
  spend : Word
deriving DecidableEq, Repr, Inhabited

/-- An order on the book that is to be looked at or cancelled. -/
structure CancelTarget where
  base : Address
  quote : Address
  side : Side
  orderId : UInt64
deriving DecidableEq, Repr, Inhabited

/-- The exchange's number of the order, which has 32 bits. -/
def CancelTarget.engineId (t : CancelTarget) : Except DeskError UInt32 :=
  if t.orderId.toNat < UInt32.size then .ok (UInt32.ofNat t.orderId.toNat)
  else .error (.invalidArgument s!"order id {t.orderId.toNat} out of range")

namespace CallBook

/-- The terms for orders of a deployment, filled to `recipient`. -/
def ofDeployment (d : Deployment) (recipient : Address) : CallBook where
  exchange := d.exchange
  recipient := recipient
  priceDecimals := d.priceDecimals
  maxMatches := d.maxMatches

/-- An amount in units, refused when it does not fit a word. -/
def units (rounding : Decimal.Rounding) (decimals : UInt8) (amount : Decimal) :
    Except DeskError Word :=
  match amount.units? rounding decimals with
  | some w => .ok w
  | none => .error (.invalidArgument s!"{amount.text} overflows")

/-- The call data of a placement. -/
def placementData (b : CallBook) (entry : EntryPoint) (base quote : Address)
    (price amount : Word) : Bytes :=
  let terms := [.word (Abi.ofBool b.maker), .word (Abi.ofUInt32 b.maxMatches),
    .word (Abi.ofAddress b.recipient)]
  let args : List Abi.Arg := match entry with
    | .limitBuyNative => .word (Abi.ofAddress base) :: .word price :: terms
    | .limitSellNative => .word (Abi.ofAddress quote) :: .word price :: terms
    | .limitBuy | .limitSell =>
      .word (Abi.ofAddress base) :: .word (Abi.ofAddress quote) :: .word price :: .word amount :: terms
  entry.selector ++ Abi.encode args

/-- The amount of the spent token: the worth of a bid, the size of an ask. Only a value attached to
a bid is rounded up, so that the order is never short of funds. -/
def spend (entry : EntryPoint) (base quote : Token) (amount price : Decimal) :
    Except Fault Word :=
  let worth (rounding : Decimal.Rounding) : Except Fault Word :=
    match amount.mul? price with
    | some product => (units rounding quote.decimals product).mapError .error
    | none => .error (.breakdown .arithmetic)
  match entry with
  | .limitBuyNative => worth .up
  | .limitBuy => worth .down
  | .limitSellNative | .limitSell => (units .down base.decimals amount).mapError .error

/-- Refuses an order whatever its amounts: tokens must have addresses of their own. -/
def checkTokens (base quote : Token) : Except DeskError Unit :=
  if base.address = Address.zero then .error (.unknownToken base.symbol)
  else if quote.address = Address.zero then .error (.unknownToken quote.symbol)
  else if base.address = quote.address then
    .error (.invalidArgument
      s!"base and quote resolve to the same token {base.address.checksummed}")
  else .ok ()

/-- The call that places an order. Price and spent amount must not vanish in their units. -/
def placement (b : CallBook) (side : Side) (base quote : Token) (amount price : Decimal) :
    Except Fault Placement := do
  (checkTokens base quote).mapError .error
  if amount.isZero || price.isZero then
    throw (.error (.invalidArgument
      s!"amount and price must be positive, got {amount.text} @ {price.text}"))
  let unitPrice ← (units .down b.priceDecimals price).mapError .error
  if unitPrice = 0 then
    throw (.error (.invalidArgument s!"price {price.text} below engine precision"))
  let entryPoint := EntryPoint.select side base quote
  let spent ← spend entryPoint base quote amount price
  if spent = 0 then
    let symbol := if side.isBid then quote.symbol else base.symbol
    throw (.error (.invalidArgument
      s!"order {amount.text} @ {price.text} rounds to zero {symbol}"))
  let value := match entryPoint with
    | .limitBuyNative | .limitSellNative => spent
    | .limitBuy | .limitSell => 0
  let data := b.placementData entryPoint base.address quote.address unitPrice spent
  return { entryPoint, call := ⟨b.exchange, data, value⟩, price := unitPrice, spend := spent }

/-- The four arguments that name one order. -/
def targetArgs (t : CancelTarget) (id : UInt32) : List Abi.Arg :=
  [.word (Abi.ofAddress t.base), .word (Abi.ofAddress t.quote), .word (Abi.ofBool t.side.isBid),
   .word (Abi.ofUInt32 id)]

/-- The call that cancels one order. -/
def cancelOrder (b : CallBook) (t : CancelTarget) : Except DeskError Call := do
  let id ← t.engineId
  return ⟨b.exchange, Selector.cancelOrder ++ Abi.encode (targetArgs t id), 0⟩

/-- The call that cancels a list of orders; one number out of range refuses the list. -/
def cancelOrders (b : CallBook) (targets : List CancelTarget) : Except DeskError Call := do
  let ids ← targets.mapM CancelTarget.engineId
  let args : List Abi.Arg :=
    [.list (targets.map (Abi.ofAddress ·.base)), .list (targets.map (Abi.ofAddress ·.quote)),
     .list (targets.map (Abi.ofBool ·.side.isBid)), .list (ids.map Abi.ofUInt32)]
  return ⟨b.exchange, Selector.cancelOrders ++ Abi.encode args, 0⟩

/-- The call that reads one order. -/
def getOrder (b : CallBook) (t : CancelTarget) : Except DeskError Call := do
  let id ← t.engineId
  return ⟨b.exchange, Selector.getOrder ++ Abi.encode (targetArgs t id), 0⟩

/-- What `getOrder` returns says that the order rests on the book: it has an owner and a deposit
left. Data of fewer than three words says nothing. -/
def restsOnBook? (returned : Bytes) : Option Bool := do
  let owner ← Abi.wordAt? returned 0
  let _ ← Abi.wordAt? returned 32
  let deposit ← Abi.wordAt? returned 64
  return Abi.toAddress owner != Address.zero && deposit != 0

end CallBook

namespace FundsCall

/-- Reads an account's balance of a token. -/
def balanceOf (token account : Address) : Call :=
  ⟨token, Selector.balanceOf ++ Abi.encode [.word (Abi.ofAddress account)], 0⟩

/-- Reads what `spender` may take of `owner`'s tokens. -/
def allowance (token owner spender : Address) : Call :=
  ⟨token, Selector.allowance ++
    Abi.encode [.word (Abi.ofAddress owner), .word (Abi.ofAddress spender)], 0⟩

end FundsCall
end OrderDesk
