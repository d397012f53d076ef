import OrderDesk.Exchange.Abi
import OrderDesk.Market.Side
import OrderDesk.Market.Token

/-!
# `OrderDesk.Exchange.EntryPoint` — the functions of the exchange

A selector is the first four bytes of the hash of a function's signature.

## Contents
- `EntryPoint`: the four ways of placing an order, and which of them an order takes.
- `Selector`: the selectors of all functions called.
-/

namespace OrderDesk

namespace Selector

/-- Selects `limitBuy(address,address,uint256,uint256,bool,uint32,address)`. -/
def limitBuy : Bytes := [0x89, 0x55, 0x61, 0x90]
/-- Selects `limitBuyETH(address,uint256,bool,uint32,address)`. -/
def limitBuyNative : Bytes := [0xdc, 0x85, 0xcd, 0xe7]
/-- Selects `limitSell(address,address,uint256,uint256,bool,uint32,address)`. -/
def limitSell : Bytes := [0x34, 0x9d, 0x1b, 0x5f]
/-- Selects `limitSellETH(address,uint256,bool,uint32,address)`. -/
def limitSellNative : Bytes := [0xe7, 0x94, 0xb1, 0xc1]
/-- Selects `cancelOrder(address,address,bool,uint32)`. -/
def cancelOrder : Bytes := [0x99, 0xc6, 0xd4, 0x2a]
/-- Selects `cancelOrders(address[],address[],bool[],uint32[])`. -/
def cancelOrders : Bytes := [0x30, 0x3f, 0x13, 0x85]
/-- Selects `getOrder(address,address,bool,uint32)`. -/
def getOrder : Bytes := [0x18, 0x7f, 0x8b, 0x05]
/-- Selects `balanceOf(address)`. -/
def balanceOf : Bytes := [0x70, 0xa0, 0x82, 0x31]
/-- Selects `allowance(address,address)`. -/
def allowance : Bytes := [0xdd, 0x62, 0xed, 0x3e]

end Selector

/-- The revision of the exchange contract that the selectors and events belong to. -/
def exchangeRevision : String := "v2.4.1-3f9c2a7"

/-- A function of the exchange that takes an order. -/
inductive EntryPoint where
  /-- A bid paid in the native token, attached as value. -/
  | limitBuyNative
  /-- A bid paid in a token amount. -/
  | limitBuy
  /-- An ask of the native token, attached as value. -/
  | limitSellNative
  /-- An ask of a token amount. -/
  | limitSell
deriving DecidableEq, Repr, Inhabited

namespace EntryPoint

/-- The side and the token spent decide: quote for a bid, base for an ask. -/
def select (side : Side) (base quote : Token) : EntryPoint :=
  match side with
  | .bid => if quote.native then limitBuyNative else limitBuy
  | .ask => if base.native then limitSellNative else limitSell

def selector : EntryPoint → Bytes
  | limitBuyNative => Selector.limitBuyNative
  | limitBuy => Selector.limitBuy
  | limitSellNative => Selector.limitSellNative
  | limitSell => Selector.limitSell

/-- The function's name. -/
def text : EntryPoint → String
  | limitBuyNative => "limitBuyETH"
  | limitBuy => "limitBuy"
  | limitSellNative => "limitSellETH"
  | limitSell => "limitSell"

end EntryPoint
end OrderDesk
