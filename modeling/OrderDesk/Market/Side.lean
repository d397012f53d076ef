import OrderDesk.DeskError
import OrderDesk.Text.AsciiCase

/-!
# `OrderDesk.Market.Side` — sides and kinds of orders
-/

namespace OrderDesk

/-- A bid buys the base token, an ask sells it. -/
inductive Side where
  | ask
  | bid
deriving DecidableEq, Repr, Inhabited

namespace Side

def isBid : Side → Bool
  | bid => true
  | ask => false

/-- The name as the book has it. -/
def text : Side → String
  | ask => "Ask"
  | bid => "Bid"

/-- The name as a trader has it. -/
def verb : Side → String
  | ask => "Sell"
  | bid => "Buy"

/-- Reads either name, in any case. -/
def ofText? (text : String) : Option Side :=
  let word := AsciiCase.fold text
  if word = "buy" ∨ word = "bid" then some bid
  else if word = "sell" ∨ word = "ask" then some ask
  else none

/-- The refusal of a text that is no side. -/
def refusal (text : String) : DeskError := .invalidArgument ("invalid order side: " ++ text)

end Side

/-- A limit order keeps its price, a market order crosses the book. -/
inductive OrderKind where
  | limit
  | market
deriving DecidableEq, Repr, Inhabited

/-- The name of an order kind. -/
def OrderKind.text : OrderKind → String
  | limit => "Limit"
  | market => "Market"

end OrderDesk
