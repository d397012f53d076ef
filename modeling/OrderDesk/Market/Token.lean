import OrderDesk.Address

/-!
# `OrderDesk.Market.Token` — tokens

A token is known by its symbol; the order book knows it by its address.

## Contents
- `Token` and its two texts.
-/

namespace OrderDesk

/-- A token. A native one is paid by attaching value, and its address is that of the wrapped token
the book lists. -/
structure Token where
  symbol : String
  address : Address
  decimals : UInt8
  native : Bool := false
deriving DecidableEq, Repr, Inhabited

/-- The symbol with the address behind it. -/
def Token.described (t : Token) : String :=
  t.symbol ++ " (" ++ t.address.checksummed ++ ")"

end OrderDesk
