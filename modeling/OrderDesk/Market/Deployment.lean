import OrderDesk.Market.Token
import OrderDesk.Text.AsciiCase

/-!
# `OrderDesk.Market.Deployment` — the exchange on one chain

A deployment is an exchange contract on a chain with the tokens traded there.

## Contents
- `Deployment.mainnet`, `Deployment.testnet`.
- `Deployment.token?`, `Deployment.withToken`: look-up and replacement by symbol, in any ASCII case.
- `Deployment.resolve?`: look-up of a token that has an address.
-/

namespace OrderDesk

/-- An exchange contract and its parameters. -/
structure Deployment where
  chainId : UInt64
  exchange : Address
  tokens : List Token
  /-- Digits behind the point that the exchange keeps of a price. -/
  priceDecimals : UInt8 := 8
  /-- Resting orders that a new order may match in one transaction. -/
  maxMatches : UInt32 := 2
deriving DecidableEq, Repr, Inhabited

namespace Deployment

def mainnet : Deployment where
  chainId := 5031
  exchange := ⟨0x3cb2cbb0ceb96c9456b11dbc7ab73c4848f9a14c⟩
  tokens :=
    [{ symbol := "SOMI", address := ⟨0x046ede9564a72571df6f5e44d0405360c0f4dcab⟩, decimals := 18,
       native := true },
     { symbol := "USDC", address := ⟨0x28bec7e30e6faee657a03e19bf1128aad7632a00⟩, decimals := 6 }]

def testnet : Deployment where
  chainId := 50312
  exchange := ⟨0x0d3251ef0d66b60c4e387fc95462bf274e50cbe1⟩
  tokens :=
    [{ symbol := "STT", address := ⟨0x4a3bc48c156384f9564fd65a53a2f3d534d8f2b7⟩, decimals := 18,
       native := true },
     { symbol := "USDC", address := ⟨0x0ed782b8079529f7385c3eda9faf1eaa0dbc6a17⟩, decimals := 6 },
     { symbol := "WBTC", address := ⟨0x54597df4e4a6385b77f39d458eb75443a8f9aa9e⟩, decimals := 8 }]

/-- The first token of a symbol. -/
def token? (d : Deployment) (symbol : String) : Option Token :=
  d.tokens.find? fun t => AsciiCase.same t.symbol symbol

/-- The token of a symbol, provided it has an address. -/
def resolve? (d : Deployment) (symbol : String) : Option Token :=
  (d.token? symbol).filter fun t => t.address != Address.zero

/-- A token takes the place of all tokens of its symbol, at the end of the list. -/
def withToken (d : Deployment) (token : Token) : Deployment :=
  { d with tokens := d.tokens.filter (fun t => !AsciiCase.same t.symbol token.symbol) ++ [token] }

end Deployment
end OrderDesk
