import OrderDesk.Curve.Signature
import OrderDesk.Exchange.Events
import OrderDesk.Market.Deployment

/-!
# `OrderDesk.Rehearsal.Fixtures` — a wallet and events to rehearse with
-/

namespace OrderDesk.Fixtures

/-- A key that everybody knows. -/
def key : SigningKey := ⟨0xac0974bec39a17e36ba4a6b4d238ff944bacb478cbed5efcae784d7bf4f2ff80⟩

/-- The account of `key`. -/
def wallet : Address := ⟨0xf39fd6e51aad88f6f4ce6ab8827279cfffb92266⟩

/-- A book's address. -/
def book : Address := ⟨0x0b0b0b0b0b0b0b0b0b0b0b0b0b0b0b0b0b0b0b0b⟩

/-- Somebody else's account. -/
def stranger : Address := ⟨0x0c0c0c0c0c0c0c0c0c0c0c0c0c0c0c0c0c0c0c0c⟩

/-- The price of every sample event, in units. -/
def price : Word := 250000000

/-- The amount of every sample event, in units. -/
def amount : Word := 1000000

/-- An order of `wallet` came to rest. -/
def placed (id : UInt32) (bid : Bool) : Log :=
  EngineEvent.toLog Deployment.testnet.exchange
    (.placed book id wallet bid price amount amount)

/-- An order was matched entirely by an order of `wallet`. -/
def matched (id : UInt32) (bid : Bool) : Log :=
  EngineEvent.toLog Deployment.testnet.exchange
    (.matched book id bid wallet stranger price amount true)

/-- An order of `wallet` was cancelled. -/
def canceled (id : UInt32) (bid : Bool) : Log :=
  EngineEvent.toLog Deployment.testnet.exchange (.canceled book id bid wallet amount)

end OrderDesk.Fixtures
