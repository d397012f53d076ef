import OrderDesk.Order.Record
import OrderDesk.Text.Paint

/-!
# `OrderDesk.Order.Row` — an order as a row of a table
-/

namespace OrderDesk.OrderRecord

/-- The heads of the columns. -/
def headers : List String :=
  ["Client Order ID", "Pair", "Side", "State", "Order ID", "Tx Hash", "Created"]

/-- A side in its colour: red for an ask, green for a bid. -/
def sideCell (colours : Bool) : Side → String
  | .ask => paint colours .red Side.ask.verb
  | .bid => paint colours .green Side.bid.verb

/-- A state; resting and failed orders stand out. -/
def stateCell (colours : Bool) (state : OrderState) : String :=
  match state with
  | .resting => paint colours .brightGreen state.text
  | .failed => paint colours .brightRed state.text
  | _ => state.text

/-- The cells of an order; what is not known yet is a dash. -/
def row (r : OrderRecord) (colours : Bool) : List String :=
  [r.id, r.pair.text, sideCell colours r.side, stateCell colours r.state,
   (match r.orderId? with
    | some id => toString id.toNat
    | none => "-"),
   if r.state = .pendingSubmit then "-" else r.hash.text,
   r.created.calendar]

end OrderDesk.OrderRecord
