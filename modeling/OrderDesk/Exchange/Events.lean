import OrderDesk.Exchange.Abi
import OrderDesk.Transaction.Call

/-!
# `OrderDesk.Exchange.Events` — what a receipt says about an order

## Contents
- `EngineEvent`: the three events of the exchange, with `EngineEvent.ofLog?` and
  `EngineEvent.toLog`.
- `Receipt.orderEvents`: placements and matches that the exchange emitted.
- `Receipt.trace`: what became of the order that a transaction placed.
-/

namespace OrderDesk

/-- An event of the exchange. -/
inductive EngineEvent where
  | placed (book : Address) (id : UInt32) (owner : Address) (bid : Bool)
      (price withoutFee rested : Word)
  | matched (book : Address) (id : UInt32) (bid : Bool) (sender owner : Address)
      (price amount : Word) (clear : Bool)
  | canceled (book : Address) (id : UInt32) (bid : Bool) (owner : Address) (amount : Word)
deriving DecidableEq, Repr, Inhabited

namespace EngineEvent

/-- The first topic of `OrderPlaced(address,uint32,address,bool,uint256,uint256,uint256)`. -/
def placedTopic : Hash := ⟨0x39b987868a8e9d8adf00fa9de06bb6f3c3104a564e1f29976da2d08e2eb3d6c0⟩

/-- The first topic of `OrderMatched(address,uint32,bool,address,address,uint256,uint256,bool)`. -/
def matchedTopic : Hash := ⟨0xdc17e7d4115b8f37645ebe5529401bb73c69cf717c40cdddfb22ef507b457b2b⟩

/-- The first topic of `OrderCanceled(address,uint32,bool,address,uint256)`. -/
def canceledTopic : Hash := ⟨0x981460cba86c1eb8de08b80124c1b95344f46bfbfa192674745e4bc19ca1c5e0⟩

/-- The topic that stands for an address. -/
def topicOf (a : Address) : Hash := ⟨Abi.ofAddress a⟩

/-- The log with which an exchange emits an event. -/
def toLog (exchange : Address) : EngineEvent → Log
  | placed book id owner bid price withoutFee rested =>
    { address := exchange
      topics := [placedTopic, topicOf owner]
      data := [Abi.ofAddress book, Abi.ofUInt32 id, Abi.ofBool bid, price, withoutFee,
        rested].flatMap Abi.wordBytes }
  | matched book id bid sender owner price amount clear =>
    { address := exchange
      topics := [matchedTopic, topicOf sender, topicOf owner]
      data := [Abi.ofAddress book, Abi.ofUInt32 id, Abi.ofBool bid, price, amount,
        Abi.ofBool clear].flatMap Abi.wordBytes }
  | canceled book id bid owner amount =>
    { address := exchange
      topics := [canceledTopic, topicOf owner]
      data := [Abi.ofAddress book, Abi.ofUInt32 id, Abi.ofBool bid, amount].flatMap Abi.wordBytes }

/-- Reads a log by its first topic. The number of topics must be the event's, the data may go on
behind the event's words, and bits that a field does not have are ignored. -/
def ofLog? (log : Log) : Option EngineEvent :=
  let address (h : Hash) : Address := Abi.toAddress h.bits
  match log.topics with
  | [topic, owner] =>
    if topic = placedTopic then
      match Abi.wordsAt? log.data 0 6 with
      | some [book, id, bid, price, withoutFee, rested] =>
        some (placed (Abi.toAddress book) (Abi.toUInt32 id) (address owner) (Abi.toBool bid)
          price withoutFee rested)
      | _ => none
    else if topic = canceledTopic then
      match Abi.wordsAt? log.data 0 4 with
      | some [book, id, bid, amount] =>
        some (canceled (Abi.toAddress book) (Abi.toUInt32 id) (Abi.toBool bid) (address owner)
          amount)
      | _ => none
    else none
  | [topic, sender, owner] =>
    if topic = matchedTopic then
      match Abi.wordsAt? log.data 0 6 with
      | some [book, id, bid, price, amount, clear] =>
        some (matched (Abi.toAddress book) (Abi.toUInt32 id) (Abi.toBool bid) (address sender)
          (address owner) price amount (Abi.toBool clear))
      | _ => none
    else none
  | _ => none

end EngineEvent

/-- An event as far as it tells about a placed order. -/
inductive OrderEvent where
  /-- A new order rests on the book. -/
  | placed (id : UInt64)
  /-- The order was matched against a resting one. -/
  | matched
deriving DecidableEq, Repr, Inhabited

/-- An event's part in an order's fate; cancellations have none. -/
def OrderEvent.ofEngine? : EngineEvent → Option OrderEvent
  | .placed _ id _ _ _ _ _ => some (.placed id.toUInt64)
  | .matched .. => some .matched
  | .canceled .. => none

/-- What became of a placed order. -/
inductive OrderTrace where
  | placed (id : UInt64)
  /-- It was matched within its own transaction and never rested. -/
  | immediatelyFilled
  | notFound
deriving DecidableEq, Repr, Inhabited

namespace Receipt

/-- Placements and matches emitted by `exchange`, in the order of the logs. Other contracts' logs and
logs that are no event are passed over. -/
def orderEvents (r : Receipt) (exchange : Address) : List OrderEvent :=
  (r.logs.filter (·.address == exchange)).filterMap
    fun log => (EngineEvent.ofLog? log).bind OrderEvent.ofEngine?

/-- The number of the first placement among events. -/
def firstPlaced? : List OrderEvent → Option UInt64
  | [] => none
  | .placed id :: _ => some id
  | .matched :: rest => firstPlaced? rest

/-- What became of the order: the first placement decides; without one, any match means that it was
filled. -/
def trace (r : Receipt) (exchange : Address) : OrderTrace :=
  let events := r.orderEvents exchange
  match firstPlaced? events with
  | some id => .placed id
  | none => if events.contains .matched then .immediatelyFilled else .notFound

end Receipt
end OrderDesk
