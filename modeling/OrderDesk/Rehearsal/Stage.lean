import OrderDesk.Rehearsal.ScriptedChain
import OrderDesk.Routine.Floor

/-!
# `OrderDesk.Rehearsal.Stage` — a scripted node behind scripted faults

Faults stand before the node and answer in its place. The stage also keeps what was handed to the
node, plays cancellation channels of other kinds from their scripts, and may tell the desk to stop
after some time.

## Contents
- `Faults`: what can be made to go wrong.
- `Stage`, `Stage.reply`.
- `Stage.environment`, `Stage.outside`: the stage for one operation and for several.
-/

namespace OrderDesk

/-- The answer to one look-up of a receipt. -/
inductive LookUpFault where
  | nothing
  | failure
  /-- The look-up goes through. -/
  | pass
deriving DecidableEq, Repr, Inhabited

/-- What can be made to go wrong, or to come out otherwise. -/
structure Faults where
  /-- Revert data in place of a call's result, by selector. -/
  revertData : List (Bytes × String × Bytes) := []
  balancesFail : Bool := false
  /-- Answers to the next look-ups of receipts. -/
  lookUps : List LookUpFault := []
  /-- Receipts shown without asking the node. -/
  receipts : List (Hash × Receipt) := []
  /-- The answer to every look-up of a transaction. -/
  transactions : LookUpFault := .pass
  /-- Transactions shown without asking the node. -/
  shown : List (Hash × TxRequest) := []
  /-- The hash reported for accepted transactions. -/
  acceptedHash : Option Hash := none
deriving DecidableEq, Repr, Inhabited

/-- A scripted outside. -/
structure Stage where
  chain : ScriptedChain := {}
  faults : Faults := {}
  /-- Transactions handed to the node, refused ones included, oldest first. -/
  handed : List SignedTx := []
  /-- How often receipts were looked up. -/
  lookUps : Nat := 0
  /-- What channels of other kinds will answer. -/
  channels : List (List (Except DeskError CancelAttempt)) := []
  /-- The time after which the desk is told to stop. -/
  stopIn : Option Duration := none

namespace Stage

/-- Asks the node. -/
def pass (s : Stage) (r : Request) : r.Reply × Stage :=
  let (reply, chain) := s.chain.reply r
  (reply, { s with chain })

/-- Looks a receipt up. -/
def lookUpReceipt (s : Stage) (hash : Hash) : Except DeskError (Option Receipt) × Stage :=
  let answer := s.faults.lookUps.headD .pass
  let s := { s with
    faults := { s.faults with lookUps := s.faults.lookUps.tail }
    lookUps := s.lookUps + 1 }
  match answer with
  | .nothing => (.ok none, s)
  | .failure => (.error (.invalidRequest "eth_getTransactionReceipt unavailable"), s)
  | .pass =>
    match s.faults.receipts.find? (·.1 == hash) with
    | some (_, receipt) => (.ok (some receipt), s)
    | none => s.pass (.receipt hash)

/-- Looks a transaction up. -/
def lookUpTransaction (s : Stage) (hash : Hash) : Except DeskError (Option TxRequest) × Stage :=
  match s.faults.transactions with
  | .nothing => (.ok none, s)
  | .failure => (.error (.invalidRequest "eth_getTransactionByHash unavailable"), s)
  | .pass =>
    match s.faults.shown.find? (·.1 == hash) with
    | some (_, tx) => (.ok (some tx), s)
    | none => s.pass (.transaction hash)

/-- Sends a transaction. -/
def send (s : Stage) (tx : SignedTx) : Except DeskError Hash × Stage :=
  let (reply, s) := { s with handed := s.handed ++ [tx] }.pass (.send tx)
  (reply.map fun hash => s.faults.acceptedHash.getD hash, s)

/-- Makes a call. -/
def call (s : Stage) (tx : TxRequest) (block : Option UInt64) : Except DeskError Bytes × Stage :=
  let (reply, s) := s.pass (.call tx block)
  match tx.call.selector?.bind fun selector => s.faults.revertData.find? (·.1 == selector) with
  | some (_, message, data) => (.error (.executionReverted message (some data)), s)
  | none => (reply, s)

/-- The next scripted answer of a channel. -/
def channelAnswer (s : Stage) (channel : Nat) : Except DeskError CancelAttempt × Stage :=
  match (s.channels[channel]?).getD [] with
  | [] => (.error (.invalidRequest "exhausted"), s)
  | answer :: rest => (answer, { s with channels := s.channels.set channel rest })

/-- Answers a request. -/
def reply (s : Stage) : (r : Request) → r.Reply × Stage
  | .receipt hash => s.lookUpReceipt hash
  | .transaction hash => s.lookUpTransaction hash
  | .send tx => s.send tx
  | .call tx block => s.call tx block
  | .balance account =>
    if s.faults.balancesFail then (.error (.invalidRequest "eth_getBalance unavailable"), s)
    else s.pass (.balance account)
  | .cancelVerdict channel _ => s.channelAnswer channel
  | r => s.pass r

/-- A pause, cut short if the desk is told to stop. -/
def sleep (s : Stage) (d : Duration) : Lapse × Stage :=
  let kept := d.asPause
  match s.stopIn with
  | none => ({ elapsed := kept }, s)
  | some left =>
    if left ≤ kept then ({ elapsed := left, stop := true }, { s with stopIn := none })
    else ({ elapsed := kept }, { s with stopIn := some ⟨left.nanos - kept.nanos⟩ })

/-- The stage for one operation: answers take no time. -/
def environment : Environment Stage where
  reply s r :=
    let (reply, s) := s.reply r
    (reply, {}, s)
  sleep := sleep

/-- A verdict on funds takes its asker's turn. -/
def takesTurn : Request → Bool
  | .fundsVerdict _ _ _ _ => true
  | _ => false

/-- The stage for several operations. -/
def outside : Outside Stage where
  reply := reply
  takesTurn := takesTurn

end Stage
end OrderDesk
