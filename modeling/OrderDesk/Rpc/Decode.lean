import OrderDesk.Rpc.Message
import OrderDesk.Rpc.Receipt
import OrderDesk.Rpc.Transaction

/-!
# `OrderDesk.Rpc.Decode` — what a node's answers mean

## Contents
- `RpcFailure`: a question that brought no answer.
- `RpcFailure.revertData?`: the data of a revert inside an error.
- `RpcDecode.answer`: the answer in a result.
- `Request.decode`: the reply that an answer means.
-/

namespace OrderDesk

/-- Why a question has no answer. -/
inductive RpcFailure where
  | refused (code : Int) (message : String) (data : Option Json)
  /-- The answer cannot be read. -/
  | malformed (complaint : String)
  /-- The node cannot be reached. -/
  | unreachable
deriving Inhabited, BEq, Repr

namespace RpcFailure

/-- The node's own report, if it made one. -/
def report? : RpcFailure → Option NodeReport
  | refused code message data => some ⟨code, message, data.map Json.compact⟩
  | malformed _ | unreachable => none

/-- The wording of a failure. -/
def text : RpcFailure → String
  | refused code message data => (NodeReport.mk code message (data.map Json.compact)).text
  | malformed complaint => "deserialization error: " ++ complaint
  | unreachable => "the node cannot be reached"

/-- A failure as an error of the desk. -/
def error (f : RpcFailure) : DeskError := .transport f.report?

mutual

/-- The first byte string in a value, looking into objects. -/
def bytesIn? : Json → Option Bytes
  | .string text => Hex.decode? text
  | .object fields => bytesInFields? fields
  | _ => none

/-- The first byte string in the fields of an object. -/
def bytesInFields? : List (String × Json) → Option Bytes
  | [] => none
  | (_, value) :: rest => bytesIn? value <|> bytesInFields? rest

end

/-- The data of a revert that an error reports. Only an error whose message speaks of one counts. -/
def revertData? (message : String) (data : Option Json) : Option Bytes :=
  if AsciiCase.occursIn "revert".toList message.toList then data.bind bytesIn? else none

end RpcFailure

namespace RpcDecode

/-- An answer of its own form. -/
def other {α : Type} (read : Json → Option α) (j : Json) : Except RpcFailure α :=
  match read j with
  | some a => .ok a
  | none => .error (.malformed "unexpected form")

/-- A quantity. -/
def number {α : Type} (bits : Nat) (make : Nat → α) (j : Json) : Except RpcFailure α :=
  match Quantity.read? bits j with
  | some n => .ok (make n)
  | none => .error (.malformed (Quantity.complaint bits j))

/-- Null where there may be nothing, or an answer of its own form. -/
def nullable {α : Type} (read : Json → Option (Option α)) : Json → Except RpcFailure (Option α)
  | .null => .ok none
  | j => other read j

/-- The answer in a result. -/
def answer : (r : Request) → Json → Except RpcFailure r.Answer
  | .chainId => number 64 UInt64.ofNat
  | .pendingNonce _ => number 64 UInt64.ofNat
  | .estimateGas _ _ => number 64 UInt64.ofNat
  | .gasPrice => number 128 (BitVec.ofNat 128)
  | .balance _ => number 256 (BitVec.ofNat 256)
  | .send _ => other hash?
  | .receipt _ => nullable fun j => (receipt? j).map some
  | .call _ _ => other bytes?
  | .transaction _ => nullable transaction?
  | .fundsVerdict _ _ _ _ => fun _ => .ok ()
  | .cancelVerdict _ _ => fun _ => .ok .notOnBook

end RpcDecode

/-- The error that a failed question gives its asker. -/
def Request.errorOf : Request → RpcFailure → DeskError
  | .estimateGas _ _, failure => .gasEstimationFailed failure.text
  | .call _ _, .refused _ message data =>
    .executionReverted message (RpcFailure.revertData? message data)
  | _, failure => failure.error

/-- The reply to a question that the node did not answer. -/
def Request.unanswered (r : Request) (failure : RpcFailure) : r.Reply :=
  .error (r.errorOf failure)

/-- The reply that a node's answer means. -/
def Request.decode (r : Request) : RpcResponse → r.Reply
  | .result value => (RpcDecode.answer r value).mapError r.errorOf
  | .refusal code message data => r.unanswered (.refused code message data)
  | .garbled => r.unanswered (.malformed "neither result nor error")

end OrderDesk
