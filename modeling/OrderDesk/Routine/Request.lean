import OrderDesk.DeskError
import OrderDesk.Exchange.Calls
import OrderDesk.Transaction.Signed

/-!
# `OrderDesk.Routine.Request` — questions to the outside

Everything a desk cannot know by itself is asked: of the node, of a funds check that is not the
desk's own, or of a cancellation channel that is not.

## Contents
- `Request`, the type of each answer, and `Request.Reply`: an answer or an error.
-/

namespace OrderDesk

/-- What a cancellation channel achieved. -/
inductive CancelAttempt where
  | cancelled (hash : Hash)
  /-- There was nothing left to cancel. -/
  | notOnBook
deriving DecidableEq, Repr, Inhabited

/-- A question to the outside. -/
inductive Request where
  | chainId
  /-- How many transactions of an account the node has, pending ones included. -/
  | pendingNonce (account : Address)
  | estimateGas (sender : Address) (call : Call)
  | gasPrice
  | balance (account : Address)
  /-- Sends a transaction; the answer is its hash as the node has it. -/
  | send (tx : SignedTx)
  | receipt (hash : Hash)
  /-- Executes a call without a trace, before or at a block. -/
  | call (tx : TxRequest) (block : Option UInt64)
  | transaction (hash : Hash)
  /-- May the owner spend so much of a token through the spender? -/
  | fundsVerdict (owner : Address) (token : Token) (required : Word) (spender : Address)
  /-- A cancellation channel of another kind is to cancel an order. -/
  | cancelVerdict (channel : Nat) (target : CancelTarget)

/-- What a question is answered with. -/
abbrev Request.Answer : Request → Type
  | chainId => UInt64
  | pendingNonce _ => UInt64
  | estimateGas _ _ => UInt64
  | gasPrice => GasPrice
  | balance _ => Word
  | send _ => Hash
  | receipt _ => Option Receipt
  | call _ _ => Bytes
  | transaction _ => Option TxRequest
  | fundsVerdict _ _ _ _ => Unit
  | cancelVerdict _ _ => CancelAttempt

/-- An answer, or the error in its place. -/
abbrev Request.Reply (r : Request) : Type := Except DeskError r.Answer

end OrderDesk
