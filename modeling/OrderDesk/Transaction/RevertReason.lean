import OrderDesk.Text.AsciiCase

/-!
# `OrderDesk.Transaction.RevertReason` — why a mined transaction failed

## Contents
- `RevertReason.outOfGas`: the gas used came to 95 percent of the limit.
- `RevertReason.category`: a rough class, by gas first and wording second.
- `RevertReason.text`.
-/

namespace OrderDesk

/-- What is known about a reverted transaction. -/
structure RevertReason where
  /-- The message found by repeating the call, if any. -/
  message : Option String
  gasUsed : UInt64
  gasLimit : Option UInt64
deriving DecidableEq, Repr, Inhabited

/-- A rough class of failures. -/
inductive FailureCategory where
  | outOfGas
  | nonce
  | insufficientFunds
  | contractRevert
  | unknown
deriving DecidableEq, Repr, Inhabited

/-- The name of a class. -/
def FailureCategory.text : FailureCategory → String
  | outOfGas => "out of gas"
  | nonce => "nonce"
  | insufficientFunds => "insufficient funds"
  | contractRevert => "contract revert"
  | unknown => "unknown"

namespace RevertReason

/-- The share of the limit, in percent, from which a failure counts as lack of gas. -/
def outOfGasPercent : Nat := 95

/-- The limit is known and at least 95 percent of it was used. -/
def outOfGas (r : RevertReason) : Bool :=
  match r.gasLimit with
  | some limit => decide (limit.toNat * outOfGasPercent ≤ r.gasUsed.toNat * 100)
  | none => false

/-- The class a message's wording points to; the first phrase found decides. -/
def categoryOfMessage (message : String) : FailureCategory :=
  let mentions := AsciiCase.mentions message
  if mentions "out of gas" then .outOfGas
  else if mentions "nonce" then .nonce
  else if mentions "insufficient" || mentions "balance" then .insufficientFunds
  else if mentions "revert" then .contractRevert
  else .unknown

/-- The class of a failure: by gas used, else by the message. -/
def category (r : RevertReason) : FailureCategory :=
  if r.outOfGas then .outOfGas
  else match r.message with
    | some message => categoryOfMessage message
    | none => .unknown

/-- The message, with a remark when gas ran out. -/
def text (r : RevertReason) : String :=
  let message := r.message.getD "no revert reason"
  match r.gasLimit with
  | some limit =>
    if r.outOfGas then
      message ++ s!" (likely out of gas: used {r.gasUsed.toNat} of {limit.toNat})"
    else message
  | none => message

end RevertReason
end OrderDesk
