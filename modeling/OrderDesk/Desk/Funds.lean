import OrderDesk.Routine.Basic

/-!
# `OrderDesk.Desk.Funds` — can the order be paid

## Contents
- `FundsCheck` and `FundsCheck.check`: a native amount needs the balance, a token amount also the
  exchange's allowance.
-/

namespace OrderDesk

/-- How funds are checked before an order is signed. -/
inductive FundsCheck where
  /-- Every order is let through. -/
  | unchecked
  /-- Balances and allowances are read from the chain. -/
  | onChain
  /-- Somebody else decides. -/
  | delegated
deriving DecidableEq, Repr, Inhabited

/-- Reads one word that a token returns to its owner. -/
def readWord (owner : Address) (call : Call) : Attempt Word := do
  let returned ← Attempt.ask (.call (TxRequest.view owner call) none)
  match Abi.wordAt? returned 0 with
  | some w => pure w
  | none => Attempt.fail .malformedReturn

/-- The amount of a token that an account has. -/
def balanceOf (owner : Address) (token : Token) : Attempt Word :=
  if token.native then Attempt.ask (.balance owner)
  else readWord owner (FundsCall.balanceOf token.address owner)

/-- The balance, and for a token the allowance, cover what is required. -/
def checkOnChain (owner : Address) (token : Token) (required : Word) (spender : Address) :
    Attempt Unit := do
  let available ← balanceOf owner token
  if available < required then
    Attempt.fail (.insufficientBalance token.symbol required available)
  else if token.native then pure ()
  else
    let approved ← readWord owner (FundsCall.allowance token.address owner spender)
    if approved < required then
      Attempt.fail (.insufficientAllowance token.symbol required approved)
    else pure ()

/-- Checks that `owner` can spend `required` units of a token through `spender`. -/
def FundsCheck.check (f : FundsCheck) (owner : Address) (token : Token) (required : Word)
    (spender : Address) : Attempt Unit :=
  match f with
  | unchecked => pure ()
  | onChain => checkOnChain owner token required spender
  | delegated => Attempt.ask (.fundsVerdict owner token required spender)

end OrderDesk
