import OrderDesk.Address
import OrderDesk.Time
import OrderDesk.Transaction.RevertReason

/-!
# `OrderDesk.DeskError` — what can go wrong with an order

Problems of arguments, tokens and funds arise before anything is signed. Every error about a sent
transaction carries its hash.

## Contents
- `DeskError`, its `message`, the transaction it is about (`hash?`) and whether it is `isLocal`.
- `Fault`: an error, or a breakdown that ends an operation without a verdict.
-/

namespace OrderDesk

/-- An error the node reported in answer to a request. -/
structure NodeReport where
  code : Int
  message : String
  /-- Further data, as the text it came as. -/
  data : Option String
deriving DecidableEq, Repr, Inhabited

/-- The wording of a node's report. -/
def NodeReport.text (r : NodeReport) : String :=
  s!"server returned an error response: error code {r.code}: {r.message}" ++
    match r.data with
    | some data => ", data: " ++ data
    | none => ""

/-- An error of placing, confirming or cancelling an order. -/
inductive DeskError where
  | invalidArgument (text : String)
  | invalidRequest (text : String)
  | unknownToken (symbol : String)
  | insufficientBalance (token : String) (required available : Word)
  | insufficientAllowance (token : String) (required approved : Word)
  | gasEstimationFailed (text : String)
  | signing (text : String)
  | submissionFailed (hash : Hash) (reason : String)
  | transactionReverted (hash : Hash) (reason : RevertReason)
  | confirmationTimedOut (hash : Hash) (timeout : Duration)
  | orderIdUnresolved (hash : Hash)
  | cancellationExhausted (order : String)
  | executionReverted (message : String) (data : Option Bytes)
  | unknownOrder (order : String)
  | duplicateOrder (order : String)
  | notBroadcast (order : String)
  | errorRateExceeded (errors : Nat) (window : Duration)
  | shutdown (hash : Hash)
  | transport (report : Option NodeReport)
  | malformedReturn
deriving DecidableEq, Repr, Inhabited

namespace DeskError

/-- The wording of an error. -/
def message : DeskError → String
  | invalidArgument text => "invalid argument: " ++ text
  | invalidRequest text => "invalid request: " ++ text
  | unknownToken symbol => "unknown token: " ++ symbol
  | insufficientBalance token required available =>
    s!"insufficient {token} balance: required {required.toNat}, available {available.toNat}"
  | insufficientAllowance token required approved =>
    s!"insufficient {token} allowance: required {required.toNat}, approved {approved.toNat}"
  | gasEstimationFailed text => "gas estimation failed: " ++ text
  | signing text => "signing failed: " ++ text
  | submissionFailed hash reason => s!"submission of {hash.text} failed: {reason}"
  | transactionReverted hash reason => s!"transaction {hash.text} reverted: {reason.text}"
  | confirmationTimedOut hash timeout =>
    s!"transaction {hash.text} not confirmed within {timeout.text}"
  | orderIdUnresolved hash => s!"order id of transaction {hash.text} could not be resolved"
  | cancellationExhausted order => "all cancellation channels failed for order " ++ order
  | executionReverted message _ => message
  | unknownOrder order => "unknown order: " ++ order
  | duplicateOrder order => "duplicate client order id: " ++ order
  | notBroadcast order => s!"order {order} is not broadcast yet"
  | errorRateExceeded errors window =>
    s!"{errors} errors within {window.text}, refusing new orders"
  | shutdown hash => s!"shutdown requested while awaiting {hash.text}"
  | transport (some report) => report.text
  | transport none => "the node's answer could not be read"
  | malformedReturn => "the returned data could not be decoded"

/-- The sent transaction that an error is about. -/
def hash? : DeskError → Option Hash
  | submissionFailed hash _ | transactionReverted hash _ | confirmationTimedOut hash _
  | orderIdUnresolved hash | shutdown hash => some hash
  | _ => none

/-- The error was raised before anything reached the node. -/
def isLocal : DeskError → Bool
  | invalidArgument _ | invalidRequest _ | unknownToken _ | duplicateOrder _ | notBroadcast _
  | errorRateExceeded _ _ => true
  | _ => false

/-- The error reports that the wait for a transaction was stopped. -/
def isShutdown : DeskError → Bool
  | shutdown _ => true
  | _ => false

end DeskError

/-- The end of an operation that has no verdict: a quantity left its range, or records contradict
each other. -/
inductive Breakdown where
  | arithmetic
  | assertion (text : String)
deriving DecidableEq, Repr, Inhabited

/-- How an operation can fail. -/
inductive Fault where
  | error (e : DeskError)
  | breakdown (b : Breakdown)
deriving DecidableEq, Repr, Inhabited

end OrderDesk
