import OrderDesk.Cli.Settings
import OrderDesk.Json.Value

/-!
# `OrderDesk.Report.Errors` — failures for machines

## Contents
- `DeskError.name`, `DeskError.json` and `DeskError.shown?`, the part of a message that does not
  depend on how the node is reached.
- `Fault.json`, `CliFault.json`, `Decimal.ReadError.json`.
-/

namespace OrderDesk

namespace Json

/-- A number that may not fit other readers' numbers. -/
def big (n : Nat) : Json := string (toString n)

/-- A value, or null. -/
def orNull {α : Type} (f : α → Json) : Option α → Json
  | some a => f a
  | none => null

/-- Fields in front of those of an object. -/
def withFields (fields : List (String × Json)) : Json → Json
  | object own => ofFields (own ++ fields)
  | j => j

end Json

namespace DeskError

/-- The name of a kind of error. -/
def name : DeskError → String
  | invalidArgument _ => "InvalidArgument"
  | invalidRequest _ => "InvalidRequest"
  | unknownToken _ => "UnknownToken"
  | insufficientBalance _ _ _ => "InsufficientBalance"
  | insufficientAllowance _ _ _ => "InsufficientAllowance"
  | gasEstimationFailed _ => "GasEstimationFailed"
  | signing _ => "Signing"
  | submissionFailed _ _ => "SubmissionFailed"
  | transactionReverted _ _ => "TransactionReverted"
  | confirmationTimedOut _ _ => "ConfirmationTimedOut"
  | orderIdUnresolved _ => "OrderIdUnresolved"
  | cancellationExhausted _ => "CancellationExhausted"
  | executionReverted _ _ => "ExecutionReverted"
  | unknownOrder _ => "UnknownOrder"
  | duplicateOrder _ => "DuplicateOrder"
  | notBroadcast _ => "NotBroadcast"
  | errorRateExceeded _ _ => "ErrorRateExceeded"
  | shutdown _ => "Shutdown"
  | transport _ => "Transport"
  | malformedReturn => "Abi"

/-- The message, unless it only speaks of the means of signing, of the connection or of the coding
of data. -/
def shown? : DeskError → Option String
  | signing _ | transport none | malformedReturn => none
  | e => some e.message

/-- Name, message and revert data. -/
def json (e : DeskError) : Json :=
  .ofFields <| [("error", .string e.name)]
    ++ (e.shown?.map fun m => ("message", Json.string m)).toList
    ++ (match e with
      | executionReverted _ (some data) => [("data", .string (Hex.encode data))]
      | _ => [])

end DeskError

def Breakdown.json : Breakdown → Json
  | arithmetic => .ofFields [("error", .string "panic")]
  | assertion text => .ofFields [("error", .string "panic"), ("message", .string text)]

/-- Why a text is no decimal. -/
def Decimal.ReadError.json : Decimal.ReadError → Json
  | breakdown => Breakdown.arithmetic.json
  | e => .ofFields [("error", .string "ParseError"), ("message", .string e.message)]

def Fault.json : Fault → Json
  | error e => e.json
  | breakdown b => b.json

/-- A command's fault; `part` is the part of the program in which a step failed. -/
def CliFault.json (part : String) : CliFault → Json
  | failed what _ => .ofFields [("error", .string part), ("message", .string what)]
  | desk e => e.json
  | breakdown b => b.json

/-- A result, or the error in its place. -/
def reportResult {α : Type} (f : α → Json) : Except DeskError α → Json
  | .ok a => f a
  | .error e => e.json

/-- An outcome, or the fault in its place. -/
def reportOutcome {α : Type} (f : α → Json) : Except Fault α → Json
  | .ok a => f a
  | .error e => e.json

end OrderDesk
