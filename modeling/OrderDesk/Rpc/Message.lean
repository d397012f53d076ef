import OrderDesk.Rpc.Quantity
import OrderDesk.Routine.Request

/-!
# `OrderDesk.Rpc.Message` — questions as a node is asked them

## Contents
- `RpcRequest` and `Request.rpc?`: the method and parameters of a question to the node.
- `RpcResponse`: a result or an error, with `RpcResponse.ofJson`.
-/

namespace OrderDesk

/-- A method with its parameters. -/
structure RpcRequest where
  method : String
  params : List Json := []
deriving Inhabited, BEq, Repr

namespace RpcRequest

/-- The parameters; a method without any has null in their place. -/
def paramsJson (r : RpcRequest) : Json := if r.params.isEmpty then .null else .array r.params

/-- The message under a number. -/
def envelope (r : RpcRequest) (id : Nat) : Json :=
  .ofFields [("jsonrpc", .string "2.0"), ("id", .nat id), ("method", .string r.method),
    ("params", r.paramsJson)]

/-- The sender, target, data and value of a call. -/
def callFields (sender : Address) (c : Call) : List (String × Json) :=
  [("from", .string sender.text), ("to", .string c.target.text), ("input", .string (Hex.encode c.data)),
   ("value", Quantity.write c.value.toNat)]

/-- A transaction to be repeated; gas terms of zero are left to the node. -/
def txFields (tx : TxRequest) : List (String × Json) :=
  callFields tx.sender tx.call
    ++ (if 0 < tx.gasLimit then [("gas", Quantity.write tx.gasLimit.toNat)] else [])
    ++ (if 0 < tx.gasPrice then [("gasPrice", Quantity.write tx.gasPrice.toNat)] else [])

/-- A block by number, or the state with pending transactions. -/
def blockJson : Option UInt64 → Json
  | some number => Quantity.write number.toNat
  | none => .string "pending"

end RpcRequest

/-- How a question is put to the node; some questions are not for the node. -/
def Request.rpc? : Request → Option RpcRequest
  | chainId => some ⟨"eth_chainId", []⟩
  | pendingNonce account =>
    some ⟨"eth_getTransactionCount", [.string account.text, .string "pending"]⟩
  | estimateGas sender c =>
    some ⟨"eth_estimateGas", [.ofFields (RpcRequest.callFields sender c), .string "pending"]⟩
  | gasPrice => some ⟨"eth_gasPrice", []⟩
  | balance account => some ⟨"eth_getBalance", [.string account.text, .string "latest"]⟩
  | send tx => some ⟨"eth_sendRawTransaction", [.string (Hex.encode tx.raw)]⟩
  | receipt hash => some ⟨"eth_getTransactionReceipt", [.string hash.text]⟩
  | call tx block =>
    some ⟨"eth_call", [.ofFields (RpcRequest.txFields tx), RpcRequest.blockJson block]⟩
  | transaction hash => some ⟨"eth_getTransactionByHash", [.string hash.text]⟩
  | fundsVerdict _ _ _ _ | cancelVerdict _ _ => none

/-- What a node answers. -/
inductive RpcResponse where
  | result (value : Json)
  | refusal (code : Int) (message : String) (data : Option Json)
  /-- An answer that is neither. -/
  | garbled
deriving Inhabited, BEq, Repr

namespace RpcResponse

/-- The answer of a node that has none. -/
def unscripted : RpcResponse := refusal (-32601) "no scripted response" none

/-- A whole number of 64 bits with a sign. -/
def code? : Json → Option Int
  | .integer n => if -0x8000000000000000 ≤ n ∧ n < 0x8000000000000000 then some n else none
  | _ => none

/-- Reads an error. A message may be missing, but there is none other than a text; data that are null
are data. -/
def refusal? (error : Json) : Option RpcResponse := do
  let code ← (error.field? "code").bind code?
  let message ← match error.field? "message" with
    | some message => message.text?
    | none => some ""
  some (refusal code message (error.field? "data"))

/-- Reads an answer, which has either a result or an error. -/
def ofJson (j : Json) : RpcResponse :=
  match j.field? "result", j.field? "error" with
  | some value, none => result value
  | none, some error => (refusal? error).getD garbled
  | _, _ => garbled

end RpcResponse
end OrderDesk
