import OrderDesk.Desk.Confirmation
import OrderDesk.Market.Deployment
import OrderDesk.Market.Pair
import OrderDesk.Report.Errors

/-!
# `OrderDesk.Report.Chain` — tokens, transactions and receipts for machines

Quantities of 64 bits and more are written as text.
-/

namespace OrderDesk

def Address.json (a : Address) : Json := .string a.text

def Hash.json (h : Hash) : Json := .string h.text

/-- A byte string in hexadecimal. -/
def bytesJson (b : Bytes) : Json := .string (Hex.encode b)

def Duration.json (d : Duration) : Json := .string d.text

/-- Printed form, coefficient and scale. -/
def Decimal.json (d : Decimal) : Json :=
  .ofFields [("display", .string d.text), ("digits", .big d.coefficient.toNat),
    ("scale", .integer d.scale)]

def Pair.json (p : Pair) : Json :=
  .ofFields [("base", .string p.base), ("quote", .string p.quote), ("display", .string p.text)]

def Token.json (t : Token) : Json :=
  .ofFields [("symbol", .string t.symbol), ("address", t.address.json),
    ("decimals", .nat t.decimals.toNat), ("native", .bool t.native)]

def Deployment.json (d : Deployment) : Json :=
  .ofFields [("chain_id", .big d.chainId.toNat), ("exchange", d.exchange.json),
    ("tokens", .array (d.tokens.map Token.json)), ("price_decimals", .nat d.priceDecimals.toNat),
    ("max_matches", .nat d.maxMatches.toNat)]

def Call.json (c : Call) : Json :=
  .ofFields [("to", c.target.json), ("data", bytesJson c.data), ("value", .big c.value.toNat)]

def TxRequest.json (t : TxRequest) : Json :=
  .ofFields [("from", t.sender.json), ("to", t.target.json), ("data", bytesJson t.data),
    ("value", .big t.value.toNat), ("nonce", .big t.nonce.toNat),
    ("gas_limit", .big t.gasLimit.toNat), ("gas_price", .big t.gasPrice.toNat),
    ("chain_id", .big t.chainId.toNat)]

def Log.json (l : Log) : Json :=
  .ofFields [("address", l.address.json), ("topics", .array (l.topics.map Hash.json)),
    ("data", bytesJson l.data)]

def Receipt.json (r : Receipt) : Json :=
  .ofFields [("hash", r.hash.json), ("block", .big r.block.toNat), ("success", .bool r.success),
    ("gas_used", .big r.gasUsed.toNat), ("logs", .array (r.logs.map Log.json))]

def RevertReason.json (r : RevertReason) : Json :=
  .ofFields [("message", .orNull .string r.message), ("gas_used", .big r.gasUsed.toNat),
    ("gas_limit", .orNull (fun g => .big g.toNat) r.gasLimit), ("out_of_gas", .bool r.outOfGas),
    ("category", .string r.category.text), ("display", .string r.text)]

def Confirmation.json : Confirmation → Json
  | confirmed r => .ofFields [("confirmed", r.json)]
  | reverted r reason => .ofFields [("reverted", r.json), ("reason", reason.json)]
  | timedOut h t => .ofFields [("timed_out", h.json), ("timeout", t.json)]

end OrderDesk
