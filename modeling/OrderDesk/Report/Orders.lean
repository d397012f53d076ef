import OrderDesk.Cli.Arguments
import OrderDesk.Desk.Connector
import OrderDesk.Order.Row
import OrderDesk.Report.Chain

/-!
# `OrderDesk.Report.Orders` — orders and what became of them, for machines
-/

namespace OrderDesk

def OrderRef.json : OrderRef → Json
  | number id => .ofFields [("id", .big id.toNat)]
  | placement h => .ofFields [("tx", h.json)]

/-- A record with its row, of which the time is left out. -/
def OrderRecord.json (colours : Bool) (r : OrderRecord) : Json :=
  .ofFields [("id", .string r.id), ("pair", .string r.pair.text),
    ("order_ref", .orNull OrderRef.json r.reference?),
    ("ref_display", .orNull (.string ·.text) r.reference?),
    ("order_id", .orNull (fun n => .big n.toNat) r.orderId?), ("tx", r.hash.json),
    ("base", r.base.json), ("quote", r.quote.json), ("side", .string r.side.text),
    ("state", .string r.state.text), ("terminal", .bool r.state.isTerminal),
    ("failure", .orNull RevertReason.json r.failure?), ("display", .string r.text),
    ("row", .array ((r.row colours).dropLast.map .string))]

def ConfirmOutcome.json (o : ConfirmOutcome) : Json :=
  let named (name : String) (rest : List (String × Json)) : Json :=
    .ofFields (("outcome", .string name) :: ("display", .string o.text) :: rest)
  match o with
  | resting id => named "open" [("order_id", .big id.toNat)]
  | immediatelyFilled => named "filled" []
  | unresolved => named "unresolved" []
  | timedOut => named "timed_out" []
  | failed reason => named "failed" [("reason", reason.json)]

def OrderHandle.json (h : OrderHandle) : Json :=
  .ofFields [("id", .string h.id), ("tx", h.hash.json), ("nonce", .big h.nonce.toNat),
    ("entry_point", .string h.entryPoint.text), ("outcome", .orNull ConfirmOutcome.json h.outcome)]

def CancelOutcome.json : CancelOutcome → Json
  | cancelled h channel => .ofFields [("cancelled", h.json), ("channel", .string channel)]
  | localOnly reason => .ofFields [("local", .string reason.text)]

def Stats.json (s : Stats) : Json :=
  .ofFields [("display", .string s.text), ("submitted", .big s.submitted.toNat),
    ("submission_failures", .big s.submissionFailures.toNat),
    ("confirmed", .big s.confirmed.toNat), ("reverted", .big s.reverted.toNat),
    ("timed_out", .big s.timedOut.toNat), ("gas_used", .big s.gasUsed.toNat)]

def PlaceCommand.json (c : PlaceCommand) : Json :=
  .ofFields [("pair", .string c.pair.text), ("side", .string c.side.text),
    ("amount", c.amount.json), ("price", c.price.json), ("market", .bool c.market),
    ("id", .orNull .string c.id), ("wait", .bool c.wait)]

def Command.json : Command → Json
  | place c => .ofFields [("place", c.json)]
  | cancel pair side hash orderId =>
    .ofFields [("cancel", .ofFields [("pair", .string pair.text), ("side", .string side.text),
      ("tx", .orNull Hash.json hash), ("order_id", .orNull (fun n => .big n.toNat) orderId)])]
  | decode h => .ofFields [("decode", h.json)]
  | nonce => .string "nonce"

def CommandLine.json (c : CommandLine) : Json :=
  .ofFields [("command", c.command.json), ("config", .orNull .string c.config),
    ("rpc", .orNull .string c.rpc), ("network", .orNull (.string ·.name) c.network),
    ("rpc_throttle", .orNull (fun n => .nat n.toNat) c.rpcThrottle),
    ("private_key", .orNull .string c.privateKey)]

def UsageProblem.json (p : UsageProblem) : Json :=
  match p.name? with
  | some name => .ofFields [("error", .string "usage"), ("kind", .string name)]
  | none => Breakdown.arithmetic.json

def Terms.json (t : Terms) : Json :=
  .ofFields [("margin_percent", .big t.gas.marginPercent.toNat),
    ("min_gas_limit", .big t.gas.minLimit.toNat),
    ("fallback_gas_limit", .big t.gas.fallbackLimit.toNat),
    ("fallback_gas_price", .big t.gas.fallbackPrice.toNat),
    ("gas_price_ttl", t.gas.priceLifetime.json), ("interval", t.poll.interval.json),
    ("timeout", t.poll.timeout.json), ("confirm_in_lock", .bool t.confirmInLock),
    ("is_maker", .bool t.maker), ("slippage", t.slippage.json)]

/-- What settings make, or why they make nothing. -/
def reportSetting {α : Type} (f : α → Json) : Except CliFault α → Json
  | .ok a => f a
  | .error e => e.json "config"

/-- The settings with the deployment and the terms that they make. A breakdown is the whole report. -/
def Settings.json (s : Settings) : Json :=
  let network := s.network.getD .testnet
  match s.terms with
  | .error (.breakdown b) => b.json
  | terms =>
    .ofFields [("network", .orNull (.string ·.name) s.network), ("rpc", .orNull .string s.rpc),
      ("rpc_throttle", .orNull (fun n => .nat n.toNat) s.rpcThrottle),
      ("public_rpc", .string network.publicNode),
      ("chain", reportSetting Deployment.json (s.deployment network)),
      ("connector", reportSetting Terms.json terms)]

end OrderDesk
