import OrderDesk.Cli.Arguments
import OrderDesk.Cli.Endpoint
import OrderDesk.Cli.Settings
import OrderDesk.Desk.Connector
import OrderDesk.Order.Row
import OrderDesk.Text.Table

/-!
# `OrderDesk.Cli.Run` — carrying out a command

The settings are read, the node is asked for its chain, and only if that is the chain of the chosen
deployment is the command carried out. What is printed before a command fails stays printed.

## Contents
- `CliSession.prepare`: everything that is settled before the node is asked.
- `CliSession.place`, `cancel`, `decode`, `nonce`: the commands.
- `CommandLine.run`: a whole command line, as an operation with a report.
-/

namespace OrderDesk

/-- An operation that prints and may fail. -/
abbrev CliStep (α : Type) : Type := ExceptT CliFault (StateT String Routine) α

namespace CliStep

/-- Prints a line. -/
def print (line : String) : CliStep Unit :=
  ExceptT.lift (modify fun printed => printed ++ line ++ "\n")

/-- A question, with its reply as it is. -/
def reply (r : Request) : CliStep r.Reply :=
  ExceptT.lift (StateT.lift (.ask r .done))

/-- A step that does not print. -/
def ofExcept {α : Type} : Except CliFault α → CliStep α
  | .ok a => pure a
  | .error f => throw f

/-- A fault as a command reports it. -/
def fault : Fault → CliFault
  | .error e => .desk e
  | .breakdown b => .breakdown b

/-- An operation of a desk. -/
def attempt {α : Type} (p : Attempt α) : CliStep α := do
  match ← ExceptT.lift (StateT.lift p.run) with
  | .ok a => pure a
  | .error f => throw (fault f)

end CliStep

/-- What a command printed and how it ended. -/
structure CliReport where
  printed : String
  result : Except CliFault Unit

/-- Everything that is settled before the node is asked. -/
structure CliSession where
  settings : Settings
  network : Network
  node : String
  deployment : Deployment
  privateKey : Option String
  colours : Bool := false
deriving DecidableEq, Inhabited

namespace CliSession

/-- Requests per second allowed at a public node. -/
def publicThrottle : UInt32 := 15

/-- The environment's name for the signing key. -/
def keyVariable : String := "STANDARD_PRIVATE_KEY"

/-- The settings of a file; `file` is the text behind a path, if it can be read. -/
def loadSettings (file : String → Option String) : Option String → Except CliFault Settings
  | none => .ok {}
  | some path =>
    match file path with
    | none => .error (.failed ("reading config " ++ path) none)
    | some text =>
      match Settings.read? text with
      | none => .error (.failed ("parsing config " ++ path) none)
      | some settings => .ok settings

/-- How many requests per second are allowed, if they are limited: options go before settings, and
public nodes are always spared. -/
def throttle (line : CommandLine) (settings : Settings) : Option UInt32 :=
  line.rpcThrottle <|> settings.rpcThrottle <|>
    if (line.rpc <|> settings.rpc).isNone then some publicThrottle else none

/-- Settles network, node and deployment. A rate of zero requests has no meaning. -/
def prepare (line : CommandLine) (file : String → Option String) (colours : Bool) :
    Except CliFault CliSession := do
  let settings ← loadSettings file line.config
  let network := (line.network <|> settings.network).getD .testnet
  let node := (line.rpc <|> settings.rpc).getD network.publicNode
  if throttle line settings = some 0 then throw (.breakdown .arithmetic)
  if !Endpoint.accepts node then throw (.failed "connecting to RPC" none)
  let deployment ← settings.deployment network
  pure { settings, network, node, deployment, privateKey := line.privateKey, colours }

/-- A text in a colour, if colours are wanted. -/
def paint (s : CliSession) (colour : Colour) (text : String) : String :=
  OrderDesk.paint s.colours colour text

/-- Ends with an error unless the node serves the deployment's chain. -/
def checkChain (s : CliSession) : CliStep Unit := do
  match ← CliStep.reply .chainId with
  | .error e => throw (.failed "fetching chain ID" (some e.message))
  | .ok chainId =>
    if chainId ≠ s.deployment.chainId then
      throw (.failed (s!"RPC endpoint {s.node} serves chain {chainId.toNat}, " ++
        s!"{s.network.title} is chain {s.deployment.chainId.toNat}") none)

/-- The signing key. -/
def key (s : CliSession) : Except CliFault SigningKey :=
  match s.privateKey with
  | none => .error (.failed ("signing key required, set " ++ keyVariable) none)
  | some text =>
    match (Hex.decode? text).bind SigningKey.ofBytes? with
    | some key => .ok key
    | none => .error (.failed "parsing signing key" none)

/-- The desk that the settings and the key make. Funds are checked on the chain. -/
def connector (s : CliSession) : Except CliFault Connector := do
  let terms ← s.settings.terms
  let base := Connector.standard s.deployment (← s.key) terms.gas terms.poll
  pure { base with
    calls := { base.calls with maker := terms.maker }
    confirmInLock := terms.confirmInLock
    slippage := terms.slippage
    funds := .onChain }

/-- Shows the wallet's next nonce. -/
def nonce (s : CliSession) : CliStep Unit := do
  let key ← CliStep.ofExcept s.key
  let wallet := key.address
  let next ← CliStep.attempt (Attempt.ask (.pendingNonce wallet))
  CliStep.print s!"{s.paint .brightBlue wallet.checksummed} {next.toNat}"

/-- The line about an event. -/
def eventLine (s : CliSession) : OrderEvent → String
  | .placed id => s.paint .cyan s!"  placed #{id.toNat}"
  | .matched => s.paint .brightCyan "  matched"

/-- The line about what became of an order. -/
def traceLine (s : CliSession) : OrderTrace → String
  | .placed id => s.paint .green s!"order #{id.toNat} open"
  | .immediatelyFilled => s.paint .yellow "order filled immediately"
  | .notFound => s.paint .red "no order events"

/-- Shows what a placement did. -/
def decode (s : CliSession) (hash : Hash) : CliStep Unit := do
  match ← CliStep.attempt (Attempt.ask (.receipt hash)) with
  | none => throw (.failed s!"transaction {hash.text} not found or not mined yet" none)
  | some receipt =>
    let header := s!"**** Tx {hash.text} (block {receipt.block.toNat})"
    CliStep.print s!"\n{s.paint .brightBlue header}\n"
    if !receipt.success then
      let line := s!"  reverted, gas used {receipt.gasUsed.toNat}"
      CliStep.print s!"{s.paint .red line}\n"
    else
      (receipt.orderEvents s.deployment.exchange).forM fun event =>
        CliStep.print (s.eventLine event)
      CliStep.print s!"\n  {s.traceLine (receipt.trace s.deployment.exchange)}\n"

/-- The identifier under which an order is cancelled. -/
def cancelId : String := "cli-cancel"

/-- Cancels an order placed before. -/
def cancel (s : CliSession) (pair : Pair) (side : Side) (hash : Option Hash)
    (orderId : Option UInt64) : CliStep Unit := do
  let connector ← CliStep.ofExcept s.connector
  if hash.isNone ∧ orderId.isNone then
    throw (.failed "either `--tx` or `--order-id` is required" none)
  let _ ← CliStep.attempt (connector.adopt cancelId pair side (hash.getD Hash.zero) orderId)
  match ← CliStep.attempt (connector.cancel cancelId) with
  | .cancelled hash channel =>
    CliStep.print ("\n" ++ s.paint .green "cancelled" ++ s!" via {channel} channel")
    CliStep.print s!"  tx {hash.text}\n"
  | .localOnly reason =>
    CliStep.print
      ("\n" ++ s.paint .yellow "nothing cancelled on-chain" ++ s!": {reason.text}\n")

/-- The line about a confirmed placement. -/
def outcomeLine (s : CliSession) (outcome : ConfirmOutcome) : String :=
  let line := "  " ++ outcome.text
  match outcome with
  | .resting _ => s.paint .green line
  | .immediatelyFilled => s.paint .yellow line
  | .unresolved | .timedOut => s.paint .red line
  | .failed reason => s.paint .red s!"{line} ({reason.category.text})"

/-- Places an order and shows it. An order without an identifier gets one of the time. -/
def place (s : CliSession) (order : PlaceCommand) : CliStep Unit := do
  let connector ← CliStep.ofExcept s.connector
  let now ← CliStep.attempt Attempt.now
  let id := order.id.getD s!"cli-{now.nanos / 1000000}"
  let kind := if order.market then OrderKind.market else .limit
  let handle ← CliStep.attempt (connector.place id
    { pair := order.pair, side := order.side, kind, amount := order.amount, price := order.price })
  let what := s!"{order.side.verb} {order.amount.text} {order.pair.text} @ {order.price.text}"
  CliStep.print ("\n" ++ s.paint .brightBlue "submitted" ++ s!" {what} via {handle.entryPoint.text}")
  CliStep.print s!"  tx {handle.hash.text} nonce {handle.nonce.toNat}"
  if order.wait then
    let outcome ← match handle.outcome with
      | some outcome => pure outcome
      | none => CliStep.attempt (connector.confirm id)
    CliStep.print (s.outcomeLine outcome)
  let records ← CliStep.attempt (Attempt.act .orders)
  let table := Table.render OrderRecord.headers (records.map fun r => r.row s.colours)
  CliStep.print s!"\n{table}\n"

/-- Carries a command out. -/
def carryOut (s : CliSession) : Command → CliStep Unit
  | .decode hash => s.decode hash
  | .nonce => s.nonce
  | .place order => s.place order
  | .cancel pair side hash orderId => s.cancel pair side hash orderId

/-- Checks the chain, then carries the command out. -/
def run (s : CliSession) (command : Command) : CliStep Unit := do
  s.checkChain
  s.carryOut command

end CliSession

/-- The report of a printing operation. -/
def CliStep.report (p : CliStep Unit) : Routine CliReport := do
  let (result, printed) ← p.run.run ""
  pure ⟨printed, result⟩

/-- Carries a command line out; `file` is the text behind a path, if it can be read. -/
def CommandLine.run (line : CommandLine) (file : String → Option String) (colours : Bool) :
    Routine CliReport :=
  CliStep.report do
    let session ← CliStep.ofExcept (CliSession.prepare line file colours)
    session.run line.command

end OrderDesk
