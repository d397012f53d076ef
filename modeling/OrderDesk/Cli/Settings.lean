import OrderDesk.Cli.Network
import OrderDesk.Decimal.Text
import OrderDesk.DeskError
import OrderDesk.Market.Order
import OrderDesk.Toml.Read
import OrderDesk.Transaction.GasPolicy
import OrderDesk.Transaction.PollPolicy

/-!
# `OrderDesk.Cli.Settings` — the settings file

Every setting may be left out. Settings of other names are refused, and so is a value of another
kind. A group of settings may also be written as an array, in the order in which they are listed
here.

## Contents
- `CliFault`: why a command fails.
- `Settings` with `Settings.read?`.
- `Settings.deployment`, `Settings.terms`: what the settings make of the defaults.
-/

namespace OrderDesk

/-- Why a command fails. -/
inductive CliFault where
  /-- A step that failed, and the reason if there is more to say. -/
  | failed (what : String) (because : Option String)
  | desk (e : DeskError)
  | breakdown (b : Breakdown)
deriving DecidableEq, Repr, Inhabited

/-- A token added by the settings. -/
structure TokenSetting where
  symbol : String
  address : String
  decimals : UInt8
  native : Bool := false
deriving DecidableEq, Repr, Inhabited

/-- How gas is bought. -/
structure GasSettings where
  marginPercent : Option UInt64 := none
  minLimit : Option UInt64 := none
  fallbackLimit : Option UInt64 := none
  /-- In units of a billionth. -/
  fallbackPriceGwei : Option UInt64 := none
  priceLifetimeSeconds : Option UInt64 := none
deriving DecidableEq, Repr, Inhabited

/-- How receipts are waited for. -/
structure PollSettings where
  intervalMillis : Option UInt64 := none
  timeoutSeconds : Option UInt64 := none
deriving DecidableEq, Repr, Inhabited

/-- How orders are placed. -/
structure OrderSettings where
  confirmInLock : Option Bool := none
  maker : Option Bool := none
  slippage : Option String := none
deriving DecidableEq, Repr, Inhabited

/-- What a settings file says. -/
structure Settings where
  network : Option Network := none
  rpc : Option String := none
  rpcThrottle : Option UInt32 := none
  exchange : Option String := none
  tokens : List TokenSetting := []
  gas : GasSettings := {}
  poll : PollSettings := {}
  orders : OrderSettings := {}
deriving DecidableEq, Repr, Inhabited

/-! ## Reading -/

namespace SettingsReader

/-- The values of a group by name. -/
def group (names : List String) : Toml → Option (List (String × Toml))
  | .table fields => if fields.all (names.contains ·.1) then some fields else none
  | .array items => some (names.zip items)
  | _ => none

/-- A value of a group that may be missing, but not of another kind. -/
def optional {α : Type} (read : Toml → Option α) (fields : List (String × Toml)) (name : String) :
    Option (Option α) :=
  match fields.find? (·.1 == name) with
  | some (_, value) => (read value).map some
  | none => some none

/-- A value of a group that has to be there. -/
def required {α : Type} (read : Toml → Option α) (fields : List (String × Toml)) (name : String) :
    Option α := do
  ← optional read fields name

def text : Toml → Option String
  | .string s => some s
  | _ => none

def flag : Toml → Option Bool
  | .boolean b => some b
  | _ => none

/-- A number from zero to below a bound. -/
def below (bound : Nat) : Toml → Option Nat
  | .integer (.ofNat n) => if n < bound then some n else none
  | _ => none

def u64 (v : Toml) : Option UInt64 := (below UInt64.size v).map UInt64.ofNat
def u32 (v : Toml) : Option UInt32 := (below UInt32.size v).map UInt32.ofNat
def u8 (v : Toml) : Option UInt8 := (below UInt8.size v).map UInt8.ofNat

/-- A name; it may also be the only key of a table, with nothing under it. -/
def network : Toml → Option Network
  | .string name => Network.ofName? name
  | .table [(name, .table [])] | .table [(name, .array [])] => Network.ofName? name
  | _ => none

def token (v : Toml) : Option TokenSetting := do
  let fields ← group ["symbol", "address", "decimals", "native"] v
  some {
    symbol := ← required text fields "symbol"
    address := ← required text fields "address"
    decimals := ← required u8 fields "decimals"
    native := (← optional flag fields "native").getD false }

def tokens : Toml → Option (List TokenSetting)
  | .array items => items.mapM token
  | _ => none

def gas (v : Toml) : Option GasSettings := do
  let fields ← group ["margin_percent", "min_gas_limit", "fallback_gas_limit",
    "fallback_gas_price_gwei", "gas_price_ttl_secs"] v
  some {
    marginPercent := ← optional u64 fields "margin_percent"
    minLimit := ← optional u64 fields "min_gas_limit"
    fallbackLimit := ← optional u64 fields "fallback_gas_limit"
    fallbackPriceGwei := ← optional u64 fields "fallback_gas_price_gwei"
    priceLifetimeSeconds := ← optional u64 fields "gas_price_ttl_secs" }

def poll (v : Toml) : Option PollSettings := do
  let fields ← group ["interval_ms", "timeout_secs"] v
  some {
    intervalMillis := ← optional u64 fields "interval_ms"
    timeoutSeconds := ← optional u64 fields "timeout_secs" }

def orders (v : Toml) : Option OrderSettings := do
  let fields ← group ["confirm_in_lock", "is_maker", "market_slippage"] v
  some {
    confirmInLock := ← optional flag fields "confirm_in_lock"
    maker := ← optional flag fields "is_maker"
    slippage := ← optional text fields "market_slippage" }

/-- The settings of a whole file. -/
def settings (fields : List (String × Toml)) : Option Settings := do
  let fields ← group ["network", "rpc", "rpc_throttle", "exchange", "tokens", "gas", "poll",
    "orders"] (.table fields)
  some {
    network := ← optional network fields "network"
    rpc := ← optional text fields "rpc"
    rpcThrottle := ← optional u32 fields "rpc_throttle"
    exchange := ← optional text fields "exchange"
    tokens := (← optional tokens fields "tokens").getD []
    gas := (← optional gas fields "gas").getD {}
    poll := (← optional poll fields "poll").getD {}
    orders := (← optional orders fields "orders").getD {} }

end SettingsReader

/-- What an order desk is set up with. -/
structure Terms where
  gas : GasPolicy := {}
  poll : PollPolicy := {}
  confirmInLock : Bool := false
  maker : Bool := true
  slippage : Decimal := OrderRequest.defaultSlippage
deriving DecidableEq, Repr, Inhabited

namespace Settings

/-- The settings that a file's text holds. -/
def read? (text : String) : Option Settings := (Toml.read? text).bind SettingsReader.settings

/-- Gives a deployment the exchange that the settings name. -/
def withExchange (s : Settings) (d : Deployment) : Except CliFault Deployment :=
  match s.exchange with
  | none => .ok d
  | some text =>
    match Address.ofText? text with
    | some exchange => .ok { d with exchange }
    | none => .error (.failed "parsing exchange address" none)

/-- Adds a token of the settings to a deployment. -/
def addToken (d : Deployment) (t : TokenSetting) : Except CliFault Deployment :=
  match Address.ofText? t.address with
  | some address =>
    .ok (d.withToken { symbol := t.symbol, address, decimals := t.decimals, native := t.native })
  | none => .error (.failed ("parsing address of token " ++ t.symbol) none)

/-- The deployment of a network with the exchange and the tokens of the settings. -/
def deployment (s : Settings) (network : Network) : Except CliFault Deployment := do
  s.tokens.foldlM addToken (← s.withExchange network.deployment)

/-- The slippage of the settings; it must be below one. -/
def slippage (s : Settings) : Except CliFault Decimal := do
  let slippage ← match s.orders.slippage with
    | none => pure OrderRequest.defaultSlippage
    | some text =>
      match Decimal.read text with
      | .ok d => pure d
      | .error .breakdown => throw (.breakdown .arithmetic)
      | .error e => throw (.failed s!"invalid market slippage {text}: {e.message}" none)
  if slippage.atLeastOne then
    throw (.failed s!"market slippage {slippage.text} must be below 1" none)
  else pure slippage

/-- How gas is bought under the settings. -/
def gasPolicy (s : Settings) : GasPolicy :=
  let d : GasPolicy := {}
  { marginPercent := s.gas.marginPercent.getD d.marginPercent
    minLimit := s.gas.minLimit.getD d.minLimit
    fallbackLimit := s.gas.fallbackLimit.getD d.fallbackLimit
    fallbackPrice := match s.gas.fallbackPriceGwei with
      | some gwei => BitVec.ofNat 128 (gwei.toNat * 1000000000)
      | none => d.fallbackPrice
    priceLifetime := match s.gas.priceLifetimeSeconds with
      | some seconds => .ofSeconds seconds.toNat
      | none => d.priceLifetime }

/-- How receipts are waited for under the settings. -/
def pollPolicy (s : Settings) : PollPolicy :=
  let d : PollPolicy := {}
  { interval := match s.poll.intervalMillis with
      | some millis => .ofMillis millis.toNat
      | none => d.interval
    timeout := match s.poll.timeoutSeconds with
      | some seconds => .ofSeconds seconds.toNat
      | none => d.timeout }

/-- The terms of a desk under the settings. -/
def terms (s : Settings) : Except CliFault Terms := do
  let slippage ← s.slippage
  pure { gas := s.gasPolicy, poll := s.pollPolicy, slippage,
         confirmInLock := s.orders.confirmInLock.getD false,
         maker := s.orders.maker.getD true }

end Settings
end OrderDesk
