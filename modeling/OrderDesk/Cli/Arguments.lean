import OrderDesk.Cli.Network
import OrderDesk.Decimal.Text
import OrderDesk.Market.Pair
import OrderDesk.Market.Side
import OrderDesk.Text.Numeral

/-!
# `OrderDesk.Cli.Arguments` — what a command line says

## Contents
- `Command`, `CommandLine`.
- `UsageProblem`: why a command line is refused, or answered with a text about itself.
- `Argument`: everything that can be given, with what it accepts.
- `Level`: the command line before and behind a command's name.
- `Given.commandLine`: the command line that the given values make.
-/

namespace OrderDesk

/-- An order to place. -/
structure PlaceCommand where
  pair : Pair
  side : Side
  amount : Decimal
  price : Decimal
  market : Bool := false
  id : Option String := none
  wait : Bool := false
deriving DecidableEq, Repr, Inhabited

/-- What is to be done. -/
inductive Command where
  | place (order : PlaceCommand)
  | cancel (pair : Pair) (side : Side) (hash : Option Hash) (orderId : Option UInt64)
  | decode (hash : Hash)
  | nonce
deriving DecidableEq, Repr, Inhabited

/-- A command with the options that every command has. -/
structure CommandLine where
  command : Command
  config : Option String := none
  rpc : Option String := none
  network : Option Network := none
  rpcThrottle : Option UInt32 := none
  privateKey : Option String := none
deriving DecidableEq, Repr, Inhabited

/-- Why there is no command to run. -/
inductive UsageProblem where
  | displayHelp
  | displayVersion
  /-- Nothing was given at all. -/
  | displayHelpOnMissing
  | missingSubcommand
  | invalidSubcommand
  | unknownArgument
  | missingRequired
  /-- A value is missing, or not one of those that can be chosen. -/
  | invalidValue
  /-- A value cannot be read. -/
  | valueValidation
  /-- A flag was given a value. -/
  | tooManyValues
  /-- An argument was given twice. -/
  | argumentConflict
  /-- Reading a value broke down. -/
  | breakdown
deriving DecidableEq, Repr, Inhabited

/-- The name of a problem; a breakdown has none. -/
def UsageProblem.name? : UsageProblem → Option String
  | displayHelp => some "DisplayHelp"
  | displayVersion => some "DisplayVersion"
  | displayHelpOnMissing => some "DisplayHelpOnMissingArgumentOrSubcommand"
  | missingSubcommand => some "MissingSubcommand"
  | invalidSubcommand => some "InvalidSubcommand"
  | unknownArgument => some "UnknownArgument"
  | missingRequired => some "MissingRequiredArgument"
  | invalidValue => some "InvalidValue"
  | valueValidation => some "ValueValidation"
  | tooManyValues => some "TooManyValues"
  | argumentConflict => some "ArgumentConflict"
  | breakdown => none

/-- Everything that can be given. -/
inductive Argument where
  | config
  | rpc
  | network
  | rpcThrottle
  | privateKey
  | pair
  | side
  | amount
  | price
  | market
  | id
  | wait
  | tx
  | orderId
  | help
  | version
deriving DecidableEq, Repr, Inhabited

/-- The command line before a command's name, and behind each. -/
inductive Level where
  | top
  | place
  | cancel
  | decode
  | nonce
deriving DecidableEq, Repr, Inhabited

namespace Level

/-- The commands, by name. -/
def ofName? : String → Option Level
  | "place" => some place
  | "cancel" => some cancel
  | "decode" => some decode
  | "nonce" => some nonce
  | _ => none

/-- The options of a level by their long names. Options for all commands may stand on both levels. -/
def option? (level : Level) (name : String) : Option Argument :=
  match name with
  | "config" => some .config
  | "rpc" => some .rpc
  | "network" => some .network
  | "rpc-throttle" => some .rpcThrottle
  | "private-key" => some .privateKey
  | "help" => some .help
  | "version" => if level = top then some .version else none
  | "market" => if level = place then some .market else none
  | "id" => if level = place then some .id else none
  | "wait" => if level = place then some .wait else none
  | "tx" => if level = cancel ∨ level = decode then some .tx else none
  | "order-id" => if level = cancel then some .orderId else none
  | _ => none

/-- The options of a level by their letters. -/
def letter? (level : Level) (letter : Char) : Option Argument :=
  if letter = 'h' then some .help
  else if letter = 'V' ∧ level = top then some .version
  else none

/-- The values that are told apart by their place. -/
def positionals : Level → List Argument
  | place => [.pair, .side, .amount, .price]
  | cancel => [.pair, .side]
  | top | decode | nonce => []

end Level

namespace Argument

/-- Options that take no value. -/
def isFlag : Argument → Bool
  | market | wait | help | version => true
  | _ => false

/-- A whole number below a bound, in decimal with a plus sign at most. -/
def readBelow? (bound : Nat) (text : String) : Option Nat :=
  let digits := match text.toList with
    | '+' :: rest => rest
    | rest => rest
  if digits.isEmpty then none else (Numeral.read? 10 digits).filter (· < bound)

/-- A rate; zero may have a minus sign. -/
def readRate? (text : String) : Option UInt32 :=
  match text.toList with
  | '-' :: rest =>
    if !rest.isEmpty ∧ rest.all (· == '0') then some 0 else none
  | _ => (readBelow? UInt32.size text).map UInt32.ofNat

/-- An order's number. -/
def readOrderId? (text : String) : Option UInt64 := (readBelow? UInt64.size text).map UInt64.ofNat

/-- A decimal. -/
def readDecimal? (text : String) : Option Decimal := (Decimal.read text).toOption

/-- What is wrong with a decimal, if anything is. -/
def decimalProblem? (text : String) : Option UsageProblem :=
  match Decimal.read text with
  | .ok _ => none
  | .error .breakdown => some .breakdown
  | .error _ => some .valueValidation

/-- What is wrong with a value, if anything is. -/
def problem? (a : Argument) (text : String) : Option UsageProblem :=
  let check (ok : Bool) (p : UsageProblem) : Option UsageProblem := if ok then none else some p
  match a with
  | config => check (!text.isEmpty) .invalidValue
  | network => check (Network.ofName? text).isSome .invalidValue
  | rpcThrottle => check (readRate? text).isSome .valueValidation
  | pair => check (Pair.ofText? text).isSome .valueValidation
  | side => check (Side.ofText? text).isSome .valueValidation
  | amount | price => decimalProblem? text
  | tx => check (Hash.ofText? text).isSome .valueValidation
  | orderId => check (readOrderId? text).isSome .valueValidation
  | rpc | privateKey | id | market | wait | help | version => none

end Argument

/-- The values given on one level. -/
abbrev Given := List (Argument × String)

namespace Given

/-- The value of an argument. -/
def get? (g : Given) (a : Argument) : Option String := (g.find? (·.1 == a)).map (·.2)

/-- A flag was given. -/
def has (g : Given) (a : Argument) : Bool := (g.get? a).isSome

/-- The value of an argument that has to be there. -/
def need {α : Type} (g : Given) (a : Argument) (read : String → Option α) :
    Except UsageProblem α :=
  match g.get? a with
  | none => .error .missingRequired
  | some text =>
    match read text with
    | some value => .ok value
    | none => .error .valueValidation

/-- The value of an argument that may be missing. -/
def may {α : Type} (g : Given) (a : Argument) (read : String → Option α) :
    Except UsageProblem (Option α) :=
  match g.get? a with
  | none => .ok none
  | some _ => (g.need a read).map some

/-- The command of a level. -/
def command (g : Given) : Level → Except UsageProblem Command
  | .top => .error .missingSubcommand
  | .place => do
    pure (.place {
      pair := ← g.need .pair Pair.ofText?
      side := ← g.need .side Side.ofText?
      amount := ← g.need .amount Argument.readDecimal?
      price := ← g.need .price Argument.readDecimal?
      market := g.has .market
      id := g.get? .id
      wait := g.has .wait })
  | .cancel => do
    let pair ← g.need .pair Pair.ofText?
    let side ← g.need .side Side.ofText?
    let orderId ← g.may .orderId Argument.readOrderId?
    let hash ← if orderId.isNone then (g.need .tx Hash.ofText?).map some
      else g.may .tx Hash.ofText?
    pure (.cancel pair side hash orderId)
  | .decode => do pure (.decode (← g.need .tx Hash.ofText?))
  | .nonce => .ok .nonce

/-- A command with the options for all commands. What is given behind the command's name goes before
what is given in front of it. -/
def commandLine (command : Command) (behind front : Given) : Except UsageProblem CommandLine := do
  let all : Given := behind ++ front
  pure {
    command
    config := all.get? .config
    rpc := all.get? .rpc
    network := ← all.may .network Network.ofName?
    rpcThrottle := ← all.may .rpcThrottle Argument.readRate?
    privateKey := all.get? .privateKey }

end Given

/-- The command line with a key for one that names none. -/
def CommandLine.withKey (line : CommandLine) (key : Option String) : CommandLine :=
  { line with privateKey := line.privateKey <|> key }

end OrderDesk
