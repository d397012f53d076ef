import OrderDesk.Cli.Reading
import OrderDesk.Cli.Run
import OrderDesk.Json.Read
import OrderDesk.Rpc.Decode
import Std.Time

/-!
# `OrderDesk.Main` — the program

The command line is read and carried out. The node is at the other end of two open files: every
request goes as one line of JSON to descriptor 3, and its answer is one line on descriptor 4. A relay
holds the connection itself. What a command prints goes to standard output, a failure to standard
error.

## Contents
- `NodeLine`: the two files, and `NodeLine.reply`.
- `Routine.perform`: an operation in the world.
- `main`.
-/

namespace OrderDesk

/-- The connection to a node, if there is one, and the number of the next request. -/
structure NodeLine where
  files : Option (IO.FS.Handle × IO.FS.Handle)
  counter : IO.Ref Nat

namespace NodeLine

/-- Opens the connection that the program was started with. -/
def connect : IO NodeLine := do
  let counter ← IO.mkRef 0
  try
    let requests ← IO.FS.Handle.mk "/dev/fd/3" .append
    let answers ← IO.FS.Handle.mk "/dev/fd/4" .read
    pure ⟨some (requests, answers), counter⟩
  catch _ => pure ⟨none, counter⟩

/-- Sends a request and waits for its answer. -/
def exchange (node : NodeLine) (request : RpcRequest) : IO (Option String) := do
  match node.files with
  | none => pure none
  | some (requests, answers) =>
    let id ← node.counter.modifyGet fun n => (n, n + 1)
    try
      requests.putStrLn (request.envelope id).compact
      requests.flush
      let line ← answers.getLine
      pure (if line.isEmpty then none else some line)
    catch _ => pure none

/-- Asks the node a question. -/
def reply (node : NodeLine) (r : Request) : IO r.Reply := do
  match r.rpc? with
  | none => pure (.error (.invalidRequest "not a question for a node"))
  | some request =>
    match ← node.exchange request with
    | none => pure (r.unanswered .unreachable)
    | some line => pure (r.decode (((Json.read? line).map RpcResponse.ofJson).getD .garbled))

end NodeLine

/-- The time on the calendar. -/
def wallClock : IO Instant := do
  let now ← Std.Time.Timestamp.now
  pure ⟨now.toNanosecondsSinceUnixEpoch.val.toNat⟩

/-- The desk at the present time. -/
def Desk.present (d : Desk) : IO Desk := do
  let now ← wallClock
  pure { d with common := { d.common with now := ⟨max d.common.now.nanos now.nanos⟩ } }

/-- Carries an operation out in the world. -/
def Routine.perform {α : Type} (node : NodeLine) : Routine α → Desk → IO α
  | done a, _ => pure a
  | act e next, desk => do
    let (answer, desk) := e.apply (← desk.present)
    (next answer).perform node desk
  | ask r next, desk => do
    let reply ← node.reply r
    (next reply).perform node (← desk.present)
  | sleep d next, desk => do
    IO.sleep (UInt32.ofNat (min d.millis (UInt32.size - 1)))
    (next desk.book.stopping).perform node (← desk.present)
  | lock _ next, desk => next.perform node desk
  | unlock _ next, desk => next.perform node desk

/-- The text of a file, if it can be read. -/
def readText? (path : String) : IO (Option String) := do
  try
    let text ← IO.FS.readFile path
    pure (some text)
  catch _ => pure none

/-- The wording of a fault. -/
def CliFault.text : CliFault → String
  | failed what (some because) => what ++ ": " ++ because
  | failed what none => what
  | desk e => e.message
  | breakdown (.assertion text) => text
  | breakdown .arithmetic => "a quantity left its range"

/-- Answers a command line that names no command to carry out. -/
def refuse (problem : UsageProblem) : IO UInt32 := do
  match problem with
  | .displayHelp =>
    IO.println ("usage: order-desk [--config FILE] [--rpc URL] [--network NAME] [--rpc-throttle N]" ++
      " [--private-key KEY] place|cancel|decode|nonce ...")
    pure 0
  | .displayVersion =>
    IO.println "order-desk 0.1.0"
    pure 0
  | problem =>
    IO.eprintln ("error: " ++ problem.name?.getD "a quantity left its range")
    pure 2

/-- Carries a command line out. -/
def carryOut (line : CommandLine) : IO UInt32 := do
  let line := line.withKey (← IO.getEnv CliSession.keyVariable)
  let settings ← match line.config with
    | some path => readText? path
    | none => pure none
  let colours := (← (← IO.getStdout).isTty) && (← IO.getEnv "NO_COLOR").isNone
  let desk : Desk := { common := { now := ← wallClock } }
  let report ← (line.run (fun _ => settings) colours).perform (← NodeLine.connect) desk
  IO.print report.printed
  match report.result with
  | .ok _ => pure 0
  | .error fault =>
    IO.eprintln ("Error: " ++ fault.text)
    pure 1

end OrderDesk

/-- Runs the command of a command line. -/
def main (args : List String) : IO UInt32 := do
  match OrderDesk.CommandLine.read args with
  | .ok line => OrderDesk.carryOut line
  | .error problem => OrderDesk.refuse problem
