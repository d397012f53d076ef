import OrderDesk.Routine.Run
import OrderDesk.Rpc.Decode

/-!
# `OrderDesk.Rehearsal.RecordedNode` — a node that answers from a list

The answers are given in order, whatever is asked; when they are used up, every question is refused.
A node may also be out of reach, so that nothing gets to it.

## Contents
- `RecordedNode`, `RecordedNode.reply`.
- `RecordedNode.environment`: the node for one operation.
-/

namespace OrderDesk

/-- A node with answers in store. -/
structure RecordedNode where
  answers : List RpcResponse := []
  reachable : Bool := true
  /-- What has been asked, oldest first. -/
  asked : List RpcRequest := []
deriving Inhabited

namespace RecordedNode

/-- Answers a question. Questions that are not for a node get no verdict. -/
def reply (n : RecordedNode) (r : Request) : r.Reply × RecordedNode :=
  match r.rpc? with
  | none => (.error (.invalidRequest "not a question for a node"), n)
  | some request =>
    if n.reachable then
      (r.decode (n.answers.headD .unscripted),
       { n with answers := n.answers.tail, asked := n.asked ++ [request] })
    else (r.unanswered .unreachable, n)

/-- The node for one operation: answers take no time. -/
def environment : Environment RecordedNode where
  reply n r :=
    let (reply, n) := n.reply r
    (reply, {}, n)
  sleep n d := ({ elapsed := d.asPause }, n)

end RecordedNode
end OrderDesk
