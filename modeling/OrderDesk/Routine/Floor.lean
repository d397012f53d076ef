import OrderDesk.Routine.Run

/-!
# `OrderDesk.Routine.Floor` — several operations at once

Desks that share a wallet stand on one floor. Operations take turns: each goes on until it finishes,
waits for the wallet's lock, pauses, or asks a question that is not answered at once. The lock goes to
those who wait for it in the order of their coming. When nobody can go on, the clock moves to the end
of the earliest pause.

An operation that is given up leaves its place in the line, gives its lock back, and frees the
identifier it reserved unless the placement was already sent.

## Contents
- `Floor` and `Outside`: the shared state and who answers.
- `Progress`: where an operation stands; `Floor.advance`: its next turn.
- `Floor.giveUp`: the end of an operation that is not finished.
- `Floor.join`: all operations to their ends.
-/

namespace OrderDesk

/-- An outside that answers at once, except for questions that take their asker's turn. -/
structure Outside (σ : Type) where
  reply : σ → (r : Request) → r.Reply × σ
  takesTurn : Request → Bool := fun _ => false

/-- Desks over a common state, the lines for the wallets' locks, and the outside. The head of a line
has the lock. -/
structure Floor (σ : Type) where
  common : Common := {}
  books : List Book := []
  lines : List (Address × List Nat) := []
  outside : σ

/-- Where an operation stands. -/
inductive Progress (α : Type) where
  | ready (next : Routine α)
  | inLine (wallet : Address) (next : Routine α)
  | asleep (till : Instant) (next : Bool → Routine α)
  | asking (request : Request) (next : request.Reply → Routine α)
  | finished (value : α)
  | givenUp

/-- An operation in the hands of the floor. -/
structure Job (α : Type) where
  /-- Which desk it belongs to. -/
  desk : Nat
  progress : Progress α
  /-- Identifiers reserved for a placement not sent yet. -/
  reserved : List String := []
  /-- It is given up after its first turn. -/
  once : Bool := false

namespace Floor

variable {σ α : Type}

/-- One desk's state. -/
def desk (f : Floor σ) (i : Nat) : Desk := ⟨f.common, (f.books[i]?).getD {}⟩

/-- Puts one desk's state back. -/
def putDesk (f : Floor σ) (i : Nat) (d : Desk) : Floor σ :=
  { f with common := d.common, books := f.books.set i d.book }

/-- Who waits for a wallet's lock, its holder first. -/
def line (f : Floor σ) (wallet : Address) : List Nat :=
  ((f.lines.find? (·.1 == wallet)).map (·.2)).getD []

def putLine (f : Floor σ) (wallet : Address) (line : List Nat) : Floor σ :=
  { f with lines := (wallet, line) :: f.lines.filter (·.1 != wallet) }

/-- The identifiers reserved after a step. -/
def reservedAfter (reserved : List String) : (e : Effect) → e.Answer → List String
  | .reserve record, .ok () => record.id :: reserved
  | .release id, _ => reserved.filter (· != id)
  | .broadcast id _, _ => reserved.filter (· != id)
  | _, _ => reserved

/-- One turn of operation `me` on desk `i`. -/
def advance (out : Outside σ) (me i : Nat) :
    Routine α → List String → Floor σ → Progress α × List String × Floor σ
  | .done a, reserved, f => (.finished a, reserved, f)
  | .act e next, reserved, f =>
    let (answer, desk) := e.apply (f.desk i)
    advance out me i (next answer) (reservedAfter reserved e answer) (f.putDesk i desk)
  | .ask r next, reserved, f =>
    if out.takesTurn r then (.asking r next, reserved, f)
    else
      let (reply, outside) := out.reply f.outside r
      advance out me i (next reply) reserved { f with outside }
  | .sleep d next, reserved, f => (.asleep (f.common.now.after d.asPause) next, reserved, f)
  | .lock wallet next, reserved, f =>
    let f := f.putLine wallet (f.line wallet ++ [me])
    if (f.line wallet).head? = some me then advance out me i next reserved f
    else (.inLine wallet next, reserved, f)
  | .unlock wallet next, reserved, f =>
    advance out me i next reserved (f.putLine wallet ((f.line wallet).filter (· != me)))

/-- The operation cannot go on: it is over, waits for a lock that another has, or its pause is not
over. Otherwise the step with which it goes on. -/
def goOn? (out : Outside σ) (me i : Nat) (f : Floor σ) :
    Progress α → Option (Routine α × Floor σ)
  | .ready next => some (next, f)
  | .inLine wallet next => if (f.line wallet).head? = some me then some (next, f) else none
  | .asleep till next =>
    if (f.desk i).book.stopping then some (next true, f)
    else if till ≤ f.common.now then some (next false, f) else none
  | .asking r next =>
    let (reply, outside) := out.reply f.outside r
    some (next reply, { f with outside })
  | .finished _ | .givenUp => none

/-- Ends operation `me` before its end. -/
def giveUp (f : Floor σ) (me : Nat) (job : Job α) : Job α × Floor σ :=
  let freed := job.reserved.foldl (fun f id => f.putDesk job.desk
    ((Effect.release id).apply (f.desk job.desk)).2) f
  let left := { freed with lines := freed.lines.map fun (w, l) => (w, l.filter (· != me)) }
  ({ job with progress := .givenUp, reserved := [] }, left)

/-- The job is over. -/
def isOver (job : Job α) : Bool :=
  match job.progress with
  | .finished _ | .givenUp => true
  | _ => false

/-- One turn of a job, if it can go on. The flag says whether it did. -/
def turn (out : Outside σ) (me : Nat) (job : Job α) (f : Floor σ) : Bool × Job α × Floor σ :=
  match f.goOn? out me job.desk job.progress with
  | none => (false, job, f)
  | some (next, f) =>
    let (progress, reserved, f) := advance out me job.desk next job.reserved f
    let job := { job with progress, reserved }
    if job.once && !isOver job then
      let (job, f) := f.giveUp me job
      (true, job, f)
    else (true, job, f)

/-- One turn of each job in order, up to the first whose outcome ends all. -/
def round (out : Outside σ) (ends : α → Bool) : (me : Nat) → List (Job α) → Floor σ →
    Bool × List (Job α) × Floor σ
  | _, [], f => (false, [], f)
  | me, job :: rest, f =>
    let (moved, job, f) := f.turn out me job
    match job.progress with
    | .finished a =>
      if ends a then (moved, job :: rest, f)
      else
        let (others, rest, f) := round out ends (me + 1) rest f
        (moved || others, job :: rest, f)
    | _ =>
      let (others, rest, f) := round out ends (me + 1) rest f
      (moved || others, job :: rest, f)

/-- The end of the earliest pause. -/
def nextWaking (jobs : List (Job α)) : Option Instant :=
  (jobs.filterMap fun job => match job.progress with
    | .asleep till _ => some till
    | _ => none).foldl (fun best till => match best with
      | some b => if b ≤ till then some b else some till
      | none => some till) none

/-- Gives up every job that is not over. -/
def giveUpAll : (me : Nat) → List (Job α) → Floor σ → List (Job α) × Floor σ
  | _, [], f => ([], f)
  | me, job :: rest, f =>
    let (job, f) := if isOver job then (job, f) else f.giveUp me job
    let (rest, f) := giveUpAll (me + 1) rest f
    (job :: rest, f)

/-- Some job's outcome ends all. -/
def anyEnds (ends : α → Bool) (jobs : List (Job α)) : Bool :=
  jobs.any fun job => match job.progress with
    | .finished a => ends a
    | _ => false

/-- Rounds until all jobs are over, one ends all, or none can ever go on. -/
def rounds (out : Outside σ) (ends : α → Bool) : (fuel : Nat) → List (Job α) → Floor σ →
    List (Job α) × Floor σ
  | 0, jobs, f => giveUpAll 0 jobs f
  | fuel + 1, jobs, f =>
    let (moved, jobs, f) := round out ends 0 jobs f
    if anyEnds ends jobs then giveUpAll 0 jobs f
    else if jobs.all isOver then (jobs, f)
    else if moved then rounds out ends fuel jobs f
    else match nextWaking jobs with
      | some till =>
        rounds out ends fuel jobs { f with common := { f.common with now := till } }
      | none => giveUpAll 0 jobs f

/-- Rounds after which an assembly of jobs is broken off. -/
def patience : Nat := 1000000000

/-- Runs jobs together. An outcome that `ends` all makes the others be given up. -/
def join (out : Outside σ) (ends : α → Bool) (jobs : List (Job α)) (f : Floor σ) :
    List (Job α) × Floor σ :=
  rounds out ends patience jobs f

end Floor
end OrderDesk
