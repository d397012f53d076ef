import OrderDesk.Routine.Basic

/-!
# `OrderDesk.Routine.Run` — one operation at a time

The meaning of an operation that runs alone: the outside answers its questions, time passes while it
is suspended, and the desk's state is carried from step to step. The wallet's lock is always free.

## Contents
- `Environment`: how the outside answers and what happens meanwhile.
- `Routine.run`: outcome, desk and outside after an operation.
-/

namespace OrderDesk

/-- What happens while an operation is suspended: time passes, and the desk may be told to stop. -/
structure Lapse where
  elapsed : Duration := ⟨0⟩
  stop : Bool := false
deriving DecidableEq, Repr, Inhabited

/-- The desk after a lapse. -/
def Desk.pass (d : Desk) (lapse : Lapse) : Desk where
  common := { d.common with now := d.common.now.after lapse.elapsed }
  book := { d.book with stopping := d.book.stopping || lapse.stop }

/-- An outside with states of type `ε`. -/
structure Environment (ε : Type) where
  reply : ε → (r : Request) → r.Reply × Lapse × ε
  sleep : ε → Duration → Lapse × ε

namespace Routine

variable {ε α β : Type}

/-- Runs an operation alone. -/
def run (env : Environment ε) : Routine α → Desk → ε → α × Desk × ε
  | done a, desk, out => (a, desk, out)
  | act e next, desk, out =>
    let (answer, desk) := e.apply desk
    (next answer).run env desk out
  | ask r next, desk, out =>
    let (reply, lapse, out) := env.reply out r
    (next reply).run env (desk.pass lapse) out
  | sleep d next, desk, out =>
    let (lapse, out) := env.sleep out d
    let desk := desk.pass lapse
    (next desk.book.stopping).run env desk out
  | lock _ next, desk, out => next.run env desk out
  | unlock _ next, desk, out => next.run env desk out

/-- One operation after another runs in the state that the first leaves. -/
theorem run_bind (env : Environment ε) (p : Routine α) (f : α → Routine β) (desk : Desk) (out : ε) :
    (p.bind f).run env desk out =
      (f (p.run env desk out).1).run env (p.run env desk out).2.1 (p.run env desk out).2.2 := by
  induction p generalizing desk out with
  | done a => rfl
  | act e next ih => simp only [bind, run, ih]
  | ask r next ih => simp only [bind, run, ih]
  | sleep d next ih => simp only [bind, run, ih]
  | lock w next ih => simp only [bind, run, ih]
  | unlock w next ih => simp only [bind, run, ih]

end Routine
end OrderDesk
