import OrderDesk.Desk.State
import OrderDesk.Routine.Request

/-!
# `OrderDesk.Routine.Basic` — operations as trees of steps

An operation is a tree: at each node a step on the desk's state, a question, a pause or the wallet's
lock, and a branch for every answer. What the outside does, and what other operations do in between,
is not part of the tree. Questions, pauses and waiting for a lock are the places where an operation
is suspended; there it may also be given up.

## Contents
- `Routine` with its monad structure, and the monad laws.
- `Attempt`: a routine that can fail, with the steps as functions of their own.
- `Attempt.locked`: a section under the wallet's lock, which is left however the section ends.
-/

namespace OrderDesk

/-- An operation with an outcome of type `α`. -/
inductive Routine (α : Type) where
  | done (value : α)
  | act (effect : Effect) (next : effect.Answer → Routine α)
  | ask (request : Request) (next : request.Reply → Routine α)
  /-- A pause. The answer is whether the desk was told to stop before its end. -/
  | sleep (duration : Duration) (next : Bool → Routine α)
  | lock (wallet : Address) (next : Routine α)
  | unlock (wallet : Address) (next : Routine α)

namespace Routine

/-- One operation after another. -/
def bind {α β : Type} : Routine α → (α → Routine β) → Routine β
  | done a, f => f a
  | act e k, f => act e fun x => bind (k x) f
  | ask r k, f => ask r fun x => bind (k x) f
  | sleep d k, f => sleep d fun x => bind (k x) f
  | lock w k, f => lock w (bind k f)
  | unlock w k, f => unlock w (bind k f)

instance : Monad Routine where
  pure := done
  bind := bind

@[simp] theorem bind_done {α : Type} (p : Routine α) : bind p done = p := by
  induction p with
  | done a => rfl
  | act e k ih => simp [bind, ih]
  | ask r k ih => simp [bind, ih]
  | sleep d k ih => simp [bind, ih]
  | lock w k ih => simp [bind, ih]
  | unlock w k ih => simp [bind, ih]

theorem bind_assoc {α β γ : Type} (p : Routine α) (f : α → Routine β) (g : β → Routine γ) :
    bind (bind p f) g = bind p fun a => bind (f a) g := by
  induction p with
  | done a => rfl
  | act e k ih => simp [bind, ih]
  | ask r k ih => simp [bind, ih]
  | sleep d k ih => simp [bind, ih]
  | lock w k ih => simp [bind, ih]
  | unlock w k ih => simp [bind, ih]

instance : LawfulMonad Routine :=
  LawfulMonad.mk' Routine
    (fun p => bind_done p)
    (fun _ _ => rfl)
    (fun p f g => bind_assoc p f g)

end Routine

/-- An operation that may fail. -/
abbrev Attempt (α : Type) : Type := ExceptT Fault Routine α

namespace Attempt

/-- A step on the desk's state. -/
def act (e : Effect) : Attempt e.Answer := ExceptT.lift (.act e .done)

/-- A question, with its reply as it is. -/
def reply (r : Request) : Attempt r.Reply := ExceptT.lift (.ask r .done)

/-- Fails with an error of the desk. -/
def fail {α : Type} (e : DeskError) : Attempt α := throw (.error e)

/-- Ends without a verdict. -/
def breakdown {α : Type} (b : Breakdown) : Attempt α := throw (.breakdown b)

/-- A result that may be an error. -/
def ofExcept {α : Type} : Except DeskError α → Attempt α
  | .ok a => pure a
  | .error e => fail e

/-- A result that may be a contradiction. -/
def ofOutcome {α : Type} : Except Breakdown α → Attempt α
  | .ok a => pure a
  | .error b => breakdown b

/-- A result that may be a fault. -/
def ofFault {α : Type} : Except Fault α → Attempt α
  | .ok a => pure a
  | .error f => throw f

/-- A question whose error is the operation's. -/
def ask (r : Request) : Attempt r.Answer := do
  let result ← reply r
  ofExcept result

/-- The result of an operation, failures included. -/
def outcome {α : Type} (p : Attempt α) : Attempt (Except Fault α) := ExceptT.lift p.run

/-- A pause; the answer is whether the desk was told to stop. -/
def sleep (d : Duration) : Attempt Bool := ExceptT.lift (.sleep d .done)

/-- Waits until the wallet's lock is free and takes it. -/
def lock (wallet : Address) : Attempt Unit := ExceptT.lift (.lock wallet (.done ()))

/-- Gives the wallet's lock back. -/
def unlock (wallet : Address) : Attempt Unit := ExceptT.lift (.unlock wallet (.done ()))

/-- A section under the wallet's lock. -/
def locked {α : Type} (wallet : Address) (body : Attempt α) : Attempt α := do
  lock wallet
  let result ← outcome body
  unlock wallet
  ofFault result

/-- The time. -/
def now : Attempt Instant := act .now

/-- Whether the desk is to stop waiting. -/
def stopping : Attempt Bool := act .stopping

/-- The record of an order. -/
def order (id : String) : Attempt (Option OrderRecord) := act (.order id)

end Attempt
end OrderDesk
