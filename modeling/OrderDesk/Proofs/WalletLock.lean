import OrderDesk.Proofs.Returning

/-!
# `OrderDesk.Proofs.WalletLock` — the wallet's lock and the nonces taken under it

Whatever is called on a desk, the wallet's lock is held from before its pending count is asked for
until after the transaction is handed over, and a transaction is handed over under the nonce that was
taken for it. An operation's phase says how far it has come with the lock and with a nonce.

## Contents
- `LockPhase`, and `LockPhase.may`: how far an operation has come, and what it may do next.
- `…_lockPhase`: the parts of the operations keep to it, down to the sections under the lock.
- `Connector.perform_lockPhase`: so does every call of a desk.
-/

namespace OrderDesk

/-- How far an operation has come with the wallet's lock. -/
inductive LockPhase where
  /-- It has not come for the lock. -/
  | away
  | waiting
  /-- It has the lock and no nonce to use. -/
  | held
  /-- It was told the pending count, or that there is none to be had. -/
  | counted (count : Option UInt64)
  /-- It has a nonce that no transaction was sent under. -/
  | numbered (count : Option UInt64) (nonce : UInt64)
deriving DecidableEq

namespace LockPhase

/-- The operation has the wallet's lock. -/
def holds : LockPhase → Bool
  | away | waiting => false
  | held | counted _ | numbered _ _ => true

/-- How an event changes the phase. -/
def after : LockPhase → Event → LockPhase
  | _, .queued _ => waiting
  | _, .locked _ => held
  | _, .unlocked _ => away
  | _, .told (.pendingNonce _) reply => counted reply.toOption
  | counted count, .did (.allocate _ _) (some nonce) => numbered count nonce
  | _, .asked (.send _) => held
  | phase, _ => phase

/-- What an operation of a sender may do with a wallet: come for the lock of its own wallet once at a
time, ask for the count and take a nonce while it has it, and send the transaction that it signed
under that nonce. -/
def may (s : Sender) (phase : LockPhase) : Event → Prop
  | .queued a => a = s.wallet ∧ phase = away
  | .locked a => a = s.wallet ∧ phase = waiting
  | .unlocked a => a = s.wallet ∧ phase.holds = true
  | .asked (.pendingNonce a) => a = s.wallet ∧ phase = held
  | .told (.pendingNonce _) _ => phase = held
  | .did (.allocate a pending) _ => a = s.wallet ∧ phase = counted pending
  | .asked (.send tx) =>
    tx = tx.request.sign s.key ∧ tx.request.sender = s.wallet ∧
      ∃ count, phase = numbered count tx.request.nonce
  | _ => True

/-- The watch over an operation's dealings with its sender's wallet. -/
def watch (s : Sender) : Watch LockPhase := Watch.tracking (may s) after

theorem watch_step {s : Sender} {phase : LockPhase} {ev : Event} {P : LockPhase → Prop} :
    (watch s).Step phase ev P ↔ may s phase ev ∧ P (after phase ev) :=
  Watch.tracking_step ..

/-- What leaves the wallet alone leaves the phase as it is. -/
theorem rests (s : Sender) (phase : LockPhase) : (watch s).RestsAt phase := by
  intro ev h
  refine watch_step.2 ?_
  cases ev with
  | did e x => cases e <;> first | exact ⟨trivial, by cases phase <;> rfl⟩ | cases h
  | asked r => cases r <;> first | exact ⟨trivial, by cases phase <;> rfl⟩ | cases h
  | told r x => cases r <;> first | exact ⟨trivial, by cases phase <;> rfl⟩ | cases h
  | slept d => exact ⟨trivial, by cases phase <;> rfl⟩
  | woke b => exact ⟨trivial, by cases phase <;> rfl⟩
  | queued a => cases h
  | locked a => cases h
  | unlocked a => cases h

/-- What is neither coming for a lock nor giving it back does not lose it. -/
theorem holds_after {phase : LockPhase} {ev : Event} (inHand : phase.holds = true)
    (queued : ∀ wallet, ev ≠ .queued wallet) (unlocked : ∀ wallet, ev ≠ .unlocked wallet) :
    (phase.after ev).holds = true := by
  have kept (same : phase.after ev = phase) : (phase.after ev).holds = true :=
    (congrArg holds same).trans inHand
  cases ev with
  | queued wallet => exact absurd rfl (queued wallet)
  | unlocked wallet => exact absurd rfl (unlocked wallet)
  | locked wallet => cases phase <;> rfl
  | did e x =>
    cases e with
    | allocate wallet pending =>
      cases x with
      | some nonce => cases phase <;> first | rfl | cases inHand
      | none => exact kept (by cases phase <;> rfl)
    | _ => exact kept (by cases phase <;> rfl)
  | asked r =>
    cases r with
    | send tx => cases phase <;> rfl
    | _ => exact kept (by cases phase <;> rfl)
  | told r x =>
    cases r with
    | pendingNonce wallet => cases phase <;> rfl
    | _ => exact kept (by cases phase <;> rfl)
  | slept d => exact kept (by cases phase <;> rfl)
  | woke b => exact kept (by cases phase <;> rfl)

end LockPhase

open Attempt LockPhase

/-! ### Every part keeps to what its phase allows -/

/-- A part that leaves the wallet alone ends with the phase it began with. -/
theorem lockPhase_offWallet {α : Type} {s : Sender} {p : Attempt α} {phase : LockPhase}
    {Q : Except Fault α → LockPhase → Prop} (h : p.Only Event.OffWallet) (hQ : ∀ r, Q r phase) :
    p.Safe (LockPhase.watch s) Q phase :=
  h.safe (rests s phase) hQ

/-- After a part that leaves the wallet alone, an operation goes on with the phase it had. -/
theorem lockPhase_after {α β : Type} {s : Sender} {p : Attempt α} {f : α → Attempt β}
    {phase : LockPhase} {Q : Except Fault β → LockPhase → Prop} (h : p.Only Event.OffWallet)
    (stop : ∀ fault, Q (.error fault) phase) (next : ∀ a, (f a).Safe (LockPhase.watch s) Q phase) :
    (p >>= f).Safe (LockPhase.watch s) Q phase :=
  h.followed (rests s phase) stop next

/-- Taking a nonce under the lock: the operation then has that nonce, or still none. -/
theorem acquire_lockPhase (s : Sender) :
    (Sender.acquire s.wallet).Safe (LockPhase.watch s)
      (fun
        | .ok nonce, phase => ∃ count, phase = numbered count nonce
        | .error _, phase => phase.holds = true) held := by
  unfold Sender.acquire
  rw [safe_bind, safe_reply]
  refine watch_step.2 ⟨⟨rfl, rfl⟩, fun pending => watch_step.2 ⟨rfl, ?_⟩⟩
  show Safe _ _ _ (counted pending.toOption)
  rw [safe_bind, safe_act]
  intro d
  refine watch_step.2 ⟨⟨rfl, rfl⟩, ?_⟩
  cases (Effect.apply (.allocate s.wallet pending.toOption) d).1 with
  | some nonce => exact ⟨pending.toOption, rfl⟩
  | none => rfl

/-- Sending under the nonce that the operation has. -/
theorem submit_lockPhase (s : Sender) (call : Call) (nonce : UInt64) (count : Option UInt64) :
    (s.submit call nonce).Safe (LockPhase.watch s) (fun _ phase => phase.holds = true)
      (numbered count nonce) := by
  unfold Sender.submit
  refine lockPhase_after ((gasLimit_minor s call).mono fun _ h => h.aside.offWallet) (fun _ => rfl) ?_
  intro gasLimit
  refine lockPhase_after ((gasPrice_minor s).mono fun _ h => h.aside.offWallet) (fun _ => rfl) ?_
  intro gasPrice
  rw [safe_bind, safe_reply]
  refine watch_step.2 ⟨⟨rfl, rfl, count, rfl⟩, fun accepted => watch_step.2 ⟨trivial, ?_⟩⟩
  cases accepted with
  | ok hash => exact rfl
  | error e => exact rfl

theorem sendNext_lockPhase (s : Sender) (call : Call) :
    (s.sendNext call).Safe (LockPhase.watch s) (fun _ phase => phase.holds = true) held := by
  unfold Sender.sendNext
  refine Safe.bind (acquire_lockPhase s) ?_ ?_
  · rintro nonce _ ⟨count, rfl⟩
    exact submit_lockPhase s call nonce count
  · exact fun fault phase holds => holds

/-- A section under the wallet's lock begins and ends away from it. -/
theorem locked_lockPhase {α : Type} {s : Sender} {body : Attempt α}
    (h : body.Safe (LockPhase.watch s) (fun _ phase => phase.holds = true) held) :
    (locked s.wallet body).Returns (LockPhase.watch s) away := by
  unfold Returns
  rw [safe_locked]
  refine watch_step.2 ⟨⟨rfl, rfl⟩, watch_step.2 ⟨⟨rfl, rfl⟩, ?_⟩⟩
  refine h.mono fun r phase holds => ?_
  exact watch_step.2 ⟨⟨rfl, holds⟩, rfl⟩

theorem execute_lockPhase (s : Sender) (call : Call) :
    (s.execute call).Returns (LockPhase.watch s) away := by
  unfold Sender.execute
  refine locked_lockPhase ?_
  refine Safe.bind (sendNext_lockPhase s call) ?_ fun _ _ h => h
  intro submitted phase holds
  refine lockPhase_after (confirm_offWallet _ _) (fun _ => holds) ?_
  intro confirmation
  exact holds

/-! ### Calls of a desk -/

namespace Connector

variable (c : Connector)

/-- Giving a reservation up leaves the phase as the body left it. -/
theorem orRelease_lockPhase {α : Type} {s : Sender} {id : String} {body : Attempt α} {phase : LockPhase}
    {P : LockPhase → Prop} (h : body.Safe (LockPhase.watch s) (fun _ g => P g) phase) :
    (orRelease id body).Safe (LockPhase.watch s) (fun _ g => P g) phase := by
  unfold orRelease
  rw [safe_bind, safe_outcome]
  refine h.mono fun result g hg => ?_
  cases result with
  | ok a => exact hg
  | error fault =>
    show Safe _ _ (act (.release id) >>= fun _ => throw fault) g
    refine Safe.bind (R := fun _ g' => P g')
      (lockPhase_offWallet (only_act.2 fun _ => rfl) fun _ => hg) ?_ fun _ _ h => h
    exact fun _ _ h => h

theorem countRefusal_lockPhase {α : Type} {s : Sender} {body : Attempt α} {phase : LockPhase}
    {P : LockPhase → Prop} (h : body.Safe (LockPhase.watch s) (fun _ g => P g) phase) :
    (countRefusal body).Safe (LockPhase.watch s) (fun _ g => P g) phase := by
  unfold countRefusal
  rw [safe_bind, safe_outcome]
  refine h.mono fun result g hg => ?_
  cases result with
  | ok a => exact hg
  | error fault =>
    cases fault with
    | breakdown b => exact hg
    | error e =>
      refine lockPhase_offWallet (Only.bind (only_act.2 fun _ => rfl) fun _ => ?_) fun _ => hg
      exact Only.bind (only_act.2 fun _ => rfl) fun _ => only_fail e

theorem broadcast_lockPhase (id : String) (placement : Placement) :
    (c.broadcast id placement).Safe (LockPhase.watch c.sender) (fun _ phase => phase.holds = true)
      held := by
  unfold Connector.broadcast
  refine Safe.bind (orRelease_lockPhase (countRefusal_lockPhase (sendNext_lockPhase c.sender _))) ?_
    fun _ _ h => h
  intro submitted phase holds
  refine lockPhase_offWallet (Only.bind (only_act.2 fun _ => rfl) fun result => ?_) fun _ => holds
  refine Only.bind (only_ofOutcome.2 (.offWallet _)) fun _ => ?_
  exact Only.bind (only_act.2 fun _ => rfl) fun _ => only_pure _

theorem handOver_lockPhase (id : String) (placement : Placement) :
    (c.handOver id placement).Safe (LockPhase.watch c.sender) (fun _ phase => phase.holds = true)
      held := by
  unfold handOver
  refine Safe.bind (c.broadcast_lockPhase id placement) ?_ fun _ _ h => h
  intro submitted phase holds
  split
  -- The receipt is awaited with the lock in hand.
  · exact lockPhase_offWallet (Only.caught (OrderDesk.confirm_offWallet _ _) fun _ _ => only_pure _)
      fun _ => holds
  · exact holds

/-- **Every call of a desk keeps to what its phase allows**, and ends without the lock. -/
theorem perform_lockPhase (op : Operation) :
    (c.perform op).Returns (LockPhase.watch c.sender) away := by
  have aside := rests c.sender away
  cases op with
  | place id order =>
    have sent (placement : Placement) := locked_lockPhase (c.handOver_lockPhase id placement)
    exact (place_returns aside sent order).bind fun _ => returns_pure _
  | cancel id =>
    exact (cancel_returns aside (execute_lockPhase c.sender) id).bind fun _ => returns_pure _
  | confirm id => exact (confirm_offWallet c id).returns_bind aside fun _ => returns_pure _
  | adopt id pair side hash orderId =>
    exact (adopt_offWallet c id pair side hash orderId).returns_bind aside fun _ => returns_pure _

end Connector
end OrderDesk
