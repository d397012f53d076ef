import OrderDesk.Proofs.Returning

/-!
# `OrderDesk.Proofs.CriticalSection` — a transaction that is awaited under the wallet's lock

A cancelling call, and a placement that is confirmed before its lock is given back, have one
transaction on its way at a time: from the taking of its nonce until it is refused or nobody looks for
its receipt any more. All that while the lock is not given back and no other nonce is taken.

## Contents
- `TransactionPhase` and `TransactionPhase.after`: when a transaction is on its way;
  `TransactionPhase.may`: what is left undone meanwhile.
- `…_transactionPhase`: the parts of operations that send and wait.
- `Connector.cancel_transactionPhase`, `Connector.place_transactionPhase`: whole calls.
-/

namespace OrderDesk

/-- How far an operation has come with a transaction that it awaits. -/
inductive TransactionPhase where
  /-- It has no transaction on its way. -/
  | idle
  /-- A nonce was taken for it, and the node has not answered for it yet. -/
  | begun
  /-- The node took it, and its receipt may still be looked up so many times. -/
  | awaited (hash : Hash) (left : Nat)
deriving DecidableEq

namespace TransactionPhase

/-- The node took the transaction. Without a number of look-ups it is not waited for. -/
def accepted (s : Sender) (hash : Hash) : TransactionPhase :=
  match s.poll.attempts? s.poll.timeout with
  | some attempts => awaited hash attempts
  | none => idle

/-- A look-up came to an end: the receipt was there, or there is one look-up less. -/
def lookedUp (hash : Hash) (left : Nat) : Except DeskError (Option Receipt) → TransactionPhase
  | .ok (some _) => idle
  | _ => if left ≤ 1 then idle else awaited hash (left - 1)

theorem lookedUp_of_missing {hash : Hash} {answer : Except DeskError (Option Receipt)} (rest : Nat)
    (missing : ∀ receipt, answer ≠ .ok (some receipt)) :
    lookedUp hash (rest + 1) answer = if rest = 0 then idle else awaited hash rest := by
  have less : lookedUp hash (rest + 1) answer =
      if rest + 1 ≤ 1 then idle else awaited hash (rest + 1 - 1) := by
    match answer, missing with
    | .error _, _ => rfl
    | .ok none, _ => rfl
    | .ok (some receipt), missing => exact absurd rfl (missing receipt)
  rw [less]
  by_cases last : rest = 0
  · rw [if_pos last, if_pos (by omega)]
  · rw [if_neg last, if_neg (by omega), Nat.add_sub_cancel]

/-- How an event changes the phase. It begins with a nonce. It ends when the node refuses the
transaction, when the receipt was seen or looked up for the last time, or when the desk is to stop;
and when the operation breaks down, over a gas limit out of range or a record that contradicts the
sending. -/
def after (s : Sender) : TransactionPhase → Event → TransactionPhase
  | idle, .did (.allocate _ _) (some _) => begun
  | begun, .told (.estimateGas _ _) (.ok estimate) =>
    if (s.gas.limitFor? estimate).isSome then begun else idle
  | begun, .told (.send tx) (.ok _) => accepted s tx.hash
  | begun, .told (.send _) (.error _) => idle
  | awaited hash left, .told (.receipt looked) reply =>
    if looked = hash then lookedUp hash left reply else awaited hash left
  | awaited _ _, .did .stopping true => idle
  | awaited _ _, .woke true => idle
  | awaited _ _, .did (.broadcast _ _) (.error _) => idle
  | phase, _ => phase

/-- What an operation may do while its transaction is on its way: send what it has begun with. The lock
is given back, and another nonce asked for and taken, while there is none. -/
def may (phase : TransactionPhase) : Event → Prop
  | .unlocked _ | .asked (.pendingNonce _) | .did (.allocate _ _) _ => phase = idle
  | .asked (.send _) => phase = begun
  | _ => True

/-- The watch over the transactions that an operation awaits. -/
def watch (s : Sender) : Watch TransactionPhase := Watch.tracking may (after s)

theorem watch_step {s : Sender} {phase : TransactionPhase} {ev : Event} {P : TransactionPhase → Prop} :
    (watch s).Step phase ev P ↔ may phase ev ∧ P (after s phase ev) :=
  Watch.tracking_step ..

/-- Nothing begins by what leaves the wallet alone. -/
theorem rests_idle (s : Sender) : (watch s).RestsAt idle := by
  intro ev off
  refine watch_step.2 ?_
  cases ev with
  | did e x => cases e <;> first | exact ⟨trivial, rfl⟩ | cases off
  | asked r => cases r <;> first | exact ⟨trivial, rfl⟩ | cases off
  | told r x => exact ⟨trivial, rfl⟩
  | slept d => exact ⟨trivial, rfl⟩
  | woke b => exact ⟨trivial, rfl⟩
  | queued a => cases off
  | locked a => cases off
  | unlocked a => cases off

end TransactionPhase

open Attempt TransactionPhase

/-! ### Sending -/

/-- A nonce was taken, or there is none. -/
theorem acquire_transactionPhase (s : Sender) :
    (Sender.acquire s.wallet).Safe (TransactionPhase.watch s)
      (Either (fun _ phase => phase = begun) (· = idle)) idle := by
  unfold Sender.acquire
  rw [safe_bind, safe_reply]
  refine watch_step.2 ⟨rfl, fun pending => watch_step.2 ⟨trivial, ?_⟩⟩
  show Safe _ _ _ idle
  rw [safe_bind, safe_act]
  intro d
  refine watch_step.2 ⟨rfl, ?_⟩
  cases (Effect.apply (.allocate s.wallet pending.toOption) d).1 with
  | some nonce => exact rfl
  | none => exact rfl

/-- A gas limit that cannot be told ends the phase. -/
theorem gasLimit_transactionPhase (s : Sender) (call : Call) :
    (s.gasLimit call).Safe (TransactionPhase.watch s)
      (Either (fun _ phase => phase = begun) (· = idle)) begun := by
  unfold Sender.gasLimit
  rw [safe_bind, safe_reply]
  refine watch_step.2 ⟨trivial, fun reply => watch_step.2 ⟨trivial, ?_⟩⟩
  cases reply with
  | error e => exact rfl
  | ok estimate =>
    show Onward _ _ _ _ (if (s.gas.limitFor? estimate).isSome then begun else idle)
    simp only [Onward]
    cases s.gas.limitFor? estimate with
    | some limit => exact rfl
    | none => exact rfl

/-- Asking for the gas price does not fail, and the phase goes on. -/
theorem gasPrice_transactionPhase (s : Sender) :
    s.gasPrice.Safe (TransactionPhase.watch s) (Either (fun _ phase => phase = begun) fun _ => False)
      begun := by
  unfold Sender.gasPrice
  rw [safe_bind, safe_act]
  intro d
  refine watch_step.2 ⟨trivial, ?_⟩
  cases (Effect.apply (.freshPrice s.gas.priceLifetime) d).1 with
  | some price => exact rfl
  | none =>
    show Safe _ _ (reply .gasPrice >>= _) begun
    rw [safe_bind, safe_reply]
    refine watch_step.2 ⟨trivial, fun reply => watch_step.2 ⟨trivial, ?_⟩⟩
    cases reply with
    | ok price =>
      show Safe _ _ (act (.keepPrice price) >>= _) begun
      rw [safe_bind, safe_act]
      exact fun d => watch_step.2 ⟨trivial, rfl⟩
    | error e => exact rfl

/-- The transaction is sent for which the nonce was taken, and awaited if the node takes it. -/
theorem submit_transactionPhase (s : Sender) (call : Call) (nonce : UInt64) :
    (s.submit call nonce).Safe (TransactionPhase.watch s)
      (Either (fun submitted phase => phase = accepted s submitted.hash) (· = idle)) begun := by
  unfold Sender.submit
  refine Safe.bind (gasLimit_transactionPhase s call) ?_ fun _ _ h => h
  rintro limit _ rfl
  refine Safe.bind (gasPrice_transactionPhase s) ?_ fun _ _ never => never.elim
  rintro price _ rfl
  rw [safe_bind, safe_reply]
  refine watch_step.2 ⟨rfl, fun reply => watch_step.2 ⟨trivial, ?_⟩⟩
  cases reply with
  | ok hash => exact rfl
  | error e => exact rfl

theorem sendNext_transactionPhase (s : Sender) (call : Call) :
    (s.sendNext call).Safe (TransactionPhase.watch s)
      (Either (fun submitted phase => phase = accepted s submitted.hash) (· = idle)) idle := by
  unfold Sender.sendNext
  refine Safe.bind (acquire_transactionPhase s) ?_ fun _ _ h => h
  rintro nonce _ rfl
  exact submit_transactionPhase s call nonce

/-! ### Waiting -/

/-- One look-up. If it is missed and more are left, the wait goes on with one less. -/
theorem lookUp_transactionPhase (s : Sender) (hash : Hash) (interval timeout : Duration) (rest : Nat)
    (onward : rest ≠ 0 → (pollReceipt hash interval timeout rest).Safe (TransactionPhase.watch s)
      (fun _ phase => phase = idle) (awaited hash rest)) :
    (pollReceipt hash interval timeout (rest + 1)).Safe (TransactionPhase.watch s)
      (fun _ phase => phase = idle) (awaited hash (rest + 1)) := by
  unfold pollReceipt Attempt.stopping
  rw [safe_bind]
  refine safe_act.2 fun d => watch_step.2 ⟨trivial, ?_⟩
  cases (Effect.apply .stopping d).1 with
  | true => exact rfl
  | false =>
    show Safe _ _ (reply (.receipt hash) >>= _) (awaited hash (rest + 1))
    rw [safe_bind, safe_reply]
    refine watch_step.2 ⟨trivial, fun answer => watch_step.2 ⟨trivial, ?_⟩⟩
    have looked : after s (awaited hash (rest + 1)) (.told (.receipt hash) answer) =
        lookedUp hash (rest + 1) answer := if_pos rfl
    show Onward _ _ _ _ (after s (awaited hash (rest + 1)) (.told (.receipt hash) answer))
    rw [looked]
    simp only [Onward]
    split
    · next receipt =>
      show Returns _ idle (if receipt.success then _ else _)
      split
      · exact returns_pure _
      · have offWallet := (revertReasonOf_minor receipt).mono fun _ h => h.aside.offWallet
        exact offWallet.returns_bind (rests_idle s) fun _ => returns_pure _
    · next missing =>
      -- What is left of the phase is what is left of the wait.
      rw [lookedUp_of_missing rest missing]
      by_cases last : rest = 0
      · rw [if_pos last, if_pos last]
        exact rfl
      · rw [if_neg last, if_neg last, safe_bind, safe_sleep]
        refine watch_step.2 ⟨trivial, fun stopped => watch_step.2 ⟨trivial, ?_⟩⟩
        cases stopped with
        | true => exact rfl
        | false => exact onward last

/-- **The wait ends the phase.** -/
theorem pollReceipt_transactionPhase (s : Sender) (hash : Hash) (interval timeout : Duration)
    (rest : Nat) :
    (pollReceipt hash interval timeout (rest + 1)).Safe (TransactionPhase.watch s)
      (fun _ phase => phase = idle) (awaited hash (rest + 1)) := by
  induction rest with
  | zero => exact lookUp_transactionPhase s hash interval timeout 0 fun more => absurd rfl more
  | succ rest ih => exact lookUp_transactionPhase s hash interval timeout (rest + 1) fun _ => ih

theorem confirm_transactionPhase (s : Sender) (hash : Hash) :
    (s.poll.confirm hash).Safe (TransactionPhase.watch s) (fun _ phase => phase = idle)
      (accepted s hash) := by
  unfold PollPolicy.confirm PollPolicy.confirmWithin accepted
  cases told : s.poll.attempts? s.poll.timeout with
  | some attempts =>
    obtain ⟨rest, rfl⟩ := PollPolicy.attempts?_pos told
    exact pollReceipt_transactionPhase s hash _ _ rest
  | none => exact rfl

/-! ### Sections under the lock -/

/-- A section that ends with no transaction on its way gives the lock back without one. -/
theorem locked_transactionPhase {α : Type} {s : Sender} {body : Attempt α}
    (h : body.Returns (TransactionPhase.watch s) idle) :
    (locked s.wallet body).Returns (TransactionPhase.watch s) idle := by
  unfold Returns
  rw [safe_locked]
  refine watch_step.2 ⟨trivial, watch_step.2 ⟨trivial, ?_⟩⟩
  refine h.mono ?_
  rintro r _ rfl
  exact watch_step.2 ⟨rfl, rfl⟩

theorem execute_transactionPhase (s : Sender) (call : Call) :
    (s.execute call).Returns (TransactionPhase.watch s) idle := by
  unfold Sender.execute
  refine locked_transactionPhase ?_
  refine Safe.bind (sendNext_transactionPhase s call) ?_ fun _ _ h => h
  rintro submitted _ rfl
  refine Safe.bind (confirm_transactionPhase s submitted.hash) ?_ fun _ _ h => h
  rintro confirmation _ rfl
  exact returns_pure _

namespace Connector

variable (c : Connector)

/-- A placement that was sent is recorded while it is awaited. -/
theorem broadcast_transactionPhase (id : String) (placement : Placement) :
    (c.broadcast id placement).Safe (TransactionPhase.watch c.sender)
      (Either (fun submitted phase => phase = accepted c.sender submitted.hash) (· = idle)) idle := by
  unfold Connector.broadcast
  have sent := countRefusal_either (rests_idle c.sender)
    (sendNext_transactionPhase c.sender placement.call)
  refine Safe.bind (orRelease_either (rests_idle c.sender) sent) ?_ fun _ _ h => h
  rintro submitted _ rfl
  rw [safe_bind]
  refine safe_act.2 fun d => watch_step.2 ⟨trivial, ?_⟩
  cases (Effect.apply (.broadcast id submitted.hash) d).1 with
  | ok record =>
    have recorded (phase : TransactionPhase) :
        after c.sender phase (.did (.broadcast id submitted.hash) (.ok record)) = phase := by
      cases phase <;> rfl
    have counted (phase : TransactionPhase) :
        after c.sender phase (.did (.count .submitted) ()) = phase := by
      cases phase <;> rfl
    rw [recorded]
    show Safe _ _ (act (.count .submitted) >>= fun _ => pure submitted) _
    rw [safe_bind]
    exact safe_act.2 fun d => watch_step.2 ⟨trivial, counted _⟩
  | error b =>
    have ended : after c.sender (accepted c.sender submitted.hash)
        (.did (.broadcast id submitted.hash) (.error b)) = idle := by
      unfold accepted
      split <;> rfl
    exact ended

theorem handOver_transactionPhase (inLock : c.confirmInLock = true) (id : String)
    (placement : Placement) :
    (c.handOver id placement).Returns (TransactionPhase.watch c.sender) idle := by
  unfold handOver
  simp only [inLock, if_true]
  refine Safe.bind (c.broadcast_transactionPhase id placement) ?_ fun _ _ h => h
  rintro submitted _ rfl
  rw [safe_bind, safe_outcome]
  refine (confirm_transactionPhase c.sender submitted.hash).mono ?_
  rintro result _ rfl
  exact returns_pure _

/-- **A cancelling call** has none of its transactions on its way when it gives the lock back. -/
theorem cancel_transactionPhase (id : String) :
    (c.cancel id).Returns (TransactionPhase.watch c.sender) idle :=
  cancel_returns (rests_idle c.sender) (execute_transactionPhase c.sender) id

/-- **A placement that is confirmed before its lock is given back** has none then, either. -/
theorem place_transactionPhase (inLock : c.confirmInLock = true) (id : String) (order : OrderRequest) :
    (c.place id order).Returns (TransactionPhase.watch c.sender) idle :=
  place_returns (rests_idle c.sender)
    (fun placement => locked_transactionPhase (c.handOver_transactionPhase inLock id placement)) order

end Connector
end OrderDesk
