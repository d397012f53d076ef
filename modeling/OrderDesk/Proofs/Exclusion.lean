import Mathlib.Data.List.Induction
import OrderDesk.Proofs.CallLogs
import OrderDesk.Proofs.CancelLog
import OrderDesk.Proofs.CriticalSection
import OrderDesk.Proofs.NonceOrder

/-!
# `OrderDesk.Proofs.Exclusion` — one transaction of a wallet at a time

Several desks of one wallet are called in any order of their steps. While a cancelling call, or a
placement that is confirmed before its lock is given back, has a transaction on its way, it has the
wallet's lock: no other call asks for a nonce, takes one or sends. Calls that need no transaction, and
a cancellation that still has to learn its order's number, go on whoever has the lock.

## Contents
- `Service`, `Connector.attend`, `Sender.onFloor`: everything that is called on the desks of a wallet.
- `TransactionPhase.held_step`, `holds_of_txPhase`: a transaction is on its way with the lock in hand.
- `Connector.Follows`, `Connector.attend_follows`: what the log of each call keeps to.
- `Scene.Unhindered`: where the lines for the locks make no difference.
- `Scene.Exclusive`, and `Sender.exclusive`: all this in every run of the desks.
-/

namespace OrderDesk

open Attempt

/-! ### Desks of one wallet -/

/-- Everything that is called on a desk: the calls that change orders, and looks at them. -/
inductive Service where
  | perform (op : Operation)
  | status (id : String)
  | orders

/-- What a call answers. -/
inductive Served where
  | achieved (achieved : Achieved)
  | status (record : Option OrderRecord)
  | orders (records : List OrderRecord)

namespace Service

/-- The call may send transactions. -/
def sends : Service → Bool
  | perform (.place _ _) | perform (.cancel _) => true
  | perform (.confirm _) | perform (.adopt ..) | status _ | orders => false

/-- The call waits for its transactions before it gives the wallet's lock back. -/
def awaits (inLock : Bool) : Service → Bool
  | perform (.cancel _) => true
  | perform (.place _ _) => inLock
  | _ => false

end Service

namespace Connector

/-- The operation for a call. -/
def attend (c : Connector) : Service → Attempt Served
  | .perform op => .achieved <$> c.perform op
  | .status id => .status <$> Attempt.order id
  | .orders => .orders <$> Attempt.act .orders

/-- The same desk with a sender's wallet. -/
def forWallet (c : Connector) (s : Sender) : Connector :=
  { c with sender := { c.sender with key := s.key, wallet := s.wallet } }

end Connector

/-- Calls on the desks of a wallet, each with the number of its desk. Desks have terms of their own,
for gas and for waiting among them. -/
def Sender.onFloor (s : Sender) (desks : Nat → Connector) (call : Nat × Service) :
    Nat × Routine (Except Fault Served) :=
  (call.1, (((desks call.1).forWallet s).attend call.2).run)

/-! ### A transaction is on its way with the lock in hand -/

/-- **An operation with a transaction on its way has the lock.** It takes a nonce under the lock, and
gives the lock back without one. -/
theorem TransactionPhase.held_step {s terms : Sender} {lockPhase : LockPhase}
    {txPhase : TransactionPhase} {ev : Event} (held : txPhase ≠ .idle → lockPhase.holds = true)
    (locks : LockPhase.may s lockPhase ev) (kept : txPhase.may ev)
    (goes : TransactionPhase.after terms txPhase ev ≠ .idle) :
    (lockPhase.after ev).holds = true := by
  by_cases idle : txPhase = .idle
  · -- Only with a nonce is a transaction begun, and it is taken under the lock.
    subst idle
    cases ev with
    | did e x =>
      cases e with
      | allocate wallet pending =>
        cases x with
        | some nonce =>
          obtain ⟨-, counted⟩ : wallet = s.wallet ∧ lockPhase = .counted pending := locks
          rw [counted]
          rfl
        | none => exact absurd rfl goes
      | _ => exact absurd rfl goes
    | _ => exact absurd rfl goes
  · have holds := held idle
    refine LockPhase.holds_after holds ?_ ?_
    · rintro wallet rfl
      obtain ⟨-, away⟩ : wallet = s.wallet ∧ lockPhase = .away := locks
      rw [away] at holds
      cases holds
    · rintro wallet rfl
      exact idle kept

theorem holds_of_txPhase {s terms : Sender} {log : List Event}
    (locks : Respects .away (LockPhase.may s) LockPhase.after log)
    (kept : Respects .idle TransactionPhase.may (TransactionPhase.after terms) log)
    (goes : log.foldl (TransactionPhase.after terms) .idle ≠ .idle) :
    (log.foldl LockPhase.after .away).holds = true := by
  induction log using List.reverseRecOn with
  | nil => exact absurd rfl goes
  | append_singleton log ev ih =>
    have before : log <+: log ++ [ev] := List.prefix_append _ _
    have earlier := ih (locks.shorter before) (kept.shorter before)
    rw [List.foldl_append] at goes ⊢
    exact TransactionPhase.held_step earlier (locks log ev (List.prefix_refl _))
      (kept log ev (List.prefix_refl _)) goes

/-! ### What calls keep to -/

/-- The log leaves the wallet alone up to where it meets a condition, or as a whole. -/
def LedBy (known : List Event → Prop) (log : List Event) : Prop :=
  ∃ first rest, log = first ++ rest ∧ (∀ ev ∈ first, ev.OffWallet) ∧ (rest = [] ∨ known first)

namespace LedBy

variable {known : List Event → Prop} {log : List Event} {ev : Event}

theorem of_off (off : ∀ ev ∈ log, ev.OffWallet) : LedBy known log :=
  ⟨log, [], (List.append_nil _).symm, off, .inl rfl⟩

theorem of_known {rest : List Event} (off : ∀ ev ∈ log, ev.OffWallet) (knows : known log) :
    LedBy known (log ++ rest) :=
  ⟨log, rest, rfl, off, .inr knows⟩

theorem cons {known' : List Event → Prop} (h : LedBy known' log) (off : ev.OffWallet)
    (knows : ∀ first, known' first → known (ev :: first)) : LedBy known (ev :: log) := by
  obtain ⟨first, rest, rfl, others, led⟩ := h
  exact ⟨ev :: first, rest, rfl, List.forall_mem_cons.2 ⟨off, others⟩, led.imp_right (knows first)⟩

theorem concat (h : LedBy known log) (off : ev.OffWallet) : LedBy known (log ++ [ev]) := by
  obtain ⟨first, rest, rfl, others, led⟩ := h
  rcases led with rfl | knows
  · rw [List.append_nil]
    refine of_off fun last mem => ?_
    rcases List.mem_append.1 mem with mem | mem
    · exact others last mem
    · exact List.mem_singleton.1 mem ▸ off
  · rw [List.append_assoc]
    exact of_known others knows

/-- An event that has to do with the wallet comes after the condition was met. -/
theorem off_or (h : LedBy known log) (mono : ∀ first longer, first ⊆ longer → known first → known longer)
    {before : List Event} (within : before ++ [ev] <+: log) : ev.OffWallet ∨ known before := by
  obtain ⟨first, rest, rfl, off, led⟩ := h
  have inFirst (short : before ++ [ev] <+: first) : ev.OffWallet ∨ known before :=
    .inl (off ev (short.subset (by simp)))
  rcases led with rfl | knows
  · exact inFirst (by rwa [List.append_nil] at within)
  · rcases List.prefix_or_prefix_of_prefix within (List.prefix_append first rest) with short | long
    · exact inFirst short
    · rcases List.prefix_concat_iff.1 long with rfl | long
      · exact inFirst (List.prefix_refl _)
      · exact .inr (mono _ _ long.subset knows)

end LedBy

namespace Connector

variable (c : Connector)

/-- The log shows how the number of the order to cancel was learnt. -/
def Numbered (id : String) (log : List Event) : Prop :=
  ∃ record number, .did (.order id) (some record) ∈ log ∧ c.cancelDesk.Knows record log number

/-- What the log of a call keeps to, from its first event on. -/
structure Follows (service : Service) (log : List Event) : Prop where
  lockPhase : Respects .away (LockPhase.may c.sender) LockPhase.after log
  txPhase : service.awaits c.confirmInLock = true →
    Respects .idle TransactionPhase.may (TransactionPhase.after c.sender) log
  aside : service.sends = false → ∀ ev ∈ log, ev.OffWallet
  /-- A cancellation turns to the wallet when it knows which order to cancel. -/
  numbered : ∀ id before ev, service = .perform (.cancel id) → before ++ [ev] <+: log →
    ev.OffWallet ∨ c.Numbered id before

theorem attend_lockPhase (service : Service) :
    (c.attend service).Returns (LockPhase.watch c.sender) .away := by
  have rests := LockPhase.rests c.sender .away
  cases service with
  | perform op => exact (c.perform_lockPhase op).bind fun _ => returns_pure _
  | status id => exact (only_act.2 fun _ => rfl).returns_bind rests fun _ => returns_pure _
  | orders => exact (only_act.2 fun _ => rfl).returns_bind rests fun _ => returns_pure _

theorem attend_transactionPhase {service : Service} (awaits : service.awaits c.confirmInLock = true) :
    (c.attend service).Returns (TransactionPhase.watch c.sender) .idle := by
  cases service with
  | perform op =>
    cases op with
    | place id order =>
      have placed := c.place_transactionPhase awaits id order
      exact (placed.bind fun _ => returns_pure _).bind fun _ => returns_pure _
    | cancel id =>
    exact ((c.cancel_transactionPhase id).bind fun _ => returns_pure _).bind fun _ => returns_pure _
    | confirm id => cases awaits
    | adopt id pair side hash orderId => cases awaits
  | status id => cases awaits
  | orders => cases awaits

theorem attend_offWallet {service : Service} (sends : service.sends = false) :
    (c.attend service).Only Event.OffWallet := by
  cases service with
  | perform op =>
    refine Only.bind ?_ fun _ => only_pure _
    cases op with
    | place id order => cases sends
    | cancel id => cases sends
    | confirm id => exact Only.bind (confirm_offWallet c id) fun _ => only_pure _
    | adopt id pair side hash orderId =>
      exact Only.bind (adopt_offWallet c id pair side hash orderId) fun _ => only_pure _
  | status id => exact Only.bind (only_act.2 fun _ => rfl) fun _ => only_pure _
  | orders => exact Only.bind (only_act.2 fun _ => rfl) fun _ => only_pure _

/-- A longer log shows it as well. -/
theorem Numbered.mono {c : Connector} {id : String} {log longer : List Event}
    (h : c.Numbered id log) (sub : log ⊆ longer) : c.Numbered id longer := by
  obtain ⟨record, number, read, knows⟩ := h
  exact ⟨record, number, sub read, knows.mono sub⟩

/-- Until a cancellation knows its order's number, it leaves the wallet alone. -/
theorem route_led (c : CancelDesk) (record : OrderRecord) :
    (c.route record).Logs fun _ log => LedBy (fun first => ∃ number, c.Knows record first number) log :=
  c.route_parts
    (fun number _ off knows => (logs_trivial _).mono fun _ _ _ => .of_known off ⟨number, knows⟩)
    fun _ _ off _ => .of_off off

/-- **A cancellation turns to the wallet when it knows which order to cancel.** -/
theorem cancel_led (id : String) : (c.cancel id).Logs fun _ log => LedBy (c.Numbered id) log := by
  have alone (read : Option OrderRecord) : LedBy (c.Numbered id) [.did (.order id) read] :=
    .of_off (by simp [Event.OffWallet, Event.concernsWallet, Effect.concernsWallet])
  refine cancel_parts (alone none) (fun record _ => alone (some record)) fun record _ => ?_
  refine (route_led c.cancelDesk record).mono fun r between led => ?_
  have numbered : LedBy (c.Numbered id) (.did (.order id) (some record) :: between) := by
    refine led.cons rfl ?_
    rintro first ⟨number, knows⟩
    exact ⟨record, number, List.mem_cons_self, knows.mono (List.subset_cons_self _ _)⟩
  match r with
  | .error _ => exact numbered
  | .ok _ => exact fun cleared => numbered.concat rfl

theorem attend_follows (service : Service) :
    (c.attend service).Logs fun _ log => c.Follows service log := by
  have locks : (c.attend service).Logs _ := (c.attend_lockPhase service).respects
  have kept : (c.attend service).Logs fun _ log => service.awaits c.confirmInLock = true →
      Respects .idle TransactionPhase.may (TransactionPhase.after c.sender) log := by
    by_cases awaits : service.awaits c.confirmInLock = true
    · have respects : (c.attend service).Logs _ := (c.attend_transactionPhase awaits).respects
      exact respects.mono fun _ _ h _ => h
    · exact (logs_trivial _).mono fun _ _ _ h => absurd h awaits
  have aside : (c.attend service).Logs fun _ log => service.sends = false →
      ∀ ev ∈ log, ev.OffWallet := by
    by_cases sends : service.sends = false
    · exact (c.attend_offWallet sends).logs.mono fun _ _ h _ => h
    · exact (logs_trivial _).mono fun _ _ _ h => absurd h sends
  have numbered : (c.attend service).Logs fun _ log => ∀ id before ev,
      service = .perform (.cancel id) → before ++ [ev] <+: log →
        ev.OffWallet ∨ c.Numbered id before := by
    by_cases cancels : ∃ id, service = .perform (.cancel id)
    · obtain ⟨id, rfl⟩ := cancels
      refine logs_map.2 (logs_map.2 ((c.cancel_led id).mono ?_))
      rintro r log led other before ev same within
      cases same
      exact led.off_or (fun _ _ sub h => h.mono sub) within
    · refine (logs_trivial _).mono fun _ _ _ id before ev same => ?_
      exact absurd ⟨id, same⟩ cancels
  refine (((locks.and kept).and aside).and numbered).mono ?_
  rintro r log ⟨⟨⟨lockPhase, txPhase⟩, aside⟩, numbered⟩
  exact ⟨lockPhase, txPhase, aside, numbered⟩

/-- What the beginning of a log keeps to. -/
theorem Follows.shorter {c : Connector} {service : Service} {log longer : List Event}
    (h : c.Follows service longer) (within : log <+: longer) : c.Follows service log where
  lockPhase := h.lockPhase.shorter within
  txPhase awaits := (h.txPhase awaits).shorter within
  aside sends ev mem := h.aside sends ev (within.subset mem)
  numbered id before ev same earlier := h.numbered id before ev same (earlier.trans within)

end Connector

/-! ### Without the lock -/

/-- The floor with others in line for the locks. -/
def Floor.withLines (f : Floor Unit) (lines : List (Address × List Nat)) : Floor Unit :=
  { f with lines }

/-- An operation that does nothing about the wallet next takes the same step whoever is in line. -/
theorem Floor.move?_withLines {α : Type} {Q : α → List Event → Prop} {progress : Progress α}
    {log : List Event} (h : progress.Safe Watch.log Q log)
    (off : ∀ ev, Begins Q (log ++ [ev]) → ev.OffWallet) (f : Floor Unit)
    (lines : List (Address × List Nat)) (me i : Nat) (answer : (r : Request) → r.Reply)
    (stopped : Bool) :
    (f.withLines lines).move? me i answer stopped progress =
      (f.move? me i answer stopped progress).map fun (ev, progress, floor) =>
        (ev, progress, floor.withLines lines) := by
  -- The lines matter to the steps on a lock, and `off` excludes those from what may come next.
  cases progress with
  | ready p =>
    cases p with
    | lock wallet next =>
      have queued := (Watch.log_step ..).1 ((Watch.log_step ..).1 h)
      cases off _ (Routine.Safe.begins queued).of_concat
    | unlock wallet next => cases off _ (Routine.Safe.begins ((Watch.log_step ..).1 h))
    | done a => rfl
    | act e next => rfl
    | ask r next => rfl
    | sleep d next => rfl
  | inLine wallet next => cases off _ (Routine.Safe.begins ((Watch.log_step ..).1 h))
  | asleep till next =>
    show (if f.mayWake i till stopped then some _ else none) =
      Option.map _ (if f.mayWake i till stopped then some _ else none)
    split
    · rfl
    · rfl
  | asking r next => rfl
  | finished a => rfl
  | givenUp => rfl

namespace Scene

variable {α ι : Type} {s : Scene α}

/-- The next step of the operation, and what it makes of the floor, are the same whoever stands in
line for which lock, and it changes nothing there. -/
def Unhindered (s : Scene α) (me : Nat) : Prop :=
  ∀ job lines answer stopped, s.jobs[me]? = some job →
    (s.floor.withLines lines).move? me job.desk answer stopped job.progress =
      (s.floor.move? me job.desk answer stopped job.progress).map fun (ev, progress, floor) =>
        (ev, progress, floor.withLines lines)

theorem Serves.unhindered {Q : ι → α → List Event → Prop} {made : List ι} (h : Serves Q made s)
    {me : Nat} {c : ι} (here : made[me]? = some c)
    (off : ∀ ev, Begins (Q c) (s.log me ++ [ev]) → ev.OffWallet) : s.Unhindered me :=
  fun job lines answer stopped there =>
    Floor.move?_withLines (h.safe me job c there here) off s.floor lines me job.desk answer stopped

/-- The operation was called and not given up. -/
def Working (s : Scene α) (me : Nat) : Prop :=
  ∃ job, s.jobs[me]? = some job ∧ job.progress ≠ .givenUp

/-- What the operation has on its way under a desk's terms. -/
def txPhase (s : Scene α) (terms : Sender) (me : Nat) : TransactionPhase :=
  known .idle (TransactionPhase.after terms) s.history me

/-- What is added to the history is a step of the operation that it belongs to. -/
theorem move_of_next {calls : ι → Nat × Routine α} {choice : Choice ι} {deed : Deed}
    (added : (s.next calls choice).history = s.history ++ [deed]) :
    ∃ job progress floor, s.jobs[deed.who]? = some job ∧
      s.floor.Move deed.who job.desk job.progress deed.event progress floor := by
  have change := change_next calls s choice
  generalize s.next calls choice = s' at added change
  have more {history : List Deed} : history ≠ history ++ [deed] := by simp
  cases change with
  | @move me job ev progress floor here step =>
    obtain rfl : _ = deed := List.singleton_inj.1 (List.append_cancel_left added)
    exact ⟨job, progress, floor, here, step⟩
  | still => exact absurd added more
  | call c once => exact absurd added more
  | finish here ended => exact absurd added more
  | giveUp here may => exact absurd added more
  | clock now => exact absurd added more
  | stop desk => exact absurd added more

end Scene

/-! ### One at a time -/

namespace Event

/-- A transaction is sent. -/
def isSending : Event → Bool
  | asked (.send _) => true
  | _ => false

theorem not_offWallet_of_isSending {ev : Event} (sending : ev.isSending = true) : ¬ ev.OffWallet := by
  intro off
  cases ev with
  | asked r =>
    cases r with
    | send tx => cases off
    | _ => cases sending
  | _ => cases sending

/-- A nonce is asked for or taken, or a transaction sent. -/
def usesWallet : Event → Bool
  | asked (.pendingNonce _) | did (.allocate _ _) _ | asked (.send _) => true
  | _ => false

end Event

/-- The wallet is used with the lock in hand. -/
theorem LockPhase.holds_of_usesWallet {s : Sender} {lockPhase : LockPhase} {ev : Event}
    (permitted : LockPhase.may s lockPhase ev) (uses : ev.usesWallet = true) :
    lockPhase.holds = true := by
  cases ev with
  | did e x =>
    cases e with
    | allocate wallet pending =>
      obtain ⟨-, counted⟩ : wallet = s.wallet ∧ lockPhase = .counted pending := permitted
      rw [counted]
      rfl
    | _ => cases uses
  | asked r =>
    cases r with
    | pendingNonce wallet =>
      obtain ⟨-, held⟩ : wallet = s.wallet ∧ lockPhase = .held := permitted
      rw [held]
      rfl
    | send tx =>
      obtain ⟨-, -, count, numbered⟩ := permitted
      rw [numbered]
      rfl
    | _ => cases uses
  | _ => cases uses

/-- An operation with no transaction on its way begins one, and one that has begun sends it. -/
theorem TransactionPhase.of_usesWallet {txPhase : TransactionPhase} {ev : Event}
    (permitted : txPhase.may ev) (uses : ev.usesWallet = true) :
    txPhase = if ev.isSending then .begun else .idle := by
  cases ev with
  | did e x =>
    cases e with
    | allocate wallet pending => exact permitted
    | _ => cases uses
  | asked r =>
    cases r with
    | pendingNonce wallet => exact permitted
    | send tx => exact permitted
    | _ => cases uses
  | _ => cases uses

namespace Scene

/-- Before the deed the operation has nothing on its way, except for the transaction that it is itself
about to send by it. -/
def Clear {α : Type} (s : Scene α) (terms : Sender) (deed : Deed) (me : Nat) : Prop :=
  s.txPhase terms me = if me = deed.who ∧ deed.event.isSending = true then .begun else .idle

/-- **One transaction at a time**, in a scene of calls on the desks of a wallet. Its clauses are about
the next deed; they hold of every run, and so of every deed of a run. A call that was given up has
given the lock back, whatever it had on its way. -/
structure Exclusive (sender : Sender) (desks : Nat → Connector) (made : List (Nat × Service))
    (s : Scene (Except Fault Served)) : Prop where
  /-- Whoever asks for a nonce next, takes one or sends: no call that waits for its transactions under
  the lock has one on its way then. -/
  apart : ∀ choice deed, (s.next (sender.onFloor desks) choice).history = s.history ++ [deed] →
    deed.event.usesWallet = true → ∀ me i service, made[me]? = some (i, service) →
      service.awaits (desks i).confirmInLock = true → s.Working me →
        s.Clear ((desks i).forWallet sender).sender deed me
  /-- If all desks confirm under the lock, no call at all has one on its way. -/
  inTurn : (∀ i, (desks i).confirmInLock = true) →
    ∀ choice deed, (s.next (sender.onFloor desks) choice).history = s.history ++ [deed] →
      deed.event.usesWallet = true → ∀ me i service, made[me]? = some (i, service) → s.Working me →
        s.Clear ((desks i).forWallet sender).sender deed me
  /-- Calls that send nothing go on whoever has the lock. -/
  unlocked : ∀ me i service, made[me]? = some (i, service) → service.sends = false → s.Unhindered me
  /-- So does a cancellation that still has to learn its order's number. -/
  resolving : ∀ me i id, made[me]? = some (i, .perform (.cancel id)) →
    ¬ ((desks i).forWallet sender).Numbered id (s.log me) → s.Unhindered me

end Scene

namespace Sender

variable (sender : Sender) (desks : Nat → Connector)

/-- What a call on one of the desks keeps to. -/
def Follows (call : Nat × Service) (_ : Except Fault Served) (log : List Event) : Prop :=
  ((desks call.1).forWallet sender).Follows call.2 log

/-- Every call of a scene keeps to what its phase with the lock allows. -/
abbrev LockWatched (s : Scene (Except Fault Served)) : Prop :=
  Scene.Watched .away (LockPhase.may sender) LockPhase.after (fun _ lockPhase => lockPhase = .away) s

variable {sender desks} {made : List (Nat × Service)} {s : Scene (Except Fault Served)}

theorem follows_log (serves : s.Serves (sender.Follows desks) made) {me i : Nat} {service : Service}
    (here : made[me]? = some (i, service)) :
    ((desks i).forWallet sender).Follows service (s.log me) := by
  obtain ⟨_, more, follows⟩ := serves.begins me _ here
  exact follows.shorter (List.prefix_append _ _)

/-- With its next step a call still keeps to it: what is left of it leads to a log that does. -/
theorem follows_next (serves : s.Serves (sender.Follows desks) made) {me i : Nat} {service : Service}
    {job : Job (Except Fault Served)} {ev : Event} {progress : Progress (Except Fault Served)}
    {floor : Floor Unit} (there : s.jobs[me]? = some job)
    (step : s.floor.Move me job.desk job.progress ev progress floor)
    (here : made[me]? = some (i, service)) :
    ((desks i).forWallet sender).Follows service (s.log me ++ [ev]) := by
  have left := step.safe (serves.safe me job _ there here)
  obtain ⟨_, more, follows⟩ := ((Watch.log_step ..).1 left).begins step.working
  exact follows.shorter (List.prefix_append _ _)

/-- A call that sends nothing has no transaction on its way. -/
theorem idle_of_aside (serves : s.Serves (sender.Follows desks) made) {me i : Nat} {service : Service}
    (here : made[me]? = some (i, service)) (sends : service.sends = false) (terms : Sender) :
    s.txPhase terms me = .idle := by
  have off := (follows_log serves here).aside sends
  unfold Scene.txPhase
  rw [Scene.known_eq_foldl]
  generalize s.log me = log at off
  induction log with
  | nil => rfl
  | cons ev rest ih =>
    have rests := TransactionPhase.rests_idle terms ev (off ev List.mem_cons_self)
    have still : TransactionPhase.after terms .idle ev = .idle :=
      (TransactionPhase.watch_step.1 rests).2
    rw [List.foldl_cons, still]
    exact ih fun other mem => off other (List.mem_cons_of_mem _ mem)

/-- **The step.** When one call uses the wallet, it has the lock, so that no other has a transaction on
its way; and its own phase allows it. -/
theorem clear_of_step (locks : sender.LockWatched s) (nonces : s.NonceInvariant sender)
    (serves : s.Serves (sender.Follows desks) made) {deed : Deed} {job : Job (Except Fault Served)}
    {progress : Progress (Except Fault Served)} {floor : Floor Unit}
    (there : s.jobs[deed.who]? = some job)
    (step : s.floor.Move deed.who job.desk job.progress deed.event progress floor)
    (uses : deed.event.usesWallet = true) {me i : Nat} {service : Service}
    (here : made[me]? = some (i, service))
    (awaits : service.awaits (desks i).confirmInLock = true) (working : s.Working me) :
    s.Clear ((desks i).forWallet sender).sender deed me := by
  unfold Scene.Clear Scene.txPhase
  rw [Scene.known_eq_foldl]
  by_cases own : me = deed.who
  · subst own
    have kept := (follows_next serves there step here).txPhase awaits
    have permitted := kept (s.log deed.who) deed.event (List.prefix_refl _)
    rw [TransactionPhase.of_usesWallet permitted uses]
    simp only [true_and]
  · rw [if_neg fun both => own both.1]
    have holds : (s.lockPhase deed.who).holds = true :=
      LockPhase.holds_of_usesWallet (locks.permits there step) uses
    have has := (nonces.keeps _ job there step.ne_givenUp).has holds
    obtain ⟨mine, present, going⟩ := working
    have away : (s.lockPhase me).holds = false := (nonces.keeps me mine present going).alone has own
    have follows := follows_log serves here
    by_contra busy
    have held := holds_of_txPhase follows.lockPhase (follows.txPhase awaits) busy
    unfold Scene.lockPhase at away
    rw [Scene.known_eq_foldl, held] at away
    cases away

/-- **The transactions of a wallet are awaited one after another.** However the calls of its desks take
turns, whatever the node answers, and wherever calls are given up, the wallet is used by one transaction
at a time. -/
theorem exclusive (sender : Sender) (desks : Nat → Connector) (common : Common) (books : List Book)
    (choices : List (Choice (Nat × Service))) :
    ((Scene.opening common books).play (sender.onFloor desks) choices).Exclusive sender desks
      (Scene.called choices) := by
  have lockSafe (call : Nat × Service) : (sender.onFloor desks call).2.Safe
      (Watch.tracking (LockPhase.may sender) LockPhase.after)
      (fun _ lockPhase => lockPhase = .away) .away :=
    ((desks call.1).forWallet sender).attend_lockPhase call.2
  have both : sender.LockWatched ((Scene.opening common books).play (sender.onFloor desks) choices) ∧
      ((Scene.opening common books).play (sender.onFloor desks) choices).NonceInvariant sender := by
    refine Scene.play_induction (P := fun s => sender.LockWatched s ∧ s.NonceInvariant sender)
      ⟨Scene.watched_opening common books, .opening common books⟩ ?_ choices
    rintro s s' ⟨locks, nonces⟩ change
    exact ⟨locks.change lockSafe change, nonces.change locks change⟩
  obtain ⟨locks, nonces⟩ := both
  have follows (call : Nat × Service) :
      (sender.onFloor desks call).2.Safe Watch.log (sender.Follows desks call) [] :=
    ((desks call.1).forWallet sender).attend_follows call.2
  have serves := Scene.serves_play follows common books choices
  generalize (Scene.opening common books).play (sender.onFloor desks) choices = s at *
  have apart : ∀ choice deed, (s.next (sender.onFloor desks) choice).history = s.history ++ [deed] →
      deed.event.usesWallet = true → ∀ me i service, (Scene.called choices)[me]? = some (i, service) →
        service.awaits (desks i).confirmInLock = true → s.Working me →
          s.Clear ((desks i).forWallet sender).sender deed me := by
    intro choice deed added uses me i service here awaits working
    obtain ⟨job, progress, floor, there, step⟩ := Scene.move_of_next added
    exact clear_of_step locks nonces serves there step uses here awaits working
  refine ⟨apart, ?_, ?_, ?_⟩
  · intro inLock choice deed added uses me i service here working
    by_cases sends : service.sends = true
    · have awaits : service.awaits (desks i).confirmInLock = true := by
        rw [inLock]
        cases service with
        | perform op => cases op <;> first | rfl | cases sends
        | status id => cases sends
        | orders => cases sends
      exact apart choice deed added uses me i service here awaits working
    · -- A call that sends nothing has none on its way, and the deed is not its own.
      have aside : service.sends = false := Bool.not_eq_true _ ▸ sends
      rw [Scene.Clear, idle_of_aside serves here aside, if_neg]
      rintro ⟨rfl, sending⟩
      obtain ⟨job, progress, floor, there, step⟩ := Scene.move_of_next added
      have off := (follows_next serves there step here).aside aside deed.event (by simp)
      exact absurd off (Event.not_offWallet_of_isSending sending)
  · intro me i service here aside
    refine serves.unhindered here fun ev begins => ?_
    obtain ⟨_, more, follows⟩ := begins
    exact Connector.Follows.aside follows aside ev (by simp)
  · intro me i id here unknown
    refine serves.unhindered here fun ev begins => ?_
    obtain ⟨_, more, follows⟩ := begins
    have known := Connector.Follows.numbered follows id (s.log me) ev rfl (List.prefix_append _ _)
    exact known.resolve_right unknown

end Sender

/-! ### A cancellation that another waits for -/

namespace Rivals

/-- A desk with two tokens and the usual channels. -/
def desk : Connector :=
  { (default : Connector) with
    deployment :=
      { chainId := 1, exchange := ⟨7⟩
        tokens := [⟨"A", ⟨1⟩, 6, false⟩, ⟨"B", ⟨2⟩, 6, false⟩] }
    calls := { (default : CallBook) with exchange := ⟨7⟩ }
    channels := CancelChannel.standard }

/-- The node knows of no transactions. -/
def node : (r : Request) → r.Reply
  | .pendingNonce _ => .ok 0
  | _ => .error default

/-- A call that then takes so many steps, if it can. -/
def calls (me : Nat) (service : Service) (steps : Nat) : List (Choice (Nat × Service)) :=
  .call (0, service) :: List.replicate steps (.go me node false)

/-- Two orders are adopted with their numbers and cancelled, and all orders are asked for. The first
cancellation comes as far as its nonce. -/
def scene : Scene (Except Fault Served) :=
  (Scene.opening {} [{}]).play (desk.sender.onFloor fun _ => desk) <|
    calls 0 (.perform (.adopt "a" ⟨"A", "B"⟩ .bid ⟨11⟩ (some 5))) 4 ++
    calls 1 (.perform (.adopt "b" ⟨"A", "B"⟩ .bid ⟨22⟩ (some 6))) 4 ++
    calls 2 (.perform (.cancel "a")) 6 ++ calls 3 (.perform (.cancel "b")) 6 ++ calls 4 .orders 2

/-- The operation stands in line for a lock. -/
def isInLine (job : Job (Except Fault Served)) : Bool :=
  match job.progress with
  | .inLine _ _ => true
  | _ => false

/-- What the first cancellation has on its way, whether the second is in line, and whether the look at
the orders is over. -/
def standing : TransactionPhase × Bool × Bool :=
  (scene.txPhase desk.sender 2, (scene.jobs[3]?).any isInLine, (scene.jobs[4]?).any Floor.isOver)

example : standing = (.begun, true, true) := by decide +kernel

end Rivals
end OrderDesk
