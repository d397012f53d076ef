import OrderDesk.Proofs.PlaceThenConfirm
import OrderDesk.Proofs.Polling

/-!
# `OrderDesk.Proofs.ConfirmAgain` — what a confirmation answers the next time

Once a confirmation has told what became of an order, it tells the same from the record, with nothing
asked and nothing changed, until the order is cancelled. One that ended without a receipt leaves the
order as it was; a later one settles it, unless the desk was told to stop: that is for good, and from
then on an order that waits is answered with the same error each time.

## Contents
- `Event.Spares`: what leaves an order as it stands, and the parts of operations that do.
- `Connector.Answers`: a confirmation that the desk answers by itself; `confirm_of_answers`.
- `Connector.Waited`: what a wait comes to; `awaitOutcome_waited`.
- `Connector.Keeps`: the answer stays the same through all that follows; `Answers.keeps`.
- `Connector.confirmed_again`: the result, for every use of a desk.
-/

namespace OrderDesk

open Attempt

variable {ε α : Type}

/-! ### What leaves an order as it stands -/

/-- The step may settle the order or drop it. -/
def Effect.decides (id : String) : Effect → Bool
  | resolve own _ | clear own => own == id
  | _ => false

/-- The event is no step that may settle the order or drop it. -/
def Event.Spares (id : String) : Event → Prop
  | did e _ => e.decides id = false
  | _ => True

theorem Event.Reads.spares {ev : Event} (h : ev.Reads) {id : String} : ev.Spares id := by
  cases ev with
  | did e x =>
    cases e with
    | resolve own resolution => cases h
    | clear own => cases h
    | _ => rfl
  | _ => trivial

theorem Event.OffRegistry.spares {ev : Event} (h : ev.OffRegistry) {id : String} : ev.Spares id :=
  h.reads.spares

/-- A contradiction can come of another order. -/
theorem Attempt.Sound.spares {id : String} (r : Except Fault α) : Sound (Event.Spares id) r :=
  fun _ _ => ⟨.did (.broadcast "" Hash.zero) (.error .arithmetic), rfl, trivial⟩

/-- The record of a placement that was sent is kept by all other steps: its identifier is taken, and
it is no reservation. -/
theorem Effect.get?_of_spares {e : Effect} {d : Desk} {id : String} {r : OrderRecord}
    (spares : e.decides id = false) (present : d.book.registry.get? id = some r)
    (sent : r.state ≠ .pendingSubmit) : (e.apply d).2.book.registry.get? id = some r := by
  have does := e.does_apply d
  generalize (e.apply d).1 = x at does
  generalize (e.apply d).2.book.registry = g' at does ⊢
  cases does with
  | aside _ same | read same | readAll same | notReserved same | notAdopted same | lost _ same
  | completedTwice _ _ same | resolvedBefore same | contradicted _ _ _ same =>
    exact same ▸ present
  | reserved free view | adopted free view =>
    rw [view, if_neg, present]
    rintro rfl
    rw [present] at free
    cases free
  | completed found reserved view =>
    rw [view, if_neg, present]
    rintro rfl
    rw [present] at found
    cases found
    exact sent reserved
  | released view =>
    have stays : (some r).filter (·.state != .pendingSubmit) = some r := by simpa using sent
    rw [view, present, stays, ite_self]
  | resolved _ view | cleared view =>
    rw [view, if_neg (by simpa [decides] using spares), present]

/-- No step takes back that the desk is to stop. -/
theorem Effect.stopping_apply (e : Effect) (d : Desk) :
    (e.apply d).2.book.stopping = d.book.stopping := by
  cases e with
  | reserve record | adopt record =>
    show (d.track record).2.book.stopping = _
    unfold Desk.track
    split <;> rfl
  | broadcast _ _ | resolve _ _ | allocate _ _ =>
    unfold apply
    dsimp only
    split <;> rfl
  | _ => rfl

/-- A desk that is to stop is to stop ever after. -/
theorem Routine.stopping_run {env : Environment ε} (p : Routine α) {d : Desk} (out : ε)
    (stopping : d.book.stopping = true) : (p.run env d out).2.1.book.stopping = true := by
  induction p generalizing d out with
  | done a => exact stopping
  | act e next ih => exact ih _ _ ((e.stopping_apply d).trans stopping)
  | ask r next ih => exact ih _ _ (by simp [Desk.pass, stopping])
  | sleep t next ih => exact ih _ _ (by simp [Desk.pass, stopping])
  | lock a next ih => exact ih _ stopping
  | unlock a next ih => exact ih _ stopping

/-- The record of a placement that was sent is kept by what spares it. -/
theorem Attempt.Only.alone_present {env : Environment ε} {p : Attempt α} {id : String}
    {s : Desk × ε} {r : OrderRecord} (h : p.Only (Event.Spares id))
    (present : s.1.book.registry.get? id = some r) (sent : r.state ≠ .pendingSubmit) :
    p.Safe env.alone (fun _ s' => s'.1.book.registry.get? id = some r) s := by
  refine (h.keeps (I := fun t : Desk × ε => t.1.book.registry.get? id = some r) ?_ present).mono
    fun _ _ kept => kept.1
  refine fun t ev spares kept => ⟨trivial, fun t' next => ?_⟩
  cases ev with
  | did e x =>
    obtain ⟨-, rfl⟩ := next
    exact Effect.get?_of_spares spares kept sent
  | told r x =>
    obtain ⟨-, rfl⟩ := next
    exact kept
  | slept d =>
    obtain rfl := next
    exact kept
  | woke b =>
    obtain ⟨-, rfl⟩ := next
    exact kept
  | _ =>
    obtain rfl := next
    exact kept

namespace Connector

/-! ### Operations about other orders -/

section Others

variable (c : Connector) {id own : String}

theorem resolveOrder_spares (apart : own ≠ id) (resolution : Resolution) :
    (resolveOrder own resolution).Only (Event.Spares id) := by
  unfold resolveOrder
  refine Only.bind (only_act.2 fun _ => beq_false_of_ne apart) fun result => ?_
  exact Only.bind (only_ofOutcome.2 (.spares _)) fun _ => only_pure _

theorem settle_spares (apart : own ≠ id) (confirmation : Confirmation) :
    (c.settle own confirmation).Only (Event.Spares id) := by
  cases confirmation with
  | confirmed receipt =>
    refine Only.bind (only_act.2 fun _ => rfl) fun _ => ?_
    exact Only.bind (resolveOrder_spares apart _) fun _ => only_pure _
  | reverted receipt reason =>
    refine Only.bind (only_act.2 fun _ => rfl) fun _ => ?_
    refine Only.bind (only_act.2 fun _ => rfl) fun _ => ?_
    exact Only.bind (resolveOrder_spares apart _) fun _ => only_pure _
  | timedOut hash timeout => exact Only.bind (only_act.2 fun _ => rfl) fun _ => only_pure _

theorem broadcast_spares (placement : Placement) :
    (c.broadcast own placement).Only (Event.Spares id) := by
  refine Only.bind (orRelease_only ((c.sending_offOrders placement.call).mono fun _ hev =>
    hev.offRegistry.spares) fun _ => rfl) fun submitted => ?_
  refine Only.bind (only_act.2 fun _ => rfl) fun result => ?_
  refine Only.bind (only_ofOutcome.2 (.spares _)) fun _ => ?_
  exact Only.bind (only_act.2 fun _ => rfl) fun _ => only_pure _

theorem place_spares (apart : own ≠ id) (order : OrderRequest) :
    (c.place own order).Only (Event.Spares id) := by
  unfold place
  refine Only.bind (c.prepare_only order (fun _ => rfl) fun _ => rfl) fun terms => ?_
  obtain ⟨base, quote, placement⟩ := terms
  refine Only.bind (only_act.2 fun _ => rfl) fun created => ?_
  refine Only.bind (only_act.2 fun _ => rfl) fun reserved => ?_
  refine Only.bind (only_ofExcept _) fun _ => ?_
  refine Only.bind (orRelease_only ((check_aside _ _ _ _ _).mono fun _ hev =>
    hev.offRegistry.spares) fun _ => rfl) fun _ => ?_
  refine Only.bind (Only.locked trivial trivial trivial ?_) fun sent => ?_
  · refine Only.bind (c.broadcast_spares placement) fun submitted => ?_
    split
    · refine Only.caught ((OrderDesk.confirm_offRegistry _ _).mono fun _ hev => hev.spares)
        fun result sound => only_pure _
    · exact only_pure _
  · obtain ⟨submitted, confirmation⟩ := sent
    cases confirmation with
    | none => exact only_pure _
    | some result =>
      refine Only.bind (only_ofFault.2 (.spares _)) fun confirmation => ?_
      exact Only.bind (c.settle_spares apart confirmation) fun _ => only_pure _

theorem confirm_spares (apart : own ≠ id) : (c.confirm own).Only (Event.Spares id) := by
  unfold confirm
  refine Only.bind (sentOrder_only fun _ => rfl) fun record => ?_
  split
  · exact only_pure _
  · refine Only.bind ((OrderDesk.confirm_offRegistry _ _).mono fun _ hev => hev.spares) fun _ => ?_
    exact c.settle_spares apart _

theorem cancel_spares (apart : own ≠ id) : (c.cancel own).Only (Event.Spares id) := by
  unfold cancel
  refine Only.bind (sentOrder_only fun _ => rfl) fun record => ?_
  refine Only.bind ((c.cancelDesk.route_offRegistry record).mono fun _ hev => hev.spares) fun _ => ?_
  exact Only.bind (only_act.2 fun _ => beq_false_of_ne apart) fun _ => only_pure _

/-- Adopting spares all orders: an identifier that is taken is not adopted. -/
theorem adopt_spares (pair : Pair) (side : Side) (hash : Hash) (orderId : Option UInt64) :
    (c.adopt own pair side hash orderId).Only (Event.Spares id) := by
  unfold adopt
  refine Only.bind (resolve_only _ _) fun base => ?_
  refine Only.bind (resolve_only _ _) fun quote => ?_
  refine Only.bind (only_act.2 fun _ => rfl) fun created => ?_
  refine Only.bind (only_act.2 fun _ => rfl) fun tracked => ?_
  exact Only.bind (only_ofExcept _) fun _ => only_pure _

end Others

end Connector

/-! ### Waiting for a receipt -/

section Waiting

variable {env : Environment ε} {s : Desk × ε} {hash : Hash} {interval timeout : Duration}

/-- A wait ends with an error only when the desk was told to stop. -/
theorem pollReceipt_stopped (attempts : Nat) :
    (pollReceipt hash interval timeout attempts).Safe env.alone
      (Verdict (fun _ _ => True) fun _ s' => s'.1.book.stopping = true) s := by
  induction attempts generalizing s with
  | zero => trivial
  | succ rest ih =>
    unfold pollReceipt Attempt.stopping
    refine alone_act_bind.2 ?_
    show Safe _ _ (if s.1.book.stopping = true then _ else _) s
    split
    · next stopping => exact stopping
    · rw [alone_reply_bind]
      split
      · split
        · trivial
        · refine Safe.bind (revertReasonOf_told _) (fun _ _ _ => trivial) ?_
          rintro _ _ ⟨_, ⟨⟩⟩
      · split
        · trivial
        · rw [alone_sleep_bind]
          split
          · next stopping => exact stopping
          · exact ih

namespace PollPolicy

variable (p : PollPolicy)

/-- The number of look-ups can be told. -/
def Polls : Prop := (p.attempts? p.timeout).isSome = true

/-- It can be told unless there is a pause shorter than a millisecond. -/
theorem polls_iff : p.Polls ↔ p.interval.nanos = 0 ∨ 1000000 ≤ p.interval.nanos := by
  have whole : p.interval.millis = 0 ↔ p.interval.nanos < 1000000 := by
    unfold Duration.millis
    omega
  unfold Polls attempts?
  split
  · next none => exact ⟨fun _ => .inl none, fun _ => rfl⟩
  · next pauses =>
    dsimp only
    split
    · next short => exact ⟨fun told => (nomatch told), fun long => absurd (whole.1 short) (by omega)⟩
    · next long => exact ⟨fun _ => .inr (by omega), fun _ => rfl⟩

theorem confirm_of_stopping (polls : p.Polls) (stopping : s.1.book.stopping = true) :
    (p.confirm hash).runAlone env s = (.error (.error (.shutdown hash)), s) := by
  obtain ⟨n, told⟩ := Option.isSome_iff_exists.1 polls
  obtain ⟨rest, rfl⟩ := attempts?_pos told
  unfold confirm confirmWithin
  rw [told]
  exact pollReceipt_of_stopping stopping rest

theorem confirm_stopped :
    (p.confirm hash).Safe env.alone
      (Verdict (fun _ _ => p.Polls) fun _ s' => s'.1.book.stopping = true ∧ p.Polls) s := by
  unfold confirm confirmWithin
  split
  · next n told =>
    have polls : p.Polls := Option.isSome_iff_exists.2 ⟨n, told⟩
    exact Verdict.mono (pollReceipt_stopped n) (fun _ _ _ => polls)
      fun _ _ stopping => ⟨stopping, polls⟩
  · trivial

end PollPolicy

end Waiting

/-! ### Settling an order that waits -/

/-- The outcome that a resolution stands for. -/
def Resolution.outcome : Resolution → ConfirmOutcome
  | placed id => .resting id
  | immediatelyFilled => .immediatelyFilled
  | unresolved => .unresolved
  | failed reason => .failed reason

/-- The outcome tells what became of the order, once and for all. -/
def ConfirmOutcome.Final : ConfirmOutcome → Prop
  | resting _ | immediatelyFilled | failed _ => True
  | unresolved | timedOut => False

/-- A record holds the outcome of the resolution that was applied to it. -/
theorem OrderRecord.outcome?_apply {resolution : Resolution} (final : resolution.outcome.Final)
    (r : OrderRecord) : (r.apply resolution).outcome? = some resolution.outcome := by
  cases resolution with
  | unresolved => exact final.elim
  | placed | immediatelyFilled | failed => rfl

/-- What a receipt settles. -/
def Confirmation.resolution? (exchange : Address) : Confirmation → Option Resolution
  | confirmed receipt => some (.ofTrace (receipt.trace exchange))
  | reverted _ reason => some (.failed reason)
  | timedOut _ _ => none

/-- The books are as before, but for the counters. -/
structure Desk.Unsettled (d d' : Desk) (stats : Stats) : Prop where
  registry : d'.book.registry = d.book.registry
  nonces : d'.common.nonces = d.common.nonces
  limiter : d'.common.limiter = d.common.limiter
  stats : d'.book.stats = stats

/-- An order that waits is the same in books that are the same. -/
theorem Awaited.unsettled {s : Desk × ε × List Note} {d : Desk} {rest : ε × List Note}
    {id : String} {stats : Stats} {hash : Hash} (awaited : Awaited id hash s)
    (left : s.1.Unsettled d stats) : Awaited id hash (d, rest) := by
  unfold Awaited
  rw [left.registry]
  exact awaited

namespace Connector

section Settling

variable (c : Connector) {env : Environment ε} {s : Desk × ε} {id : String} {r : OrderRecord}

theorem resolveOrder_of_open (present : s.1.book.registry.get? id = some r)
    (going : r.state.isTerminal = false) (resolution : Resolution) (outcome : ConfirmOutcome) :
    (resolveOrder id resolution >>= fun _ => pure outcome).Safe env.alone
      (fun x s' => x = .ok outcome ∧
        s'.1.book.registry.get? id = some (r.apply resolution)) s := by
  obtain ⟨found, after, resolved, view⟩ := Registry.resolve_of_open present going resolution
  have applied : (Effect.resolve id resolution).apply s.1 = (.ok found, s.1.withRegistry after) := by
    unfold Effect.apply
    dsimp only
    rw [resolved]
  unfold resolveOrder
  rw [bind_assoc]
  refine alone_act_bind.2 ?_
  rw [applied]
  exact ⟨rfl, (view id).trans (if_pos rfl)⟩

/-- **A receipt settles an order that waits**, in its record as in the answer. -/
theorem settle_of_open {confirmation : Confirmation} {resolution : Resolution}
    (present : s.1.book.registry.get? id = some r) (going : r.state.isTerminal = false)
    (told : confirmation.resolution? c.deployment.exchange = some resolution) :
    (c.settle id confirmation).Safe env.alone
      (fun x s' => x = .ok resolution.outcome ∧
        s'.1.book.registry.get? id = some (r.apply resolution)) s := by
  cases confirmation with
  | timedOut hash timeout => cases told
  | confirmed receipt =>
    cases told
    have same : outcomeOfTrace (receipt.trace c.deployment.exchange) =
        (Resolution.ofTrace (receipt.trace c.deployment.exchange)).outcome := by
      cases receipt.trace c.deployment.exchange <;> rfl
    unfold settle
    refine alone_act_bind.2 ?_
    dsimp only
    rw [same]
    refine resolveOrder_of_open ?_ going _ _
    exact present
  | reverted receipt reason =>
    cases told
    unfold settle
    refine alone_act_bind.2 ?_
    refine alone_act_bind.2 ?_
    refine resolveOrder_of_open ?_ going _ _
    exact present

end Settling

/-- What a confirmation of an order that waits comes to: it is settled, or no receipt was seen and
the books are as before but for the counter, or there was no count of look-ups. -/
inductive Learnt (c : Connector) (id : String) (hash : Hash) (d : Desk) :
    Except Fault ConfirmOutcome → Desk → Prop
  | settled {r : OrderRecord} {resolution : Resolution} {d' : Desk}
    (left : d'.book.registry.get? id = some (r.apply resolution)) :
    Learnt c id hash d (.ok resolution.outcome) d'
  | timedOut {d' : Desk} (left : d.Unsettled d' (d.book.stats.add .timedOut))
    (polls : c.sender.poll.Polls) :
    Learnt c id hash d (.ok .timedOut) d'
  | stopped {d' : Desk} (left : d.Unsettled d' d.book.stats) (stopping : d'.book.stopping = true)
    (polls : c.sender.poll.Polls) : Learnt c id hash d (.error (.error (.shutdown hash))) d'
  | broken {d' : Desk} {b : Breakdown} : Learnt c id hash d (.error (.breakdown b)) d'

theorem awaitOutcome_learnt (c : Connector) {env : Environment ε} {s : Desk × ε × List Note}
    {id : String} {hash : Hash} (awaited : Awaited id hash s) :
    (c.awaitOutcome id hash).Safe env.noted.alone (fun r s' => c.Learnt id hash s.1 r s'.1) s := by
  obtain ⟨r, present, -, waits⟩ := awaited
  have going : r.state.isTerminal = false := by
    unfold OrderRecord.state
    rw [waits]
    rfl
  unfold awaitOutcome
  refine Safe.bind (safe_both (OrderDesk.confirm_offBooks c.sender.poll hash).alone_same
    (safe_both (confirm_verdict c.sender.poll hash) (c.sender.poll.confirm_stopped))) ?_ ?_
  · rintro confirmation s' ⟨same, -, polls⟩
    have present' : s'.1.book.registry.get? id = some r := same.registry ▸ present
    cases told : confirmation.resolution? c.deployment.exchange with
    | some resolution =>
      refine (c.settle_of_open present' going told).mono ?_
      rintro _ s'' ⟨rfl, left⟩
      exact .settled left
    | none =>
      cases confirmation with
      | confirmed receipt | reverted receipt reason => cases told
      | timedOut hash timeout =>
        refine alone_act_bind.2 (.timedOut ⟨same.registry, same.nonces, same.limiter, ?_⟩ polls)
        exact congrArg (·.add .timedOut) same.stats
  · rintro fault s' ⟨same, ended, stopped⟩
    cases fault with
    | breakdown b => exact .broken
    | error e =>
      obtain ⟨rfl, -⟩ := ended
      exact .stopped ⟨same.registry, same.nonces, same.limiter, same.stats⟩ stopped.1 stopped.2

/-! ### Answers of the desk itself -/

/-- **The desk answers a confirmation by itself**: the order is settled, or it waits and the desk is
to stop. -/
inductive Answers (c : Connector) (id : String) (d : Desk) : Except Fault ConfirmOutcome → Prop
  | settled {r : OrderRecord} {outcome : ConfirmOutcome}
    (present : d.book.registry.get? id = some r) (holds : r.outcome? = some outcome) :
    Answers c id d (.ok outcome)
  | stopped {r : OrderRecord} (present : d.book.registry.get? id = some r)
    (waits : r.status = .awaitingConfirmation) (stopping : d.book.stopping = true)
    (polls : c.sender.poll.Polls) : Answers c id d (.error (.error (.shutdown r.hash)))

section Answers

variable {c : Connector} {env : Environment ε} {s : Desk × ε} {id : String}
  {answer : Except Fault ConfirmOutcome}

/-- The order's placement was sent. -/
theorem Answers.present {d : Desk} (h : c.Answers id d answer) :
    ∃ r, d.book.registry.get? id = some r ∧ r.state ≠ .pendingSubmit := by
  cases h with
  | @settled r outcome present holds =>
    refine ⟨r, present, fun reserved => ?_⟩
    unfold OrderRecord.state at reserved
    unfold OrderRecord.outcome? at holds
    cases status : r.status with
    | pendingSubmit =>
      rw [status] at holds
      cases holds
    | _ =>
      rw [status] at reserved
      cases reserved
  | @stopped r present waits =>
    refine ⟨r, present, ?_⟩
    unfold OrderRecord.state
    rw [waits]
    nofun

/-- The same record is answered from alike. -/
theorem Answers.kept {d d' : Desk} (h : c.Answers id d answer)
    (same : d'.book.registry.get? id = d.book.registry.get? id)
    (stop : d.book.stopping = true → d'.book.stopping = true) : c.Answers id d' answer := by
  cases h with
  | settled present holds => exact .settled (same.trans present) holds
  | stopped present waits stopping polls =>
    exact .stopped (same.trans present) waits (stop stopping) polls

/-- **A confirmation that the desk answers by itself** asks nothing and changes nothing. -/
theorem confirm_of_answers (h : c.Answers id s.1 answer) :
    (c.confirm id).runAlone env s = (answer, s) := by
  obtain ⟨r, found, sent⟩ := h.present
  unfold confirm
  rw [runAlone_ok (sentOrder_of_present found sent)]
  cases h with
  | settled present holds =>
    cases found.symm.trans present
    rw [holds]
    rfl
  | stopped present waits stopping polls =>
    cases found.symm.trans present
    have unsettled : r.outcome? = none := by
      unfold OrderRecord.outcome?
      rw [waits]
    rw [unsettled]
    exact runAlone_error (c.sender.poll.confirm_of_stopping polls stopping)

/-- What spares the order leaves the answer. -/
theorem Answers.spared {p : Attempt α} (h : c.Answers id s.1 answer)
    (spares : p.Only (Event.Spares id)) :
    p.Safe env.alone (fun _ s' => c.Answers id s'.1 answer) s := by
  obtain ⟨r, present, sent⟩ := h.present
  have stops : p.Safe env.alone
      (fun _ s' => s.1.book.stopping = true → s'.1.book.stopping = true) s :=
    safe_alone.2 fun stopping => Routine.stopping_run _ _ stopping
  refine (safe_both (spares.alone_present present sent) stops).mono ?_
  rintro _ s' ⟨left, stop⟩
  exact h.kept (left.trans present.symm) stop

end Answers

end Connector

/-! ### A desk in use -/

/-- The call has cancelled the order. -/
def Answered.Cancels (a : Answered) (id : String) : Prop :=
  a.call = .cancel id ∧ ∃ outcome, a.result = .ok (.cancelled outcome)

/-- The call has told the outcome of the order. -/
def Answered.Tells (a : Answered) (id : String) (outcome : ConfirmOutcome) : Prop :=
  a = ⟨.confirm id, .ok (.confirmed outcome)⟩ ∨
    ∃ order handle, a = ⟨.place id order, .ok (.placed handle)⟩ ∧ handle.outcome = some outcome

namespace Connector

section Serving

variable {c : Connector} {env : Environment ε} {id : String} {answer : Except Fault ConfirmOutcome}

/-- A second placement under the identifier is refused. -/
theorem Answers.place {s : Desk × ε} (h : c.Answers id s.1 answer) (order : OrderRequest) :
    (c.place id order).Safe env.alone (fun _ s' => c.Answers id s'.1 answer) s := by
  obtain ⟨r, present, -⟩ := h.present
  unfold Connector.place
  refine Safe.bind (prepare_looks c id order) ?_ ?_
  · rintro terms _ ⟨rfl, -, free⟩
    have taken := free terms rfl
    rw [Registry.contains_eq_isSome, present] at taken
    cases taken
  · rintro fault _ ⟨rfl, -⟩
    exact h.kept rfl fun stopping => stopping

/-- A cancellation that fails leaves the order. -/
theorem Answers.cancel {s : Desk × ε} (h : c.Answers id s.1 answer) :
    (c.cancel id).Safe env.alone
      (fun r s' => c.Answers id s'.1 answer ∨ ∃ outcome, r = .ok outcome) s := by
  unfold Connector.cancel
  refine Safe.bind (h.spared (sentOrder_only fun _ => rfl)) (fun record s h => ?_)
    fun _ _ h => .inl h
  refine Safe.bind (h.spared ((c.cancelDesk.route_offRegistry record).mono fun _ hev => hev.spares))
    (fun outcome s _ => ?_) fun _ _ h => .inl h
  exact alone_act_bind.2 (.inr ⟨outcome, rfl⟩)

/-- **Every call leaves the answer**, unless it cancels the order. -/
theorem Answers.perform {s : Desk × ε} (h : c.Answers id s.1 answer) (op : Operation) :
    (c.perform op).Safe env.alone
      (fun result s' => c.Answers id s'.1 answer ∨ Answered.Cancels ⟨op, result⟩ id) s := by
  have through {α : Type} {p : Attempt α} (f : α → Achieved)
      (kept : p.Safe env.alone (fun _ s' => c.Answers id s'.1 answer) s) :
      (f <$> p).Safe env.alone
        (fun result s' => c.Answers id s'.1 answer ∨ Answered.Cancels ⟨op, result⟩ id) s :=
    Safe.bind kept (fun _ _ h => .inl h) fun _ _ h => .inl h
  cases op with
  | place own order =>
    by_cases same : own = id
    · subst same
      exact through _ (h.place order)
    · exact through _ (h.spared (c.place_spares same order))
  | confirm own =>
    by_cases same : own = id
    · subst same
      refine through _ (safe_alone.2 ?_)
      rw [confirm_of_answers h]
      exact h
    · exact through _ (h.spared (c.confirm_spares same))
  | cancel own =>
    by_cases same : own = id
    · subst same
      refine Safe.bind h.cancel (fun outcome s' _ => .inr ⟨rfl, outcome, rfl⟩) ?_
      rintro fault s' (kept | ⟨_, ⟨⟩⟩)
      exact .inl kept
    · exact through _ (h.spared (c.cancel_spares same))
  | adopt own pair side hash orderId =>
    exact through _ (h.spared (c.adopt_spares pair side hash orderId))

theorem Answers.obey (env : Environment ε) {s : Session ε} (h : c.Answers id s.desk answer)
    (i : Instruction) :
    ∃ new, (c.obey env s i).calls = s.calls ++ new ∧
      ((∀ a ∈ new, ¬ a.Cancels id) → c.Answers id (c.obey env s i).desk answer) := by
  cases i with
  | shutdown => exact ⟨[], (List.append_nil _).symm, fun _ => h.kept rfl fun _ => rfl⟩
  | pause elapsed =>
    refine ⟨[], (List.append_nil _).symm, fun _ => h.kept rfl fun stopping => ?_⟩
    simp [Connector.obey, Desk.pass, stopping]
  | call op =>
    refine ⟨[⟨op, _⟩], rfl, fun uncancelled => ?_⟩
    have ended : (c.perform op).Safe env.noted.alone _ (s.desk, s.out, s.notes) :=
      h.perform (s := (s.desk, s.out, s.notes)) op
    exact (safe_alone.1 ended).resolve_right (uncancelled _ (List.mem_singleton_self _))

/-- What was answered before stays so. -/
theorem calls_serve (s : Session ε) (later : List Instruction) :
    s.calls <+: (c.serve env s later).calls := by
  induction later generalizing s with
  | nil => exact List.prefix_refl _
  | cons i rest ih =>
    refine List.IsPrefix.trans ?_ (ih (c.obey env s i))
    cases i with
    | call op => exact List.prefix_append _ _
    | shutdown | pause => exact List.prefix_refl _

/-- Through any use of the desk the answer is left, unless the order is cancelled. -/
theorem Answers.serve {s : Session ε} (h : c.Answers id s.desk answer) (later : List Instruction)
    {new : List Answered} (calls : (c.serve env s later).calls = s.calls ++ new)
    (uncancelled : ∀ a ∈ new, ¬ a.Cancels id) : c.Answers id (c.serve env s later).desk answer := by
  induction later generalizing s new with
  | nil => exact h
  | cons i rest ih =>
    obtain ⟨first, calls₁, kept⟩ := h.obey env i
    obtain ⟨others, calls₂⟩ : (c.obey env s i).calls <+: (c.serve env s (i :: rest)).calls :=
      calls_serve (c.obey env s i) rest
    obtain rfl : first ++ others = new := by
      rw [calls, calls₁, List.append_assoc] at calls₂
      exact List.append_cancel_left calls₂
    exact ih (kept fun a mem => uncancelled a (List.mem_append_left _ mem)) calls₂.symm
      fun a mem => uncancelled a (List.mem_append_right _ mem)

/-- **The answer stays the same**: whatever the desk is used for after `s`, unless the order is
cancelled, and whatever the outside would answer then, a confirmation is answered so, with nothing
asked and nothing changed. -/
def Keeps (c : Connector) (env : Environment ε) (s : Session ε) (id : String)
    (answer : Except Fault ConfirmOutcome) : Prop :=
  ∀ (later : List Instruction) (new : List Answered),
    (c.serve env s later).calls = s.calls ++ new → (∀ a ∈ new, ¬ a.Cancels id) →
    ∀ {ε' : Type} (env' : Environment ε') (out' : ε'),
      (c.confirm id).runAlone env'.noted ((c.serve env s later).desk, out', []) =
        (answer, (c.serve env s later).desk, out', [])

theorem Answers.keeps {s : Session ε} (h : c.Answers id s.desk answer) : c.Keeps env s id answer :=
  fun later _ calls uncancelled _ _ _ =>
    confirm_of_answers (s := (_, _)) (h.serve later calls uncancelled)

/-! ### What is answered for good -/

/-- A final outcome that a wait came to is in the record. -/
theorem Learnt.answers {hash : Hash} {d d' : Desk} {outcome : ConfirmOutcome}
    (h : c.Learnt id hash d (.ok outcome) d') (final : outcome.Final) :
    c.Answers id d' (.ok outcome) := by
  cases h with
  | settled left => exact .settled left (OrderRecord.outcome?_apply final _)
  | timedOut => exact final.elim

/-- A wait that ended without a receipt left the books as they were. -/
theorem Learnt.timed_out {hash : Hash} {d d' : Desk} {r : Except Fault ConfirmOutcome}
    (h : c.Learnt id hash d r d') (same : r = .ok .timedOut) :
    d.Unsettled d' (d.book.stats.add .timedOut) ∧ c.sender.poll.Polls := by
  cases h with
  | @settled _ resolution =>
    cases resolution <;> cases same
  | timedOut left polls => exact ⟨left, polls⟩
  | stopped | broken => cases same

/-- A wait that ended because the desk is to stop did so too. -/
theorem Learnt.shut_down {hash hash' : Hash} {d d' : Desk}
    (h : c.Learnt id hash d (.error (.error (.shutdown hash'))) d') :
    hash' = hash ∧ d.Unsettled d' d.book.stats ∧ d'.book.stopping = true ∧ c.sender.poll.Polls := by
  cases h with
  | stopped left stopping polls => exact ⟨rfl, left, stopping, polls⟩

/-- A record holds no outcome of a wait without a receipt. -/
theorem Answers.ne_timedOut {d : Desk} : ¬ c.Answers id d (.ok .timedOut) := by
  intro h
  cases h with
  | @settled r _ present holds =>
    unfold OrderRecord.outcome? at holds
    split at holds <;> cases holds

/-- An order of a desk in use is settled, waits, or is none that could be confirmed. -/
theorem confirm_of_borne {exchange : Address} {calls : List Answered}
    {s : Desk × ε × List Note} (borne : Borne exchange calls s) (id : String) :
    (∃ outcome, c.Answers id s.1 (.ok outcome)) ∨ (∃ hash, Awaited id hash s) ∨
      (c.confirm id).runAlone env.noted s = (.error (.error (.unknownOrder id)), s) := by
  cases found : s.1.book.registry.get? id with
  | none =>
    refine .inr (.inr (runAlone_error (runAlone_eq ?_)))
    unfold sentOrder Attempt.order
    refine alone_act_bind.2 ?_
    have read : ((Effect.order id).apply s.1).1 = none := found
    rw [read]
    rfl
  | some r =>
    cases holds : r.outcome? with
    | some outcome => exact .inl ⟨outcome, .settled found holds⟩
    | none => exact .inr (.inl ⟨r.hash, r, found, rfl, (borne id r found).waits holds⟩)

/-- What a confirmation comes to on a desk in use. -/
theorem confirm_learnt {exchange : Address} {calls : List Answered} {s : Desk × ε × List Note}
    (borne : Borne exchange calls s) (id : String) :
    (c.confirm id).Safe env.noted.alone
      (fun result s' => (∃ outcome, result = .ok outcome ∧ c.Answers id s'.1 result) ∨
        (∃ hash, Awaited id hash s ∧ c.Learnt id hash s.1 result s'.1) ∨
        result = .error (.error (.unknownOrder id))) s := by
  rw [safe_alone]
  have kinds : (∃ outcome, c.Answers id s.1 (.ok outcome)) ∨ (∃ hash, Awaited id hash s) ∨
      (c.confirm id).runAlone env.noted s = (.error (.error (.unknownOrder id)), s) :=
    confirm_of_borne borne id
  rcases kinds with ⟨outcome, known⟩ | ⟨hash, awaited⟩ | unknown
  · rw [confirm_of_answers known]
    exact .inl ⟨outcome, rfl, known⟩
  · rw [c.confirm_of_awaited awaited]
    exact .inr (.inl ⟨hash, awaited, safe_alone.1 (c.awaitOutcome_learnt awaited)⟩)
  · rw [unknown]
    exact .inr (.inr rfl)

/-- A final outcome that a placement has told is in its record. -/
theorem place_answers {s : Desk × ε × List Note} (id : String) (order : OrderRequest) :
    (c.place id order).Safe env.noted.alone
      (fun r s' => ∀ handle outcome, r = .ok handle → handle.outcome = some outcome →
        outcome.Final → c.Answers id s'.1 (.ok outcome)) s := by
  have set : (c.place id order).runAlone env.noted s =
      ((c.confirming c.confirmInLock).place id order).runAlone env.noted s := rfl
  cases inLock : c.confirmInLock with
  | false =>
    rw [inLock] at set
    refine alone_congr (set.trans (c.place_unconfirmed order)) ?_
    refine (c.sendPlacement_awaited order).mono fun r s' sent handle outcome ok told => ?_
    rw [(sent handle ok).1] at told
    cases told
  | true =>
    rw [inLock] at set
    refine alone_congr (set.trans (c.place_confirmed order)) ?_
    refine Safe.bind (c.sendPlacement_awaited order) ?_ fun _ _ _ _ _ failed => nomatch failed
    intro sent s' tracked
    refine Safe.bind (c.awaitOutcome_learnt (tracked sent rfl).2) ?_
      fun _ _ _ _ _ failed => nomatch failed
    rintro reached s'' learnt handle outcome ⟨⟩ ⟨⟩ final
    exact learnt.answers final

end Serving

/-- The receipt settles an order so. -/
structure Settles (exchange : Address) (receipt : Receipt) (resolution : Resolution) : Prop where
  success : receipt.success = true → resolution = .ofTrace (receipt.trace exchange)
  failure : receipt.success = false → ∃ reason, resolution = .failed reason

/-- **An order that waits is settled by the receipt** that a confirmation finds. -/
theorem confirm_of_receipt {c : Connector} {env : Environment ε} {s : Desk × ε} {id : String}
    {record : OrderRecord} {receipt : Receipt} (present : s.1.book.registry.get? id = some record)
    (waits : record.status = .awaitingConfirmation)
    (finds : c.sender.poll.Finds env s record.hash receipt) :
    (c.confirm id).Safe env.alone
      (fun r s' => ∃ resolution, Settles c.deployment.exchange receipt resolution ∧
        r = .ok resolution.outcome ∧
        s'.1.book.registry.get? id = some (record.apply resolution)) s := by
  refine alone_congr (c.confirm_of_waiting present waits) ?_
  have going : record.state.isTerminal = false := by
    unfold OrderRecord.state
    rw [waits]
    rfl
  unfold awaitOutcome
  refine Safe.bind (safe_both (OrderDesk.confirm_offBooks c.sender.poll record.hash).alone_same
    (PollPolicy.confirm_of_finds finds)) ?_ ?_
  · rintro confirmation s' ⟨same, mined, failed⟩
    have present' : s'.1.book.registry.get? id = some record := same.registry ▸ present
    obtain ⟨resolution, settles, told⟩ : ∃ resolution,
        Settles c.deployment.exchange receipt resolution ∧
          confirmation.resolution? c.deployment.exchange = some resolution := by
      cases success : receipt.success with
      | true =>
        cases mined success
        exact ⟨_, ⟨fun _ => rfl, fun failed => nomatch success.symm.trans failed⟩, rfl⟩
      | false =>
        obtain ⟨reason, ⟨⟩⟩ := failed success
        exact ⟨_, ⟨fun mined => (nomatch success.symm.trans mined), fun _ => ⟨reason, rfl⟩⟩, rfl⟩
    exact (c.settle_of_open present' going told).mono fun r s'' ended => ⟨resolution, settles, ended⟩
  · rintro fault s' ⟨-, mined, failed⟩
    cases success : receipt.success with
    | true => cases mined success
    | false =>
      obtain ⟨reason, ⟨⟩⟩ := failed success

section Session

variable {c : Connector} {env : Environment ε} {s : Session ε} {id : String}

/-- The result that is kept of a call is that of its run. -/
theorem result_of_obey {op : Operation} {result : Except Fault Achieved}
    (ended : (c.obey env s (.call op)).calls = s.calls ++ [⟨op, result⟩]) :
    ((c.perform op).runAlone env.noted (s.desk, s.out, s.notes)).1 = result := by
  have same := List.append_cancel_left ended
  simp only [List.cons.injEq, Answered.mk.injEq, and_true, true_and] at same
  exact same

/-- A final outcome that was told is kept. -/
theorem keeps_of_tells {exchange : Address}
    (borne : Borne exchange s.calls (s.desk, s.out, s.notes)) {op : Operation}
    {result : Except Fault Achieved} {outcome : ConfirmOutcome}
    (ended : (c.obey env s (.call op)).calls = s.calls ++ [⟨op, result⟩])
    (tells : Answered.Tells ⟨op, result⟩ id outcome) (final : outcome.Final) :
    c.Keeps env (c.obey env s (.call op)) id (.ok outcome) := by
  have ran := result_of_obey ended
  refine Answers.keeps ?_
  rcases tells with ⟨⟨⟩⟩ | ⟨order, handle, ⟨⟩, told⟩
  · have learnt : (c.perform (.confirm id)).Safe env.noted.alone
        (fun r s' => r = .ok (.confirmed outcome) → c.Answers id s'.1 (.ok outcome))
        (s.desk, s.out, s.notes) := by
      refine Safe.bind (confirm_learnt borne id) ?_ fun _ _ _ failed => nomatch failed
      rintro reached s' (⟨_, -, known⟩ | ⟨hash, -, learnt⟩ | ⟨⟨⟩⟩) ⟨⟩
      · exact known
      · exact learnt.answers final
    exact safe_alone.1 learnt ran
  · have placed : (c.perform (.place id order)).Safe env.noted.alone
        (fun r s' => r = .ok (.placed handle) → c.Answers id s'.1 (.ok outcome))
        (s.desk, s.out, s.notes) := by
      refine Safe.bind (place_answers id order) ?_ fun _ _ _ failed => nomatch failed
      rintro sent s' known ⟨⟩
      exact known _ outcome rfl told final
    exact safe_alone.1 placed ran

/-- A confirmation that ends without a receipt leaves the order waiting. -/
theorem unsettled_of_timedOut {exchange : Address}
    (borne : Borne exchange s.calls (s.desk, s.out, s.notes))
    (ended : (c.obey env s (.call (.confirm id))).calls =
      s.calls ++ [⟨.confirm id, .ok (.confirmed .timedOut)⟩]) :
    c.sender.poll.Polls ∧
      s.desk.Unsettled (c.obey env s (.call (.confirm id))).desk (s.desk.book.stats.add .timedOut) ∧
      ∃ hash, Awaited id hash (s.desk, s.out, s.notes) := by
  have learnt : (c.perform (.confirm id)).Safe env.noted.alone
      (fun r s' => r = .ok (.confirmed .timedOut) → c.sender.poll.Polls ∧
        s.desk.Unsettled s'.1 (s.desk.book.stats.add .timedOut) ∧
        ∃ hash, Awaited id hash (s.desk, s.out, s.notes)) (s.desk, s.out, s.notes) := by
    refine Safe.bind (confirm_learnt borne id) ?_ fun _ _ _ failed => nomatch failed
    rintro reached s' (⟨_, -, known⟩ | ⟨hash, awaited, learnt⟩ | ⟨⟨⟩⟩) ⟨⟩
    · exact (Answers.ne_timedOut known).elim
    · obtain ⟨left, polls⟩ := learnt.timed_out rfl
      exact ⟨polls, left, hash, awaited⟩
  exact safe_alone.1 learnt (result_of_obey ended)

/-- A confirmation that ends because the desk is to stop leaves the order waiting, for good. -/
theorem unsettled_of_shutdown {exchange : Address} {hash : Hash}
    (borne : Borne exchange s.calls (s.desk, s.out, s.notes))
    (ended : (c.obey env s (.call (.confirm id))).calls =
      s.calls ++ [⟨.confirm id, .error (.error (.shutdown hash))⟩]) :
    s.desk.Unsettled (c.obey env s (.call (.confirm id))).desk s.desk.book.stats ∧
      Awaited id hash (s.desk, s.out, s.notes) ∧
      c.Keeps env (c.obey env s (.call (.confirm id))) id (.error (.error (.shutdown hash))) := by
  have learnt : (c.perform (.confirm id)).Safe env.noted.alone
      (fun r s' => r = .error (.error (.shutdown hash)) →
        s.desk.Unsettled s'.1 s.desk.book.stats ∧ Awaited id hash (s.desk, s.out, s.notes) ∧
        c.Answers id s'.1 (.error (.error (.shutdown hash)))) (s.desk, s.out, s.notes) := by
    refine Safe.bind (confirm_learnt borne id) (fun _ _ _ failed => nomatch failed) ?_
    rintro fault s' (⟨_, ⟨⟩, -⟩ | ⟨hash', awaited, learnt⟩ | ⟨⟨⟩⟩) ⟨⟩
    obtain ⟨rfl, left, stopping, polls⟩ := learnt.shut_down
    refine ⟨left, awaited, ?_⟩
    obtain ⟨r, present, rfl, waits⟩ := awaited
    exact .stopped (left.registry ▸ present) waits stopping polls
  obtain ⟨left, awaited, answers⟩ := safe_alone.1 learnt (result_of_obey ended)
  exact ⟨left, awaited, Answers.keeps answers⟩

end Session

/-- **What a confirmation answers the next time.** A desk begins without orders and is used for any
calls, stops and pauses.

A call that tells the final outcome of an order leaves a desk on which every confirmation of it,
until it is cancelled, tells the same outcome, with nothing asked and nothing changed.

A confirmation that ends without a receipt, or because the desk is to stop, leaves the order waiting
and the books as they were, but for the counter of waits that ended without a receipt.

An order that waits is settled by the receipt that a confirmation finds, at whichever of its look-ups,
as long as the desk is not told to stop before. Once it is told, as it is after every confirmation that
ended for that, each confirmation of an order that waits, until it is cancelled, ends so again, with
nothing asked and nothing changed. A pause shorter than a millisecond is left out here: with it no
confirmation comes to its first look-up. -/
theorem confirmed_again (c : Connector) (env : Environment ε) (common : Common) (out : ε)
    (earlier : List Instruction) :
    let s := c.serve env (.opened common out) earlier
    let after := fun call : Operation => c.obey env s (.call call)
    let waits := fun (t : Session ε) id hash => Awaited id hash (t.desk, t.out, t.notes)
    (∀ call result id outcome, (after call).calls = s.calls ++ [⟨call, result⟩] →
      Answered.Tells ⟨call, result⟩ id outcome → outcome.Final →
        c.Keeps env (after call) id (.ok outcome)) ∧
    (∀ id result, (after (.confirm id)).calls = s.calls ++ [⟨.confirm id, result⟩] →
      (result = .ok (.confirmed .timedOut) → c.sender.poll.Polls ∧
        (∃ hash, waits s id hash ∧ waits (after (.confirm id)) id hash) ∧
        s.desk.Unsettled (after (.confirm id)).desk (s.desk.book.stats.add .timedOut)) ∧
      ∀ hash, result = .error (.error (.shutdown hash)) →
        (waits s id hash ∧ waits (after (.confirm id)) id hash) ∧
        s.desk.Unsettled (after (.confirm id)).desk s.desk.book.stats ∧
        c.Keeps env (after (.confirm id)) id (.error (.error (.shutdown hash)))) ∧
    ∀ id hash, waits s id hash →
      (c.sender.poll.interval.nanos = 0 ∨ 1000000 ≤ c.sender.poll.interval.nanos →
        s.desk.book.stopping = true → c.Keeps env s id (.error (.error (.shutdown hash)))) ∧
      ∀ {ε' : Type} (env' : Environment ε') (out' : ε') receipt,
        c.sender.poll.Finds env' (s.desk, out') hash receipt →
          let (answer, left) := (c.confirm id).runAlone env' (s.desk, out')
          ∃ record resolution, s.desk.book.registry.get? id = some record ∧
            Settles c.deployment.exchange receipt resolution ∧ answer = .ok resolution.outcome ∧
            left.1.book.registry.get? id = some (record.apply resolution) := by
  intro s after waits
  have borne : Borne c.deployment.exchange s.calls (s.desk, s.out, s.notes) :=
    (c.serve_sound (s := .opened common out)
      ⟨fun _ _ present => (nomatch present), fun _ mem => (nomatch mem)⟩ earlier).borne
  refine ⟨fun op result id outcome ended => keeps_of_tells borne ended, fun id result ended => ⟨?_, ?_⟩,
    fun id hash awaited => ⟨fun interval stopping => ?_, ?_⟩⟩
  · rintro rfl
    obtain ⟨polls, left, hash, awaited⟩ := unsettled_of_timedOut borne ended
    exact ⟨polls, ⟨hash, awaited, awaited.unsettled left⟩, left⟩
  · rintro hash rfl
    obtain ⟨left, awaited, keeps⟩ := unsettled_of_shutdown borne ended
    exact ⟨⟨awaited, awaited.unsettled left⟩, left, keeps⟩
  · obtain ⟨r, present, rfl, waits⟩ := awaited
    exact Answers.keeps (.stopped present waits stopping (c.sender.poll.polls_iff.2 interval))
  · intro ε' env' out' receipt finds
    obtain ⟨record, present, rfl, waits⟩ := awaited
    obtain ⟨resolution, settles, ended⟩ :=
      safe_alone.1 (confirm_of_receipt (s := (s.desk, out')) present waits finds)
    exact ⟨record, resolution, present, settles, ended⟩

end Connector

/-! ### A desk that was told to stop -/

namespace Stopped

/-- A desk with two tokens. -/
def desk : Connector :=
  { (default : Connector) with
    deployment :=
      { chainId := 1, exchange := ⟨7⟩
        tokens := [⟨"A", ⟨1⟩, 6, false⟩, ⟨"B", ⟨2⟩, 6, false⟩] } }

/-- The node has a receipt of every transaction: it failed. -/
def node : Environment Unit where
  reply
    | _, .receipt hash => (.ok (some ⟨hash, 1, false, 120000, []⟩), {}, ())
    | _, _ => (.error default, {}, ())
  sleep _ _ := ({}, ())

/-- An order is adopted by its placement, the desk is told to stop, and the order is confirmed. -/
def run : List Instruction :=
  [.call (.adopt "a" ⟨"A", "B"⟩ .ask ⟨5⟩ none), .shutdown, .call (.confirm "a")]

/-- The confirmation ends because the desk is to stop, and no later one settles the order, which
waits with its receipt there to be seen: all end so, whatever else the desk is used for, until the
order is cancelled. -/
theorem never_settled :
    let s := desk.serve node (.opened {} ()) run
    (s.calls.map (·.result)).getLast? = some (.error (.error (.shutdown ⟨5⟩))) ∧
      Awaited "a" ⟨5⟩ (s.desk, s.out, s.notes) ∧
      (node.reply () (.receipt ⟨5⟩)).1 = .ok (some ⟨⟨5⟩, 1, false, 120000, []⟩) ∧
      desk.Keeps node s "a" (.error (.error (.shutdown ⟨5⟩))) := by
  intro s
  have waits : Awaited "a" ⟨5⟩ (s.desk, s.out, s.notes) := ⟨_, rfl, rfl, rfl⟩
  refine ⟨rfl, waits, rfl, Connector.Answers.keeps ?_⟩
  obtain ⟨r, present, same, awaiting⟩ := waits
  rw [← same]
  exact .stopped present awaiting rfl rfl

end Stopped

end OrderDesk
