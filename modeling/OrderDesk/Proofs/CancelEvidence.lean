import OrderDesk.Proofs.CancelLog
import OrderDesk.Proofs.OrderHistory

/-!
# `OrderDesk.Proofs.CancelEvidence` — a reported cancellation happened on the chain

However the calls of a desk take turns and whatever the node answers, a cancellation that names a
transaction has evidence for it in its own log: the record it went by, the transaction that carries
the right call, and the receipt of its success. The number of the order is one of the exchange's,
unless the order was adopted with another.

## Contents
- `Traceable`, `Scene.Traced`: the statuses that tracked orders have, and where a number comes from.
- `Connector.CancelledOnChain`: the evidence.
- `Connector.cancel_evidence`: every reported cancellation has it.
- `CancelRun`: a cancellation through the batched call.
-/

namespace OrderDesk

/-- The number of the first placement that the exchange logged has 32 bits. -/
theorem Receipt.FirstPlaces.exists_id {r : Receipt} {exchange : Address} {number : UInt64}
    (h : r.FirstPlaces exchange number) : ∃ id : UInt32, id.toUInt64 = number := by
  obtain ⟨before, log, after, split, ⟨own, book, id, owner, bid, price, withoutFee, rested, read,
    same⟩, first⟩ := h
  exact ⟨id, same⟩

/-! ### Where the numbers of orders come from -/

/-- The order's number, if it has one, is one of the exchange's, or the order was adopted with it. A
tracked order is not a cancelled one. -/
def Traceable (history : List Deed) (id : String) (r : OrderRecord) : Prop :=
  match r.status with
  | .resting number => number.toNat < UInt32.size ∨ WasAdopted history id r.hash number
  | .cancelled _ => False
  | .pendingSubmit | .awaitingConfirmation | .immediatelyFilled | .failed _ => True

theorem Traceable.append {history : List Deed} {id : String} {r : OrderRecord}
    (h : Traceable history id r) (deed : Deed) : Traceable (history ++ [deed]) id r := by
  unfold Traceable at *
  split
  · next number status =>
    rw [status] at h
    exact h.imp_right (·.append deed)
  · next status =>
    rw [status] at h
    exact h
  all_goals trivial

/-- What a receipt settles leaves an order with a number of the exchange's, if with any. -/
theorem traceable_apply {history : List Deed} {id : String} {r : OrderRecord} {receipt : Receipt}
    {exchange : Address} {resolution : Resolution} (settles : receipt.Settles exchange resolution) :
    Traceable history id (r.apply resolution) := by
  unfold Receipt.Settles at settles
  split at settles
  · subst settles
    cases trace : receipt.trace exchange with
    | placed number =>
      obtain ⟨small, same⟩ := (Receipt.trace_eq_placed.1 trace).exists_id
      refine .inl ?_
      rw [← same, UInt32.toNat_toUInt64]
      exact small.toNat_lt
    | immediatelyFilled => trivial
    | notFound => trivial
  · obtain ⟨reason, rfl⟩ := settles
    trivial

namespace Scene

variable {α : Type} {c : Connector}

/-- Tracked orders are traceable, and so was every record when it was read. -/
structure Traced (s : Scene α) : Prop where
  seated : s.Seated
  tracked : ∀ id r, s.orders.get? id = some r → Traceable s.history id r
  read : ∀ deed ∈ s.history, ∀ id r, deed.event = .did (.order id) (some r) →
    Traceable s.history id r

theorem traced_opening (common : Common) : (opening common [{}] : Scene α).Traced where
  seated := ⟨fun me job h => by simp [opening] at h, by simp [opening]⟩
  tracked id r present := by
    have free : (opening common [{}] : Scene α).orders.get? id = none := rfl
    rw [free] at present
    cases present
  read deed hd := absurd hd List.not_mem_nil

/-- **A step keeps orders traceable** if it is one that the operation's access allows. -/
theorem Traced.took {s : Scene α} (h : s.Traced) {me : Nat} {job : Job α} {ev : Event}
    {progress : Progress α} {floor : Floor Unit} (here : s.jobs[me]? = some job)
    (step : s.floor.Move me job.desk job.progress ev progress floor)
    (permit : OrderAccess.may c (access s.history me) ev) :
    (s.took me job ev progress floor).Traced where
  seated := h.seated.took here step
  tracked id r present := by
    rw [history_took h.seated here]
    -- Most records are those of before.
    have kept (before : s.orders.get? id = some r) :
        Traceable (s.history ++ [s.deedOf me ev]) id r := (h.tracked id r before).append _
    cases ev with
    | did e x =>
      cases (does_took h.seated here step).leaves present with
      | kept before => exact kept before
      | reserved same =>
        unfold Traceable
        rw [permit.2]
        trivial
      | adopted same =>
        unfold Traceable
        rcases permit with waits | ⟨number, rests⟩
        · rw [waits]
          trivial
        · rw [rests]
          exact .inr ⟨_, List.mem_append_right _ (List.mem_singleton_self _), r, rfl, same, rfl, rests⟩
      | completed => trivial
      | resolved =>
        obtain ⟨hash, receipt, -, settles⟩ := permit
        exact traceable_apply settles
    | _ =>
      rw [orders_took h.seated here step] at present
      exact kept present
  read deed hd id r read := by
    rw [history_took h.seated here] at hd ⊢
    rcases List.mem_append.1 hd with before | now
    · exact (h.read deed before id r read).append _
    · -- What is read now is tracked.
      obtain rfl := List.mem_singleton.1 now
      obtain rfl : ev = .did (.order id) (some r) := read
      obtain ⟨found, -⟩ := (does_took h.seated here step).of_read
      exact (h.tracked id r found.symm).append _

theorem Traced.change {ι : Type} {calls : ι → Nat × Routine α} (seats : ∀ c, (calls c).1 = 0)
    {Q : α → OrderAccess → Prop} {s s' : Scene α}
    (hw : Watched OrderAccess.idle (OrderAccess.may c) OrderAccess.after Q s) (h : s.Traced)
    (change : Change calls s s') : s'.Traced := by
  rcases h.seated.change seats change with ⟨seated, history, orders⟩ |
    ⟨me, job, ev, progress, floor, here, step, rfl⟩
  · refine ⟨seated, fun id r present => ?_, ?_⟩
    · rw [history]
      exact h.tracked id r (orders id r present)
    · rw [history]
      exact h.read
  · exact h.took here step (hw.permits here step)

end Scene

namespace Connector

/-- Orders are traceable however the calls of a desk take turns. -/
theorem traced (c : Connector) (common : Common) (choices : List (Choice Operation)) :
    ((Scene.opening common [{}]).play c.answering choices).Traced := by
  have permitted (op : Operation) :
      (c.answering op).2.Safe (OrderAccess.watch c) (fun _ _ => True) .idle :=
    (Routine.safe_bind _ _ _).2 (c.perform_orderAccess op)
  refine Scene.play_watched (I := Scene.Traced) permitted (Scene.traced_opening common) ?_ choices
  exact fun s s' hw h change => h.change (fun _ => rfl) hw change

/-- **The evidence for a cancellation.** In this order the record was read, a transaction under the
hash was taken by the node and its success was reported. The transaction carries the channel's call
for the order of the record: it goes to the exchange without value, with the record's addresses, its
side and the number of the order, which is the record's own or that of the first placement that the
exchange logged in the receipt of the record's placement. -/
def CancelledOnChain (c : Connector) (id : String) (log : List Event) (hash : Hash)
    (channel : String) : Prop :=
  ∃ record number tx answer receipt,
    [.did (.order id) (some record), .accepted tx answer, .reported hash receipt].Sublist log ∧
    (record.status = .resting number ∨
      record.status = .awaitingConfirmation ∧ ∃ placement, .reported record.hash placement ∈ log ∧
        placement.success = true ∧ placement.FirstPlaces c.calls.exchange number) ∧
    tx = tx.request.sign c.sender.key ∧ tx.hash = hash ∧
    c.calls.Cancels (record.target number) channel tx.request.call ∧ receipt.success = true

/-- The evidence is in the log of a cancellation that names a transaction. -/
theorem cancelledOnChain_of_runs {c : Connector} {id : String} {log : List Event} {hash : Hash}
    {channel : String} (runs : CancelRuns c id log (.ok (.cancelled hash channel)))
    (honest : ∀ asked receipt, .reported asked receipt ∈ log → receipt.hash = asked)
    (uncancelled : ∀ record last, .did (.order id) (some record) ∈ log →
      record.status ≠ .cancelled last) :
    c.CancelledOnChain id log hash channel := by
  cases runs with
  | @settled record between outcome cleared sent routes =>
    obtain ⟨waited, searched, rfl, unsent, number, knows, call, receipt, cancels,
      ⟨tx, answer, both, signed, rfl, success⟩, rfl⟩ := routes.tells
    let log := Event.did (.order id) (some record) :: (waited ++ searched) ++ [.did (.clear id) cleared]
    have order : [.did (.order id) (some record), .accepted tx answer, .reported tx.hash receipt].Sublist
        log := by
      have inside := both.trans (List.sublist_append_right waited searched)
      exact (inside.cons_cons _).trans (List.sublist_append_left _ _)
    have same : receipt.hash = tx.hash := honest tx.hash receipt (order.subset (by simp))
    refine ⟨record, number, tx, answer, receipt, ?_, ?_, signed, same.symm, cancels, success⟩
    · rw [same]
      exact order
    · have first : .did (.order id) (some record) ∈ log := order.subset (by simp)
      have live (last : Option OrderRef) := uncancelled record last first
      -- A cancelled record is not tracked, so its reference is that of one of the two statuses.
      rcases knows with numbered | ⟨placed, placement, referred, told, succeeded, places⟩
      · unfold OrderRecord.reference? at numbered
        cases status : record.status with
        | resting own =>
          rw [status] at numbered
          cases numbered
          exact .inl rfl
        | cancelled last => exact absurd status (live last)
        | pendingSubmit | awaitingConfirmation | immediatelyFilled | failed reason =>
          rw [status] at numbered
          cases numbered
      · unfold OrderRecord.reference? at referred
        cases status : record.status with
        | awaitingConfirmation =>
          rw [status] at referred
          cases referred
          refine .inr ⟨rfl, placement, ?_, succeeded, places⟩
          exact List.mem_append_left _ (List.mem_cons_of_mem _ (List.mem_append_left _ told))
        | cancelled last => exact absurd status (live last)
        | pendingSubmit | resting own | immediatelyFilled | failed reason =>
          rw [status] at referred
          cases referred

/-- The log of every finished cancellation, with its result. -/
theorem cancelRuns_of_finished (c : Connector) (own : ∀ channel ∈ c.channels, channel.isOwn = true)
    (common : Common) (choices : List (Choice Operation)) {me : Nat} {job : Job Answered}
    {id : String} {result : Except Fault Achieved}
    (here : ((Scene.opening common [{}]).play c.answering choices).jobs[me]? = some job)
    (finished : job.progress = .finished ⟨.cancel id, result⟩) :
    ∃ r, result = .cancelled <$> r ∧
      CancelRuns c id (((Scene.opening common [{}]).play c.answering choices).log me) r := by
  let met (answered : Answered) (log : List Event) : Prop :=
    ∀ id, answered.call = .cancel id →
      ∃ r, answered.result = .cancelled <$> r ∧ CancelRuns c id log r
  have logs (op : Operation) : (c.perform op).Logs fun result own => met ⟨op, result⟩ own := by
    cases op with
    | cancel id =>
      refine Attempt.logs_map.2 ((c.cancel_logs own id).mono fun r log runs => ?_)
      rintro _ ⟨⟩
      exact ⟨r, rfl, runs⟩
    | place _ _ | confirm _ | adopt _ _ _ _ _ =>
      refine (Attempt.logs_trivial _).mono fun _ _ _ => ?_
      rintro _ ⟨⟩
  exact logs_of_finished logs common [{}] choices here finished id rfl

/-- **A reported cancellation happened on the chain.** The calls of a desk with the usual channels
take turns in any way, and the node answers in any way, but each receipt is that of the transaction
it was asked for. Then a cancellation that names a transaction has the evidence in its log. The call
can be made for every number that the exchange logs; an order with another number was adopted with
it, and its cancellation reads its record, clears it and does nothing else. -/
theorem cancel_evidence (c : Connector) (usual : c.channels = CancelChannel.standard)
    (common : Common) (choices : List (Choice Operation)) :
    let s := (Scene.opening common [{}]).play c.answering choices
    (∀ me job id hash channel, s.jobs[me]? = some job →
      job.progress = .finished ⟨.cancel id, .ok (.cancelled (.cancelled hash channel))⟩ →
      (∀ asked receipt, .reported asked receipt ∈ s.log me → receipt.hash = asked) →
        c.CancelledOnChain id (s.log me) hash channel) ∧
    (∀ (log : Log) (t : CancelTarget), log.Places c.calls.exchange t.orderId →
      ∃ batched single, c.calls.cancelOrders [t] = .ok batched ∧ c.calls.cancelOrder t = .ok single) ∧
    (∀ me job id result record number, s.jobs[me]? = some job →
      job.progress = .finished ⟨.cancel id, result⟩ → .did (.order id) (some record) ∈ s.log me →
      record.status = .resting number → UInt32.size ≤ number.toNat →
        result = .ok (.cancelled (.localOnly .exhausted)) ∧
        (∃ cleared, s.log me = [.did (.order id) (some record), .did (.clear id) cleared]) ∧
        WasAdopted s.history id record.hash number) := by
  have own : ∀ channel ∈ c.channels, channel.isOwn = true := by
    rw [usual]
    decide
  have traced := c.traced common choices
  refine ⟨?_, ?_, ?_⟩
  · intro me job id hash channel here finished honest
    obtain ⟨r, same, runs⟩ := c.cancelRuns_of_finished own common choices here finished
    obtain rfl : r = .ok (.cancelled hash channel) := by
      cases r with
      | ok outcome =>
        cases same
        rfl
      | error fault => cases same
    refine cancelledOnChain_of_runs runs honest fun record last read status => ?_
    obtain ⟨deed, hd, -, event⟩ := Scene.mem_log.1 read
    have traceable := traced.read deed hd id record event
    unfold Traceable at traceable
    rw [status] at traceable
    exact traceable
  · rintro log t ⟨-, book, id, owner, bid, price, withoutFee, rested, read, same⟩
    have named := CancelTarget.engineId_of_toUInt64 same
    exact ⟨_, _, CallBook.cancelOrders_of_engineId named, CallBook.cancelOrder_of_engineId named⟩
  · intro me job id result record number here finished read status large
    obtain ⟨r, rfl, runs⟩ := c.cancelRuns_of_finished own common choices here finished
    obtain ⟨rfl, cleared⟩ := runs.of_large read status large
    obtain ⟨deed, hd, -, event⟩ := Scene.mem_log.1 read
    have traceable := traced.read deed hd id record event
    unfold Traceable at traceable
    rw [status] at traceable
    exact ⟨rfl, cleared, traceable.resolve_left (Nat.not_lt.2 large)⟩

end Connector

/-! ### A cancellation through the batched call -/

namespace CancelRun

/-- A desk with two tokens and the usual channels, which looks for a receipt once. -/
def desk : Connector :=
  { (default : Connector) with
    sender := { (default : Sender) with poll := { interval := ⟨0⟩ } }
    deployment :=
      { chainId := 1, exchange := ⟨7⟩
        tokens := [⟨"A", ⟨1⟩, 6, false⟩, ⟨"B", ⟨2⟩, 6, false⟩] }
    calls := { (default : CallBook) with exchange := ⟨7⟩ }
    channels := CancelChannel.standard }

/-- An order is adopted with its number and cancelled, and a node answers all questions. -/
def choices (node : (r : Request) → r.Reply) : List (Choice Operation) :=
  [.call (.adopt "a" ⟨"A", "B"⟩ .bid ⟨11⟩ (some 5)), .call (.cancel "a")] ++
    List.replicate 3 (.go 0 node false) ++ List.replicate 30 (.go 1 node false)

def scene (node : (r : Request) → r.Reply) : Scene Answered :=
  (Scene.opening {} [{}]).play desk.answering (choices node)

/-- What the cancellation was told is what the node answers. -/
theorem told_by {node : (r : Request) → r.Reply} {r : Request} {x : r.Reply}
    (mem : .told r x ∈ (scene node).log 1) : x = node r := by
  have answers : ∀ me answer stopped, .go me answer stopped ∈ choices node → answer = node := by
    intro me answer stopped mem
    simp only [choices, List.mem_append, List.mem_cons, List.mem_replicate] at mem
    rcases mem with ((same | same | none) | ⟨-, same⟩) | ⟨-, same⟩
    · cases same
    · cases same
    · cases none
    · cases same
      rfl
    · cases same
      rfl
  obtain ⟨deed, hd, -, told⟩ := Scene.mem_log.1 mem
  exact (Scene.told_play answers hd told).resolve_left List.not_mem_nil

/-- The node takes every transaction and reports its success at once. -/
def prompt : (r : Request) → r.Reply
  | .pendingNonce _ => .ok 0
  | .send tx => .ok tx.hash
  | .receipt hash => .ok (some ⟨hash, 1, true, 0, []⟩)
  | _ => .error default

/-- The cancellation names a transaction of the batched channel. -/
def namesBatch (job : Job Answered) : Bool :=
  match job.progress with
  | .finished ⟨.cancel id, .ok (.cancelled (.cancelled _ channel))⟩ => id == "a" && channel == "batch"
  | _ => false

/-- The evidence for it. -/
theorem cancelled_by_batch : ∃ hash,
    desk.CancelledOnChain "a" ((scene prompt).log 1) hash CancelChannel.batch.name := by
  have done : ((scene prompt).jobs[1]?).any namesBatch = true := by decide +kernel
  obtain ⟨job, here, named⟩ := (Option.any_eq_true namesBatch _).1 done
  unfold namesBatch at named
  split at named
  · next id hash channel finished =>
    obtain ⟨rfl, rfl⟩ : id = "a" ∧ channel = "batch" := by simpa using named
    have honest : ∀ asked receipt, .reported asked receipt ∈ (scene prompt).log 1 →
        receipt.hash = asked := by
      intro asked receipt mem
      cases told_by mem
      rfl
    exact ⟨hash,
      (desk.cancel_evidence rfl {} (choices prompt)).1 1 job "a" hash "batch" here finished honest⟩
  · cases named

end CancelRun
end OrderDesk
