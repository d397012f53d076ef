import OrderDesk.Proofs.CallData
import OrderDesk.Proofs.Evidence

/-!
# `OrderDesk.Proofs.CancelLog` — what a cancellation leaves in its log

A cancellation that reports a transaction has sent it and was told its receipt; one that reports none
was told of no success. Part by part this is read off the log, from the submission of one transaction
up to the whole call.

## Contents
- `Sending`: how a call is sent; `Confirms`, `NoSuccess`: what a log says of the transactions in it.
- `CancelDesk.tryChannel_parts`, `CancelDesk.route_parts`: the logs of a trial and of a whole search, from
  those of the calls in them.
- `CancelDesk.tryChannels_logs`, `CancelDesk.route_logs`: channels that call the exchange themselves.
- `CancelRuns`, `Connector.cancel_parts`, `Connector.cancel_logs`: the log of a whole cancellation with its
  result.
-/

namespace OrderDesk

open Attempt

/-- Every receipt that was told is one of a failure. -/
def NoSuccess (log : List Event) : Prop :=
  ∀ hash receipt, .reported hash receipt ∈ log → receipt.success = false

theorem NoSuccess.nil : NoSuccess [] := fun _ _ mem => absurd mem List.not_mem_nil

theorem NoSuccess.append {log more : List Event} (h : NoSuccess log) (h' : NoSuccess more) :
    NoSuccess (log ++ more) := by
  intro hash receipt mem
  rcases List.mem_append.1 mem with before | after
  · exact h hash receipt before
  · exact h' hash receipt after

theorem noSuccess_of_offOrders {log : List Event} (h : ∀ ev ∈ log, ev.OffOrders) : NoSuccess log :=
  fun hash receipt mem => absurd rfl ((h _ mem).ne_reported hash receipt)

/-! ### Waiting -/

namespace Lookups

variable {hash : Hash} {own : List Event}

theorem of_confirmed {receipt : Receipt}
    (h : Lookups hash (notesOf own) (.ok (.confirmed receipt))) :
    .reported hash receipt ∈ own ∧ receipt.success = true := by
  generalize same : notesOf own = notes at h
  cases h with
  | @confirmed misses receipt missed success =>
    have last : .ofReceipt hash receipt ∈ notesOf own := by
      rw [same]
      exact List.mem_append_right _ (List.mem_singleton_self _)
    exact ⟨mem_notesOf.1 last, success⟩

/-- A receipt is not missed. -/
theorem not_misses (other : Hash) (receipt : Receipt) :
    ¬ Note.Misses hash (.ofReceipt other receipt) := by
  rintro ⟨answer, missing, same⟩
  cases same
  exact missing receipt rfl

/-- **A receipt that is told ends the wait**: a success at once, and a failure with what comes after to
explain it. -/
theorem of_reported {notes : List Note} {r : Except Fault Confirmation} {told : Hash} {receipt : Receipt}
    (h : Lookups hash notes r) (noted : .ofReceipt told receipt ∈ notes) :
    told = hash ∧ (r = .ok (.confirmed receipt) ∧ receipt.success = true ∨
      ∃ misses learnt reason, notes = misses ++ .ofReceipt hash receipt :: learnt ∧
        (∀ note ∈ misses, note.Misses hash) ∧ receipt.success = false ∧
        receipt.Explains learnt reason ∧ r = .ok (.reverted receipt reason)) := by
  cases h with
  | confirmed missed success =>
    rcases List.mem_append.1 noted with before | last
    · exact absurd (missed _ before) (not_misses told receipt)
    · cases List.mem_singleton.1 last
      exact ⟨rfl, .inl ⟨rfl, success⟩⟩
  | @reverted misses learnt failure reason missed failed explains =>
    rcases List.mem_append.1 noted with before | after
    · exact absurd (missed _ before) (not_misses told receipt)
    · rcases List.mem_cons.1 after with here | later
      · cases here
        exact ⟨rfl, .inr ⟨misses, learnt, reason, rfl, missed, failed, explains, rfl⟩⟩
      · -- What explains a failure is no receipt.
        cases explains with
        | repeated tx result =>
          rcases List.mem_cons.1 later with same | last
          · cases same
          · cases List.mem_singleton.1 last
        | unknown answer missing => cases List.mem_singleton.1 later
  | timedOut timeout missed => exact absurd (missed _ noted) (not_misses told receipt)
  | stopped missed => exact absurd (missed _ noted) (not_misses told receipt)
  | arithmetic => exact absurd noted List.not_mem_nil

/-- A wait that does not end with a success is told of none. -/
theorem noSuccess {r : Except Fault Confirmation} (h : Lookups hash (notesOf own) r)
    (other : ∀ receipt, r ≠ .ok (.confirmed receipt)) : NoSuccess own := by
  intro told receipt mem
  obtain ⟨-, ⟨confirmed, -⟩ | ⟨misses, learnt, reason, -, -, failed, -, -⟩⟩ :=
    h.of_reported (mem_notesOf.2 mem)
  · exact absurd confirmed (other receipt)
  · exact failed

end Lookups

/-- What leaves the wallet alone hands nothing over. -/
theorem Event.OffWallet.unsent {ev : Event} (h : ev.OffWallet) : ev.Unsent := by
  cases ev with
  | asked r =>
    cases r with
    | send tx => cases h
    | _ => trivial
  | told r x =>
    cases r with
    | send tx => cases h
    | _ => trivial
  | _ => trivial

theorem confirm_unsent (p : PollPolicy) (hash : Hash) : (p.confirm hash).Only Event.Unsent :=
  (confirm_offWallet p hash).mono fun _ off => off.unsent

/-! ### Sending one transaction -/

/-- **How a call is sent**: the transaction that carries it is signed and the node takes it, with
nothing sent before; or the node takes none. -/
inductive Sending (s : Sender) (call : Call) : List Event → Except Fault Submitted → Prop
  | accepted {before : List Event} {tx : SignedTx} {answer : Hash}
    (unsent : ∀ ev ∈ before, ev.Unsent) (signed : tx = tx.request.sign s.key)
    (carries : tx.request.call = call) :
    Sending s call (before ++ [.asked (.send tx), .accepted tx answer]) (.ok ⟨tx.hash, tx.request⟩)
  | failed {own : List Event} {fault : Fault} (none : ∀ tx answer, .accepted tx answer ∉ own) :
    Sending s call own (.error fault)

theorem not_accepted_of_unsent {log : List Event} (h : ∀ ev ∈ log, ev.Unsent) (tx : SignedTx)
    (answer : Hash) : .accepted tx answer ∉ log :=
  fun mem => h _ mem

namespace Sender

variable (s : Sender) (call : Call)

/-- An unsent part before a sending belongs to it. -/
theorem Sending.after {before own : List Event} {r : Except Fault Submitted}
    (unsent : ∀ ev ∈ before, ev.Unsent) (h : Sending s call own r) :
    Sending s call (before ++ own) r := by
  cases h with
  | @accepted between tx answer unsentBetween signed carries =>
    rw [← List.append_assoc]
    refine .accepted (fun ev mem => ?_) signed carries
    rcases List.mem_append.1 mem with mem | mem
    · exact unsent ev mem
    · exact unsentBetween ev mem
  | failed none =>
    refine .failed fun tx answer mem => ?_
    rcases List.mem_append.1 mem with mem | mem
    · exact not_accepted_of_unsent unsent tx answer mem
    · exact none tx answer mem

theorem submit_logs (nonce : UInt64) :
    (s.submit call nonce).Logs fun r own => Sending s call own r := by
  unfold submit
  have failed {own : List Event} {fault : Fault} (unsent : ∀ ev ∈ own, ev.Unsent) :
      Sending s call own (.error fault) := .failed (not_accepted_of_unsent unsent)
  refine Logs.bind ((gasLimit_minor s call).mono fun _ h => h.aside.unsent).logs ?_
    fun _ _ unsent => failed unsent
  intro limit first unsentFirst
  refine Logs.bind ((gasPrice_minor s).mono fun _ h => h.aside.unsent).logs ?_ ?_
  · intro price second unsentSecond
    refine logs_reply_bind fun accepted => ?_
    let tx := (s.request call nonce limit price).sign s.key
    have before : ∀ ev ∈ first ++ second, ev.Unsent := fun ev mem =>
      (List.mem_append.1 mem).elim (unsentFirst ev) (unsentSecond ev)
    cases accepted with
    | ok answer =>
      show Sending s call (first ++ (second ++ [.asked (.send tx), .accepted tx answer])) _
      rw [← List.append_assoc]
      exact .accepted before rfl rfl
    | error e =>
      show Sending s call (first ++ (second ++ [.asked (.send tx), .told (.send tx) (.error e)])) _
      rw [← List.append_assoc]
      refine .failed fun other answer mem => ?_
      rcases List.mem_append.1 mem with mem | mem
      · exact not_accepted_of_unsent before other answer mem
      · rcases List.mem_cons.1 mem with same | last
        · cases same
        · cases List.mem_singleton.1 last
  · intro fault second unsentSecond
    exact Sending.after s call unsentFirst (failed unsentSecond)

theorem sendNext_logs : (s.sendNext call).Logs fun r own => Sending s call own r := by
  unfold sendNext
  refine Logs.bind ((acquire_passing s.wallet).mono fun _ h => h.2).logs ?_
    fun _ _ unsent => .failed (not_accepted_of_unsent unsent)
  intro nonce before unsent
  exact (s.submit_logs call nonce).mono fun _ _ sending => Sending.after s call unsent sending

end Sender

/-- **A call was confirmed**: in this order the node took the transaction that carries it and
reported its success. -/
def Confirms (s : Sender) (call : Call) (log : List Event) (receipt : Receipt) : Prop :=
  ∃ tx answer, [.accepted tx answer, .reported tx.hash receipt].Sublist log ∧
    tx = tx.request.sign s.key ∧ tx.request.call = call ∧ receipt.success = true

/-- A longer log says as much. -/
theorem Confirms.mono {s : Sender} {call : Call} {log log' : List Event} {receipt : Receipt}
    (h : Confirms s call log receipt) (longer : log.Sublist log') :
    Confirms s call log' receipt := by
  obtain ⟨tx, answer, sent, signed, carries, success⟩ := h
  exact ⟨tx, answer, sent.trans longer, signed, carries, success⟩

/-- **Sending and waiting** ends with a success that is in the log, or without any. -/
theorem Sender.execute_logs (s : Sender) (call : Call) :
    (s.execute call).Logs fun (r : Except Fault (Submitted × Confirmation)) own => match r with
      | .ok (_, .confirmed receipt) => Confirms s call own receipt
      | _ => NoSuccess own := by
  unfold Sender.execute
  refine Logs.locked ?_
  have lock (wallet : Address) : NoSuccess [.queued wallet, .locked wallet] :=
    noSuccess_of_offOrders (by simp [Event.OffOrders, Event.concernsOrders])
  have unlock (wallet : Address) : NoSuccess [.unlocked wallet] :=
    noSuccess_of_offOrders (by simp [Event.OffOrders, Event.concernsOrders])
  refine Logs.bind ((s.sendNext_logs call).and (sendNext_offOrders s call).logs) ?_ ?_
  · rintro submitted sent ⟨sending, offOrders⟩
    have quiet := noSuccess_of_offOrders offOrders
    cases sending with
    | @accepted before tx answer unsent signed carries =>
      refine Logs.bind (confirm_logs s.poll tx.hash) ?_ ?_
      · intro confirmation waited looked
        rw [logs_pure, List.append_nil]
        cases confirmation with
        | confirmed receipt =>
          obtain ⟨mem, success⟩ := looked.of_confirmed
          refine ⟨tx, answer, ?_, signed, carries, success⟩
          -- The acceptance is the last that sending leaves in the log; the receipt comes after it.
          have first : [.accepted tx answer].Sublist (before ++ [.asked (.send tx), .accepted tx answer]) :=
            List.singleton_sublist.2 (by simp)
          have both := first.append (List.singleton_sublist.2 mem)
          exact (both.cons _).cons _ |>.trans (List.sublist_append_left _ _)
        | reverted receipt reason =>
          exact (lock _).append (quiet.append (looked.noSuccess nofun)) |>.append (unlock _)
        | timedOut hash timeout =>
          exact (lock _).append (quiet.append (looked.noSuccess nofun)) |>.append (unlock _)
      · intro fault waited looked
        exact (lock _).append (quiet.append (looked.noSuccess nofun)) |>.append (unlock _)
  · rintro fault sent ⟨-, offOrders⟩
    exact (lock _).append (noSuccess_of_offOrders offOrders) |>.append (unlock _)

/-! ### Channels -/

/-- The channel calls the exchange itself. -/
def CancelChannel.isOwn : CancelChannel → Bool
  | .other _ _ => false
  | .batch | .direct _ => true

namespace CancelDesk

/-- The channel's own call for the target was confirmed under the hash. -/
def CancelledBy (c : CancelDesk) (target : CancelTarget) (channel : String) (log : List Event)
    (hash : Hash) : Prop :=
  ∃ call receipt, c.calls.Cancels target channel call ∧ Confirms c.sender call log receipt ∧
    receipt.hash = hash

theorem CancelledBy.mono {c : CancelDesk} {target : CancelTarget} {channel : String}
    {log log' : List Event} {hash : Hash} (h : c.CancelledBy target channel log hash)
    (longer : log.Sublist log') : c.CancelledBy target channel log' hash := by
  obtain ⟨call, receipt, cancels, confirms, same⟩ := h
  exact ⟨call, receipt, cancels, confirms.mono longer, same⟩

variable (c : CancelDesk) {target : CancelTarget}

/-- What the log of a channel's trial says of its result. -/
def TrialTells (target : CancelTarget) (channel : String) (log : List Event) :
    Except Fault CancelAttempt → Prop
  | .ok (.cancelled hash) => c.CancelledBy target channel log hash
  | .ok .notOnBook | .error _ => NoSuccess log

/-- What the log of a search through channels says of its result. -/
def SearchTells (target : CancelTarget) (log : List Event) : Except Fault CancelOutcome → Prop
  | .ok (.cancelled hash channel) => c.CancelledBy target channel log hash
  | .ok (.localOnly reason) => NoSuccess log ∧ (reason = .notOnBook ∨ reason = .exhausted)
  | .error _ => NoSuccess log

/-- What went before without a success changes nothing. -/
theorem TrialTells.after {channel : String} {log more : List Event} {r : Except Fault CancelAttempt}
    (tells : c.TrialTells target channel more r) (quiet : NoSuccess log) :
    c.TrialTells target channel (log ++ more) r :=
  match r, tells with
  | .ok (.cancelled _), tells => tells.mono (List.sublist_append_right _ _)
  | .ok .notOnBook, tells => quiet.append tells
  | .error _, tells => quiet.append tells

theorem SearchTells.after {log more : List Event} {r : Except Fault CancelOutcome}
    (tells : c.SearchTells target more r) (quiet : NoSuccess log) :
    c.SearchTells target (log ++ more) r :=
  match r, tells with
  | .ok (.cancelled _ _), tells => tells.mono (List.sublist_append_right _ _)
  | .ok (.localOnly _), tells => ⟨quiet.append tells.1, tells.2⟩
  | .error _, tells => quiet.append tells

theorem execute_logs {channel : String} {call : Call} (cancels : c.calls.Cancels target channel call) :
    (c.execute call).Logs fun r own => c.TrialTells target channel own r := by
  unfold CancelDesk.execute
  refine Logs.bind (c.sender.execute_logs call) ?_ fun _ _ told => told
  rintro ⟨submitted, confirmation⟩ own told
  cases confirmation with
  | confirmed receipt =>
    rw [logs_pure, List.append_nil]
    exact ⟨call, receipt, cancels, told, rfl⟩
  | reverted receipt reason =>
    rw [logs_fail, List.append_nil]
    exact told
  | timedOut hash timeout =>
    rw [logs_fail, List.append_nil]
    exact told

/-- **How an own channel is tried**: its call is executed, perhaps after a look at the book; or it
comes to no call, and then it reports none. -/
theorem tryChannel_parts {channel : CancelChannel} (own : channel.isOwn = true)
    {Q : Except Fault CancelAttempt → List Event → Prop}
    (executes : ∀ call, c.calls.Cancels target channel.name call → (c.execute call).Logs Q)
    (idle : ∀ r log, (∀ ev ∈ log, ev.Aside) → (∀ hash, r ≠ .ok (.cancelled hash)) → Q r log)
    (after : ∀ r log more, (∀ ev ∈ log, ev.Aside) → Q r more → Q r (log ++ more)) :
    (c.tryChannel target channel).Logs Q := by
  have calling {call : Except DeskError Call}
      (cancels : ∀ made, call = .ok made → c.calls.Cancels target channel.name made) :
      (ofExcept call >>= c.execute).Logs Q := by
    cases call with
    | error e => exact idle _ [] (fun _ mem => absurd mem List.not_mem_nil) nofun
    | ok made => exact executes made (cancels made rfl)
  cases channel with
  | batch => exact calling fun _ made => CallBook.cancelOrders_cancels made
  | direct probe =>
    have single : (ofExcept (c.calls.cancelOrder target) >>= c.execute).Logs Q :=
      calling fun _ made => CallBook.cancelOrder_cancels made
    cases probe with
    | false => exact single
    | true =>
      have looked : ((· == some false) <$> c.onBook? target : Attempt Bool).Only Event.Aside :=
        Only.bind (onBook_aside c target) fun _ => only_pure _
      refine Logs.bind looked.logs ?_ fun fault log aside => idle _ log aside nofun
      intro gone log aside
      cases gone with
      | true =>
        show Q (.ok .notOnBook) (log ++ [])
        rw [List.append_nil]
        exact idle _ log aside nofun
      | false => exact single.mono fun r more tells => after r log more aside tells
  | other name channel => cases own

theorem tryChannel_logs (target : CancelTarget) {channel : CancelChannel}
    (own : channel.isOwn = true) :
    (c.tryChannel target channel).Logs fun r log => c.TrialTells target channel.name log r := by
  -- Looking at the book tells of no receipt.
  have quiet {log : List Event} (aside : ∀ ev ∈ log, ev.Aside) : NoSuccess log :=
    noSuccess_of_offOrders fun ev mem => (aside ev mem).offOrders
  refine c.tryChannel_parts own (fun _ cancels => c.execute_logs cancels) ?_
    fun _ _ _ aside tells => tells.after c (quiet aside)
  intro r log aside other
  match r with
  | .ok (.cancelled hash) => exact absurd rfl (other hash)
  | .ok .notOnBook => exact quiet aside
  | .error _ => exact quiet aside

theorem tryChannels_logs (target : CancelTarget) {channels : List CancelChannel}
    (own : ∀ channel ∈ channels, channel.isOwn = true) :
    (c.tryChannels target channels).Logs fun r log => c.SearchTells target log r := by
  induction channels with
  | nil => exact ⟨NoSuccess.nil, .inr rfl⟩
  | cons channel rest ih =>
    unfold CancelDesk.tryChannels
    refine Logs.caught (c.tryChannel_logs target (own channel (List.mem_cons_self ..))) ?_
    intro result log tells
    split
    · rw [logs_pure, List.append_nil]
      exact tells
    · rw [logs_pure, List.append_nil]
      exact ⟨tells, .inl rfl⟩
    · rw [logs_breakdown, List.append_nil]
      exact tells
    · split
      · rw [logs_fail, List.append_nil]
        exact tells
      · -- The channel failed, so its log tells of no success, and the next one is tried.
        refine (ih fun channel mem => own channel (List.mem_cons_of_mem _ mem)).mono ?_
        exact fun r more found => found.after c tells

/-- A number that is not the exchange's is not tried: every channel fails at once. -/
theorem tryChannels_of_large {channels : List CancelChannel}
    (own : ∀ channel ∈ channels, channel.isOwn = true) (large : UInt32.size ≤ target.orderId.toNat) :
    c.tryChannels target channels = pure (.localOnly .exhausted) := by
  obtain ⟨batched, single, looked⟩ :=
    CallBook.calls_of_error (b := c.calls) (CancelTarget.engineId_of_le large)
  induction channels with
  | nil => rfl
  | cons channel rest ih =>
    have others := ih fun channel mem => own channel (List.mem_cons_of_mem _ mem)
    have refused : c.tryChannel target channel =
        fail (.invalidArgument s!"order id {target.orderId.toNat} out of range") := by
      cases channel with
      | batch =>
        unfold CancelDesk.tryChannel
        rw [batched]
        rfl
      | direct probe =>
        unfold CancelDesk.tryChannel CancelDesk.onBook?
        rw [looked, single]
        cases probe <;> rfl
      | other name channel => cases own _ (List.mem_cons_self ..)
    unfold CancelDesk.tryChannels
    rw [refused, others]
    rfl

/-! ### A whole cancellation -/

/-- How the number of a record's order is known: from the record, or from the receipt of its
placement, which the node reported. -/
def Knows (record : OrderRecord) (log : List Event) (number : UInt64) : Prop :=
  record.reference? = some (.number number) ∨
    ∃ hash receipt, record.reference? = some (.placement hash) ∧ .reported hash receipt ∈ log ∧
      receipt.success = true ∧ receipt.FirstPlaces c.calls.exchange number

/-- A longer log tells it as well. -/
theorem Knows.mono {c : CancelDesk} {record : OrderRecord} {number : UInt64}
    {log longer : List Event} (h : c.Knows record log number) (sub : log ⊆ longer) :
    c.Knows record longer number := by
  refine h.imp_right ?_
  rintro ⟨hash, receipt, placed, told, success, places⟩
  exact ⟨hash, receipt, placed, sub told, success, places⟩

/-- What the log of a cancellation says of its outcome: the placement may have been waited for, and
channels may have been tried after that. -/
def RouteTells (record : OrderRecord) (log : List Event) (r : Except Fault CancelOutcome) : Prop :=
  ∃ waited searched, log = waited ++ searched ∧ (∀ ev ∈ waited, ev.Unsent) ∧
    match r with
    | .ok (.cancelled hash channel) => ∃ number, c.Knows record waited number ∧
        c.CancelledBy (record.target number) channel searched hash
    | .ok (.localOnly reason) => NoSuccess searched ∧
        (reason = .notOnBook ∨ reason = .exhausted ∨ searched = [])
    | .error _ => NoSuccess searched

theorem search_logs (record : OrderRecord) {number : UInt64} {waited : List Event}
    (unsent : ∀ ev ∈ waited, ev.Unsent) (known : c.Knows record waited number)
    (own : ∀ channel ∈ c.channels, channel.isOwn = true) :
    (c.cancelNumber record number).Logs fun r more => c.RouteTells record (waited ++ more) r := by
  refine (c.tryChannels_logs (record.target number) own).mono fun r searched tells => ?_
  refine ⟨waited, searched, rfl, unsent, ?_⟩
  match r, tells with
  | .ok (.cancelled hash channel), tells => exact ⟨number, known, tells⟩
  | .ok (.localOnly _), tells => exact ⟨tells.1, tells.2.imp_right .inl⟩
  | .error _, tells => exact tells

/-- **How a cancellation goes**: the channels are searched once the number of the order is known,
perhaps after waiting for its placement; or there is no search, and then it reports no cancelling. -/
theorem route_parts {record : OrderRecord} {Q : Except Fault CancelOutcome → List Event → Prop}
    (searches : ∀ number waited, (∀ ev ∈ waited, ev.OffWallet) → c.Knows record waited number →
      (c.cancelNumber record number).Logs fun r more => Q r (waited ++ more))
    (idle : ∀ r waited, (∀ ev ∈ waited, ev.OffWallet) →
      (∀ hash channel, r ≠ .ok (.cancelled hash channel)) → Q r waited) :
    (c.route record).Logs Q := by
  have empty : ∀ ev ∈ ([] : List Event), ev.OffWallet := fun _ mem => absurd mem List.not_mem_nil
  unfold CancelDesk.route
  split
  · exact idle _ [] empty nofun
  · split
    · exact idle _ [] empty nofun
    · next number numbered => exact searches number [] empty (.inl numbered)
    · next hash placed =>
      unfold CancelDesk.resolvePlacement
      rw [bind_assoc]
      have waiting := (confirm_logs c.sender.poll hash).and (OrderDesk.confirm_offWallet _ hash).logs
      refine Logs.bind waiting ?_ fun fault waited ⟨_, off⟩ => idle _ waited off nofun
      rintro confirmation waited ⟨looked, off⟩
      -- Only a success tells the number.
      have settled (reason : LocalCancelReason) :
          (pure (.localOnly reason) : Attempt CancelOutcome).Logs fun r more => Q r (waited ++ more) := by
        rw [logs_pure, List.append_nil]
        exact idle _ waited off nofun
      cases confirmation with
      | confirmed receipt =>
        obtain ⟨told, success⟩ := looked.of_confirmed
        rw [pure_bind]
        cases trace : receipt.trace c.calls.exchange with
        | placed number =>
          have first := Receipt.trace_eq_placed.1 trace
          exact searches number waited off (.inr ⟨hash, receipt, placed, told, success, first⟩)
        | immediatelyFilled => exact settled _
        | notFound => exact settled _
      | reverted receipt reason => exact settled _
      | timedOut hash timeout => exact settled _

theorem route_logs (record : OrderRecord) (own : ∀ channel ∈ c.channels, channel.isOwn = true) :
    (c.route record).Logs fun r log => c.RouteTells record log r := by
  refine c.route_parts (fun number waited off known =>
    c.search_logs record (fun ev mem => (off ev mem).unsent) known own) ?_
  intro r waited off other
  refine ⟨waited, [], (List.append_nil _).symm, fun ev mem => (off ev mem).unsent, ?_⟩
  match r with
  | .ok (.cancelled hash channel) => exact absurd rfl (other hash channel)
  | .ok (.localOnly _) => exact ⟨.nil, .inr (.inr rfl)⟩
  | .error _ => exact NoSuccess.nil

/-- The log of a cancellation between reading the record and clearing it. -/
structure Routes (record : OrderRecord) (log : List Event) (r : Except Fault CancelOutcome) : Prop where
  off : ∀ ev ∈ log, ev.OffRegistry
  tells : c.RouteTells record log r
  /-- A number that is not the exchange's is not even asked about. -/
  large : ∀ number, record.status = .resting number → UInt32.size ≤ number.toNat →
    log = [] ∧ r = .ok (.localOnly .exhausted)

theorem route_routes (record : OrderRecord) (own : ∀ channel ∈ c.channels, channel.isOwn = true) :
    (c.route record).Logs fun r log => c.Routes record log r := by
  have told := (c.route_logs record own).and (c.route_offRegistry record).logs
  by_cases large : ∃ number, record.status = .resting number ∧ UInt32.size ≤ number.toNat
  · obtain ⟨number, status, long⟩ := large
    have exhausted : c.route record = pure (.localOnly .exhausted) := by
      unfold CancelDesk.route OrderRecord.reference? OrderRecord.state
      rw [status]
      exact c.tryChannels_of_large own long
    rw [exhausted] at told ⊢
    exact ⟨told.2, told.1, fun _ _ _ => ⟨rfl, rfl⟩⟩
  · refine told.mono fun r log both => ⟨both.2, both.1, fun number status long => ?_⟩
    exact absurd ⟨number, status, long⟩ large

end CancelDesk

/-- **The log of a cancellation and its result**: the record is read; if its placement was sent, the
cancellation follows, and the record is cleared unless that fails. -/
inductive CancelRuns (c : Connector) (id : String) : List Event → Except Fault CancelOutcome → Prop
  | unknown : CancelRuns c id [.did (.order id) none] (.error (.error (.unknownOrder id)))
  | notBroadcast {record : OrderRecord} (pending : record.state = .pendingSubmit) :
    CancelRuns c id [.did (.order id) (some record)] (.error (.error (.notBroadcast id)))
  | failed {record : OrderRecord} {between : List Event} {fault : Fault}
    (sent : record.state ≠ .pendingSubmit)
    (routes : c.cancelDesk.Routes record between (.error fault)) :
    CancelRuns c id (.did (.order id) (some record) :: between) (.error fault)
  | settled {record : OrderRecord} {between : List Event} {outcome : CancelOutcome}
    {cleared : Option OrderRecord} (sent : record.state ≠ .pendingSubmit)
    (routes : c.cancelDesk.Routes record between (.ok outcome)) :
    CancelRuns c id (.did (.order id) (some record) :: between ++ [.did (.clear id) cleared])
      (.ok outcome)

/-- **A whole cancellation by its parts**: the record is read; if its placement was sent, the search for
its order follows, and the record is cleared unless that fails. -/
theorem Connector.cancel_parts {c : Connector} {id : String}
    {Q : Except Fault CancelOutcome → List Event → Prop}
    (unknown : Q (.error (.error (.unknownOrder id))) [.did (.order id) none])
    (notBroadcast : ∀ record : OrderRecord, record.state = .pendingSubmit →
      Q (.error (.error (.notBroadcast id))) [.did (.order id) (some record)])
    (routed : ∀ record : OrderRecord, record.state ≠ .pendingSubmit →
      (c.cancelDesk.route record).Logs fun r between => match r with
        | .error fault => Q (.error fault) (.did (.order id) (some record) :: between)
        | .ok outcome => ∀ cleared, Q (.ok outcome)
            (.did (.order id) (some record) :: between ++ [.did (.clear id) cleared])) :
    (c.cancel id).Logs Q := by
  unfold Connector.cancel sentOrder Attempt.order
  rw [bind_assoc]
  refine logs_act_bind fun read => ?_
  cases read with
  | none => exact unknown
  | some record =>
    dsimp only
    by_cases pending : record.state = .pendingSubmit
    · rw [if_pos pending]
      exact notBroadcast record pending
    · rw [if_neg pending, pure_bind]
      refine Logs.bind (routed record pending) ?_ fun _ _ failed => failed
      exact fun outcome between settled => logs_act_bind fun cleared => settled cleared

/-- **Every cancellation through own channels** goes so. -/
theorem Connector.cancel_logs (c : Connector)
    (own : ∀ channel ∈ c.channels, channel.isOwn = true) (id : String) :
    (c.cancel id).Logs fun r log => CancelRuns c id log r := by
  refine cancel_parts .unknown (fun _ pending => .notBroadcast pending) fun record sent => ?_
  refine (c.cancelDesk.route_routes record own).mono fun r between routes => ?_
  match r with
  | .error _ => exact .failed sent routes
  | .ok _ => exact fun _ => .settled sent routes

namespace CancelRuns

variable {c : Connector} {id : String} {log : List Event} {r : Except Fault CancelOutcome}

/-- The record that is read is read first and only once. -/
theorem read_unique {other record : OrderRecord} {between more : List Event}
    (off : ∀ ev ∈ between, ev.OffRegistry) (unread : ∀ ev ∈ more, ¬ ∃ x, ev = .did (.order id) x)
    (mem : .did (.order id) (some record) ∈ .did (.order id) (some other) :: (between ++ more)) :
    record = other := by
  rcases List.mem_cons.1 mem with same | mem
  · cases same
    rfl
  · rcases List.mem_append.1 mem with mem | mem
    · cases off _ mem
    · exact absurd ⟨_, rfl⟩ (unread _ mem)

/-- **An order under a number that is not the exchange's** is dropped without a question. -/
theorem of_large (h : CancelRuns c id log r) {record : OrderRecord} {number : UInt64}
    (read : .did (.order id) (some record) ∈ log) (status : record.status = .resting number)
    (large : UInt32.size ≤ number.toNat) :
    r = .ok (.localOnly .exhausted) ∧
      ∃ cleared, log = [.did (.order id) (some record), .did (.clear id) cleared] := by
  cases h with
  | unknown => cases List.mem_singleton.1 read
  | notBroadcast pending =>
    cases List.mem_singleton.1 read
    unfold OrderRecord.state at pending
    rw [status] at pending
    cases pending
  | @failed other between fault sent routes =>
    rw [← List.append_nil between] at read
    obtain rfl := read_unique routes.off (fun _ mem => absurd mem List.not_mem_nil) read
    cases (routes.large number status large).2
  | @settled other between outcome cleared sent routes =>
    have once : ∀ ev ∈ [Event.did (.clear id) cleared], ¬ ∃ x, ev = .did (.order id) x := by
      rintro ev mem ⟨x, rfl⟩
      cases List.mem_singleton.1 mem
    obtain rfl := read_unique routes.off once read
    obtain ⟨none, exhausted⟩ := routes.large number status large
    exact ⟨exhausted, cleared, by rw [none]; rfl⟩

end CancelRuns
end OrderDesk
