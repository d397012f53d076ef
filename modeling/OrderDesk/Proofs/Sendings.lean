import OrderDesk.Proofs.CancelLog
import OrderDesk.Proofs.Funding
import OrderDesk.Proofs.GasLimits

/-!
# `OrderDesk.Proofs.Sendings` — which transactions an operation hands over

A placement hands over one transaction at most, and before it is let through nothing at all is asked. A
cancellation hands over one for each channel at most, all for one order, whose number is known by then.
Read off the log, part by part, with nothing assumed of the answers.

## Contents
- `sentBy`: the transactions in a log; `SignedTx.Carries`: whose and for which call.
- `Sender.SendsOnce` with its rules; `Sender.sendNext_sends`, `Sender.execute_sends`.
- `CancelDesk.Tries`, `CancelDesk.tryChannels_sends`, `CancelDesk.route_sends`.
- `Connector.Admits`, `Connector.Places`, `Connector.place_sends`.
-/

namespace OrderDesk

open Attempt

/-! ### Transactions in a log -/

/-- The transactions that are handed over in a log, in their order. -/
def sentBy (log : List Event) : List SignedTx := log.filterMap Event.handedOver?

@[simp] theorem sentBy_nil : sentBy [] = [] := rfl

@[simp] theorem sentBy_append (log more : List Event) :
    sentBy (log ++ more) = sentBy log ++ sentBy more := List.filterMap_append ..

theorem sentBy_of_unsent {log : List Event} (h : ∀ ev ∈ log, ev.Unsent) : sentBy log = [] := by
  refine List.filterMap_eq_nil_iff.2 fun ev mem => ?_
  have unsent := h ev mem
  cases ev with
  | asked r =>
    cases r with
    | send tx => exact unsent.elim
    | _ => rfl
  | _ => rfl

/-- No contradiction is ruled out. -/
theorem unsent_sound {α : Type} (r : Except Fault α) : Sound Event.Unsent r :=
  fun _ _ => ⟨.did (.resolve "" .unresolved) (.error .arithmetic), trivial, trivial⟩

theorem act_unsent (e : Effect) : (act e).Only Event.Unsent := only_act.2 fun _ => trivial

/-- The transaction carries the call, for the sender's wallet on its chain and under its key. -/
structure SignedTx.Carries (tx : SignedTx) (s : Sender) (call : Call) : Prop where
  signed : tx = tx.request.sign s.key
  sender : tx.request.sender = s.wallet
  chain : tx.request.chainId = s.chainId
  carries : tx.request.call = call

namespace Sender

variable (s : Sender) (call : Call)

/-- One transaction at most is handed over, and it carries the call. -/
def SendsOnce (log : List Event) : Prop :=
  sentBy log = [] ∨ ∃ tx, sentBy log = [tx] ∧ tx.Carries s call

variable {s call} {α β : Type} {p : Attempt α}

theorem SendsOnce.of_unsent {log : List Event} (h : ∀ ev ∈ log, ev.Unsent) :
    s.SendsOnce call log := .inl (sentBy_of_unsent h)

/-- Of two parts one hands nothing over. -/
theorem SendsOnce.append {log more : List Event} (h : s.SendsOnce call log)
    (h' : s.SendsOnce call more) (one : sentBy log = [] ∨ sentBy more = []) :
    s.SendsOnce call (log ++ more) := by
  unfold SendsOnce at *
  rw [sentBy_append]
  rcases one with none | none
  · rwa [none, List.nil_append]
  · rwa [none, List.append_nil]

theorem SendsOnce.then_unsent {log more : List Event} (h : s.SendsOnce call log)
    (unsent : ∀ ev ∈ more, ev.Unsent) : s.SendsOnce call (log ++ more) :=
  h.append (.of_unsent unsent) (.inr (sentBy_of_unsent unsent))

theorem SendsOnce.after_unsent {log more : List Event} (h : s.SendsOnce call more)
    (unsent : ∀ ev ∈ log, ev.Unsent) : s.SendsOnce call (log ++ more) :=
  (SendsOnce.of_unsent unsent).append h (.inl (sentBy_of_unsent unsent))

/-- What comes before hands nothing over. -/
theorem sendsOnce_of_unsent_bind {f : α → Attempt β} (h : p.Only Event.Unsent)
    (next : ∀ a, (f a).Logs fun _ log => s.SendsOnce call log) :
    (p >>= f).Logs fun _ log => s.SendsOnce call log :=
  Logs.bind h.logs (fun a _ unsent => (next a).mono fun _ _ once => once.after_unsent unsent)
    fun _ _ unsent => .of_unsent unsent

/-- What comes after hands nothing over. -/
theorem sendsOnce_bind_unsent {f : α → Attempt β} (h : p.Logs fun _ log => s.SendsOnce call log)
    (next : ∀ a, (f a).Only Event.Unsent) : (p >>= f).Logs fun _ log => s.SendsOnce call log :=
  Logs.bind h (fun a _ once => (next a).logs.mono fun _ _ unsent => once.then_unsent unsent)
    fun _ _ once => once

/-- So does what comes after a failure that is caught. -/
theorem sendsOnce_caught {f : Except Fault α → Attempt β}
    (h : p.Logs fun _ log => s.SendsOnce call log) (next : ∀ r, (f r).Only Event.Unsent) :
    (outcome p >>= f).Logs fun _ log => s.SendsOnce call log :=
  Logs.caught h fun r _ once => (next r).logs.mono fun _ _ unsent => once.then_unsent unsent

theorem sendsOnce_locked {a : Address} (h : p.Logs fun _ log => s.SendsOnce call log) :
    (Attempt.locked a p).Logs fun _ log => s.SendsOnce call log := by
  refine Logs.locked (h.mono fun _ own once => ?_)
  have came : ∀ ev ∈ [Event.queued a, .locked a], ev.Unsent := by simp [Event.Unsent]
  have left : ∀ ev ∈ [Event.unlocked a], ev.Unsent := by simp [Event.Unsent]
  exact (once.after_unsent came).then_unsent left

/-! ### Sending and waiting -/

variable (s call)

theorem submit_sends (nonce : UInt64) :
    (s.submit call nonce).Logs fun _ log => s.SendsOnce call log := by
  unfold submit
  refine sendsOnce_of_unsent_bind ((gasLimit_minor s call).mono fun _ h => h.aside.unsent) fun limit => ?_
  refine sendsOnce_of_unsent_bind ((gasPrice_minor s).mono fun _ h => h.aside.unsent) fun price => ?_
  refine logs_reply_bind fun accepted => ?_
  cases accepted <;> exact .inr ⟨_, rfl, rfl, rfl, rfl, rfl⟩

/-- **A call is sent once.** -/
theorem sendNext_sends : (s.sendNext call).Logs fun _ log => s.SendsOnce call log := by
  unfold sendNext
  exact sendsOnce_of_unsent_bind ((acquire_passing s.wallet).mono fun _ h => h.2)
    fun nonce => s.submit_sends call nonce

theorem execute_sends : (s.execute call).Logs fun _ log => s.SendsOnce call log := by
  unfold execute
  refine sendsOnce_locked (sendsOnce_bind_unsent (s.sendNext_sends call) fun submitted => ?_)
  exact Only.bind (confirm_unsent s.poll submitted.hash) fun _ => only_pure _

end Sender

/-! ### Cancelling -/

namespace CancelDesk

variable (c : CancelDesk)

/-- **Channels were tried for an order**: each at most once and in their order, and what each handed
over is its own call for the order. -/
def Tries (target : CancelTarget) (channels : List String) (log : List Event) : Prop :=
  ∃ tried : List (String × SignedTx), sentBy log = tried.map (·.2) ∧
    (tried.map (·.1)).Sublist channels ∧
    ∀ t ∈ tried, ∃ call, c.calls.Cancels target t.1 call ∧ t.2.Carries c.sender call

variable {c} {target : CancelTarget}

theorem Tries.of_unsent {channels : List String} {log : List Event} (h : ∀ ev ∈ log, ev.Unsent) :
    c.Tries target channels log :=
  ⟨[], sentBy_of_unsent h, List.nil_sublist _, fun _ mem => absurd mem List.not_mem_nil⟩

/-- The first channel, then the others. -/
theorem Tries.append {first others : List String} {log more : List Event}
    (h : c.Tries target first log) (h' : c.Tries target others more) :
    c.Tries target (first ++ others) (log ++ more) := by
  obtain ⟨tried, sent, sub, each⟩ := h
  obtain ⟨later, sentLater, subLater, eachLater⟩ := h'
  refine ⟨tried ++ later, ?_, ?_, fun t mem => ?_⟩
  · rw [sentBy_append, sent, sentLater, List.map_append]
  · rw [List.map_append]
    exact sub.append subLater
  · exact (List.mem_append.1 mem).elim (each t) (eachLater t)

theorem Tries.after_unsent {channels : List String} {log more : List Event}
    (h : c.Tries target channels more) (unsent : ∀ ev ∈ log, ev.Unsent) :
    c.Tries target channels (log ++ more) := by
  have first : c.Tries target [] log := .of_unsent unsent
  exact first.append h

theorem Tries.then_unsent {channels : List String} {log more : List Event}
    (h : c.Tries target channels log) (unsent : ∀ ev ∈ more, ev.Unsent) :
    c.Tries target channels (log ++ more) := by
  have last : c.Tries target [] more := .of_unsent unsent
  have whole := h.append last
  rwa [List.append_nil] at whole

/-- A call that cancels the order through the channel is sent once. -/
theorem Tries.of_sendsOnce {channel : String} {call : Call} {log : List Event}
    (cancels : c.calls.Cancels target channel call) (h : c.sender.SendsOnce call log) :
    c.Tries target [channel] log := by
  rcases h with none | ⟨tx, sent, carries⟩
  · exact ⟨[], none, List.nil_sublist _, fun _ mem => absurd mem List.not_mem_nil⟩
  · refine ⟨[(channel, tx)], sent, List.Sublist.refl _, fun t mem => ?_⟩
    obtain rfl := List.mem_singleton.1 mem
    exact ⟨call, cancels, carries⟩

variable (c)

theorem execute_sends (call : Call) :
    (c.execute call).Logs fun _ log => c.sender.SendsOnce call log := by
  unfold CancelDesk.execute
  refine Sender.sendsOnce_bind_unsent (c.sender.execute_sends call) fun sent => ?_
  obtain ⟨submitted, confirmation⟩ := sent
  cases confirmation with
  | confirmed receipt => exact only_pure _
  | reverted receipt reason => exact only_fail _
  | timedOut hash timeout => exact only_fail _

theorem tryChannel_sends (target : CancelTarget) {channel : CancelChannel}
    (own : channel.isOwn = true) :
    (c.tryChannel target channel).Logs fun _ log => c.Tries target [channel.name] log := by
  have unsent {log : List Event} (aside : ∀ ev ∈ log, ev.Aside) : ∀ ev ∈ log, ev.Unsent :=
    fun ev mem => (aside ev mem).unsent
  refine c.tryChannel_parts own (fun call cancels => ?_) (fun _ _ aside _ => .of_unsent (unsent aside))
    fun _ _ _ aside tries => tries.after_unsent (unsent aside)
  exact (c.execute_sends call).mono fun _ _ once => .of_sendsOnce cancels once

/-- **Each channel sends once at most**, through whichever the search ends. -/
theorem tryChannels_sends (target : CancelTarget) {channels : List CancelChannel}
    (own : ∀ channel ∈ channels, channel.isOwn = true) :
    (c.tryChannels target channels).Logs fun _ log =>
      c.Tries target (channels.map CancelChannel.name) log := by
  induction channels with
  | nil => exact .of_unsent fun _ mem => absurd mem List.not_mem_nil
  | cons channel rest ih =>
    have others := ih fun channel mem => own channel (List.mem_cons_of_mem _ mem)
    unfold CancelDesk.tryChannels
    refine Logs.caught (c.tryChannel_sends target (own channel (List.mem_cons_self ..))) ?_
    intro result log tried
    -- Where the search ends here, the other channels are passed over.
    have ended : c.Tries target ((channel :: rest).map CancelChannel.name) (log ++ []) :=
      tried.append (.of_unsent fun _ mem => absurd mem List.not_mem_nil)
    split
    · exact ended
    · exact ended
    · exact ended
    · split
      · exact ended
      · exact others.mono fun _ _ later => tried.append later

/-- What a search for a record's order hands over, once its number is known. -/
def RouteSends (record : OrderRecord) (log : List Event) : Prop :=
  sentBy log = [] ∨ ∃ number, c.Knows record log number ∧
    c.Tries (record.target number) (c.channels.map CancelChannel.name) log

/-- What stands before and after the search changes nothing if it hands nothing over. -/
theorem RouteSends.within {c : CancelDesk} {record : OrderRecord} {first log last : List Event}
    (h : c.RouteSends record log) (unsentFirst : ∀ ev ∈ first, ev.Unsent)
    (unsentLast : ∀ ev ∈ last, ev.Unsent) : c.RouteSends record (first ++ (log ++ last)) := by
  rcases h with none | ⟨number, known, tries⟩
  · refine .inl ?_
    rw [sentBy_append, sentBy_append, none, sentBy_of_unsent unsentFirst, sentBy_of_unsent unsentLast]
    rfl
  · refine .inr ⟨number, known.mono ?_, (tries.then_unsent unsentLast).after_unsent unsentFirst⟩
    exact fun ev mem => List.mem_append_right _ (List.mem_append_left _ mem)

theorem cancelNumber_sends {record : OrderRecord} {number : UInt64} {waited : List Event}
    (unsent : ∀ ev ∈ waited, ev.Unsent) (known : c.Knows record waited number)
    (own : ∀ channel ∈ c.channels, channel.isOwn = true) :
    (c.cancelNumber record number).Logs fun _ more => c.RouteSends record (waited ++ more) :=
  (c.tryChannels_sends (record.target number) own).mono fun _ _ tries =>
    .inr ⟨number, known.mono (List.subset_append_left ..), tries.after_unsent unsent⟩

theorem route_sends (record : OrderRecord) (own : ∀ channel ∈ c.channels, channel.isOwn = true) :
    (c.route record).Logs fun _ log => c.RouteSends record log :=
  c.route_parts
    (fun _ _ off known => c.cancelNumber_sends (fun ev mem => (off ev mem).unsent) known own)
    fun _ _ off _ => .inl (sentBy_of_unsent fun ev mem => (off ev mem).unsent)

end CancelDesk

/-! ### Placing -/

namespace Connector

variable (c : Connector) (id : String) (order : OrderRequest)

/-- **The order was let through**: the failures of the recent past are few enough, the identifier is
free and was taken for it, and it has tokens, a price and amounts of which its placement is made. -/
structure Admits (base quote : Token) (p : Placement) (log : List Event) : Prop where
  prepares : c.Prepares order base quote p
  within : .did .checkLimiter (.ok ()) ∈ log
  free : .did (.order id) none ∈ log
  reserved : ∃ record : OrderRecord, record.id = id ∧ .did (.reserve record) (.ok ()) ∈ log

/-- The order was let through before anything was asked, and after that its call was sent once at
most. -/
def SendsAdmitted (log : List Event) : Prop :=
  ∃ base quote p before after, log = before ++ after ∧ questionsOf before = [] ∧
    c.Admits id order base quote p before ∧ c.sender.SendsOnce p.call after

variable {c id order}

/-- What follows without sending changes nothing. -/
theorem SendsAdmitted.then_unsent {log more : List Event} (h : c.SendsAdmitted id order log)
    (unsent : ∀ ev ∈ more, ev.Unsent) : c.SendsAdmitted id order (log ++ more) := by
  obtain ⟨base, quote, p, before, after, rfl, silent, admits, once⟩ := h
  exact ⟨base, quote, p, before, after ++ more, List.append_assoc .., silent, admits,
    once.then_unsent unsent⟩

/-- Nor does what comes before without a question. -/
theorem SendsAdmitted.after_silent {first log : List Event} (h : c.SendsAdmitted id order log)
    (silent : questionsOf first = []) : c.SendsAdmitted id order (first ++ log) := by
  obtain ⟨base, quote, p, before, after, rfl, none, admits, once⟩ := h
  refine ⟨base, quote, p, first ++ before, after, (List.append_assoc ..).symm, ?_, ?_, once⟩
  · rw [questionsOf_append, silent, none]
    rfl
  · obtain ⟨record, same, reserved⟩ := admits.reserved
    exact ⟨admits.prepares, List.mem_append_right _ admits.within, List.mem_append_right _ admits.free,
      record, same, List.mem_append_right _ reserved⟩

variable (c id order)

/-- Whoever prepares an order asks nothing; if it is prepared, two looks at the desk have let it
through. -/
theorem prepare_passes :
    (c.prepare id order).Logs fun r own => questionsOf own = [] ∧
      ∀ terms, r = .ok terms → .did .checkLimiter (.ok ()) ∈ own ∧ .did (.order id) none ∈ own := by
  have silent : (c.prepare id order).Only fun ev => ev.question? = none :=
    c.prepare_only order (fun _ => rfl) fun _ => rfl
  refine (silent.logs.mono fun _ _ none => List.filterMap_eq_nil_iff.2 none).and ?_
  unfold prepare
  refine logs_act_bind fun verdict => ?_
  cases verdict with
  | error e => exact nofun
  | ok =>
    refine logs_act_bind fun present => ?_
    cases present with
    | some record => exact nofun
    | none =>
      refine (logs_trivial _).mono fun r own _ terms _ => ⟨?_, ?_⟩
      · exact List.mem_cons_self
      · exact List.mem_cons_of_mem _ List.mem_cons_self

/-- The placement is sent once, whatever becomes of it. -/
theorem broadcast_sends (p : Placement) :
    (c.broadcast id p).Logs fun _ log => c.sender.SendsOnce p.call log := by
  have counted : (countRefusal (c.sender.sendNext p.call)).Logs fun _ log =>
      c.sender.SendsOnce p.call log := by
    refine Sender.sendsOnce_caught (c.sender.sendNext_sends p.call) fun r => ?_
    match r with
    | .ok submitted => exact only_pure _
    | .error (.error e) =>
      exact Only.bind (act_unsent _) fun _ => Only.bind (act_unsent _) fun _ => only_fail _
    | .error (.breakdown b) => exact unsent_sound _
  have released : (orRelease id (countRefusal (c.sender.sendNext p.call))).Logs fun _ log =>
      c.sender.SendsOnce p.call log := by
    refine Sender.sendsOnce_caught counted fun r => ?_
    match r with
    | .ok submitted => exact only_pure _
    | .error fault => exact Only.bind (act_unsent _) fun _ => unsent_sound _
  refine Sender.sendsOnce_bind_unsent released fun submitted => ?_
  refine Only.bind (act_unsent _) fun result => ?_
  refine Only.bind (only_ofOutcome.2 (unsent_sound _)) fun _ => ?_
  exact Only.bind (act_unsent _) fun _ => only_pure _

/-- **A placement is let through before anything is asked**, and is sent once at most. -/
theorem place_sends :
    (c.place id order).Logs fun r log => c.SendsAdmitted id order log ∨
      questionsOf log = [] ∧ ∃ fault, r = .error fault := by
  unfold place
  refine Logs.bind ((c.prepare_logs id order).and (c.prepare_passes id order)) ?_
    fun fault own looked => .inr ⟨looked.2.1, fault, rfl⟩
  rintro ⟨base, quote, p⟩ looked ⟨⟨-, prepares⟩, silent, passed⟩
  obtain ⟨within, free⟩ := passed _ rfl
  refine logs_act_bind fun created => logs_act_bind fun reserved => ?_
  cases reserved with
  | error e =>
    refine .inr ⟨?_, _, rfl⟩
    rw [questionsOf_append, silent]
    rfl
  | ok =>
    let record : OrderRecord :=
      { id, pair := order.pair, base := base.address, quote := quote.address, side := order.side,
        created }
    refine Logs.mono (Q := fun _ log => c.sender.SendsOnce p.call log) ?_ fun r after once => .inl ?_
    · have checked := check_aside c.funds c.sender.wallet
        (if order.side.isBid then quote else base) p.spend c.calls.exchange
      refine Sender.sendsOnce_of_unsent_bind (only_ofExcept _) fun _ => ?_
      refine Sender.sendsOnce_of_unsent_bind
        (orRelease_only (checked.mono fun _ h => h.unsent) fun _ => trivial) fun _ => ?_
      refine Sender.sendsOnce_bind_unsent (Sender.sendsOnce_locked ?_) fun sent => ?_
      · refine Sender.sendsOnce_bind_unsent (c.broadcast_sends id p) fun submitted => ?_
        split
        · exact Only.caught (confirm_unsent _ _) fun _ _ => only_pure _
        · exact only_pure _
      · obtain ⟨submitted, confirmation⟩ := sent
        cases confirmation with
        | none => exact only_pure _
        | some result =>
          refine Only.bind (only_ofFault.2 (unsent_sound _)) fun confirmation => ?_
          exact Only.bind ((settle_offWallet c id confirmation).mono fun _ h => h.unsent)
            fun _ => only_pure _
    · refine ⟨base, quote, p, looked ++ [.did .now created, .did (.reserve record) (.ok ())], after, ?_,
        ?_, ?_, once⟩
      · rw [List.append_assoc]
        rfl
      · rw [questionsOf_append, silent]
        rfl
      · exact ⟨prepares _ rfl, List.mem_append_left _ within, List.mem_append_left _ free, record, rfl,
          by simp⟩

end Connector
end OrderDesk
