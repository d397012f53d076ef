import OrderDesk.Desk.Connector
import OrderDesk.Proofs.Watch

/-!
# `OrderDesk.Proofs.Parts` — what the parts of an operation have to do with

Most parts of an operation touch neither the wallet (its lock, its nonces, the sending) nor the
tracked orders nor the tallies. Each is classed here once; a watch over the wallet or over the orders
then passes over them by `Attempt.Only.safe`.

## Contents
- `Event.concernsWallet`, `Event.concernsOrders`, `Event.Aside`; `Event.OffFunds`, `Event.Minor`: no
  figure of anyone's funds is told either.
- `Event.accepted`, `Event.reported`: the two answers of the node that matter; `Event.Unsent`,
  `Event.Passing`: events by which no transaction is handed over.
- `…_aside`, `…_minor`: parts that concern none of them.
- `…_offWallet`, `…_offOrders`: parts that do not concern the one of them; `…_offRegistry`: parts
  that may look for receipts but take no step on tracked orders; `…_reads`: parts that change none;
  `…_offRecords`, `…_offLedger`: the same for orders and tallies together.
- `Early`: failures of what is checked of an order by itself.
- `Operation`: everything that can be called on a desk; `Connector.perform`, `Connector.onFloor`.
-/

namespace OrderDesk

/-- The step reads or changes tracked orders. -/
def Effect.concernsOrders : Effect → Bool
  | order _ | orders | reserve _ | adopt _ | broadcast _ _ | release _ | resolve _ _ | clear _ => true
  | _ => false

/-- The step can change tracked orders. -/
def Effect.changesOrders : Effect → Bool
  | reserve _ | adopt _ | broadcast _ _ | release _ | resolve _ _ | clear _ => true
  | _ => false

/-- The step takes a nonce. -/
def Effect.concernsWallet : Effect → Bool
  | allocate _ _ => true
  | _ => false

/-- The step counts a placement or a failure, or looks at the failures. -/
def Effect.concernsTallies : Effect → Bool
  | count _ | checkLimiter | recordFailure => true
  | _ => false

/-- The question is about a receipt, from which orders are settled. -/
def Request.concernsOrders : Request → Bool
  | receipt _ => true
  | _ => false

/-- The question is for a figure. -/
def Request.asksFunds : Request → Bool
  | balance _ | call _ none => true
  | _ => false

/-- The question is about the wallet's nonces, or sends a transaction. -/
def Request.concernsWallet : Request → Bool
  | pendingNonce _ | send _ => true
  | _ => false

namespace Event

/-- The event has to do with tracked orders. -/
def concernsOrders : Event → Bool
  | did e _ => e.concernsOrders
  | asked r | told r _ => r.concernsOrders
  | slept _ | woke _ | queued _ | locked _ | unlocked _ => false

/-- The event has to do with the wallet's lock, its nonces or the sending of transactions. -/
def concernsWallet : Event → Bool
  | did e _ => e.concernsWallet
  | asked r | told r _ => r.concernsWallet
  | slept _ | woke _ => false
  | queued _ | locked _ | unlocked _ => true

/-- The event has to do with counters or recent failures. -/
def concernsTallies : Event → Bool
  | did e _ => e.concernsTallies
  | _ => false

/-- The event has to do with none of them. -/
def Aside (ev : Event) : Prop :=
  ev.concernsWallet = false ∧ ev.concernsOrders = false ∧ ev.concernsTallies = false

/-- No figure is told by the event. -/
def OffFunds : Event → Prop
  | told r _ => r.asksFunds = false
  | _ => True

/-- The event has to do with none of them, and tells no figure. -/
structure Minor (ev : Event) : Prop where
  aside : ev.Aside
  offFunds : ev.OffFunds

/-- The event leaves the wallet alone. -/
def OffWallet (ev : Event) : Prop := ev.concernsWallet = false

/-- The event leaves the orders alone. -/
def OffOrders (ev : Event) : Prop := ev.concernsOrders = false

/-- The event is no step on tracked orders; it may be about a receipt. -/
def OffRegistry : Event → Prop
  | did e _ => e.concernsOrders = false
  | _ => True

/-- The event leaves the tracked orders as they are. -/
def Reads : Event → Prop
  | did e _ => e.changesOrders = false
  | _ => True

/-- The event is no step on nonces, orders or tallies; it may be any question. -/
def OffBooks : Event → Prop
  | did e _ => e.concernsWallet = false ∧ e.concernsOrders = false ∧ e.concernsTallies = false
  | _ => True

/-- The event leaves orders and tallies alone. -/
def OffRecords (ev : Event) : Prop := ev.concernsOrders = false ∧ ev.concernsTallies = false

/-- The event is no step on orders or tallies; it may be any question. -/
def OffLedger : Event → Prop
  | did e _ => e.concernsOrders = false ∧ e.concernsTallies = false
  | _ => True

theorem Aside.offBooks {ev : Event} (h : ev.Aside) : ev.OffBooks := by
  cases ev with
  | did e x => exact h
  | _ => trivial

theorem Aside.offRecords {ev : Event} (h : ev.Aside) : ev.OffRecords := h.2

theorem OffRecords.offLedger {ev : Event} (h : ev.OffRecords) : ev.OffLedger := by
  cases ev with
  | did e x => exact h
  | _ => trivial

theorem OffBooks.offLedger {ev : Event} (h : ev.OffBooks) : ev.OffLedger := by
  cases ev with
  | did e x => exact h.2
  | _ => trivial

theorem OffLedger.offRegistry {ev : Event} (h : ev.OffLedger) : ev.OffRegistry := by
  cases ev with
  | did e x => exact h.1
  | _ => trivial

theorem Aside.offWallet {ev : Event} (h : ev.Aside) : ev.OffWallet := h.1

theorem Aside.offOrders {ev : Event} (h : ev.Aside) : ev.OffOrders := h.2.1

theorem OffOrders.offRegistry {ev : Event} (h : ev.OffOrders) : ev.OffRegistry := by
  cases ev with
  | did e x => exact h
  | _ => trivial

theorem OffRegistry.reads {ev : Event} (h : ev.OffRegistry) : ev.Reads := by
  cases ev with
  | did e x =>
    cases e with
    | now | stopping | checkLimiter | recordFailure | orders | order _ | count _ | allocate _ _
    | freshPrice _ | keepPrice _ => rfl
    | _ => cases h
  | _ => trivial

/-- What only reads is not told of contradictions. -/
theorem Reads.consistent {ev : Event} (h : ev.Reads) : ¬ ev.Contradicts := by
  intro contradicts
  cases ev with
  | did e x =>
    cases e with
    | broadcast _ _ | resolve _ _ => cases h
    | _ => exact contradicts
  | _ => exact contradicts

theorem Aside.offRegistry {ev : Event} (h : ev.Aside) : ev.OffRegistry := h.offOrders.offRegistry

/-- The node took the transaction. -/
abbrev accepted (tx : SignedTx) (answer : Hash) : Event := .told (.send tx) (.ok answer)

/-- The node had a receipt of the transaction. -/
abbrev reported (hash : Hash) (receipt : Receipt) : Event :=
  .told (.receipt hash) (.ok (some receipt))

/-- No transaction is handed to the node. -/
def Unsent : Event → Prop
  | asked (.send _) | told (.send _) _ => False
  | _ => True

theorem Aside.unsent {ev : Event} (h : ev.Aside) : ev.Unsent := by
  cases ev with
  | asked r =>
    cases r with
    | send tx => cases h.1
    | _ => trivial
  | told r x =>
    cases r with
    | send tx => cases h.1
    | _ => trivial
  | _ => trivial

/-- What leaves the orders alone asks for no receipt. -/
theorem OffOrders.ne_reported {ev : Event} (h : ev.OffOrders) (hash : Hash) (receipt : Receipt) :
    ev ≠ reported hash receipt := by
  rintro rfl
  cases h

/-- The event is no step on tracked orders, and no transaction is handed over by it. -/
def Passing (ev : Event) : Prop := ev.OffRegistry ∧ ev.Unsent

theorem Aside.passing {ev : Event} (h : ev.Aside) : ev.Passing := ⟨h.offRegistry, h.unsent⟩

end Event

open Attempt

/-- A question that concerns neither wallet nor orders. -/
theorem reply_aside {r : Request} (wallet : r.concernsWallet = false)
    (orders : r.concernsOrders = false) : (reply r).Only Event.Aside :=
  only_reply.2 ⟨⟨wallet, orders, rfl⟩, fun _ => ⟨wallet, orders, rfl⟩⟩

theorem ask_aside {r : Request} (wallet : r.concernsWallet = false)
    (orders : r.concernsOrders = false) : (ask r).Only Event.Aside :=
  only_ask.2 ⟨⟨wallet, orders, rfl⟩, fun _ => ⟨wallet, orders, rfl⟩⟩

/-- A question that is not for a figure either. -/
theorem reply_minor {r : Request} (wallet : r.concernsWallet = false)
    (orders : r.concernsOrders = false) (funds : r.asksFunds = false) : (reply r).Only Event.Minor :=
  only_reply.2 ⟨⟨⟨wallet, orders, rfl⟩, trivial⟩, fun _ => ⟨⟨wallet, orders, rfl⟩, funds⟩⟩

/-- A step that concerns neither wallet nor orders nor tallies. -/
theorem act_minor {e : Effect} (wallet : e.concernsWallet = false)
    (orders : e.concernsOrders = false) (tallies : e.concernsTallies = false) :
    (act e).Only Event.Minor :=
  only_act.2 fun _ => ⟨⟨wallet, orders, tallies⟩, trivial⟩

/-! ### Funds, gas and receipts -/

theorem readWord_aside (owner : Address) (call : Call) : (readWord owner call).Only Event.Aside := by
  unfold readWord
  refine Only.bind (ask_aside rfl rfl) fun returned => ?_
  split
  · exact only_pure _
  · exact only_fail _

theorem balanceOf_aside (owner : Address) (token : Token) :
    (balanceOf owner token).Only Event.Aside := by
  unfold balanceOf
  split
  · exact ask_aside rfl rfl
  · exact readWord_aside _ _

theorem check_aside (f : FundsCheck) (owner : Address) (token : Token) (required : Word)
    (spender : Address) : (f.check owner token required spender).Only Event.Aside := by
  cases f with
  | unchecked => exact only_pure _
  | delegated => exact ask_aside rfl rfl
  | onChain =>
    show (checkOnChain owner token required spender).Only _
    unfold checkOnChain
    refine Only.bind (balanceOf_aside owner token) fun available => ?_
    split
    · exact only_fail _
    · split
      · exact only_pure _
      · refine Only.bind (readWord_aside _ _) fun approved => ?_
        split
        · exact only_fail _
        · exact only_pure _

/-- A gas limit is found by one question. -/
theorem gasLimit_only {kind : Event → Prop} {s : Sender} {call : Call}
    (asked : kind (.asked (.estimateGas s.wallet call)))
    (told : ∀ x, kind (.told (.estimateGas s.wallet call) x)) : (s.gasLimit call).Only kind := by
  unfold Sender.gasLimit
  refine Only.bind (only_reply.2 ⟨asked, told⟩) fun estimate => ?_
  split
  · split
    · exact only_pure _
    · exact only_arithmetic
  · exact only_pure _

/-- A gas price is found by a look at the kept one, one question and one step that keeps it. -/
theorem gasPrice_only {kind : Event → Prop} {s : Sender}
    (kept : ∀ x, kind (.did (.freshPrice s.gas.priceLifetime) x)) (asked : kind (.asked .gasPrice))
    (told : ∀ x, kind (.told .gasPrice x)) (keeps : ∀ price x, kind (.did (.keepPrice price) x)) :
    s.gasPrice.Only kind := by
  unfold Sender.gasPrice
  refine Only.bind (only_act.2 fun _ => kept _) fun fresh => ?_
  split
  · exact only_pure _
  · refine Only.bind (only_reply.2 ⟨asked, told⟩) fun price => ?_
    split
    · exact Only.bind (only_act.2 fun _ => keeps _ _) fun _ => only_pure _
    · exact only_pure _

theorem gasLimit_minor (s : Sender) (call : Call) : (s.gasLimit call).Only Event.Minor :=
  gasLimit_only ⟨⟨rfl, rfl, rfl⟩, trivial⟩ fun _ => ⟨⟨rfl, rfl, rfl⟩, rfl⟩

theorem gasPrice_minor (s : Sender) : s.gasPrice.Only Event.Minor :=
  gasPrice_only (fun _ => ⟨⟨rfl, rfl, rfl⟩, trivial⟩) ⟨⟨rfl, rfl, rfl⟩, trivial⟩
    (fun _ => ⟨⟨rfl, rfl, rfl⟩, rfl⟩) fun _ _ => ⟨⟨rfl, rfl, rfl⟩, trivial⟩

theorem revertReasonOf_minor (receipt : Receipt) : (revertReasonOf receipt).Only Event.Minor := by
  unfold revertReasonOf
  refine Only.bind (reply_minor rfl rfl rfl) fun tx => ?_
  split
  · exact Only.bind (reply_minor rfl rfl rfl) fun _ => only_pure _
  · exact only_pure _

/-- Waiting for a receipt is looking for it, and otherwise concerns neither wallet nor orders. -/
theorem pollReceipt_only {kind : Event → Prop} (minor : ∀ ev : Event, ev.Minor → kind ev)
    {hash : Hash} (asked : kind (.asked (.receipt hash)))
    (told : ∀ x, kind (.told (.receipt hash) x)) (interval timeout : Duration) (attempts : Nat) :
    (pollReceipt hash interval timeout attempts).Only kind := by
  induction attempts with
  | zero => exact only_pure _
  | succ rest ih =>
    unfold pollReceipt
    refine Only.bind ((act_minor rfl rfl rfl).mono minor) fun stopping => ?_
    split
    · exact only_fail _
    · refine Only.bind (only_reply.2 ⟨asked, told⟩) fun answer => ?_
      split
      · split
        · exact only_pure _
        · exact Only.bind ((revertReasonOf_minor _).mono minor) fun _ => only_pure _
      -- No receipt yet.
      · split
        · exact only_pure _
        · refine Only.bind (only_sleep.2 ⟨minor _ ⟨⟨rfl, rfl, rfl⟩, trivial⟩,
            fun _ => minor _ ⟨⟨rfl, rfl, rfl⟩, trivial⟩⟩) fun stopped => ?_
          split
          · exact only_fail _
          · exact ih

theorem confirm_only {kind : Event → Prop} (minor : ∀ ev : Event, ev.Minor → kind ev) {hash : Hash}
    (asked : kind (.asked (.receipt hash))) (told : ∀ x, kind (.told (.receipt hash) x))
    (p : PollPolicy) : (p.confirm hash).Only kind := by
  unfold PollPolicy.confirm PollPolicy.confirmWithin
  split
  · exact pollReceipt_only minor asked told _ _ _
  · exact only_arithmetic

theorem confirm_offWallet (p : PollPolicy) (hash : Hash) : (p.confirm hash).Only Event.OffWallet :=
  confirm_only (fun _ h => h.aside.offWallet) rfl (fun _ => rfl) p

theorem confirm_offRegistry (p : PollPolicy) (hash : Hash) :
    (p.confirm hash).Only Event.OffRegistry :=
  confirm_only (fun _ h => h.aside.offRegistry) trivial (fun _ => trivial) p

theorem confirm_offBooks (p : PollPolicy) (hash : Hash) : (p.confirm hash).Only Event.OffBooks :=
  confirm_only (fun _ h => h.aside.offBooks) trivial (fun _ => trivial) p

theorem onBook_aside (c : CancelDesk) (target : CancelTarget) :
    (c.onBook? target).Only Event.Aside := by
  unfold CancelDesk.onBook?
  split
  · exact only_pure _
  · refine Only.bind (reply_aside rfl rfl) fun returned => ?_
    split
    · exact only_pure _
    · exact only_pure _

/-- The questions of a cancellation before a channel is tried. -/
theorem resolvePlacement_only {kind : Event → Prop} {c : CancelDesk} {hash : Hash}
    (h : (c.sender.poll.confirm hash).Only kind) : (c.resolvePlacement hash).Only kind := by
  unfold CancelDesk.resolvePlacement
  refine Only.bind h fun confirmation => ?_
  split
  · exact only_pure _
  · exact only_pure _
  · exact only_pure _

/-! ### Sending -/

/-- A nonce is taken by one question and one step. -/
theorem acquire_only {kind : Event → Prop} {wallet : Address}
    (asked : kind (.asked (.pendingNonce wallet)))
    (told : ∀ x, kind (.told (.pendingNonce wallet) x))
    (did : ∀ pending x, kind (.did (.allocate wallet pending) x)) :
    (Sender.acquire wallet).Only kind := by
  unfold Sender.acquire
  refine Only.bind (only_reply.2 ⟨asked, told⟩) fun pending => ?_
  refine Only.bind (only_act.2 fun _ => did _ _) fun nonce => ?_
  split
  · exact only_pure _
  · exact only_arithmetic

theorem acquire_offRecords (wallet : Address) : (Sender.acquire wallet).Only Event.OffRecords :=
  acquire_only ⟨rfl, rfl⟩ (fun _ => ⟨rfl, rfl⟩) fun _ _ => ⟨rfl, rfl⟩

/-- A nonce is taken before anything is sent. -/
theorem acquire_passing (wallet : Address) : (Sender.acquire wallet).Only Event.Passing :=
  acquire_only ⟨trivial, trivial⟩ (fun _ => ⟨trivial, trivial⟩) fun _ _ => ⟨rfl, trivial⟩

/-- The transaction that is sent makes the call for the wallet. -/
theorem submit_only {kind : Event → Prop} {s : Sender} {call : Call}
    (limit : (s.gasLimit call).Only kind) (price : s.gasPrice.Only kind)
    (asked : ∀ tx : SignedTx, tx.request.sender = s.wallet → tx.request.call = call →
      kind (.asked (.send tx)))
    (told : ∀ tx x, kind (.told (.send tx) x)) (nonce : UInt64) :
    (s.submit call nonce).Only kind := by
  unfold Sender.submit
  refine Only.bind limit fun gasLimit => Only.bind price fun gasPrice => ?_
  refine Only.bind (only_reply.2 ⟨asked _ rfl rfl, told _⟩) fun accepted => ?_
  split
  · exact only_pure _
  · exact only_fail _

theorem submit_offRecords (s : Sender) (call : Call) (nonce : UInt64) :
    (s.submit call nonce).Only Event.OffRecords :=
  submit_only ((gasLimit_minor s call).mono fun _ h => h.aside.offRecords)
    ((gasPrice_minor s).mono fun _ h => h.aside.offRecords) (fun _ _ _ => ⟨rfl, rfl⟩)
    (fun _ _ => ⟨rfl, rfl⟩) nonce

theorem sendNext_offRecords (s : Sender) (call : Call) : (s.sendNext call).Only Event.OffRecords := by
  unfold Sender.sendNext
  exact Only.bind (acquire_offRecords _) fun nonce => submit_offRecords s call nonce

theorem sendNext_offOrders (s : Sender) (call : Call) : (s.sendNext call).Only Event.OffOrders :=
  (sendNext_offRecords s call).mono fun _ h => h.1

/-- Sending and waiting is no step on orders or tallies. -/
theorem execute_offLedger (s : Sender) (call : Call) : (s.execute call).Only Event.OffLedger := by
  unfold Sender.execute
  refine Only.locked trivial trivial trivial ?_
  refine Only.bind ((sendNext_offRecords s call).mono fun _ h => h.offLedger) fun submitted => ?_
  exact Only.bind ((confirm_offBooks _ _).mono fun _ h => h.offLedger) fun _ => only_pure _

namespace CancelDesk

variable (c : CancelDesk)

theorem execute_offLedger (call : Call) : (c.execute call).Only Event.OffLedger := by
  unfold CancelDesk.execute
  refine Only.bind (OrderDesk.execute_offLedger c.sender call) fun sent => ?_
  obtain ⟨submitted, confirmation⟩ := sent
  cases confirmation with
  | confirmed receipt => exact only_pure _
  | reverted receipt reason => exact only_fail _
  | timedOut hash timeout => exact only_fail _

theorem tryChannel_offLedger (target : CancelTarget) (channel : CancelChannel) :
    (c.tryChannel target channel).Only Event.OffLedger := by
  have sending (call : Except DeskError Call) :
      (ofExcept call >>= c.execute).Only Event.OffLedger :=
    Only.bind (only_ofExcept _) fun call => c.execute_offLedger call
  cases channel with
  | batch => exact sending _
  | direct probe =>
    cases probe with
    | true =>
      have looked : ((· == some false) <$> c.onBook? target : Attempt Bool).Only Event.Aside :=
        Only.bind (onBook_aside c target) fun _ => only_pure _
      refine Only.bind (looked.mono fun _ h => h.offBooks.offLedger) fun gone => ?_
      cases gone with
      | true => exact only_pure _
      | false => exact sending _
    | false => exact sending _
  | other name channel => exact only_ask.2 ⟨trivial, fun _ => trivial⟩

theorem tryChannels_offLedger (target : CancelTarget) (channels : List CancelChannel) :
    (c.tryChannels target channels).Only Event.OffLedger := by
  induction channels with
  | nil => exact only_pure _
  | cons channel rest ih =>
    unfold CancelDesk.tryChannels
    -- A channel's failure is caught; only a breakdown is passed on.
    refine Only.caught (c.tryChannel_offLedger target channel) fun result sound => ?_
    split
    · exact only_pure _
    · exact only_pure _
    · exact sound.passed
    · split
      · exact only_fail _
      · exact ih

/-- A cancellation is no step on tracked orders until it is settled, and none on tallies. -/
theorem route_offLedger (record : OrderRecord) : (c.route record).Only Event.OffLedger := by
  unfold CancelDesk.route
  split
  · exact only_pure _
  · split
    · exact only_pure _
    · exact c.tryChannels_offLedger _ _
    · next hash _ =>
      have waiting := (confirm_offBooks c.sender.poll hash).mono fun _ h => h.offLedger
      refine Only.bind (resolvePlacement_only waiting) fun result => ?_
      cases result with
      | ok id => exact c.tryChannels_offLedger _ _
      | error reason => exact only_pure _

theorem route_offRegistry (record : OrderRecord) : (c.route record).Only Event.OffRegistry :=
  (c.route_offLedger record).mono fun _ h => h.offRegistry

end CancelDesk

/-! ### Orders -/

/-- A contradiction has nothing to do with the wallet. -/
theorem Attempt.Sound.offWallet {α : Type} (r : Except Fault α) : Sound Event.OffWallet r :=
  fun _ _ => ⟨.did (.resolve "" .unresolved) (.error .arithmetic), rfl, trivial⟩

/-- The order is refused for what it asks for or for what the desk knows. -/
def DeskError.refuses : DeskError → Bool
  | invalidArgument _ | unknownToken _ | duplicateOrder _ | errorRateExceeded _ _ => true
  | _ => false

/-- A refusal, or a quantity that left its range. -/
inductive Fault.Early : Fault → Prop
  | refusal {e : DeskError} (refuses : e.refuses = true) : Early (.error e)
  | arithmetic : Early (.breakdown .arithmetic)

/-- The result is early if it is a failure. -/
def Early {α : Type} (r : Except Fault α) : Prop := ∀ f, r = .error f → f.Early

namespace Early

variable {α β : Type}

theorem ok (a : α) : Early (.ok a) := fun _ same => by cases same

theorem error {f : Fault} (h : f.Early) : Early (.error f : Except Fault α) := fun _ same => by
  cases same
  exact h

theorem refusal {e : DeskError} (h : e.refuses = true) : Early (.error (.error e) : Except Fault α) :=
  error (.refusal h)

theorem bind {r : Except Fault α} {f : α → Except Fault β} (first : Early r)
    (second : ∀ a, Early (f a)) : Early (r >>= f) := by
  cases r with
  | ok a => exact second a
  | error fault => exact error (first fault rfl)

/-- What is refused unless a test is passed. -/
theorem check {p : Prop} [Decidable p] {e : DeskError} {rest : Unit → Except Fault α}
    (refuses : e.refuses = true) (h : Early (rest ())) :
    Early (if p then throw (.error e) >>= rest else rest ()) := by
  split
  · exact refusal refuses
  · exact h

/-- A contradiction does not come so early. -/
theorem sound {kind : Event → Prop} {r : Except Fault α} (h : Early r) : Sound kind r := by
  rintro text rfl
  cases h _ rfl

end Early

theorem OrderRequest.executionPrice_early (order : OrderRequest) (slippage : Decimal) :
    Early (order.executionPrice slippage) := by
  unfold executionPrice
  split
  · exact .ok _
  · split
    · exact .refusal rfl
    · dsimp only
      split
      · exact .ok _
      · exact .error .arithmetic

namespace CallBook

theorem units_early (rounding : Decimal.Rounding) (decimals : UInt8) (amount : Decimal) :
    Early ((units rounding decimals amount).mapError .error) := by
  unfold units
  split
  · exact .ok _
  · exact .refusal rfl

theorem checkTokens_early (base quote : Token) :
    Early ((checkTokens base quote).mapError .error) := by
  unfold checkTokens
  split
  · exact .refusal rfl
  · split
    · exact .refusal rfl
    · split
      · exact .refusal rfl
      · exact .ok _

theorem spend_early (entry : EntryPoint) (base quote : Token) (amount price : Decimal) :
    Early (spend entry base quote amount price) := by
  unfold spend
  cases entry with
  | limitBuyNative | limitBuy =>
    dsimp only
    split
    · exact units_early _ _ _
    · exact .error .arithmetic
  | limitSellNative | limitSell => exact units_early _ _ _

theorem placement_early (b : CallBook) (side : Side) (base quote : Token) (amount price : Decimal) :
    Early (b.placement side base quote amount price) := by
  unfold placement
  refine (checkTokens_early base quote).bind fun _ => ?_
  refine .check rfl ?_
  refine (units_early _ _ _).bind fun unitPrice => ?_
  refine .check rfl ?_
  refine (spend_early _ _ _ _ _).bind fun spent => ?_
  exact .check rfl (.ok _)

end CallBook

namespace Connector

variable {kind : Event → Prop} {α : Type}

theorem resolve_only (c : Connector) (symbol : String) : (c.resolve symbol).Only kind := by
  unfold Connector.resolve
  split
  · exact only_pure _
  · exact only_fail _

/-- The tokens and the call of an order follow from the desk's settings. -/
theorem terms_only (c : Connector) (order : OrderRequest) :
    (do
      let base ← c.resolve order.pair.base
      let quote ← c.resolve order.pair.quote
      let price ← ofFault (order.executionPrice c.slippage)
      let placement ← ofFault (c.calls.placement order.side base quote order.amount price)
      pure (base, quote, placement) : Attempt (Token × Token × Placement)).Only kind := by
  refine Only.bind (resolve_only _ _) fun base => ?_
  refine Only.bind (resolve_only _ _) fun quote => ?_
  refine Only.bind (only_ofFault.2 (order.executionPrice_early _).sound) fun price => ?_
  refine Only.bind (only_ofFault.2 (c.calls.placement_early _ _ _ _ _).sound) fun placement => ?_
  exact only_pure _

/-- Before anything is reserved, failures and orders are looked at. -/
theorem prepare_only (c : Connector) {id : String} (order : OrderRequest)
    (looks : ∀ x, kind (.did .checkLimiter x)) (reads : ∀ x, kind (.did (.order id) x)) :
    (c.prepare id order).Only kind := by
  unfold Connector.prepare
  refine Only.bind (only_act.2 fun _ => looks _) fun verdict => ?_
  refine Only.bind (only_ofExcept _) fun _ => ?_
  refine Only.bind (only_act.2 fun _ => reads _) fun present => ?_
  split
  · exact only_fail _
  · exact c.terms_only order

theorem prepare_offWallet (c : Connector) (id : String) (order : OrderRequest) :
    (c.prepare id order).Only Event.OffWallet :=
  c.prepare_only order (fun _ => rfl) fun _ => rfl

theorem prepare_reads (c : Connector) (id : String) (order : OrderRequest) :
    (c.prepare id order).Only Event.Reads :=
  c.prepare_only order (fun _ => rfl) fun _ => rfl

/-- A refused placement is counted, and nothing else is done about it. -/
theorem countRefusal_only {body : Attempt α} (h : body.Only kind)
    (counts : ∀ x, kind (.did (.count .submissionFailed) x))
    (records : ∀ x, kind (.did .recordFailure x)) : (countRefusal body).Only kind := by
  unfold countRefusal
  refine Only.caught h fun result sound => ?_
  split
  · exact only_pure _
  · refine Only.bind (only_act.2 fun _ => counts _) fun _ => ?_
    exact Only.bind (only_act.2 fun _ => records _) fun _ => only_fail _
  · exact sound.passed

/-- A reservation is given up by one step. -/
theorem orRelease_only {id : String} {body : Attempt α} (h : body.Only kind)
    (releases : ∀ x, kind (.did (.release id) x)) : (orRelease id body).Only kind := by
  unfold orRelease
  refine Only.caught h fun result sound => ?_
  split
  · exact only_pure _
  · exact Only.bind (only_act.2 fun _ => releases _) fun _ => sound.passed

/-- Sending a placement and counting its refusal is no step on tracked orders. -/
theorem sending_offOrders (c : Connector) (call : Call) :
    (countRefusal (c.sender.sendNext call)).Only Event.OffOrders :=
  countRefusal_only (sendNext_offOrders _ _) (fun _ => rfl) fun _ => rfl

theorem resolveOrder_offWallet (id : String) (resolution : Resolution) :
    (resolveOrder id resolution).Only Event.OffWallet := by
  unfold resolveOrder
  refine Only.bind (only_act.2 fun _ => rfl) fun result => ?_
  exact Only.bind (only_ofOutcome.2 (.offWallet _)) fun _ => only_pure _

theorem settle_offWallet (c : Connector) (id : String) (confirmation : Confirmation) :
    (c.settle id confirmation).Only Event.OffWallet := by
  cases confirmation with
  | confirmed receipt =>
    unfold settle
    refine Only.bind (only_act.2 fun _ => rfl) fun _ => ?_
    exact Only.bind (resolveOrder_offWallet _ _) fun _ => only_pure _
  | reverted receipt reason =>
    unfold settle
    refine Only.bind (only_act.2 fun _ => rfl) fun _ => ?_
    refine Only.bind (only_act.2 fun _ => rfl) fun _ => ?_
    exact Only.bind (resolveOrder_offWallet _ _) fun _ => only_pure _
  | timedOut hash timeout =>
    unfold settle
    exact Only.bind (only_act.2 fun _ => rfl) fun _ => only_pure _

theorem sentOrder_only {id : String} (reads : ∀ x, kind (.did (.order id) x)) :
    (sentOrder id).Only kind := by
  unfold sentOrder
  refine Only.bind (only_act.2 fun _ => reads _) fun present => ?_
  split
  · exact only_fail _
  · split
    · exact only_fail _
    · exact only_pure _

theorem sentOrder_offWallet (id : String) : (sentOrder id).Only Event.OffWallet :=
  sentOrder_only fun _ => rfl

theorem adopt_offWallet (c : Connector) (id : String) (pair : Pair) (side : Side) (hash : Hash)
    (orderId : Option UInt64) : (c.adopt id pair side hash orderId).Only Event.OffWallet := by
  unfold adopt
  refine Only.bind (resolve_only _ _) fun base => ?_
  refine Only.bind (resolve_only _ _) fun quote => ?_
  refine Only.bind (only_act.2 fun _ => rfl) fun created => ?_
  refine Only.bind (only_act.2 fun _ => rfl) fun tracked => ?_
  exact Only.bind (only_ofExcept _) fun _ => only_pure _

theorem confirm_offWallet (c : Connector) (id : String) : (c.confirm id).Only Event.OffWallet := by
  unfold confirm
  refine Only.bind (sentOrder_offWallet id) fun record => ?_
  split
  · exact only_pure _
  · refine Only.bind (OrderDesk.confirm_offWallet _ _) fun confirmation => ?_
    exact settle_offWallet c id confirmation

end Connector

/-! ### Everything that can be called -/

/-- A call of a desk. -/
inductive Operation where
  | place (id : String) (order : OrderRequest)
  | confirm (id : String)
  | cancel (id : String)
  | adopt (id : String) (pair : Pair) (side : Side) (hash : Hash) (orderId : Option UInt64)

/-- What a call that succeeds answers. -/
inductive Achieved where
  | placed (handle : OrderHandle)
  | confirmed (outcome : ConfirmOutcome)
  | cancelled (outcome : CancelOutcome)
  | adopted (record : OrderRecord)

/-- The operation that a desk carries out for a call. -/
def Connector.perform (c : Connector) : Operation → Attempt Achieved
  | .place id order => .placed <$> c.place id order
  | .confirm id => .confirmed <$> c.confirm id
  | .cancel id => .cancelled <$> c.cancel id
  | .adopt id pair side hash orderId => .adopted <$> c.adopt id pair side hash orderId

/-- Each call of a desk as an operation on the floor, where it is the first desk. -/
def Connector.onFloor (c : Connector) (op : Operation) : Nat × Routine (Except Fault Achieved) :=
  (0, (c.perform op).run)

end OrderDesk
