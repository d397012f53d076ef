import OrderDesk.Proofs.Account
import OrderDesk.Proofs.CancelLog
import OrderDesk.Proofs.Justified
import OrderDesk.Proofs.PartialCalls

/-!
# `OrderDesk.Proofs.Balance` — a desk and its account

The invariant ties the tracked orders and the counters to the account of what was sent and seen. A
placement adds itself and, if its receipt is awaited under the lock, a sighting; a confirmation adds a
sighting if its order still waits; a cancellation adds nothing.

## Contents
- `Event.Calm`, `Quiet`: what adds nothing to an account.
- `Account.Balanced` with its steps `partialCall`, `send` and `see`.
- `settle_balances`: what is settled is told.
- `Connector.confirm_turns`, `cancel_turns`, `place_turns`: every call keeps the balance.
-/

namespace OrderDesk

open Attempt

variable {ε α β : Type} {env : Environment ε} {wallet : Address} {s s₁ s' : Desk × ε × List Note}
  {view : String → Option OrderRecord} {own : List Note} {id : String} {hash : Hash}

/-! ### What adds nothing to an account -/

/-- The event changes neither tracked orders nor counters, and is not one of the two answers of the
node that matter. -/
structure Event.Calm (ev : Event) : Prop where
  steady : ev.Steady
  untaken : ∀ tx answer, ev ≠ .accepted tx answer
  unseen : ∀ hash receipt, ev ≠ .reported hash receipt

namespace Event

theorem Aside.calm {ev : Event} (h : ev.Aside) : ev.Calm where
  steady := h.offBooks.offLedger.steady
  untaken tx answer := by
    rintro rfl
    cases h.1
  unseen hash receipt := h.offOrders.ne_reported hash receipt

theorem calm_did {e : Effect} {x : e.Answer} (orders : e.changesOrders = false)
    (tallies : e.tells = false) : (did e x).Calm :=
  ⟨⟨orders, tallies⟩, nofun, nofun⟩

end Event

/-- Neither of the two answers of the node that matter is noted. -/
structure Quiet (notes : List Note) : Prop where
  untaken : taken? notes = none
  unseen : ∀ hash, seen? hash notes = none

theorem Quiet.nil : Quiet [] := ⟨rfl, fun _ => rfl⟩

theorem Quiet.append {notes more : List Note} (h : Quiet notes) (h' : Quiet more) :
    Quiet (notes ++ more) where
  untaken := by rw [taken?_append, h.untaken, h'.untaken]; rfl
  unseen hash := by rw [seen?_append, h.unseen, h'.unseen]; rfl

theorem quiet_of_calm {log : List Event} (h : ∀ ev ∈ log, ev.Calm) : Quiet (notesOf log) where
  untaken := taken?_eq_none.2 fun tx answer mem =>
    (h _ (mem_notesOf.1 mem)).untaken tx answer rfl
  unseen hash := seen?_eq_none.2 fun receipt mem =>
    (h _ (mem_notesOf.1 mem)).unseen hash receipt rfl

/-- A calm part adds nothing to an account. -/
theorem PartialCall.calm {p : Attempt α} (h : PartialCall wallet s view own s₁) (quiet : Quiet own)
    (calm : p.Only Event.Calm) :
    p.Safe env.noted.alone (fun _ s' => ∃ own, PartialCall wallet s view own s' ∧ Quiet own) s₁ := by
  refine (h.part env (calm.mono fun _ h => h.steady) calm.logs).mono ?_
  rintro r s' ⟨did, soFar, calm⟩
  exact ⟨_, soFar, quiet.append (quiet_of_calm calm)⟩

/-! ### The invariant -/

theorem Account.Counted.agrees {a : Account} {s s' : Stats} (h : a.Counted s) (agrees : s.Agrees s') :
    a.Counted s' :=
  ⟨agrees.submitted.trans h.submitted, agrees.confirmed.trans h.confirmed,
    agrees.reverted.trans h.reverted, agrees.gasUsed.trans h.gasUsed⟩

namespace Account

/-- What the account says of a placement agrees with the record: the order has an outcome, or it waits
and no receipt that was seen tells one. -/
def Follows (exchange : Address) (a : Account) (p : Sent) (r : OrderRecord) : Prop :=
  r.hash = p.hash ∧ (r.outcome?.isSome = true ∨ r.status = .awaitingConfirmation ∧
    ∀ t ∈ a.sightings, t.placement = p → t.receipt.success = true ∧ t.receipt.Silent exchange)

/-- **A desk and its account.** Every tracked order is the last placement under its identifier. -/
structure Balanced (exchange wallet : Address) (a : Account) (s : Desk × ε × List Note) : Prop where
  tracked : ∀ id r, s.1.book.registry.get? id = some r →
    ∃ p, a.last? id = some p ∧ a.Follows exchange p r
  counted : a.Counted s.1.book.stats
  numbered : ∀ p ∈ a.placements, p.number < a.placements.length
  afforded : a.placements.length ≤ (s.1.nextNonce wallet).toNat
  noted : ∀ t ∈ a.sightings, t.placement ∈ a.placements ∧
    .ofReceipt t.placement.hash t.receipt ∈ s.2.2
  repeated : a.sightings.Pairwise fun t later => t.placement = later.placement →
    t.receipt.success = true ∧ t.receipt.Silent exchange

namespace Balanced

variable {exchange : Address} {a : Account}

/-- Before the first call. -/
theorem opened (common : Common) (out : ε) :
    Balanced exchange wallet {} ((Session.opened common out).desk, out, []) where
  tracked _ _ present := nomatch present
  counted := ⟨rfl, rfl, rfl, rfl⟩
  numbered _ mem := nomatch mem
  afforded := Nat.zero_le _
  noted _ mem := nomatch mem
  repeated := .nil

/-- A partial call that tracks no new order keeps the balance. -/
theorem partialCall (h : Balanced exchange wallet a s) (soFar : PartialCall wallet s view own s')
    (fewer : ∀ id r, view id = some r → s.1.book.registry.get? id = some r) :
    Balanced exchange wallet a s' where
  tracked id r present := h.tracked id r (fewer id r (soFar.orders id ▸ present))
  counted := h.counted.agrees soFar.steady.stats
  numbered := h.numbered
  afforded := Nat.le_trans h.afforded (UInt64.le_iff_toNat_le.1 soFar.steady.next)
  noted t mem := by
    refine (h.noted t mem).imp_right fun noted => ?_
    rw [soFar.notes]
    exact List.mem_append_left _ noted
  repeated := h.repeated

/-- **One more placement.** It is tracked, counted, and has cost a nonce. -/
theorem send (h : Balanced exchange wallet a s) {r : OrderRecord}
    (orders : ∀ other, s'.1.book.registry.get? other =
      if id = other then some r else s.1.book.registry.get? other)
    (sent : r.hash = hash) (waits : r.status = .awaitingConfirmation)
    (stats : (s.1.book.stats.add .submitted).Agrees s'.1.book.stats)
    (next : s.1.nextNonce wallet < s'.1.nextNonce wallet) (notes : s.2.2 <+: s'.2.2) :
    Balanced exchange wallet (a.send id hash) s' where
  tracked other r' present := by
    rw [last?_send]
    rw [orders] at present
    split at present
    · next same =>
      cases present
      refine ⟨_, if_pos same, sent, .inr ⟨waits, fun t mem here => ?_⟩⟩
      -- No receipt of a placement is seen before it is sent: its number is new.
      have old := h.numbered _ (h.noted t mem).1
      rw [here] at old
      exact absurd old (Nat.lt_irrefl _)
    · next ne =>
      obtain ⟨p, last, follows⟩ := h.tracked other r' present
      exact ⟨p, (if_neg ne).trans last, follows⟩
  counted := h.counted.send.agrees stats
  numbered p mem := by
    rcases List.mem_cons.1 mem with rfl | mem
    · exact Nat.lt_succ_self _
    · exact Nat.lt_succ_of_lt (h.numbered p mem)
  afforded := Nat.lt_of_le_of_lt h.afforded (UInt64.lt_iff_toNat_lt.1 next)
  noted t mem := ⟨List.mem_cons_of_mem _ (h.noted t mem).1, notes.subset (h.noted t mem).2⟩
  repeated := h.repeated

/-- **One more sighting.** The order waited, so that all before told no outcome. -/
theorem see (h : Balanced exchange wallet a s) {r r' : OrderRecord} {p : Sent} {receipt : Receipt}
    (present : s.1.book.registry.get? id = some r) (waits : r.outcome? = none)
    (last : a.last? id = some p) (noted : .ofReceipt p.hash receipt ∈ s.2.2)
    (orders : ∀ other, s'.1.book.registry.get? other =
      if id = other then some r' else s.1.book.registry.get? other)
    (sent : r'.hash = r.hash)
    (settled : r'.outcome?.isSome = true ∨ r'.status = .awaitingConfirmation ∧
      receipt.success = true ∧ receipt.Silent exchange)
    (counted : (a.see p (some receipt)).Counted s'.1.book.stats)
    (next : s'.1.nextNonce wallet = s.1.nextNonce wallet) (notes : s'.2.2 = s.2.2) :
    Balanced exchange wallet (a.see p (some receipt)) s' := by
  obtain ⟨_, same, hash, told⟩ := h.tracked id r present
  obtain rfl := Option.some.inj (last.symm.trans same)
  have unclear : ∀ t ∈ a.sightings, t.placement = p →
      t.receipt.success = true ∧ t.receipt.Silent exchange := by
    rcases told with outcome | ⟨-, unclear⟩
    · rw [waits] at outcome
      cases outcome
    · exact unclear
  refine ⟨fun other r'' found => ?_, counted, h.numbered, ?_, fun t mem => ?_, ?_⟩
  · rw [orders] at found
    split at found
    · next same =>
      cases found
      subst same
      refine ⟨p, last, sent.trans hash, settled.imp_right fun ⟨waiting, success, silent⟩ => ?_⟩
      refine ⟨waiting, fun t mem here => ?_⟩
      rcases List.mem_append.1 mem with mem | mem
      · exact unclear t mem here
      · obtain rfl := List.mem_singleton.1 mem
        exact ⟨success, silent⟩
    · next ne =>
      obtain ⟨q, lastOther, sentOther, toldOther⟩ := h.tracked other r'' found
      refine ⟨q, lastOther, sentOther, toldOther.imp_right fun ⟨waiting, unclear⟩ => ?_⟩
      refine ⟨waiting, fun t mem here => ?_⟩
      rcases List.mem_append.1 mem with mem | mem
      · exact unclear t mem here
      · -- The new sighting is of a placement under another identifier.
        obtain rfl := List.mem_singleton.1 mem
        obtain rfl : p = q := here
        exact absurd ((id_of_last? last).symm.trans (id_of_last? lastOther)) ne
  · rw [next]
    exact h.afforded
  · rw [notes]
    rcases List.mem_append.1 mem with mem | mem
    · exact h.noted t mem
    · obtain rfl := List.mem_singleton.1 mem
      exact ⟨mem_of_last? last, noted⟩
  · refine List.pairwise_append.2 ⟨h.repeated, List.pairwise_singleton _ _, fun t mem later new => ?_⟩
    obtain rfl := List.mem_singleton.1 new
    exact unclear t mem

end Balanced
end Account

/-! ### Calls -/

variable {exchange : Address} {a : Account} {c : Connector} {op : Operation}

/-- After a call the desk balances the account that the call's notes lead to. -/
def Turned (exchange wallet : Address) (a : Account) (op : Operation)
    (s s' : Desk × ε × List Note) : Prop :=
  ∃ own, s'.2.2 = s.2.2 ++ own ∧ (a.turn op own).Balanced exchange wallet s'

/-- A call that ends as a partial call with nothing for the account. -/
theorem PartialCall.turned (h : PartialCall wallet s view own s')
    (balanced : a.Balanced exchange wallet s)
    (same : a.turn op own = a)
    (fewer : ∀ id r, view id = some r → s.1.book.registry.get? id = some r) :
    Turned exchange wallet a op s s' :=
  ⟨own, h.notes, same.symm ▸ balanced.partialCall h fewer⟩

/-- A resolution is applied to an order that waits, and the sighting that it comes from is told. -/
theorem Account.Balanced.resolve (h : a.Balanced exchange wallet s) {r : OrderRecord} {p : Sent}
    {receipt : Receipt} {resolution : Resolution}
    (present : s.1.book.registry.get? id = some r) (waits : r.status = .awaitingConfirmation)
    (last : a.last? id = some p) (noted : .ofReceipt p.hash receipt ∈ s.2.2)
    (settled : (r.apply resolution).outcome?.isSome = true ∨
      (r.apply resolution).status = .awaitingConfirmation ∧
        receipt.success = true ∧ receipt.Silent exchange)
    {d : Desk} (orders : d.book.registry = s.1.book.registry)
    (counted : (a.see p (some receipt)).Counted d.book.stats)
    (next : d.nextNonce wallet = s.1.nextNonce wallet) :
    (Connector.resolveOrder id resolution).Safe env.noted.alone
      (fun _ s' => s'.2.2 = s.2.2 ∧ (a.see p (some receipt)).Balanced exchange wallet s')
      (d, s.2) := by
  have waiting : r.state.isTerminal = false := by
    unfold OrderRecord.state
    rw [waits]
    rfl
  obtain ⟨found, after, resolved, view⟩ := Registry.resolve_of_open present waiting resolution
  have applied : (Effect.resolve id resolution).apply d = (.ok found, d.withRegistry after) := by
    unfold Effect.apply
    dsimp only
    rw [orders, resolved]
  unfold Connector.resolveOrder
  refine alone_act_bind.2 ?_
  rw [applied]
  refine ⟨rfl, h.see present ?_ last noted view rfl settled counted next rfl⟩
  unfold OrderRecord.outcome?
  rw [waits]

/-- **What is settled is told.** -/
theorem settle_balances {r : OrderRecord} {p : Sent} {confirmation : Confirmation}
    (h : a.Balanced c.deployment.exchange wallet s)
    (present : s.1.book.registry.get? id = some r) (waits : r.status = .awaitingConfirmation)
    (last : a.last? id = some p) (noted : confirmation.Noted s.2.2 p.hash) :
    (c.settle id confirmation).Safe env.noted.alone
      (fun _ s' => s'.2.2 = s.2.2 ∧
        (a.see p confirmation.receipt?).Balanced c.deployment.exchange wallet s') s := by
  cases confirmation with
  | timedOut hash timeout =>
    show Safe _ _ (act (.count .timedOut) >>= fun _ => pure ConfirmOutcome.timedOut) s
    refine alone_act_bind.2 ⟨rfl, ?_⟩
    exact h.partialCall ((PartialCall.start wallet s).act rfl fun _ => rfl) fun _ _ present => present
  | confirmed receipt =>
    show Safe _ _ (act (.count (.confirmed receipt.gasUsed)) >>= fun _ =>
      Connector.resolveOrder id (.ofTrace (receipt.trace c.deployment.exchange)) >>= fun _ =>
        pure (Connector.outcomeOfTrace (receipt.trace c.deployment.exchange))) s
    refine alone_act_bind.2 ?_
    refine Safe.bind (h.resolve present waits last noted.1 ?_ rfl (h.counted.confirm noted.2) rfl)
      (fun _ _ balanced => balanced) fun _ _ balanced => balanced
    -- The trace is an outcome unless the receipt is silent.
    cases trace : receipt.trace c.deployment.exchange with
    | placed number => exact .inl rfl
    | immediatelyFilled => exact .inl rfl
    | notFound => exact .inr ⟨rfl, noted.2, Receipt.trace_eq_notFound.1 trace⟩
  | reverted receipt reason =>
    obtain ⟨failed, learnt, infixed, -⟩ := noted
    have seen : .ofReceipt p.hash receipt ∈ s.2.2 := infixed.subset (List.mem_cons_self ..)
    show Safe _ _ (act (.count (.reverted receipt.gasUsed)) >>= fun _ =>
      act .recordFailure >>= fun _ => Connector.resolveOrder id (.failed reason) >>= fun _ =>
        pure (ConfirmOutcome.failed reason)) s
    refine alone_act_bind.2 ?_
    show Safe _ _ (act .recordFailure >>= _) _
    refine alone_act_bind.2 ?_
    exact Safe.bind (h.resolve present waits last seen (.inl rfl) rfl (h.counted.revert failed) rfl)
      (fun _ _ balanced => balanced) fun _ _ balanced => balanced

/-- A wait goes on with the orders as they are, and ends with what it was shown. -/
theorem PartialCall.wait (h : PartialCall wallet s view own s₁) (p : PollPolicy) (hash : Hash) :
    (p.confirm hash).Safe env.noted.alone
      (fun r s' => (∃ notes, PartialCall wallet s view (own ++ notes) s' ∧
          OrderDesk.seen? hash notes = r.toOption.bind Confirmation.receipt?) ∧
        ∀ confirmation, r = .ok confirmation → confirmation.Noted s'.2.2 hash) s₁ := by
  have waiting := h.part env ((confirm_offBooks p hash).mono fun _ h => h.offLedger.steady)
    (confirm_logs p hash)
  refine (safe_both waiting (confirm_noted p hash)).mono ?_
  rintro r s' ⟨⟨did, soFar, looked⟩, verdict⟩
  refine ⟨⟨_, soFar, looked.seen?⟩, ?_⟩
  rintro confirmation rfl
  exact verdict

namespace Connector

theorem confirm_turns (h : a.Balanced c.deployment.exchange wallet s) (id : String) :
    (c.confirm id).Safe env.noted.alone
      (fun _ s' => Turned c.deployment.exchange wallet a (.confirm id) s s') s := by
  have untouched : Turned c.deployment.exchange wallet a (.confirm id) s s :=
    (PartialCall.start wallet s).turned h (a.turn_of_quiet rfl (fun _ => rfl) _)
      fun _ _ present => present
  unfold Connector.confirm
  refine Safe.bind (sentOrder_found id) ?_ ?_
  · rintro r s ⟨rfl, -, found⟩
    replace found := found r rfl
    split
    · exact untouched
    · next unsettled =>
      obtain ⟨p, last, sent, told⟩ := h.tracked id r found
      have waits : r.status = .awaitingConfirmation := by
        rcases told with outcome | ⟨waits, -⟩
        · rw [unsettled] at outcome
          cases outcome
        · exact waits
      have turn (notes : List Note) :
          a.turn (.confirm id) ([] ++ notes) = a.see p (seen? r.hash notes) := by
        unfold Account.turn
        dsimp only
        rw [last, sent]
        rfl
      refine Safe.bind ((PartialCall.start wallet s).wait _ r.hash) ?_ ?_
      · rintro confirmation s₁ ⟨⟨notes, soFar, shown⟩, noted⟩
        replace noted := noted _ rfl
        have present := (soFar.orders id).trans found
        refine (settle_balances (h.partialCall soFar fun _ _ found => found) present waits last
          (sent ▸ noted)).mono ?_
        rintro _ s' ⟨same, balanced⟩
        refine ⟨_, same.trans soFar.notes, ?_⟩
        rw [turn, shown]
        exact balanced
      · rintro fault s' ⟨⟨notes, soFar, shown⟩, -⟩
        exact soFar.turned h ((turn notes).trans (by rw [shown]; rfl)) fun _ _ found => found
  · rintro fault s ⟨rfl, -, -⟩
    exact untouched

theorem cancel_turns (h : a.Balanced c.deployment.exchange wallet s) (id : String) :
    (c.cancel id).Safe env.noted.alone
      (fun _ s' => Turned c.deployment.exchange wallet a (.cancel id) s s') s := by
  unfold Connector.cancel
  have ended {own : List Note} {s' : Desk × ε × List Note}
      (soFar : PartialCall wallet s s.1.book.registry.get? own s') :
      Turned c.deployment.exchange wallet a (.cancel id) s s' :=
    soFar.turned h rfl fun _ _ found => found
  have looked : (sentOrder id).Only Event.Steady := sentOrder_only fun _ => ⟨rfl, rfl⟩
  refine Safe.bind ((PartialCall.start wallet s).part env looked (logs_trivial _)) ?_
    fun _ _ ⟨_, soFar, _⟩ => ended soFar
  rintro r s₁ ⟨_, soFar, -⟩
  refine Safe.bind (soFar.part env ((c.cancelDesk.route_offLedger r).mono fun _ h => h.steady)
    (logs_trivial _)) ?_ fun _ _ ⟨_, soFar, _⟩ => ended soFar
  rintro outcome s₂ ⟨_, soFar, -⟩
  refine alone_act_bind.2 ?_
  -- The order is tracked no more.
  have cleared := soFar.act (e := .clear id) rfl fun other => Registry.get?_clear _ id other
  refine cleared.turned h rfl fun other r found => ?_
  split at found
  · cases found
  · exact soFar.orders other ▸ found

end Connector

/-! ### Placing -/

/-- The notes of a sending hold the transaction that was taken, if one was. -/
def Takes (notes : List Note) : Except Fault Submitted → Prop
  | .ok submitted => ∃ tx, taken? notes = some tx ∧ tx.hash = submitted.hash
  | .error _ => taken? notes = none

theorem Sending.takes {sender : Sender} {call : Call} {did : List Event}
    {r : Except Fault Submitted} (h : Sending sender call did r) : Takes (notesOf did) r := by
  cases h with
  | @accepted before tx answer unsent signed carries =>
    have first : taken? (notesOf before) = none := by
      refine taken?_eq_none.2 fun tx answer mem => ?_
      exact unsent _ (mem_notesOf.1 mem)
    refine ⟨tx, ?_, rfl⟩
    rw [notesOf_append, taken?_append, first]
    rfl
  | failed none => exact taken?_eq_none.2 fun tx answer mem => none tx answer (mem_notesOf.1 mem)

/-- Taking a nonce leaves the next one behind it. -/
theorem acquire_advances {t : Desk × ε × List Note} (wallet : Address) :
    (Sender.acquire wallet).Safe env.noted.alone
      (IfOk fun _ t' => t.1.nextNonce wallet < t'.1.nextNonce wallet) t := by
  unfold Sender.acquire
  rw [alone_reply_bind]
  refine alone_act_bind.2 ?_
  unfold Effect.apply
  dsimp only
  split
  · next nonce d answer =>
    split at answer
    · next given nonces taken =>
      cases answer
      exact Nonces.lt_next_of_taken taken
    · cases answer
  · trivial

/-- **Sending** goes on with the orders as they are. If the node takes the transaction, it has cost a
nonce. -/
theorem PartialCall.sendNext {sender : Sender} (h : PartialCall sender.wallet s view own s₁)
    (call : Call) :
    (sender.sendNext call).Safe env.noted.alone
      (fun r s' => (∃ notes, PartialCall sender.wallet s view (own ++ notes) s' ∧ Takes notes r ∧
          ∀ hash, seen? hash notes = none) ∧
        IfOk (fun _ s' => s.1.nextNonce sender.wallet < s'.1.nextNonce sender.wallet) r s') s₁ := by
  have sent := h.part env
    ((sendNext_offRecords sender call).mono fun _ h => h.offLedger.steady)
    ((Sender.sendNext_logs sender call).and (sendNext_offOrders sender call).logs)
  have advanced : (sender.sendNext call).Safe env.noted.alone
      (IfOk fun _ s' => s.1.nextNonce sender.wallet < s'.1.nextNonce sender.wallet) s₁ := by
    unfold Sender.sendNext
    refine Safe.bind (acquire_advances sender.wallet) ?_ fun _ _ _ => trivial
    intro nonce s₂ lt
    have submitting := (PartialCall.start sender.wallet s₂).part env
      ((submit_offRecords sender call nonce).mono fun _ h => h.offLedger.steady) (logs_trivial _)
    refine submitting.mono ?_
    rintro r s' ⟨_, soFar, -⟩
    cases r with
    | error fault => trivial
    | ok submitted =>
      exact UInt64.lt_of_le_of_lt h.steady.next (UInt64.lt_of_lt_of_le lt soFar.steady.next)
  refine (safe_both sent advanced).mono ?_
  rintro r s' ⟨⟨did, soFar, sending, off⟩, advanced⟩
  refine ⟨⟨_, soFar, Sending.takes sending, fun hash => seen?_eq_none.2 fun receipt mem => ?_⟩,
    advanced⟩
  exact (off _ (mem_notesOf.1 mem)).ne_reported hash receipt rfl

/-- The orders without a reservation. -/
def released (id : String) (view : String → Option OrderRecord) (other : String) :
    Option OrderRecord :=
  if id = other then (view other).filter (·.state != .pendingSubmit) else view other

/-- A part whose failure gives a reservation up. -/
theorem orRelease_partialCall {body : Attempt α} {P : α → Desk × ε × List Note → Prop}
    {E : List Note → Prop}
    (h : body.Safe env.noted.alone
      (Either P fun s' => ∃ own, PartialCall wallet s view own s' ∧ E own) s₁) :
    (Connector.orRelease id body).Safe env.noted.alone
      (Either P fun s' => ∃ own, PartialCall wallet s (released id view) own s' ∧ E own) s₁ := by
  unfold Connector.orRelease
  rw [safe_bind, safe_outcome]
  refine h.mono fun r s' hr => ?_
  cases r with
  | ok a => exact hr
  | error fault =>
    obtain ⟨own, soFar, hE⟩ := hr
    show Safe _ _ (act (.release id) >>= fun _ => throw fault) s'
    refine alone_act_bind.2 ⟨own, soFar.act rfl fun other => ?_, hE⟩
    refine (Registry.get?_release _ id other).trans ?_
    rw [soFar.orders]
    rfl

/-- The tracked orders with another record under one identifier. -/
def withOrder (g : Registry) (id : String) (r : OrderRecord) (other : String) : Option OrderRecord :=
  if id = other then some r else g.get? other

/-- A reservation is completed. -/
theorem Effect.broadcast_completes {d : Desk} {r : OrderRecord}
    (present : d.book.registry.get? id = some r) (pending : r.state = .pendingSubmit) (hash : Hash) :
    ∃ found, ((Effect.broadcast id hash).apply d).1 = .ok found ∧
      ∀ other, ((Effect.broadcast id hash).apply d).2.book.registry.get? other =
        withOrder d.book.registry id (r.broadcast hash) other := by
  have does := (Effect.broadcast id hash).does_apply d
  generalize (Effect.broadcast id hash).apply d = out at does ⊢
  obtain ⟨answer, d'⟩ := out
  cases does with
  | aside off => cases off
  | lost absent same =>
    rw [present] at absent
    cases absent
  | completedTwice found sent same =>
    rw [present] at found
    cases found
    exact absurd pending sent
  | completed found _ view =>
    rw [present] at found
    cases found
    exact ⟨_, rfl, view⟩

/-- A transaction was taken in the course of a call. -/
structure Taken (wallet : Address) (s : Desk × ε × List Note) (view : String → Option OrderRecord)
    (hash : Hash) (own : List Note) (s' : Desk × ε × List Note) : Prop where
  soFar : PartialCall wallet s view own s'
  taken : ∃ tx, taken? own = some tx ∧ tx.hash = hash
  unseen : ∀ hash, seen? hash own = none
  advanced : s.1.nextNonce wallet < s'.1.nextNonce wallet

/-- A refusal is counted apart. -/
theorem PartialCall.countRefusal (h : PartialCall c.sender.wallet s view own s₁) (quiet : Quiet own)
    (call : Call) :
    (Connector.countRefusal (c.sender.sendNext call)).Safe env.noted.alone
      (Either (fun submitted s' => ∃ own, Taken c.sender.wallet s view submitted.hash own s')
        fun s' => ∃ own, PartialCall c.sender.wallet s view own s' ∧ taken? own = none) s₁ := by
  unfold Connector.countRefusal
  rw [safe_bind, safe_outcome]
  refine (h.sendNext call).mono ?_
  rintro r s' ⟨⟨notes, soFar, takes, unseen⟩, advanced⟩
  have none (untaken : taken? notes = none) : taken? (own ++ notes) = none :=
    taken?_append.trans (by rw [quiet.untaken, untaken]; rfl)
  match r, takes with
  | .ok submitted, ⟨tx, taken, hash⟩ =>
    refine ⟨_, soFar, ⟨tx, ?_, hash⟩, fun hash => ?_, advanced⟩
    · rw [taken?_append, quiet.untaken, taken]
      rfl
    · rw [seen?_append, quiet.unseen, unseen]
      rfl
  | .error (.breakdown b), untaken => exact ⟨_, soFar, none untaken⟩
  | .error (.error e), untaken =>
    show Safe _ _ (Attempt.act (.count .submissionFailed) >>= fun _ =>
      Attempt.act .recordFailure >>= fun _ => fail e) s'
    refine alone_act_bind.2 ?_
    have counted := soFar.act (e := .count .submissionFailed) rfl fun id => soFar.orders id
    show Safe _ _ (Attempt.act .recordFailure >>= fun _ => fail e) _
    refine alone_act_bind.2 ⟨_, ?_, none untaken⟩
    exact counted.act (e := .recordFailure) rfl fun id => soFar.orders id

/-- **Dispatched**: the call's notes hold the transaction, the account has the placement, and its order
waits; `shown` is the receipt that the call was shown so far. -/
structure Dispatched (exchange wallet : Address) (a : Account) (id : String)
    (s : Desk × ε × List Note) (hash : Hash) (shown : Option Receipt) (s' : Desk × ε × List Note) :
    Prop where
  notes : ∃ own tx, s'.2.2 = s.2.2 ++ own ∧ taken? own = some tx ∧ tx.hash = hash ∧
    seen? hash own = shown
  balanced : (a.send id hash).Balanced exchange wallet s'
  tracked : ∃ r, s'.1.book.registry.get? id = some r ∧ r.status = .awaitingConfirmation

namespace Dispatched

variable {shown : Option Receipt} {order : OrderRequest}

/-- Once what was shown is told, the call may end. -/
theorem turned {s₂ : Desk × ε × List Note} (h : Dispatched exchange wallet a id s hash shown s₁)
    (same : s₂.2.2 = s₁.2.2)
    (balanced : ((a.send id hash).see (a.next id hash) shown).Balanced exchange wallet s₂) :
    Turned exchange wallet a (.place id order) s s₂ := by
  obtain ⟨own, tx, notes, taken, rfl, rfl⟩ := h.notes
  refine ⟨own, same.trans notes, ?_⟩
  unfold Account.turn
  dsimp only
  rw [taken]
  exact balanced

/-- A wait for the placement's receipt. -/
theorem wait (h : Dispatched exchange wallet a id s hash none s₁) (p : PollPolicy) :
    (p.confirm hash).Safe env.noted.alone
      (fun r s' => Dispatched exchange wallet a id s hash (r.toOption.bind Confirmation.receipt?) s' ∧
        ∀ confirmation, r = .ok confirmation → confirmation.Noted s'.2.2 hash) s₁ := by
  refine ((PartialCall.start wallet s₁).wait p hash).mono ?_
  rintro r s' ⟨⟨more, soFar, shown⟩, noted⟩
  obtain ⟨own, tx, notes, taken, same, unseen⟩ := h.notes
  obtain ⟨record, present, waits⟩ := h.tracked
  refine ⟨⟨⟨own ++ more, tx, ?_, ?_, same, ?_⟩, ?_, record, ?_, waits⟩, noted⟩
  · rw [soFar.notes, notes, List.nil_append, List.append_assoc]
  · rw [taken?_append, taken]
    rfl
  · rw [seen?_append, unseen, shown]
    rfl
  · exact h.balanced.partialCall soFar fun _ _ found => found
  · exact (soFar.orders id).trans present

end Dispatched

/-- The order that was reserved is sent, tracked and counted; or the reservation is given up. -/
theorem PartialCall.broadcast {record : OrderRecord} (pending : record.state = .pendingSubmit)
    (balanced : a.Balanced exchange c.sender.wallet s)
    (h : PartialCall c.sender.wallet s (withOrder s.1.book.registry id record) own s₁) (quiet : Quiet own)
    (placement : Placement) :
    (c.broadcast id placement).Safe env.noted.alone
      (Either (fun submitted s' =>
          Dispatched exchange c.sender.wallet a id s submitted.hash none s')
        fun s' => ∃ own, PartialCall c.sender.wallet s
          (released id (withOrder s.1.book.registry id record)) own s' ∧ taken? own = none) s₁ := by
  unfold Connector.broadcast
  refine Safe.bind (orRelease_partialCall (h.countRefusal quiet placement.call)) ?_
    fun _ _ ended => ended
  rintro submitted s₂ ⟨own, soFar, ⟨tx, taken, hash⟩, unseen, advanced⟩
  have present : s₂.1.book.registry.get? id = some record :=
    (soFar.orders id).trans (if_pos rfl)
  obtain ⟨found, answer, completed⟩ :=
    Effect.broadcast_completes present pending submitted.hash
  have orders (other : String) :
      ((Effect.broadcast id submitted.hash).apply s₂.1).2.book.registry.get? other =
        withOrder s.1.book.registry id (record.broadcast submitted.hash) other := by
    rw [completed]
    unfold withOrder
    split
    · rfl
    · next ne => exact (soFar.orders other).trans (if_neg ne)
  have sent := soFar.act (e := .broadcast id submitted.hash) rfl orders
  refine alone_act_bind.2 ?_
  rw [answer]
  show Safe _ _ (Attempt.act (.count .submitted) >>= fun _ => pure submitted) _
  refine alone_act_bind.2 ?_
  refine ⟨⟨own, tx, sent.notes, taken, hash, unseen _⟩, ?_, _, (sent.orders id).trans (if_pos rfl), rfl⟩
  refine balanced.send orders rfl rfl ?_ ?_ ⟨own, sent.notes.symm⟩
  · exact ⟨congrArg (· + 1) sent.steady.stats.submitted, sent.steady.stats.confirmed,
      sent.steady.stats.reverted, sent.steady.stats.gasUsed⟩
  · exact UInt64.lt_of_lt_of_le advanced (Effect.nextNonce_le _ _ _)

/-- A check of funds asks for nothing that matters; if it fails the reservation is given up. -/
theorem PartialCall.check (h : PartialCall wallet s view own s₁) (quiet : Quiet own) (funds : FundsCheck)
    (owner : Address) (token : Token) (required : Word) (spender : Address) :
    (Connector.orRelease id (funds.check owner token required spender)).Safe env.noted.alone
      (Either (fun _ s' => ∃ own, PartialCall wallet s view own s' ∧ Quiet own)
        fun s' => ∃ own, PartialCall wallet s (released id view) own s' ∧ taken? own = none) s₁ := by
  refine orRelease_partialCall
    ((h.calm quiet ((check_aside _ _ _ _ _).mono fun _ aside => aside.calm)).mono ?_)
  rintro r s' ⟨own, soFar, quiet⟩
  cases r with
  | ok _ => exact ⟨own, soFar, quiet⟩
  | error fault => exact ⟨own, soFar, quiet.untaken⟩

/-- What is known when the wallet's lock is given back: the placement is dispatched, and a wait that
ended is borne out. -/
def Handed (exchange wallet : Address) (a : Account) (id : String) (s : Desk × ε × List Note)
    (sent : Submitted × Option (Except Fault Confirmation)) (s' : Desk × ε × List Note) : Prop :=
  Dispatched exchange wallet a id s sent.1.hash
    (sent.2.bind fun result => result.toOption.bind Confirmation.receipt?) s' ∧
    ∀ confirmation, sent.2 = some (.ok confirmation) → confirmation.Noted s'.2.2 sent.1.hash

namespace Connector

theorem prepare_calm (id : String) (order : OrderRequest) :
    (c.prepare id order).Only Event.Calm :=
  c.prepare_only order (fun _ => Event.calm_did rfl rfl) fun _ => Event.calm_did rfl rfl

/-- What is done under the lock. -/
theorem section_hands {record : OrderRecord} (pending : record.state = .pendingSubmit)
    (balanced : a.Balanced exchange c.sender.wallet s)
    (h : PartialCall c.sender.wallet s (withOrder s.1.book.registry id record) own s₁) (quiet : Quiet own)
    (placement : Placement) :
    (do
      let submitted ← c.broadcast id placement
      if c.confirmInLock then
        let result ← outcome (c.sender.poll.confirm submitted.hash)
        pure (submitted, some result)
      else pure (submitted, none) :
        Attempt (Submitted × Option (Except Fault Confirmation))).Safe env.noted.alone
      (Either (Handed exchange c.sender.wallet a id s)
        fun s' => ∃ own, PartialCall c.sender.wallet s
          (released id (withOrder s.1.book.registry id record)) own s' ∧ taken? own = none) s₁ := by
  refine Safe.bind (h.broadcast pending balanced quiet placement) ?_ fun _ _ ended => ended
  intro submitted s₂ dispatched
  split
  · rw [safe_bind, safe_outcome]
    refine (dispatched.wait c.sender.poll).mono ?_
    rintro result s' ⟨dispatched, noted⟩
    exact ⟨dispatched, fun confirmation same => noted confirmation (Option.some.inj same)⟩
  · exact ⟨dispatched, nofun⟩

theorem place_turns (h : a.Balanced c.deployment.exchange c.sender.wallet s) (id : String)
    (order : OrderRequest) :
    (c.place id order).Safe env.noted.alone
      (fun _ s' => Turned c.deployment.exchange c.sender.wallet a (.place id order) s s') s := by
  have unsent {own : List Note} (untaken : taken? own = none) : a.turn (.place id order) own = a := by
    unfold Account.turn
    dsimp only
    rw [untaken]
  unfold Connector.place
  refine Safe.bind ((PartialCall.start c.sender.wallet s).calm .nil (prepare_calm id order)) ?_
    fun _ _ ⟨_, soFar, quiet⟩ => soFar.turned h (unsent quiet.untaken) fun _ _ found => found
  rintro ⟨base, quote, placement⟩ s₁ ⟨own, soFar, quiet⟩
  refine alone_act_bind.2 ?_
  -- From here on it only matters that the record is new and pending.
  generalize hrecord : OrderRecord.mk id order.pair base.address quote.address order.side
    Hash.zero .pendingSubmit _ = record
  obtain rfl : record.id = id := by rw [← hrecord]
  have pending : record.state = .pendingSubmit := by rw [← hrecord]; rfl
  refine alone_act_bind.2 ?_
  show Safe _ _ (ofExcept (s₁.1.track record).1 >>= _) ((s₁.1.track record).2, s₁.2)
  rcases s₁.1.track_cases record with ⟨answer, free, view⟩ | ⟨e, answer, same⟩
  · have reserved (other : String) : (s₁.1.track record).2.book.registry.get? other =
        withOrder s.1.book.registry record.id record other := by
      rw [view]
      unfold withOrder
      rw [soFar.orders]
    -- A reservation that is given up leaves the orders as they were before.
    have given {s' : Desk × ε × List Note} : (∃ own, PartialCall c.sender.wallet s
        (released record.id (withOrder s.1.book.registry record.id record)) own s' ∧
          taken? own = none) →
        Turned c.deployment.exchange c.sender.wallet a (.place record.id order) s s' := by
      rintro ⟨own, soFar, untaken⟩
      refine soFar.turned h (unsent untaken) fun other r found => ?_
      unfold released withOrder at found
      split at found
      · rw [Option.filter_some, if_neg (by simp [pending])] at found
        cases found
      · exact found
    replace soFar := soFar.act (e := .reserve record) rfl reserved
    rw [answer]
    show Safe _ _ (orRelease record.id _ >>= _) _
    refine Safe.bind (soFar.check quiet _ _ _ _ _) ?_ fun _ _ => given
    rintro _ s₂ ⟨own, soFar, quiet⟩
    refine Safe.bind (alone_locked (section_hands pending h soFar quiet placement)) ?_
      fun _ _ => given
    rintro ⟨submitted, confirmation⟩ s₃ ⟨dispatched, noted⟩
    match confirmation with
    | none => exact dispatched.turned rfl dispatched.balanced
    | some (.error fault) => exact dispatched.turned rfl dispatched.balanced
    | some (.ok confirmation) =>
      obtain ⟨r, present, waits⟩ := dispatched.tracked
      show Safe _ _ (c.settle record.id confirmation >>= _) s₃
      refine Safe.bind (settle_balances dispatched.balanced present waits a.last?_send_self
        (noted _ rfl)) ?_ ?_
      · exact fun _ _ ⟨same, balanced⟩ => dispatched.turned same balanced
      · exact fun _ _ ⟨same, balanced⟩ => dispatched.turned same balanced
  · rw [answer, same]
    exact soFar.turned h (unsent quiet.untaken) fun _ _ found => found

end Connector

end OrderDesk
