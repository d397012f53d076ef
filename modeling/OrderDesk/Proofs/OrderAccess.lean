import OrderDesk.Proofs.Parts

/-!
# `OrderDesk.Proofs.OrderAccess` — an operation's access to the tracked orders

An operation has access to one order: a placement reserves an identifier and completes it, a
confirmation and a cancellation read the record of a placement that was sent. What is written back
later is written by identifier, so the access says under which identifier, for which placement, and
after which receipt.

## Contents
- `OrderAccess`, and `OrderAccess.may`: the order an operation goes by, and what it may do next.
- `…_orderAccess`: the parts of the operations keep to it.
- `Connector.perform_orderAccess`: so does every call of a desk.
-/

namespace OrderDesk

/-- The order that an operation has access to. -/
inductive OrderAccess where
  | idle
  /-- It reserved the identifier for its placement. -/
  | reserving (id : String)
  /-- It knows that the identifier stands for a placement that was sent. -/
  | knows (id : String) (hash : Hash)
  /-- It was told the receipt of that placement. -/
  | saw (id : String) (hash : Hash) (receipt : Receipt)
deriving DecidableEq

/-- What a receipt settles about the order that its transaction placed. -/
def Receipt.Settles (receipt : Receipt) (exchange : Address) (resolution : Resolution) : Prop :=
  if receipt.success then resolution = .ofTrace (receipt.trace exchange)
  else ∃ reason, resolution = .failed reason

namespace OrderAccess

/-- The identifier and the placement that the operation goes by. -/
def placement? : OrderAccess → Option (String × Hash)
  | idle | reserving _ => none
  | knows id hash | saw id hash _ => some (id, hash)

/-- How an event changes the access. -/
def after : OrderAccess → Event → OrderAccess
  | _, .did (.reserve record) (.ok ()) => reserving record.id
  | _, .did (.order id) (some record) =>
    if record.state = .pendingSubmit then idle else knows id record.hash
  | _, .did (.broadcast id hash) (.ok _) => knows id hash
  | _, .did (.broadcast _ _) (.error _) => idle
  | _, .did (.release _) _ => idle
  | knows id hash, .told (.receipt asked) (.ok (some receipt)) =>
    if asked = hash then saw id hash receipt else knows id hash
  | access, _ => access

/-- What an operation may do with the tracked orders: reserve or track once, complete or give up what
it reserved, settle what it saw the receipt of, and clear what it read. -/
def may (c : Connector) (access : OrderAccess) : Event → Prop
  | .did (.order _) _ => access = idle
  | .did (.reserve record) _ => access = idle ∧ record.status = .pendingSubmit
  | .did (.adopt record) _ =>
    record.status = .awaitingConfirmation ∨ ∃ number, record.status = .resting number
  | .did (.broadcast id _) _ => access = reserving id
  | .did (.release id) _ => access = reserving id
  | .did (.resolve id resolution) _ =>
    ∃ hash receipt, access = saw id hash receipt ∧
      receipt.Settles c.deployment.exchange resolution
  | .did (.clear id) _ => ∃ hash, access.placement? = some (id, hash)
  | _ => True

/-- The watch over an operation's dealings with the tracked orders of its desk. -/
def watch (c : Connector) : Watch OrderAccess := Watch.tracking (may c) after

variable {c : Connector}

theorem watch_step {access : OrderAccess} {ev : Event} {P : OrderAccess → Prop} :
    (watch c).Step access ev P ↔ may c access ev ∧ P (after access ev) :=
  Watch.tracking_step ..

/-- What leaves the orders alone leaves the access as it is. -/
theorem ignores_offOrders (access : OrderAccess) {ev : Event} (h : ev.OffOrders) :
    (watch c).Ignores access ev := by
  refine watch_step.2 ?_
  cases ev with
  | did e x => cases e <;> first | (cases h; done) | exact ⟨trivial, by cases access <;> rfl⟩
  | asked r => exact ⟨trivial, by cases access <;> rfl⟩
  | told r x => cases r <;> first | (cases h; done) | exact ⟨trivial, by cases access <;> rfl⟩
  | slept d => exact ⟨trivial, by cases access <;> rfl⟩
  | woke b => exact ⟨trivial, by cases access <;> rfl⟩
  | queued a => exact ⟨trivial, by cases access <;> rfl⟩
  | locked a => exact ⟨trivial, by cases access <;> rfl⟩
  | unlocked a => exact ⟨trivial, by cases access <;> rfl⟩

/-- A receipt that is told does not change which placement the operation goes by. -/
theorem placement?_told (access : OrderAccess) (hash : Hash) (reply : Request.Reply (.receipt hash)) :
    (access.after (.told (.receipt hash) reply)).placement? = access.placement? := by
  cases reply with
  | error e => cases access <;> rfl
  | ok found =>
    cases found with
    | none => cases access <;> rfl
    | some receipt =>
      cases access with
      | knows id known =>
        show (if hash = known then saw id known receipt else knows id known).placement? = _
        split <;> rfl
      | _ => rfl

/-- What takes no step on tracked orders goes by the same placement after. -/
theorem placement?_offRegistry {p : Option (String × Hash)} (access : OrderAccess) {ev : Event}
    (h : ev.OffRegistry) (hp : access.placement? = p) :
    (watch c).Step access ev fun access => access.placement? = p := by
  -- All that may concern orders and is no step on them is a question about a receipt.
  by_cases off : ev.OffOrders
  · refine (ignores_offOrders access off).mono ?_
    rintro _ rfl
    exact hp
  · cases ev with
    | did e x => exact absurd h off
    | told r x =>
      cases r with
      | receipt hash => exact watch_step.2 ⟨trivial, (placement?_told access hash x).trans hp⟩
      | _ => exact absurd rfl off
    | asked r => exact watch_step.2 ⟨trivial, by cases access <;> exact hp⟩
    | _ => exact absurd rfl off

/-- How an operation came to go by a placement. -/
theorem placement?_after {access : OrderAccess} {ev : Event} {id : String} {hash : Hash}
    (h : (access.after ev).placement? = some (id, hash)) :
    access.placement? = some (id, hash) ∨
      (∃ r, ev = .did (.order id) (some r) ∧ r.state ≠ .pendingSubmit ∧ r.hash = hash) ∨
      ∃ x, ev = .did (.broadcast id hash) (.ok x) := by
  unfold after at h
  split at h
  · cases h
  · split at h
    · cases h
    · next sent =>
      cases h
      exact .inr (.inl ⟨_, rfl, sent, rfl⟩)
  · cases h
    exact .inr (.inr ⟨_, rfl⟩)
  · cases h
  · cases h
  · split at h
    · exact .inl h
    · exact .inl h
  · exact .inl h

/-- How an operation came to know a receipt. -/
theorem after_eq_saw {access : OrderAccess} {ev : Event} {id : String} {hash : Hash} {receipt : Receipt}
    (h : access.after ev = saw id hash receipt) :
    access = saw id hash receipt ∨ ev = .told (.receipt hash) (.ok (some receipt)) := by
  unfold after at h
  split at h
  · cases h
  · split at h <;> cases h
  · cases h
  · cases h
  · cases h
  · split at h
    · next same =>
      subst same
      cases h
      exact .inr rfl
    · cases h
  · exact .inl h

/-- How an operation came to have a reservation. -/
theorem after_eq_reserving {access : OrderAccess} {ev : Event} {id : String}
    (h : access.after ev = reserving id) :
    access = reserving id ∨ ∃ record, ev = .did (.reserve record) (.ok ()) ∧ record.id = id := by
  unfold after at h
  split at h
  · cases h
    exact .inr ⟨_, rfl, rfl⟩
  · split at h <;> cases h
  · cases h
  · cases h
  · cases h
  · split at h <;> cases h
  · exact .inl h

/-- A reservation is kept until it is completed or given up. -/
theorem after_reserving {id : String} {ev : Event} (permit : may c (reserving id) ev) :
    (reserving id).after ev = reserving id ∨ (∃ hash x, ev = .did (.broadcast id hash) x) ∨
      ∃ x, ev = .did (.release id) x := by
  cases ev with
  | did e x =>
    cases e with
    | order other => cases permit
    | reserve record => cases permit.1
    | broadcast other hash =>
      cases permit
      exact .inr (.inl ⟨hash, x, rfl⟩)
    | release other =>
      cases permit
      exact .inr (.inr ⟨x, rfl⟩)
    | _ => exact .inl rfl
  | told r x =>
    refine .inl ?_
    unfold after
    split <;> first | rfl | contradiction
  | _ => exact .inl rfl

end OrderAccess

open Attempt OrderAccess

/-! ### Every part keeps to what its access allows -/

variable {c : Connector} {α : Type}

/-- A part that leaves the orders alone ends with the access it began with. -/
theorem access_offOrders {p : Attempt α} {access : OrderAccess}
    {Q : Except Fault α → OrderAccess → Prop} (h : p.Only Event.OffOrders)
    (hQ : ∀ r, Q r access) : p.Safe (OrderAccess.watch c) Q access :=
  h.safe (fun _ hev => ignores_offOrders access hev) hQ

/-- After a part that leaves the orders alone, an operation goes on with the access it had. -/
theorem access_after {β : Type} {p : Attempt α} {f : α → Attempt β} {access : OrderAccess}
    {Q : Except Fault β → OrderAccess → Prop} (h : p.Only Event.OffOrders)
    (stop : ∀ fault, Q (.error fault) access) (next : ∀ a, (f a).Safe (OrderAccess.watch c) Q access) :
    (p >>= f).Safe (OrderAccess.watch c) Q access :=
  h.followed (fun _ hev => ignores_offOrders access hev) stop next

/-- A step that the access permits is taken, whatever it answers. -/
theorem access_act {β : Type} {e : Effect} {f : e.Answer → Attempt β} {access : OrderAccess}
    {Q : Except Fault β → OrderAccess → Prop} (permit : ∀ x, OrderAccess.may c access (.did e x))
    (next : ∀ x, (f x).Safe (OrderAccess.watch c) Q (access.after (.did e x))) :
    (act e >>= f).Safe (OrderAccess.watch c) Q access := by
  rw [safe_bind, safe_act]
  intro d
  exact watch_step.2 ⟨permit _, next _⟩

/-- A part that takes no step on tracked orders goes by the same placement after. -/
theorem access_offRegistry {p : Attempt α} {access : OrderAccess} (h : p.Only Event.OffRegistry) :
    p.Safe (OrderAccess.watch c) (fun _ s => s.placement? = access.placement?) access :=
  (h.keeps (I := fun s => s.placement? = access.placement?)
    (fun s _ hev hs => placement?_offRegistry s hev hs) rfl).mono fun _ _ kept => kept.1

/-- What the end of a wait for a receipt says of the access. -/
def Confirmation.Bears (id : String) (hash : Hash) : Confirmation → OrderAccess → Prop
  | confirmed receipt, access => access = saw id hash receipt ∧ receipt.success = true
  | reverted receipt _, access => access = saw id hash receipt ∧ receipt.success = false
  | timedOut _ _, _ => True

/-- Waiting for the receipt of the placement that the operation knows. -/
theorem pollReceipt_orderAccess (id : String) (hash : Hash) (interval timeout : Duration)
    (attempts : Nat) :
    (pollReceipt hash interval timeout attempts).Safe (OrderAccess.watch c)
      (IfOk fun confirmation access => confirmation.Bears id hash access)
      (knows id hash) := by
  induction attempts with
  | zero => trivial
  | succ rest ih =>
    unfold pollReceipt
    refine access_after (only_act.2 fun _ => rfl) (fun _ => trivial) ?_
    intro stopping
    cases stopping with
    | true => trivial
    | false =>
      show Safe _ _ (reply (.receipt hash) >>= _) _
      rw [safe_bind, safe_reply]
      refine watch_step.2 ⟨trivial, fun answer => watch_step.2 ⟨trivial, ?_⟩⟩
      -- No receipt yet: the access is as before and the wait goes on.
      have wait : (if rest = 0 then pure (.timedOut hash timeout)
          else do
            if ← Attempt.sleep interval then Attempt.fail (.shutdown hash)
            else pollReceipt hash interval timeout rest : Attempt Confirmation).Safe
          (OrderAccess.watch c)
          (IfOk fun confirmation access => confirmation.Bears id hash access)
          (knows id hash) := by
        split
        · trivial
        · refine access_after (only_sleep.2 ⟨rfl, fun _ => rfl⟩) (fun _ => trivial) ?_
          intro stopped
          cases stopped with
          | true => trivial
          | false => exact ih
      cases answer with
      | error e => exact wait
      | ok found =>
        cases found with
        | none => exact wait
        | some receipt =>
          have told : (knows id hash).after (.told (.receipt hash) (.ok (some receipt))) =
              saw id hash receipt := if_pos rfl
          show Safe _ _ (if receipt.success = true then pure (.confirmed receipt)
            else do
              let reason ← revertReasonOf receipt
              pure (.reverted receipt reason) : Attempt Confirmation)
            ((knows id hash).after (.told (.receipt hash) (.ok (some receipt))))
          rw [told]
          split
          · next success =>
            exact ⟨rfl, success⟩
          · next failure =>
            refine access_after ((revertReasonOf_minor receipt).mono fun _ h => h.aside.offOrders)
              (fun _ => trivial) ?_
            intro reason
            exact ⟨rfl, by simpa using failure⟩

theorem confirm_orderAccess (p : PollPolicy) (id : String) (hash : Hash) :
    (p.confirm hash).Safe (OrderAccess.watch c)
      (IfOk fun confirmation access => confirmation.Bears id hash access)
      (knows id hash) := by
  unfold PollPolicy.confirm PollPolicy.confirmWithin
  split
  · exact pollReceipt_orderAccess id hash _ _ _
  · trivial

namespace Connector

variable (c)

/-- Applying what the receipt settles. -/
theorem resolveOrder_orderAccess {id : String} {hash : Hash} {receipt : Receipt}
    {resolution : Resolution} (settles : receipt.Settles c.deployment.exchange resolution) :
    (resolveOrder id resolution).Safe (OrderAccess.watch c) (fun _ _ => True)
      (saw id hash receipt) := by
  unfold resolveOrder
  refine access_act (fun _ => ⟨hash, receipt, rfl, settles⟩) fun result => ?_
  refine Safe.bind (R := fun _ _ => True) (safe_ofOutcome.2 trivial) (fun _ _ _ => trivial)
    fun _ _ _ => trivial

theorem settle_orderAccess (id : String) {hash : Hash} {access : OrderAccess}
    {confirmation : Confirmation} (bears : confirmation.Bears id hash access) :
    (c.settle id confirmation).Safe (OrderAccess.watch c) (fun _ _ => True) access := by
  cases confirmation with
  | confirmed receipt =>
    obtain ⟨rfl, success⟩ := bears
    unfold settle
    refine access_after (only_act.2 fun _ => rfl) (fun _ => trivial) ?_
    intro _
    refine Safe.bind (c.resolveOrder_orderAccess ?_) (fun _ _ _ => trivial) fun _ _ _ => trivial
    unfold Receipt.Settles
    rw [if_pos success]
  | reverted receipt reason =>
    obtain ⟨rfl, failure⟩ := bears
    unfold settle
    refine access_after (only_act.2 fun _ => rfl) (fun _ => trivial) ?_
    intro _
    refine access_after (only_act.2 fun _ => rfl) (fun _ => trivial) ?_
    intro _
    refine Safe.bind (c.resolveOrder_orderAccess ?_) (fun _ _ _ => trivial) fun _ _ _ => trivial
    unfold Receipt.Settles
    rw [if_neg (by simp [failure])]
    exact ⟨reason, rfl⟩
  | timedOut hash timeout =>
    unfold settle
    refine Safe.bind (R := fun _ _ => True)
      (access_offOrders (only_act.2 fun _ => rfl) fun _ => trivial) (fun _ _ _ => trivial)
      fun _ _ _ => trivial

/-- A reservation that its purpose fails for is given up. -/
theorem orRelease_orderAccess {id : String} {body : Attempt α}
    (h : body.Only Event.OffOrders) :
    (orRelease id body).Safe (OrderAccess.watch c)
      (IfOk fun _ access => access = reserving id) (reserving id) := by
  unfold orRelease
  rw [safe_bind, safe_outcome]
  refine access_offOrders h fun result => ?_
  cases result with
  | ok a => exact rfl
  | error fault =>
    exact access_act (f := fun _ => throw fault) (fun _ => rfl) fun _ => trivial

/-- What was reserved is completed with the transaction that was sent. -/
theorem broadcast_orderAccess (id : String) (placement : Placement) :
    (c.broadcast id placement).Safe (OrderAccess.watch c)
      (IfOk fun submitted access => access = knows id submitted.hash)
      (reserving id) := by
  unfold Connector.broadcast
  refine Safe.bind (c.orRelease_orderAccess (c.sending_offOrders _)) ?_ fun _ _ _ => trivial
  rintro submitted _ rfl
  refine access_act (fun _ => rfl) fun completed => ?_
  cases completed with
  | error b => trivial
  | ok record =>
    show Safe _ _ (ofOutcome (.ok record) >>= _) (knows id submitted.hash)
    refine Safe.bind (R := fun _ s => s = knows id submitted.hash) (safe_ofOutcome.2 rfl) ?_
      fun _ _ _ => trivial
    rintro _ _ rfl
    refine access_after (only_act.2 fun _ => rfl) (fun _ => trivial) ?_
    intro _
    exact rfl

/-- An operation that read a record of a placement that was sent knows that placement. -/
theorem sentOrder_orderAccess (id : String) :
    (sentOrder id).Safe (OrderAccess.watch c)
      (IfOk fun record access => access = knows id record.hash) idle := by
  unfold sentOrder Attempt.order
  refine access_act (fun _ => rfl) fun found => ?_
  cases found with
  | none => trivial
  | some record =>
    show Safe _ _ (if record.state = .pendingSubmit then fail (.notBroadcast id) else pure record)
      (if record.state = .pendingSubmit then idle else knows id record.hash)
    split
    · trivial
    · exact rfl

theorem place_orderAccess (id : String) (order : OrderRequest) :
    (c.place id order).Safe (OrderAccess.watch c) (fun _ _ => True) idle := by
  unfold Connector.place
  have prepared : (c.prepare id order).Safe (OrderAccess.watch c) (IfOk fun _ access => access = idle)
      idle := by
    unfold Connector.prepare
    refine access_after (only_act.2 fun _ => rfl) (fun _ => trivial) ?_
    intro verdict
    refine access_after (only_ofExcept _) (fun _ => trivial) ?_
    intro _
    unfold Attempt.order
    refine access_act (fun _ => rfl) fun found => ?_
    cases found with
    | some record => trivial
    | none =>
      refine access_offOrders (c.terms_only order) fun r => ?_
      cases r with
      | ok a => rfl
      | error fault => trivial
  refine Safe.bind prepared ?_ fun _ _ _ => trivial
  rintro ⟨base, quote, placement⟩ _ rfl
  refine access_after (only_act.2 fun _ => rfl) (fun _ => trivial) ?_
  intro created
  refine access_act (fun _ => ⟨rfl, rfl⟩) fun reserved => ?_
  cases reserved with
  | error e => trivial
  | ok _ =>
    refine access_after (only_ofExcept _) (fun _ => trivial) ?_
    intro _
    refine Safe.bind (c.orRelease_orderAccess ((check_aside _ _ _ _ _).mono fun _ h => h.offOrders)) ?_
      fun _ _ _ => trivial
    rintro _ _ rfl
    refine Safe.bind (R := IfOk fun sent access => ∀ confirmation, sent.2 = some (.ok confirmation) →
      ∃ hash, confirmation.Bears id hash access) ?_ ?_ fun _ _ _ => trivial
    · rw [safe_locked]
      refine watch_step.2 ⟨trivial, watch_step.2 ⟨trivial, ?_⟩⟩
      have sent := c.broadcast_orderAccess id placement
      refine Safe.bind sent ?_ fun _ _ _ => watch_step.2 ⟨trivial, trivial⟩
      rintro submitted _ rfl
      split
      · rw [safe_bind, safe_outcome]
        refine (confirm_orderAccess c.sender.poll id submitted.hash).mono fun result access told => ?_
        refine watch_step.2 ⟨trivial, ?_⟩
        rintro confirmation ⟨⟩
        refine ⟨submitted.hash, ?_⟩
        exact told
      · exact watch_step.2 ⟨trivial, fun _ h => nomatch h⟩
    · rintro ⟨submitted, confirmation⟩ access told
      cases confirmation with
      | none => trivial
      | some result =>
        cases result with
        | error fault => trivial
        | ok confirmation =>
          obtain ⟨hash, bears⟩ := told confirmation rfl
          refine Safe.bind (R := fun r s => r = .ok confirmation ∧ s = access)
            (safe_ofFault.2 ⟨rfl, rfl⟩) ?_ fun _ _ _ => trivial
          rintro _ _ ⟨⟨⟩, rfl⟩
          exact Safe.bind (c.settle_orderAccess id bears) (fun _ _ _ => trivial) fun _ _ _ => trivial

theorem confirm_call_orderAccess (id : String) :
    (c.confirm id).Safe (OrderAccess.watch c) (fun _ _ => True) idle := by
  unfold Connector.confirm
  refine Safe.bind (c.sentOrder_orderAccess id) ?_ fun _ _ _ => trivial
  rintro record _ rfl
  split
  · trivial
  · refine Safe.bind (confirm_orderAccess _ id record.hash) ?_ fun _ _ _ => trivial
    intro confirmation access bears
    exact c.settle_orderAccess id bears

theorem cancel_orderAccess (id : String) :
    (c.cancel id).Safe (OrderAccess.watch c) (fun _ _ => True) idle := by
  unfold Connector.cancel
  refine Safe.bind (c.sentOrder_orderAccess id) ?_ fun _ _ _ => trivial
  rintro record _ rfl
  refine Safe.bind (access_offRegistry (c.cancelDesk.route_offRegistry record)) ?_
    fun _ _ _ => trivial
  intro outcome access same
  exact access_act (fun _ => ⟨record.hash, same⟩) fun _ => trivial

theorem adopt_orderAccess (id : String) (pair : Pair) (side : Side) (hash : Hash)
    (orderId : Option UInt64) :
    (c.adopt id pair side hash orderId).Safe (OrderAccess.watch c) (fun _ _ => True) idle := by
  unfold Connector.adopt
  refine access_after (resolve_only _ _) (fun _ => trivial) ?_
  intro base
  refine access_after (resolve_only _ _) (fun _ => trivial) ?_
  intro quote
  refine access_after (only_act.2 fun _ => rfl) (fun _ => trivial) ?_
  intro created
  refine access_act (fun _ => ?_) fun result => ?_
  · cases orderId with
    | none => exact .inl rfl
    | some number => exact .inr ⟨number, rfl⟩
  · exact Safe.bind (R := fun _ _ => True) (safe_ofExcept.2 trivial) (fun _ _ _ => trivial)
      fun _ _ _ => trivial

/-- **Every call of a desk keeps to what its access allows.** -/
theorem perform_orderAccess (op : Operation) :
    (c.perform op).Safe (OrderAccess.watch c) (fun _ _ => True) idle := by
  cases op with
  | place id order => exact Safe.bind (c.place_orderAccess id order) (fun _ _ h => h) fun _ _ h => h
  | confirm id => exact Safe.bind (c.confirm_call_orderAccess id) (fun _ _ h => h) fun _ _ h => h
  | cancel id => exact Safe.bind (c.cancel_orderAccess id) (fun _ _ h => h) fun _ _ h => h
  | adopt id pair side hash orderId =>
    exact Safe.bind (c.adopt_orderAccess id pair side hash orderId) (fun _ _ h => h) fun _ _ h => h

end Connector
end OrderDesk
