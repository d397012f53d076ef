import OrderDesk.Proofs.OrderHistory

/-!
# `OrderDesk.Proofs.OwnOrders` — which orders a call writes to

Settling and clearing by identifier meets another placement in one case only: the identifier was
tracked anew since the call went by its own. While that does not happen, every reservation is still
there for the one who made it, no records contradict each other, and every resting order is one that
its own receipt tells of.

## Contents
- `Tidy`: the invariant while no call is overtaken, with a lemma for each kind of step, and
  `Tidy.move` for all.
- `Orderly.change`: every change keeps it.
- `Connector.ownOrders_iff`, and a schedule in which a confirmation is overtaken.
-/

namespace OrderDesk
namespace Scene

variable {α : Type} {c : Connector}

/-! ### Runs in which no call is overtaken -/

/-- The operation is not given up and has the identifier reserved. -/
def Reserves (s : Scene α) (me : Nat) (id : String) : Prop :=
  (∃ job, s.jobs[me]? = some job ∧ job.progress ≠ .givenUp) ∧ access s.history me = .reserving id

/-- What is known of an order's fate was told by the receipt of its own placement, or adopted. -/
def Justified (exchange : Address) (history : List Deed) (id : String) (r : OrderRecord) : Prop :=
  match r.status with
  | .resting number =>
    (∃ receipt, WasTold history r.hash receipt ∧ receipt.success = true ∧
      receipt.trace exchange = .placed number) ∨ WasAdopted history id r.hash number
  | .failed _ => ∃ receipt, WasTold history r.hash receipt ∧ receipt.success = false
  | .cancelled _ => False
  | .pendingSubmit | .awaitingConfirmation | .immediatelyFilled => True

theorem Justified.append {exchange : Address} {history : List Deed} {id : String} {r : OrderRecord}
    (h : Justified exchange history id r) (deed : Deed) :
    Justified exchange (history ++ [deed]) id r := by
  unfold Justified at h ⊢
  split at h
  · refine h.imp ?_ (·.append deed)
    rintro ⟨receipt, told, rest⟩
    exact ⟨receipt, told.append deed, rest⟩
  · obtain ⟨receipt, told, rest⟩ := h
    exact ⟨receipt, told.append deed, rest⟩
  · exact h
  · trivial
  · trivial
  · trivial

/-- What a receipt of its own placement settles about an order is justified. -/
theorem justified_of_settles {exchange : Address} {history : List Deed} {id : String}
    {r : OrderRecord} {receipt : Receipt} {resolution : Resolution}
    (told : WasTold history r.hash receipt) (settles : receipt.Settles exchange resolution) :
    Justified exchange history id (r.apply resolution) := by
  unfold Receipt.Settles at settles
  split at settles
  · next success =>
    subst settles
    cases trace : receipt.trace exchange with
    | placed number => exact .inl ⟨receipt, told, success, trace⟩
    | immediatelyFilled => trivial
    | notFound => trivial
  · next failure =>
    obtain ⟨reason, rfl⟩ := settles
    exact ⟨receipt, told, by simpa using failure⟩

/-- **The invariant while no call is overtaken.** A reservation is still there for the one who made
it, and all that the desk holds of its orders is so. -/
structure Tidy (exchange : Address) (s : Scene α) : Prop where
  pending : ∀ me id, s.Reserves me id →
    ∃ r, s.orders.get? id = some r ∧ r.state = .pendingSubmit
  apart : ∀ me other id, s.Reserves me id → s.Reserves other id → me = other
  justified : ∀ id r, s.orders.get? id = some r → Justified exchange s.history id r
  clean : NoContradiction s.history
  own : OwnWrites s.history

/-- What a step has to do to keep things tidy: leave others' reservations alone, justify what it
writes, and write to no order but its own. -/
theorem Tidy.took {exchange : Address} {s : Scene α} (h : s.Tidy exchange) (seated : s.Seated)
    {me : Nat} {job : Job α} {ev : Event} {progress : Progress α} {floor : Floor Unit}
    (here : s.jobs[me]? = some job)
    (step : s.floor.Move me job.desk job.progress ev progress floor)
    (mine : ∀ id, (access s.history me).after ev = .reserving id →
      (∃ r, (s.deedOf me ev).left.get? id = some r ∧ r.state = .pendingSubmit) ∧
        ∀ other, other ≠ me → ¬ s.Reserves other id)
    (theirs : ∀ other id, other ≠ me → s.Reserves other id →
      (s.deedOf me ev).left.get? id = s.orders.get? id)
    (justified : ∀ id r, (s.deedOf me ev).left.get? id = some r →
      s.orders.get? id = some r ∨ Justified exchange (s.history ++ [s.deedOf me ev]) id r)
    (clean : ¬ (s.deedOf me ev).Contradicts)
    (own : ∀ id r, (s.deedOf me ev).WritesTo id r → (s.deedOf me ev).Changes id r →
      ∃ hash, (access s.history me).placement? = some (id, hash) ∧ r.Stands hash) :
    (s.took me job ev progress floor).Tidy exchange := by
  have history : (s.took me job ev progress floor).history = s.history ++ [s.deedOf me ev] :=
    history_took seated here
  have orders := orders_took seated here step
  have reserves (other : Nat) (id : String)
      (hr : (s.took me job ev progress floor).Reserves other id) :
      (other = me ∧ (access s.history me).after ev = .reserving id) ∨
        (other ≠ me ∧ s.Reserves other id) := by
    obtain ⟨⟨job', hjob, present⟩, has⟩ := hr
    rw [access_took] at has
    rcases of_getElem?_set hjob with ⟨rfl, -⟩ | ⟨ne, hjob⟩
    · rw [if_pos rfl] at has
      exact .inl ⟨rfl, has⟩
    · rw [if_neg (Ne.symm ne)] at has
      exact .inr ⟨ne, ⟨job', hjob, present⟩, has⟩
  refine ⟨fun other id hr => ?_, fun one other id hr hr' => ?_, fun id r hr => ?_, ?_, ?_⟩
  · rw [orders]
    rcases reserves other id hr with ⟨-, has⟩ | ⟨ne, has⟩
    · exact (mine id has).1
    · rw [theirs other id ne has]
      exact h.pending other id has
  · rcases reserves one id hr with ⟨rfl, has⟩ | ⟨ne, has⟩
    · rcases reserves other id hr' with ⟨same, -⟩ | ⟨ne', has'⟩
      · exact same.symm
      · exact absurd has' ((mine id has).2 other ne')
    · rcases reserves other id hr' with ⟨rfl, has'⟩ | ⟨-, has'⟩
      · exact absurd has ((mine id has').2 one ne)
      · exact h.apart one other id has has'
  · rw [orders] at hr
    rw [history]
    rcases justified id r hr with before | now
    · exact (h.justified id r before).append _
    · exact now
  · rw [history]
    exact h.clean.append clean
  · rw [history]
    exact h.own.append own

/-- Nobody has an identifier reserved that stands for a placement that was sent. -/
theorem Tidy.unreserved {exchange : Address} {s : Scene α} (h : s.Tidy exchange) {id : String}
    {r : OrderRecord} (present : s.orders.get? id = some r) (sent : r.state ≠ .pendingSubmit)
    (me : Nat) : ¬ s.Reserves me id := by
  intro has
  obtain ⟨r', present', pending⟩ := h.pending me id has
  cases present.symm.trans present'
  exact sent pending

/-- Nobody has an identifier reserved that is free. -/
theorem Tidy.unreserved_of_free {exchange : Address} {s : Scene α} (h : s.Tidy exchange)
    {id : String} (free : s.orders.get? id = none) (me : Nat) : ¬ s.Reserves me id := by
  intro has
  obtain ⟨r, present, -⟩ := h.pending me id has
  cases free.symm.trans present

/-- **One that is not overtaken writes to its own order.** -/
theorem OrderInvariant.stands_of_write {s : Scene α} (h : s.OrderInvariant) {me : Nat} {ev : Event}
    {id : String} {hash : Hash} {r : OrderRecord}
    (fair : ¬ Overtaken (s.history ++ [s.deedOf me ev]))
    (goesBy : (access s.history me).placement? = some (id, hash))
    (writes : (s.deedOf me ev).WritesTo id r)
    (matters : (s.deedOf me ev).Changes id r ∨ (s.deedOf me ev).Contradicts) : r.Stands hash := by
  rcases h.stands me id hash goesBy with outdated | stands
  · refine Classical.byContradiction fun other => fair ?_
    exact ⟨s.history, s.deedOf me ev, id, hash, r, List.prefix_rfl, writes, matters, goesBy,
      outdated, other⟩
  · exact stands r writes.2

section Steps

variable {s : Scene α} {me : Nat} {job : Job α} {ev : Event} {progress : Progress α}
  {floor : Floor Unit}

/-- A step after which the orders are as before. -/
theorem Tidy.unchanged {exchange : Address} (h : s.Tidy exchange) (seated : s.Seated)
    (here : s.jobs[me]? = some job)
    (step : s.floor.Move me job.desk job.progress ev progress floor)
    (same : ∀ id, (s.deedOf me ev).left.get? id = s.orders.get? id)
    (noReserve : ∀ record, ev ≠ .did (.reserve record) (.ok ()))
    (clean : ¬ (s.deedOf me ev).Contradicts) : (s.took me job ev progress floor).Tidy exchange := by
  refine h.took seated here step (fun id has => ?_) (fun other id _ _ => ?_) (fun id r hr => ?_)
    clean fun id r writes changes => ?_
  · rcases OrderAccess.after_eq_reserving has with before | ⟨record, reserves, -⟩
    · have holds : s.Reserves me id := ⟨⟨job, here, step.ne_givenUp⟩, before⟩
      rw [same]
      refine ⟨h.pending me id holds, fun other ne holds' => ?_⟩
      exact ne (h.apart other me id holds' holds)
    · exact absurd reserves (noReserve record)
  · rw [same]
  · rw [same] at hr
    exact .inl hr
  · refine absurd ?_ changes
    rw [same]
    exact writes.2

/-- A record is tracked under an identifier that was free. -/
theorem Tidy.tracked {exchange : Address} (h : s.Tidy exchange) (seated : s.Seated)
    (here : s.jobs[me]? = some job)
    (step : s.floor.Move me job.desk job.progress ev progress floor) {record : OrderRecord}
    (free : s.orders.get? record.id = none)
    (view : ∀ id, (s.deedOf me ev).left.get? id =
      if record.id = id then some record else s.orders.get? id)
    (mine : ∀ id, (access s.history me).after ev = .reserving id →
      s.Reserves me id ∨ (id = record.id ∧ record.state = .pendingSubmit))
    (justified : Justified exchange (s.history ++ [s.deedOf me ev]) record.id record)
    (clean : ¬ (s.deedOf me ev).Contradicts)
    (noWrite : ∀ id r, ¬ (s.deedOf me ev).WritesTo id r) :
    (s.took me job ev progress floor).Tidy exchange := by
  have elsewhere (other : Nat) (id : String) (has : s.Reserves other id) : record.id ≠ id := by
    rintro rfl
    exact h.unreserved_of_free free other has
  refine h.took seated here step (fun id has => ?_) (fun other id _ has => ?_) (fun id r hr => ?_)
    clean fun id r writes _ => absurd writes (noWrite id r)
  · rcases mine id has with holds | ⟨rfl, pending⟩
    · rw [view, if_neg (elsewhere me id holds)]
      refine ⟨h.pending me id holds, fun other ne holds' => ?_⟩
      exact ne (h.apart other me id holds' holds)
    · rw [view, if_pos rfl]
      exact ⟨⟨record, rfl, pending⟩, fun other _ => h.unreserved_of_free free other⟩
  · rw [view, if_neg (elsewhere other id has)]
  · rw [view] at hr
    split at hr
    · next same =>
      subst same
      cases hr
      exact .inr justified
    · exact .inl hr

/-- The order of one identifier becomes another, or none, while nobody else has it reserved. -/
theorem Tidy.replaced {exchange : Address} (h : s.Tidy exchange) (seated : s.Seated)
    (here : s.jobs[me]? = some job)
    (step : s.floor.Move me job.desk job.progress ev progress floor) {id : String}
    {new : Option OrderRecord}
    (view : ∀ x, (s.deedOf me ev).left.get? x = if id = x then new else s.orders.get? x)
    (mine : ∀ x, (access s.history me).after ev = .reserving x → x ≠ id ∧ s.Reserves me x)
    (theirs : ∀ other, other ≠ me → ¬ s.Reserves other id)
    (justified : ∀ r, new = some r → Justified exchange (s.history ++ [s.deedOf me ev]) id r)
    (clean : ¬ (s.deedOf me ev).Contradicts)
    (own : ∀ x r, (s.deedOf me ev).WritesTo x r → (s.deedOf me ev).Changes x r →
      ∃ hash, (access s.history me).placement? = some (x, hash) ∧ r.Stands hash) :
    (s.took me job ev progress floor).Tidy exchange := by
  refine h.took seated here step (fun x has => ?_) (fun other x ne has => ?_) (fun x r hr => ?_)
    clean own
  · obtain ⟨ne, holds⟩ := mine x has
    rw [view, if_neg (Ne.symm ne)]
    refine ⟨h.pending me x holds, fun other ne' holds' => ?_⟩
    exact ne' (h.apart other me x holds' holds)
  · rw [view, if_neg]
    rintro rfl
    exact theirs other ne has
  · rw [view] at hr
    split at hr
    · next same =>
      subst same
      exact .inr (justified r hr)
    · exact .inl hr

/-- A reservation that is completed or given up is nobody else's. -/
theorem Tidy.reserved_here {exchange : Address} (h : s.Tidy exchange)
    (here : s.jobs[me]? = some job)
    (step : s.floor.Move me job.desk job.progress ev progress floor) {id : String}
    (has : access s.history me = .reserving id) :
    (∃ r, s.orders.get? id = some r ∧ r.state = .pendingSubmit) ∧
      ∀ other, other ≠ me → ¬ s.Reserves other id := by
  have holds : s.Reserves me id := ⟨⟨job, here, step.ne_givenUp⟩, has⟩
  exact ⟨h.pending me id holds, fun other ne holds' => ne (h.apart other me id holds' holds)⟩

theorem Tidy.reserve {exchange : Address} (h : s.Tidy exchange) (seated : s.Seated)
    (here : s.jobs[me]? = some job) {record : OrderRecord} {x : Except DeskError Unit}
    (step : s.floor.Move me job.desk job.progress (.did (.reserve record) x) progress floor)
    (permit : OrderAccess.may c (access s.history me) (.did (.reserve record) x)) :
    (s.took me job (.did (.reserve record) x) progress floor).Tidy exchange := by
  have does := does_left seated here step
  cases does with
  | aside off same => cases off
  | reserved free view =>
    refine h.tracked seated here step free view (fun id has => ?_) ?_ False.elim
      fun _ _ => And.left
    · cases has
      exact .inr ⟨rfl, by simp [OrderRecord.state, permit.2, OrderStatus.state]⟩
    · unfold Justified
      rw [permit.2]
      trivial
  | notReserved same => exact h.unchanged seated here step (fun _ => by rw [same]) nofun False.elim

theorem Tidy.adopt {exchange : Address} (h : s.Tidy exchange) (seated : s.Seated)
    (here : s.jobs[me]? = some job) {record : OrderRecord} {x : Except DeskError Unit}
    (step : s.floor.Move me job.desk job.progress (.did (.adopt record) x) progress floor)
    (permit : OrderAccess.may c (access s.history me) (.did (.adopt record) x)) :
    (s.took me job (.did (.adopt record) x) progress floor).Tidy exchange := by
  have does := does_left seated here step
  cases does with
  | aside off same => cases off
  | adopted free view =>
    refine h.tracked seated here step free view (fun id has => ?_) ?_ False.elim
      fun _ _ => And.left
    · exact .inl ⟨⟨job, here, step.ne_givenUp⟩, has⟩
    · unfold Justified
      rcases permit with status | ⟨number, status⟩
      · rw [status]
        trivial
      · rw [status]
        refine .inr ⟨_, List.mem_append_right _ (List.mem_singleton_self _), record, rfl, rfl, rfl,
          status⟩
  | notAdopted same => exact h.unchanged seated here step (fun _ => by rw [same]) nofun False.elim

theorem Tidy.broadcast {exchange : Address} (h : s.Tidy exchange) (seated : s.Seated)
    (here : s.jobs[me]? = some job) {id : String} {hash : Hash}
    {x : Except Breakdown (Option OrderRecord)}
    (step : s.floor.Move me job.desk job.progress (.did (.broadcast id hash) x) progress floor)
    (permit : OrderAccess.may c (access s.history me) (.did (.broadcast id hash) x)) :
    (s.took me job (.did (.broadcast id hash) x) progress floor).Tidy exchange := by
  obtain ⟨⟨r, present, pending⟩, alone⟩ := h.reserved_here here step permit
  have does := does_left seated here step
  cases does with
  | aside off same => cases off
  | completed _ _ view =>
    refine h.replaced seated here step view nofun alone ?_ False.elim
      fun _ _ writes => writes.1.elim
    rintro _ ⟨⟩
    trivial
  | lost absent same => cases absent.symm.trans present
  | completedTwice present' sent same =>
    cases present.symm.trans present'
    exact absurd pending sent

theorem Tidy.release {exchange : Address} (h : s.Tidy exchange) (seated : s.Seated)
    (here : s.jobs[me]? = some job) {id : String} {x : Bool}
    (step : s.floor.Move me job.desk job.progress (.did (.release id) x) progress floor)
    (permit : OrderAccess.may c (access s.history me) (.did (.release id) x)) :
    (s.took me job (.did (.release id) x) progress floor).Tidy exchange := by
  obtain ⟨⟨r, present, pending⟩, alone⟩ := h.reserved_here here step permit
  have does := does_left seated here step
  cases does with
  | aside off same => cases off
  | released view =>
    have gone : (s.orders.get? id).filter (·.state != .pendingSubmit) = none := by
      rw [present, Option.filter_some, if_neg (by simp [pending])]
    have erased (other : String) : (s.deedOf me (.did (.release id) x)).left.get? other =
        if id = other then none else s.orders.get? other := by
      rw [view]
      split
      · next same => rw [← same, gone]
      · rfl
    exact h.replaced seated here step erased nofun alone nofun False.elim
      fun _ _ writes => writes.1.elim

/-- Settling an order by its own receipt. -/
theorem Tidy.resolve (h : s.Tidy c.deployment.exchange) (inv : s.OrderInvariant)
    (here : s.jobs[me]? = some job) {id : String} {resolution : Resolution}
    {x : Except Breakdown (Option OrderRecord)}
    (step : s.floor.Move me job.desk job.progress (.did (.resolve id resolution) x) progress floor)
    (permit : OrderAccess.may c (access s.history me) (.did (.resolve id resolution) x))
    (fair : ¬ Overtaken (s.history ++ [s.deedOf me (.did (.resolve id resolution) x)]))
    (stable : StableReceipts s.history) :
    (s.took me job (.did (.resolve id resolution) x) progress floor).Tidy
      c.deployment.exchange := by
  obtain ⟨hash, receipt, saw, settles⟩ := permit
  have told := inv.told me id hash receipt saw
  have goesBy : (access s.history me).placement? = some (id, hash) := by rw [saw]; rfl
  have does := does_left inv.seated here step
  cases does with
  | aside off same => cases off
  | resolvedBefore same => exact h.unchanged inv.seated here step (fun _ => by rw [same]) nofun False.elim
  | @resolved _ _ r x present view =>
    by_cases changed : some (r.apply resolution) = some r
    · -- The order is as the receipt has it already.
      refine h.unchanged inv.seated here step (fun other => ?_) nofun False.elim
      rw [view]
      split
      · next same => rw [← same, present, changed]
      · rfl
    · have stands : r.Stands hash := by
        refine inv.stands_of_write fair goesBy ⟨rfl, present⟩ (.inl ?_)
        show (s.deedOf me _).left.get? id ≠ _
        rw [view, if_pos rfl]
        exact changed
      refine h.replaced inv.seated here step view (fun x has => ?_)
        (fun other _ => h.unreserved present stands.2 other) ?_ False.elim fun x r' writes _ => ?_
      · rw [saw] at has
        cases has
      · rintro _ ⟨⟩
        exact justified_of_settles (stands.1 ▸ told.append _) settles
      · obtain ⟨rfl, present'⟩ := writes
        cases present.symm.trans present'
        exact ⟨hash, goesBy, stands⟩
  | @contradicted _ _ r b present terminal apart same =>
    exfalso
    have stands : r.Stands hash := inv.stands_of_write fair goesBy ⟨rfl, present⟩ (.inr trivial)
    have known := h.justified id r present
    unfold Justified at known
    unfold OrderRecord.state at terminal
    cases status : r.status with
    | failed reason =>
      -- The order failed by its own receipt, which is the one that the operation saw.
      rw [status] at known
      obtain ⟨receipt', told', failed⟩ := known
      rw [stands.1] at told'
      obtain rfl := stable.eq told told'
      unfold Receipt.Settles at settles
      rw [if_neg (by simp [failed])] at settles
      obtain ⟨reason', rfl⟩ := settles
      exact apart reason reason' ⟨status, rfl⟩
    | cancelled last =>
      rw [status] at known
      exact known
    | _ =>
      rw [status] at terminal
      cases terminal

/-- Clearing an order that the operation goes by. -/
theorem Tidy.clear (h : s.Tidy c.deployment.exchange) (inv : s.OrderInvariant)
    (here : s.jobs[me]? = some job) {id : String} {x : Option OrderRecord}
    (step : s.floor.Move me job.desk job.progress (.did (.clear id) x) progress floor)
    (permit : OrderAccess.may c (access s.history me) (.did (.clear id) x))
    (fair : ¬ Overtaken (s.history ++ [s.deedOf me (.did (.clear id) x)])) :
    (s.took me job (.did (.clear id) x) progress floor).Tidy c.deployment.exchange := by
  obtain ⟨hash, goesBy⟩ := permit
  have does := does_left inv.seated here step
  cases does with
  | aside off same => cases off
  | cleared view =>
    have stands (r : OrderRecord) (present : s.orders.get? id = some r) : r.Stands hash := by
      refine inv.stands_of_write fair goesBy ⟨rfl, present⟩ (.inl ?_)
      show (s.deedOf me _).left.get? id ≠ _
      rw [view, if_pos rfl]
      nofun
    have alone (other : Nat) : ¬ s.Reserves other id := by
      intro has
      obtain ⟨r, present, pending⟩ := h.pending other id has
      exact (stands r present).2 pending
    have mine (x' : String) (has : (access s.history me).after (.did (.clear id) x) = .reserving x') :
        x' ≠ id ∧ s.Reserves me x' := by
      have same : (access s.history me).after (.did (.clear id) x) = access s.history me := by
        cases access s.history me <;> rfl
      rw [same] at has
      rw [has] at goesBy
      cases goesBy
    refine h.replaced inv.seated here step view mine (fun other _ => alone other) nofun False.elim
      fun x' r writes _ => ?_
    obtain ⟨rfl, present⟩ := writes
    exact ⟨hash, goesBy, stands r present⟩

/-- **Every step keeps things tidy** unless a call is overtaken by it. -/
theorem Tidy.move (h : s.Tidy c.deployment.exchange) (inv : s.OrderInvariant)
    (here : s.jobs[me]? = some job)
    (step : s.floor.Move me job.desk job.progress ev progress floor)
    (permit : OrderAccess.may c (access s.history me) ev)
    (fair : ¬ Overtaken (s.history ++ [s.deedOf me ev]))
    (stable : StableReceipts s.history) :
    (s.took me job ev progress floor).Tidy c.deployment.exchange := by
  by_cases off : ev.Reads
  · have same : (s.deedOf me ev).left = s.orders := Deed.left_of_reads off
    refine h.unchanged inv.seated here step (fun _ => by rw [same]) ?_ off.consistent
    rintro record rfl
    cases off
  · cases ev with
    | did e x =>
      cases e with
      | reserve record => exact h.reserve inv.seated here step permit
      | adopt record => exact h.adopt inv.seated here step permit
      | broadcast id hash => exact h.broadcast inv.seated here step permit
      | release id => exact h.release inv.seated here step permit
      | resolve id resolution => exact h.resolve inv here step permit fair stable
      | clear id => exact h.clear inv here step permit fair
      | _ => exact absurd rfl off
    | _ => exact absurd trivial off

end Steps

/-! ### Changes that are no steps -/

/-- Without a deed things stay tidy when no reservation comes up, those that are left are still there,
and no order does. -/
theorem Tidy.quiet {exchange : Address} {s s' : Scene α} (h : s.Tidy exchange)
    (history : s'.history = s.history)
    (reserves : ∀ me id, s'.Reserves me id → s.Reserves me id)
    (kept : ∀ me id, s'.Reserves me id → s'.orders.get? id = s.orders.get? id)
    (orders : ∀ id r, s'.orders.get? id = some r → s.orders.get? id = some r) :
    s'.Tidy exchange where
  pending me id has := by
    rw [kept me id has]
    exact h.pending me id (reserves me id has)
  apart me other id has has' := h.apart me other id (reserves me id has) (reserves other id has')
  justified id r present := by
    rw [history]
    exact h.justified id r (orders id r present)
  clean := by
    rw [history]
    exact h.clean
  own := by
    rw [history]
    exact h.own

/-- The same operations with the same orders. -/
theorem OrderInvariant.quiet {s s' : Scene α} (h : s.OrderInvariant) (seated : s'.Seated)
    (history : s'.history = s.history)
    (reserved : ∀ (me : Nat) (job : Job α), s'.jobs[me]? = some job → job.progress ≠ .givenUp →
      ∀ id ∈ job.reserved, access s.history me = .reserving id)
    (orders : ∀ id r, s'.orders.get? id = some r → s.orders.get? id = some r) :
    s'.OrderInvariant where
  seated := seated
  reserved := by
    rw [history]
    exact reserved
  told := by
    rw [history]
    exact h.told
  stands me id hash goesBy := by
    rw [history] at goesBy ⊢
    exact (h.stands me id hash goesBy).imp_right fun stands r present =>
      stands r (orders id r present)

/-- Both invariants: one of every run, and one of those in which no call is overtaken. -/
structure Orderly (c : Connector) (s : Scene α) : Prop where
  inv : s.OrderInvariant
  tidy : ¬ Overtaken s.history → StableReceipts s.history → s.Tidy c.deployment.exchange

/-- Without a deed both invariants are kept at once. -/
theorem Orderly.quiet {s s' : Scene α} (h : s.Orderly c) (seated : s'.Seated)
    (history : s'.history = s.history)
    (reserved : ∀ (me : Nat) (job : Job α), s'.jobs[me]? = some job → job.progress ≠ .givenUp →
      ∀ id ∈ job.reserved, access s.history me = .reserving id)
    (reserves : ∀ me id, s'.Reserves me id → s.Reserves me id)
    (kept : s.Tidy c.deployment.exchange → ∀ me id, s'.Reserves me id →
      s'.orders.get? id = s.orders.get? id)
    (orders : ∀ id r, s'.orders.get? id = some r → s.orders.get? id = some r) :
    s'.Orderly c where
  inv := h.inv.quiet seated history reserved orders
  tidy fair stable := by
    rw [history] at fair stable
    have tidy := h.tidy fair stable
    exact tidy.quiet history reserves (kept tidy) orders

variable {ι : Type} {calls : ι → Nat × Routine α}

theorem Orderly.giveUp {s : Scene α} (h : s.Orderly c) {me : Nat} {job : Job α}
    (here : s.jobs[me]? = some job) (may : s.mayGiveUp me job = true) (seated : Seated
      { s with floor := (s.floor.giveUp me job).2, jobs := s.jobs.set me (s.floor.giveUp me job).1 }) :
    Orderly c
      { s with floor := (s.floor.giveUp me job).2, jobs := s.jobs.set me (s.floor.giveUp me job).1 } := by
  have seat := h.inv.seated.desk me job here
  have view (id : String) := Floor.registry_giveUp h.inv.seated.books me seat id
  have working := working_of_mayGiveUp may
  have others (other : Nat) (id : String) (has : Reserves
      { s with floor := (s.floor.giveUp me job).2, jobs := s.jobs.set me (s.floor.giveUp me job).1 }
      other id) : other ≠ me ∧ s.Reserves other id := by
    obtain ⟨⟨job', hjob, present⟩, holds⟩ := has
    rcases of_getElem?_set hjob with ⟨-, rfl⟩ | ⟨ne, hjob⟩
    · exact absurd rfl present
    · exact ⟨ne, ⟨job', hjob, present⟩, holds⟩
  refine h.quiet seated rfl (fun other job' hjob present => ?_)
    (fun other id has => (others other id has).2) (fun tidy other id has => ?_) fun id r present => ?_
  · rcases of_getElem?_set hjob with ⟨-, rfl⟩ | ⟨-, hjob⟩
    · exact absurd rfl present
    · exact h.inv.reserved other job' hjob present
  · obtain ⟨ne, holds⟩ := others other id has
    refine (view id).trans (if_neg fun mine => ne ?_)
    exact tidy.apart other me id holds ⟨⟨job, here, working⟩, h.inv.reserved me job here working id mine⟩
  · have after := (view id).symm.trans present
    split at after
    · exact Option.eq_some_of_filter_eq_some after
    · exact after

/-- Nothing has happened yet. -/
theorem orderly_opening (common : Common) : (opening common [{}] : Scene α).Orderly c := by
  have idle (me : Nat) : access (opening common [{}] : Scene α).history me = .idle := rfl
  have free (id : String) : (opening common [{}] : Scene α).orders.get? id = none := rfl
  have nobody (me : Nat) (job : Job α) : (opening common [{}] : Scene α).jobs[me]? ≠ some job := by
    simp [opening]
  refine ⟨⟨⟨fun me job h => absurd h (nobody me job), by simp [opening]⟩,
    fun me job h => absurd h (nobody me job), fun me id hash receipt saw => ?_,
    fun me id hash goesBy => ?_⟩, fun _ _ => ⟨fun me id has => ?_, fun me other id has => ?_,
    fun id r present => ?_, fun deed hd => absurd hd List.not_mem_nil, fun before deed id r within => ?_⟩⟩
  · cases (idle me).symm.trans saw
  · rw [idle me] at goesBy
    cases goesBy
  · cases (idle me).symm.trans has.2
  · cases (idle me).symm.trans has.2
  · cases (free id).symm.trans present
  · have empty := List.prefix_nil.1 within
    simp at empty

/-- **Every change keeps both invariants** when all operations keep to their accesses. -/
theorem Orderly.change (seats : ∀ c, (calls c).1 = 0) {Q : α → OrderAccess → Prop} {s s' : Scene α}
    (hw : Watched OrderAccess.idle (OrderAccess.may c) OrderAccess.after Q s) (h : s.Orderly c)
    (change : Change calls s s') : s'.Orderly c := by
  have seated := h.inv.seated.kept seats change
  cases change with
  | still => exact h
  | move here step =>
    have permit := hw.permits here step
    refine ⟨h.inv.took here step permit, fun fair stable => ?_⟩
    rw [history_took h.inv.seated here] at fair stable
    have before := h.tidy (not_overtaken_of_append fair) stable.of_append
    exact before.move h.inv here step permit fair stable.of_append
  | giveUp here may => exact h.giveUp here may seated
  | clock now =>
    exact h.quiet seated rfl h.inv.reserved (fun _ _ => id) (fun _ _ _ _ => rfl) fun _ _ => id
  | stop desk =>
    have same : ({ s with floor := s.floor.putDesk desk (s.floor.desk desk).stop } : Scene α).orders =
        s.orders := s.floor.registry_stop desk
    refine h.quiet seated rfl h.inv.reserved (fun _ _ => id) (fun _ _ _ _ => by rw [same])
      fun _ _ present => ?_
    rw [same] at present
    exact present
  | @finish me job a here ended =>
    have others (other : Nat) (job' : Job α)
        (hjob : (s.jobs.set me { job with progress := .finished a })[other]? = some job') :
        ∃ before, s.jobs[other]? = some before ∧ before.reserved = job'.reserved ∧
          (job'.progress ≠ .givenUp → before.progress ≠ .givenUp) := by
      rcases of_getElem?_set hjob with ⟨rfl, rfl⟩ | ⟨-, hjob⟩
      · refine ⟨job, here, rfl, fun _ => ?_⟩
        rw [ended]
        nofun
      · exact ⟨job', hjob, rfl, id⟩
    refine h.quiet seated rfl (fun other job' hjob present => ?_) ?_ (fun _ _ _ _ => rfl)
      fun _ _ => id
    · obtain ⟨before, hbefore, reserved, working⟩ := others other job' hjob
      rw [← reserved]
      exact h.inv.reserved other before hbefore (working present)
    · rintro other id ⟨⟨job', hjob, present⟩, holds⟩
      obtain ⟨before, hbefore, -, working⟩ := others other job' hjob
      exact ⟨⟨before, hbefore, working present⟩, holds⟩
  | call new once =>
    have others (other : Nat) (job : Job α)
        (hjob : (s.jobs ++ [jobOf calls new once])[other]? = some job) :
        s.jobs[other]? = some job ∨ (job = jobOf calls new once ∧ access s.history other = .idle) := by
      rcases of_getElem?_concat hjob with before | ⟨rfl, fresh⟩
      · exact .inl before
      · exact .inr ⟨fresh, hw.known_of_le (Nat.le_refl _)⟩
    refine h.quiet seated rfl (fun other job hjob present => ?_) ?_ (fun _ _ _ _ => rfl)
      fun _ _ => id
    · rcases others other job hjob with before | ⟨rfl, -⟩
      · exact h.inv.reserved other job before present
      · nofun
    · rintro other id ⟨⟨job, hjob, present⟩, holds⟩
      rcases others other job hjob with before | ⟨-, idle⟩
      · exact ⟨⟨job, before, present⟩, holds⟩
      · cases idle.symm.trans holds

end Scene

namespace Connector

/-- **Which calls write to their own orders.** However the calls of a desk take turns, as long as the
node's receipts do not change: settling and clearing meets only the placement that a call goes by, no
records are found to contradict each other, and every resting order is as its own receipt says,
exactly when no call is overtaken by the next use of its identifier. -/
theorem ownOrders_iff (c : Connector) (common : Common) (choices : List (Choice Operation))
    (stable : StableReceipts ((Scene.opening common [{}]).play c.onFloor choices).history) :
    (OwnWrites ((Scene.opening common [{}]).play c.onFloor choices).history ∧
        NoContradiction ((Scene.opening common [{}]).play c.onFloor choices).history ∧
        OwnReceipts c.deployment.exchange
          ((Scene.opening common [{}]).play c.onFloor choices).history
          ((Scene.opening common [{}]).play c.onFloor choices).orders) ↔
      ¬ Overtaken ((Scene.opening common [{}]).play c.onFloor choices).history := by
  have orderly : ((Scene.opening common [{}]).play c.onFloor choices).Orderly c := by
    refine Scene.play_watched (I := Scene.Orderly c) c.perform_orderAccess ?_ ?_ choices
    · exact Scene.orderly_opening common
    · exact fun s s' hw h change => h.change (fun _ => rfl) hw change
  constructor
  · rintro ⟨own, clean, -⟩ ⟨before, deed, id, hash, r, within, writes, matters, goesBy, -, other⟩
    rcases matters with changes | contradicts
    · obtain ⟨hash', goesBy', stands⟩ := own before deed id r within writes changes
      cases goesBy.symm.trans goesBy'
      exact other stands
    · have done : deed ∈ before ++ [deed] := List.mem_append_right _ (List.mem_singleton_self _)
      exact clean deed (within.subset done) contradicts
  · intro fair
    have tidy := orderly.tidy fair stable
    refine ⟨tidy.own, tidy.clean, fun id r number present status => ?_⟩
    have justified := tidy.justified id r present
    unfold Scene.Justified at justified
    rw [status] at justified
    exact justified

end Connector

/-! ### An identifier used again -/

namespace Reuse

/-- A desk with two tokens, on which cancelling needs no transaction. -/
def desk : Connector :=
  { (default : Connector) with
    deployment :=
      { chainId := 1, exchange := ⟨7⟩
        tokens := [⟨"A", ⟨1⟩, 6, false⟩, ⟨"B", ⟨2⟩, 6, false⟩] }
    channels := [] }

/-- The receipt of the first placement: its order is number 5. -/
def receipt : Receipt :=
  ⟨⟨11⟩, 1, true, 0, [EngineEvent.toLog ⟨7⟩ (.placed ⟨1⟩ 5 ⟨2⟩ true 1 1 1)]⟩

/-- The node knows the first placement and no other. -/
def node : (r : Request) → r.Reply
  | .receipt hash => if hash = ⟨11⟩ then .ok (some receipt) else .ok none
  | _ => .error default

/-- Operation `me` takes so many steps. -/
def goes (me steps : Nat) : List (Choice Operation) := List.replicate steps (.go me node false)

/-- An order is adopted, and a confirmation of it waits for the receipt. -/
def asked : List (Choice Operation) :=
  [.call (.adopt "a" ⟨"A", "B"⟩ .bid ⟨11⟩ none)] ++ goes 0 2 ++ [.call (.confirm "a")] ++ goes 1 3

/-- Meanwhile the order is cancelled and the identifier used for another placement. -/
def reused : List (Choice Operation) :=
  [.call (.cancel "a")] ++ goes 2 5 ++ [.call (.adopt "a" ⟨"A", "B"⟩ .bid ⟨22⟩ none)] ++ goes 3 2

/-- The receipt comes, and the confirmation settles what it finds. -/
def settled : List (Choice Operation) := goes 1 3

def scene (choices : List (Choice Operation)) : Scene (Except Fault Achieved) :=
  (Scene.opening {} [{}]).play desk.onFloor choices

/-- No order is adopted with a number. -/
def adoptsUnnumbered (history : List Deed) : Bool :=
  history.all fun deed => match deed.event with
    | .did (.adopt record) _ => record.status == .awaitingConfirmation
    | _ => true

/-- No receipt but the one is told. -/
def tellsOne (history : List Deed) : Bool :=
  history.all fun deed => match deed.event with
    | .told (.receipt hash) (.ok (some told)) => hash == ⟨11⟩ && told == receipt
    | _ => true

theorem eq_of_tellsOne {history : List Deed} (one : tellsOne history = true) {hash : Hash}
    {told : Receipt} (h : WasTold history hash told) : hash = ⟨11⟩ ∧ told = receipt := by
  obtain ⟨deed, hdeed, same⟩ := h
  have this := List.all_eq_true.1 one deed hdeed
  rw [same] at this
  simpa using this

theorem stable_of_tellsOne {history : List Deed} (one : tellsOne history = true) :
    StableReceipts history := by
  intro first hfirst second hsecond hash told told' same same'
  rw [(eq_of_tellsOne one ⟨first, hfirst, same⟩).2, (eq_of_tellsOne one ⟨second, hsecond, same'⟩).2]

/-- Without the reuse the confirmation is not overtaken. -/
theorem ownOrders_of_asked : StableReceipts (scene (asked ++ settled)).history ∧
    (OwnWrites (scene (asked ++ settled)).history ∧
        NoContradiction (scene (asked ++ settled)).history ∧
        OwnReceipts desk.deployment.exchange (scene (asked ++ settled)).history
          (scene (asked ++ settled)).orders ↔
      ¬ Overtaken (scene (asked ++ settled)).history) := by
  have stable : StableReceipts (scene (asked ++ settled)).history :=
    stable_of_tellsOne (by decide +kernel)
  exact ⟨stable, desk.ownOrders_iff {} _ stable⟩

/-- **A call can be overtaken.** The order of the second placement comes to rest under the number that
the receipt of the first one tells. -/
theorem overtaken_by_reuse :
    StableReceipts (scene (asked ++ reused ++ settled)).history ∧
      ¬ (OwnWrites (scene (asked ++ reused ++ settled)).history ∧
        NoContradiction (scene (asked ++ reused ++ settled)).history ∧
        OwnReceipts desk.deployment.exchange (scene (asked ++ reused ++ settled)).history
          (scene (asked ++ reused ++ settled)).orders) := by
  have one : tellsOne (scene (asked ++ reused ++ settled)).history = true := by decide +kernel
  refine ⟨stable_of_tellsOne one, ?_⟩
  rintro ⟨-, -, own⟩
  have rests : ((scene (asked ++ reused ++ settled)).orders.get? "a").map
      (fun r => (r.hash, r.status)) = some (⟨22⟩, .resting 5) := by decide +kernel
  obtain ⟨r, present, same⟩ := Option.map_eq_some_iff.1 rests
  obtain ⟨hash, status⟩ := Prod.mk.inj same
  rcases own "a" r 5 present status with ⟨told, htold, -⟩ | ⟨deed, hdeed, record, adopted, -, -, known⟩
  · have first := (eq_of_tellsOne one htold).1
    rw [hash] at first
    exact absurd first (by decide)
  · -- Neither order was adopted with a number.
    have unnumbered : adoptsUnnumbered (scene (asked ++ reused ++ settled)).history = true := by
      decide +kernel
    have this := List.all_eq_true.1 unnumbered deed hdeed
    rw [adopted] at this
    have awaiting : record.status = .awaitingConfirmation := by simpa using this
    cases awaiting.symm.trans known

end Reuse
end OrderDesk
