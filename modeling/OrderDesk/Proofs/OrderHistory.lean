import OrderDesk.Proofs.OrderAccess
import OrderDesk.Proofs.OrderSteps
import OrderDesk.Proofs.Scene

/-!
# `OrderDesk.Proofs.OrderHistory` — what a history says of the orders

A confirmation or a cancellation reads a record, waits, and writes back by identifier. Meanwhile the
identifier may have come to stand for another placement: the order was cancelled and the identifier
used again. From the history alone it can be told which placement an operation goes by, which record
a write came upon, and whether the identifier was tracked anew in between.

## Contents
- `access`, `Outdated`: what a history says of the placement that an operation goes by.
- `OwnWrites`, `NoContradiction`, `OwnReceipts`: what one expects of the orders; `Overtaken`: what is
  in the way.
- `Scene.OrderInvariant`: one that is not outdated finds its own placement or none.
-/

namespace OrderDesk

namespace Deed

/-- The tracked orders before the deed. -/
def found (deed : Deed) : Registry := deed.desk.book.registry

/-- The tracked orders after the deed. -/
def left (deed : Deed) : Registry :=
  match deed.event with
  | .did e _ => (e.apply deed.desk).2.book.registry
  | _ => deed.desk.book.registry

/-- A new record is tracked under the identifier. -/
def tracks (deed : Deed) (id : String) : Prop :=
  match deed.event with
  | .did (.reserve record) (.ok ()) => record.id = id
  | .did (.adopt record) (.ok ()) => record.id = id
  | _ => False

/-- The deed settles or clears the order of the identifier, and comes upon this record. -/
def WritesTo (deed : Deed) (id : String) (r : OrderRecord) : Prop :=
  (match deed.event with
    | .did (.resolve written _) _ => written = id
    | .did (.clear written) _ => written = id
    | _ => False) ∧
  deed.found.get? id = some r

/-- The record was changed or removed. -/
def Changes (deed : Deed) (id : String) (r : OrderRecord) : Prop := deed.left.get? id ≠ some r

/-- The deed was answered that records contradict each other. -/
def Contradicts (deed : Deed) : Prop := deed.event.Contradicts

end Deed

/-- What an operation has to do with an order after a history. -/
def access (history : List Deed) (me : Nat) : OrderAccess :=
  Scene.known .idle OrderAccess.after history me

/-- The operation went by the placement already when the identifier was tracked anew. -/
def Outdated (history : List Deed) (me : Nat) (id : String) (hash : Hash) : Prop :=
  ∃ earlier later, history = earlier ++ later ∧
    (access earlier me).placement? = some (id, hash) ∧ ∃ deed ∈ later, deed.tracks id

/-- The node reports one receipt for a transaction, whenever it reports one. -/
def StableReceipts (history : List Deed) : Prop :=
  ∀ first ∈ history, ∀ second ∈ history, ∀ hash receipt receipt',
    first.event = .told (.receipt hash) (.ok (some receipt)) →
      second.event = .told (.receipt hash) (.ok (some receipt')) → receipt = receipt'

/-- Whatever settles or clears an order changes or removes only a record of the placement that it
goes by. -/
def OwnWrites (history : List Deed) : Prop :=
  ∀ before deed id r, before ++ [deed] <+: history → deed.WritesTo id r → deed.Changes id r →
    ∃ hash, (access before deed.who).placement? = some (id, hash) ∧ r.Stands hash

/-- No step was answered that records contradict each other. -/
def NoContradiction (history : List Deed) : Prop := ∀ deed ∈ history, ¬ deed.Contradicts

/-- The receipt of the transaction was told. -/
def WasTold (history : List Deed) (hash : Hash) (receipt : Receipt) : Prop :=
  ∃ deed ∈ history, deed.event = .told (.receipt hash) (.ok (some receipt))

/-- The order was adopted in this place on the book. -/
def WasAdopted (history : List Deed) (id : String) (hash : Hash) (number : UInt64) : Prop :=
  ∃ deed ∈ history, ∃ record, deed.event = .did (.adopt record) (.ok ()) ∧
    record.id = id ∧ record.hash = hash ∧ record.status = .resting number

/-- The number of every resting order is in the receipt of its own placement, or it was adopted with
it. -/
def OwnReceipts (exchange : Address) (history : List Deed) (orders : Registry) : Prop :=
  ∀ id r number, orders.get? id = some r → r.status = .resting number →
    (∃ receipt, WasTold history r.hash receipt ∧ receipt.success = true ∧
      receipt.trace exchange = .placed number) ∨ WasAdopted history id r.hash number

/-- **A call is overtaken**: it settles or clears an order when the identifier, tracked anew since the
call went by its own placement, stands for another. -/
def Overtaken (history : List Deed) : Prop :=
  ∃ before deed id hash r, before ++ [deed] <+: history ∧ deed.WritesTo id r ∧
    (deed.Changes id r ∨ deed.Contradicts) ∧
    (access before deed.who).placement? = some (id, hash) ∧ Outdated before deed.who id hash ∧
    ¬ r.Stands hash

/-! ### What a longer history says -/

section Histories

variable {history : List Deed} {deed : Deed} {me : Nat} {id : String} {hash : Hash}

theorem Outdated.append (h : Outdated history me id hash) (deed : Deed) :
    Outdated (history ++ [deed]) me id hash := by
  obtain ⟨earlier, later, rfl, known, new, hnew, tracks⟩ := h
  exact ⟨earlier, later ++ [deed], List.append_assoc .., known, new, List.mem_append_left _ hnew,
    tracks⟩

/-- An operation that goes by a placement is outdated when the identifier is tracked anew. -/
theorem outdated_of_tracks (known : (access history me).placement? = some (id, hash))
    (tracks : deed.tracks id) : Outdated (history ++ [deed]) me id hash :=
  ⟨history, [deed], rfl, known, deed, List.mem_singleton_self _, tracks⟩

theorem WasTold.append {receipt : Receipt} (h : WasTold history hash receipt) (deed : Deed) :
    WasTold (history ++ [deed]) hash receipt := by
  obtain ⟨told, htold, same⟩ := h
  exact ⟨told, List.mem_append_left _ htold, same⟩

theorem WasAdopted.append {number : UInt64} (h : WasAdopted history id hash number) (deed : Deed) :
    WasAdopted (history ++ [deed]) id hash number := by
  obtain ⟨adopted, hadopted, same⟩ := h
  exact ⟨adopted, List.mem_append_left _ hadopted, same⟩

theorem StableReceipts.of_append (h : StableReceipts (history ++ [deed])) :
    StableReceipts history :=
  fun first hfirst second hsecond =>
    h first (List.mem_append_left _ hfirst) second (List.mem_append_left _ hsecond)

/-- Two receipts that were told of one transaction are the same. -/
theorem StableReceipts.eq {receipt receipt' : Receipt} (h : StableReceipts history)
    (told : WasTold history hash receipt) (told' : WasTold history hash receipt') :
    receipt = receipt' := by
  obtain ⟨first, hfirst, same⟩ := told
  obtain ⟨second, hsecond, same'⟩ := told'
  exact h first hfirst second hsecond hash receipt receipt' same same'

theorem not_overtaken_of_append (h : ¬ Overtaken (history ++ [deed])) : ¬ Overtaken history := by
  rintro ⟨before, last, id, hash, r, hprefix, rest⟩
  exact h ⟨before, last, id, hash, r, hprefix.trans (List.prefix_append _ _), rest⟩

theorem OwnWrites.append (h : OwnWrites history)
    (new : ∀ id r, deed.WritesTo id r → deed.Changes id r →
      ∃ hash, (access history deed.who).placement? = some (id, hash) ∧ r.Stands hash) :
    OwnWrites (history ++ [deed]) := by
  intro before last id r hprefix
  rcases List.prefix_concat_iff.1 hprefix with whole | within
  · obtain ⟨rfl, same⟩ := List.append_inj' whole rfl
    obtain rfl := List.singleton_inj.1 same
    exact new id r
  · exact h before last id r within

theorem NoContradiction.append (h : NoContradiction history) (new : ¬ deed.Contradicts) :
    NoContradiction (history ++ [deed]) := by
  intro last hlast
  rcases List.mem_append.1 hlast with hlast | hlast
  · exact h last hlast
  · exact List.mem_singleton.1 hlast ▸ new

end Histories

theorem Deed.left_of_reads {deed : Deed} (h : deed.event.Reads) : deed.left = deed.found := by
  obtain ⟨who, ev, d⟩ := deed
  cases ev with
  | did e x => exact e.registry_apply d h
  | _ => rfl

namespace Scene

variable {α : Type} {c : Connector}

/-- The tracked orders of the first desk. -/
def orders (s : Scene α) : Registry := (s.floor.desk 0).book.registry

/-- There is one desk, and all operations are its own. -/
structure Seated (s : Scene α) : Prop where
  desk : ∀ (me : Nat) (job : Job α), s.jobs[me]? = some job → job.desk = 0
  books : s.floor.books ≠ []

/-- The deed of a step. -/
def deedOf (s : Scene α) (me : Nat) (ev : Event) : Deed := ⟨me, ev, s.floor.desk 0⟩

theorem history_took {s : Scene α} (seated : s.Seated) {me : Nat} {job : Job α} {ev : Event}
    {progress : Progress α} {floor : Floor Unit} (here : s.jobs[me]? = some job) :
    (s.took me job ev progress floor).history = s.history ++ [s.deedOf me ev] := by
  unfold took deedOf
  rw [seated.desk me job here]

/-- The tracked orders after a step are those that its deed left. -/
theorem orders_took {s : Scene α} (seated : s.Seated) {me : Nat} {job : Job α} {ev : Event}
    {progress : Progress α} {floor : Floor Unit} (here : s.jobs[me]? = some job)
    (step : s.floor.Move me job.desk job.progress ev progress floor) :
    (s.took me job ev progress floor).orders = (s.deedOf me ev).left := by
  rw [seated.desk me job here] at step
  show (floor.desk 0).book.registry = _
  generalize job.progress = before at step
  cases step with
  | did =>
    rw [Floor.desk_putDesk _ seated.books]
    rfl
  | _ => rfl

/-- What a step did is one of the things that steps do. -/
theorem does_left {s : Scene α} (seated : s.Seated) {me : Nat} {job : Job α} {e : Effect}
    {x : e.Answer} {progress : Progress α} {floor : Floor Unit} (here : s.jobs[me]? = some job)
    (step : s.floor.Move me job.desk job.progress (.did e x) progress floor) :
    e.Does s.orders (s.deedOf me (.did e x)).left x := by
  rw [seated.desk me job here] at step
  generalize job.progress = before at step
  cases step with
  | did => exact e.does_apply _

theorem does_took {s : Scene α} (seated : s.Seated) {me : Nat} {job : Job α} {e : Effect}
    {x : e.Answer} {progress : Progress α} {floor : Floor Unit} (here : s.jobs[me]? = some job)
    (step : s.floor.Move me job.desk job.progress (.did e x) progress floor) :
    e.Does s.orders (s.took me job (.did e x) progress floor).orders x := by
  rw [orders_took seated here step]
  exact does_left seated here step

theorem Seated.took {s : Scene α} (seated : s.Seated) {me : Nat} {job : Job α} {ev : Event}
    {progress : Progress α} {floor : Floor Unit} (here : s.jobs[me]? = some job)
    (step : s.floor.Move me job.desk job.progress ev progress floor) :
    (s.took me job ev progress floor).Seated where
  desk other job' hjob := by
    rcases of_getElem?_set hjob with ⟨-, rfl⟩ | ⟨-, hjob⟩
    · exact seated.desk me job here
    · exact seated.desk other job' hjob
  books := by
    show floor.books ≠ []
    generalize job.progress = before at step
    cases step with
    | did => exact Floor.books_putDesk _ _ seated.books
    | _ => exact seated.books

/-- **What happens without a deed** tracks no order and changes none. All else is a step. -/
theorem Seated.change {ι : Type} {calls : ι → Nat × Routine α} (seats : ∀ c, (calls c).1 = 0)
    {s s' : Scene α} (seated : s.Seated) (change : Change calls s s') :
    (s'.Seated ∧ s'.history = s.history ∧
        ∀ id r, s'.orders.get? id = some r → s.orders.get? id = some r) ∨
      ∃ me job ev progress floor, s.jobs[me]? = some job ∧
        s.floor.Move me job.desk job.progress ev progress floor ∧
        s' = s.took me job ev progress floor := by
  cases change with
  | still => exact .inl ⟨seated, rfl, fun _ _ => id⟩
  | move here step => exact .inr ⟨_, _, _, _, _, here, step, rfl⟩
  | clock now => exact .inl ⟨⟨seated.desk, seated.books⟩, rfl, fun _ _ => id⟩
  | stop desk =>
    refine .inl ⟨⟨seated.desk, Floor.books_putDesk _ _ seated.books⟩, rfl, fun id r present => ?_⟩
    have same : ({ s with floor := s.floor.putDesk desk (s.floor.desk desk).stop } : Scene α).orders =
        s.orders := s.floor.registry_stop desk
    rw [same] at present
    exact present
  | @call c once =>
    refine .inl ⟨⟨fun me job here => ?_, seated.books⟩, rfl, fun _ _ => id⟩
    rcases of_getElem?_concat here with here | ⟨-, rfl⟩
    · exact seated.desk me job here
    · exact seats c
  | @finish me job a here ended =>
    refine .inl ⟨⟨fun other job' hjob => ?_, seated.books⟩, rfl, fun _ _ => id⟩
    rcases of_getElem?_set hjob with ⟨-, rfl⟩ | ⟨-, hjob⟩
    · exact seated.desk me job here
    · exact seated.desk other job' hjob
  | @giveUp me job here may =>
    have seat := seated.desk me job here
    refine .inl ⟨⟨fun other job' hjob => ?_, Floor.books_giveUp seated.books me job⟩, rfl,
      fun id r present => ?_⟩
    · rcases of_getElem?_set hjob with ⟨-, rfl⟩ | ⟨-, hjob⟩
      · exact seat
      · exact seated.desk other job' hjob
    · have freed := (Floor.registry_giveUp seated.books me seat id).symm.trans present
      split at freed
      · exact Option.eq_some_of_filter_eq_some freed
      · exact freed

theorem Seated.kept {ι : Type} {calls : ι → Nat × Routine α} (seats : ∀ c, (calls c).1 = 0)
    {s s' : Scene α} (seated : s.Seated) (change : Change calls s s') : s'.Seated := by
  rcases seated.change seats change with ⟨kept, -⟩ | ⟨me, job, ev, progress, floor, here, step, rfl⟩
  · exact kept
  · exact seated.took here step

/-- **The invariant of every run.** An operation that goes by a placement is outdated, or the
identifier still stands for that placement if it stands for any. -/
structure OrderInvariant (s : Scene α) : Prop where
  seated : s.Seated
  reserved : ∀ (me : Nat) (job : Job α), s.jobs[me]? = some job → job.progress ≠ .givenUp →
    ∀ id ∈ job.reserved, access s.history me = .reserving id
  told : ∀ me id hash receipt, access s.history me = .saw id hash receipt →
    WasTold s.history hash receipt
  stands : ∀ me id hash, (access s.history me).placement? = some (id, hash) →
    Outdated s.history me id hash ∨ ∀ r, s.orders.get? id = some r → r.Stands hash

/-- The identifiers in the hands of the floor are those of the operation's reservation. -/
theorem reservedBy_orderAccess {reserved : List String} {st : OrderAccess} {ev : Event}
    (h : ∀ id ∈ reserved, st = .reserving id) (permit : OrderAccess.may c st ev) :
    ∀ id ∈ reservedBy reserved ev, st.after ev = .reserving id := by
  intro id hid
  cases ev with
  | did e x =>
    cases e with
    | reserve record =>
      -- Nothing was reserved before.
      have none : id ∉ reserved := fun before => by
        cases (h id before).symm.trans permit.1
      cases x with
      | error e => exact absurd hid none
      | ok _ =>
        rcases List.mem_cons.1 hid with rfl | hid
        · rfl
        · exact absurd hid none
    | broadcast other hash =>
      obtain ⟨before, ne⟩ := List.mem_filter.1 hid
      cases (h id before).symm.trans permit
      simp at ne
    | release other =>
      obtain ⟨before, ne⟩ := List.mem_filter.1 hid
      cases (h id before).symm.trans permit
      simp at ne
    | order other => cases (h id hid).symm.trans permit
    | _ =>
      obtain rfl := h id hid
      rfl
  | told r x =>
    obtain rfl := h id hid
    rcases OrderAccess.after_reserving permit with same | ⟨hash, x, other⟩ | ⟨x, other⟩
    · exact same
    · cases other
    · cases other
  | _ =>
    obtain rfl := h id hid
    rfl

theorem access_took (s : Scene α) (me : Nat) (job : Job α) (ev : Event) (progress : Progress α)
    (floor : Floor Unit) (other : Nat) :
    access (s.took me job ev progress floor).history other =
      if me = other then (access s.history me).after ev else access s.history other :=
  known_took ..

/-- A placement that an identifier stands for stays the one it is, unless the identifier is tracked
anew. -/
theorem stands_took {g g' : Registry} {e : Effect} {x : e.Answer} (does : e.Does g g' x)
    {who : Nat} {d : Desk} {id : String} (anew : ¬ (Deed.mk who (.did e x) d).tracks id)
    {hash : Hash} (stands : ∀ r, g.get? id = some r → r.Stands hash) :
    ∀ r, g'.get? id = some r → r.Stands hash := by
  intro r after
  cases does.leaves after with
  | kept present => exact stands r present
  | reserved same | adopted same => exact absurd same anew
  | @completed r' _ _ present reserved => exact absurd reserved (stands r' present).2
  | @resolved r' resolution _ present =>
    refine ⟨(stands r' present).1, ?_⟩
    cases resolution <;> nofun

theorem OrderInvariant.took {s : Scene α} (h : s.OrderInvariant) {me : Nat} {job : Job α}
    {ev : Event} {progress : Progress α} {floor : Floor Unit} (here : s.jobs[me]? = some job)
    (step : s.floor.Move me job.desk job.progress ev progress floor)
    (permit : OrderAccess.may c (access s.history me) ev) :
    (s.took me job ev progress floor).OrderInvariant where
  seated := h.seated.took here step
  reserved other job' hjob present id hid := by
    rw [access_took]
    rcases of_getElem?_set hjob with ⟨rfl, rfl⟩ | ⟨ne, hjob⟩
    · rw [if_pos rfl]
      exact reservedBy_orderAccess (h.reserved other job here step.ne_givenUp) permit id hid
    · rw [if_neg (Ne.symm ne)]
      exact h.reserved other job' hjob present id hid
  told other id hash receipt saw := by
    rw [access_took] at saw
    rw [history_took h.seated here]
    split at saw
    · rcases OrderAccess.after_eq_saw saw with before | heard
      · exact (h.told me id hash receipt before).append _
      · exact ⟨s.deedOf me ev, List.mem_append_right _ (List.mem_singleton_self _), heard⟩
    · exact (h.told other id hash receipt saw).append _
  stands other id hash goesBy := by
    have leaves := orders_took h.seated here step
    rw [history_took h.seated here]
    -- One that went by the placement before is outdated now, or the placement is still there.
    have before (known : (access s.history other).placement? = some (id, hash)) :
        Outdated (s.history ++ [s.deedOf me ev]) other id hash ∨
          ∀ r, (s.took me job ev progress floor).orders.get? id = some r → r.Stands hash := by
      by_cases anew : (s.deedOf me ev).tracks id
      · exact .inl (outdated_of_tracks known anew)
      · refine (h.stands other id hash known).imp (·.append _) fun stands => ?_
        cases ev with
        | did e x => exact stands_took (does_took h.seated here step) anew stands
        | _ =>
          rw [leaves]
          exact stands
    rw [access_took] at goesBy
    split at goesBy
    · next same =>
      subst same
      rcases OrderAccess.placement?_after goesBy with known | ⟨r, rfl, sent, rfl⟩ | ⟨x, rfl⟩
      · exact before known
      · -- The record was read just now.
        obtain ⟨found, same⟩ := (does_took h.seated here step).of_read
        refine .inr fun r' present => ?_
        rw [same, ← found] at present
        cases present
        exact ⟨rfl, sent⟩
      · -- The placement was sent just now.
        exact .inr (does_took h.seated here step).of_broadcast
    · exact before goesBy

end Scene
end OrderDesk
