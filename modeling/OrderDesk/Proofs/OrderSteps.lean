import OrderDesk.Proofs.Parts
import OrderDesk.Routine.Floor

/-!
# `OrderDesk.Proofs.OrderSteps` — what steps do to the tracked orders

Every step on the desk's state does one of a few things to the tracked orders, and its answer says
which. The floor does three more: it puts a desk back, stops it, and frees what an operation that is
given up had reserved.

## Contents
- `Effect.Does`, `Effect.does_apply`: a step's answer with the view of the orders after it.
- `Effect.Leaves`, `Effect.Does.leaves`: where the record of an identifier comes from after a step.
- `OrderRecord.Stands`: the record of a placement that was sent.
- `Floor.registry_giveUp`, `Floor.registry_stop`: the floor's own changes.
-/

namespace OrderDesk

/-- The record is of this placement, which was sent. -/
def OrderRecord.Stands (r : OrderRecord) (hash : Hash) : Prop :=
  r.hash = hash ∧ r.state ≠ .pendingSubmit

/-! ### What a step does to the tracked orders -/

/-- What a step answers and makes of the tracked orders. -/
inductive Effect.Does (g g' : Registry) : (e : Effect) → e.Answer → Prop
  | aside {e x} (off : e.concernsOrders = false) (same : g' = g) : Does g g' e x
  | read {id} (same : g' = g) : Does g g' (.order id) (g.get? id)
  | readAll {x} (same : g' = g) : Does g g' .orders x
  | reserved {record} (free : g.get? record.id = none)
    (view : ∀ id, g'.get? id = if record.id = id then some record else g.get? id) :
    Does g g' (.reserve record) (.ok ())
  | notReserved {record e} (same : g' = g) : Does g g' (.reserve record) (.error e)
  | adopted {record} (free : g.get? record.id = none)
    (view : ∀ id, g'.get? id = if record.id = id then some record else g.get? id) :
    Does g g' (.adopt record) (.ok ())
  | notAdopted {record e} (same : g' = g) : Does g g' (.adopt record) (.error e)
  | completed {id hash r} (present : g.get? id = some r) (reserved : r.state = .pendingSubmit)
    (view : ∀ x, g'.get? x = if id = x then some (r.broadcast hash) else g.get? x) {x} :
    Does g g' (.broadcast id hash) (.ok x)
  | lost {id hash x} (absent : g.get? id = none) (same : g' = g) :
    Does g g' (.broadcast id hash) (.ok x)
  | completedTwice {id hash r b} (present : g.get? id = some r) (sent : r.state ≠ .pendingSubmit)
    (same : g' = g) : Does g g' (.broadcast id hash) (.error b)
  | released {id x}
    (view : ∀ x, g'.get? x =
      if id = x then (g.get? x).filter (·.state != .pendingSubmit) else g.get? x) :
    Does g g' (.release id) x
  | resolved {id resolution r x} (present : g.get? id = some r)
    (view : ∀ x, g'.get? x = if id = x then some (r.apply resolution) else g.get? x) :
    Does g g' (.resolve id resolution) (.ok x)
  | resolvedBefore {id resolution x} (same : g' = g) : Does g g' (.resolve id resolution) (.ok x)
  | contradicted {id resolution r b} (present : g.get? id = some r)
    (terminal : r.state.isTerminal = true)
    (apart : ∀ known told, ¬ (r.status = .failed known ∧ resolution = .failed told))
    (same : g' = g) : Does g g' (.resolve id resolution) (.error b)
  | cleared {id x} (view : ∀ x, g'.get? x = if id = x then none else g.get? x) :
    Does g g' (.clear id) x

/-- A step that does not change orders leaves them as they are. -/
theorem Effect.registry_apply (e : Effect) (d : Desk) (h : e.changesOrders = false) :
    (e.apply d).2.book.registry = d.book.registry := by
  cases e with
  | allocate wallet pending => simp only [apply]; split <;> rfl
  | now | stopping | checkLimiter | recordFailure | count _ | freshPrice _ | keepPrice _
  | order _ | orders => rfl
  | _ => cases h

theorem Effect.Does.of_read {g g' : Registry} {id : String} {x : Option OrderRecord}
    (h : Effect.Does g g' (.order id) x) : x = g.get? id ∧ g' = g := by
  cases h with
  | aside off same => cases off
  | read same => exact ⟨rfl, same⟩

/-- A placement that was sent is the one that its identifier stands for, if it stands for any. -/
theorem Effect.Does.of_broadcast {g g' : Registry} {id : String} {hash : Hash}
    {x : Option OrderRecord} (h : Effect.Does g g' (.broadcast id hash) (.ok x)) :
    ∀ r, g'.get? id = some r → r.Stands hash := by
  intro r present
  cases h with
  | aside off same => cases off
  | completed _ _ view =>
    rw [view, if_pos rfl] at present
    cases present
    exact ⟨rfl, nofun⟩
  | lost absent same =>
    rw [same, absent] at present
    cases present

/-- Where the record of an identifier comes from when a step was taken: it was there, or it is the
record that the step tracks, completes or resolves. -/
inductive Effect.Leaves (g : Registry) (id : String) : OrderRecord → (e : Effect) → e.Answer → Prop
  | kept {r e x} (present : g.get? id = some r) : Leaves g id r e x
  | reserved {r} (same : r.id = id) : Leaves g id r (.reserve r) (.ok ())
  | adopted {r} (same : r.id = id) : Leaves g id r (.adopt r) (.ok ())
  | completed {r hash x} (present : g.get? id = some r) (reserved : r.state = .pendingSubmit) :
    Leaves g id (r.broadcast hash) (.broadcast id hash) (.ok x)
  | resolved {r resolution x} (present : g.get? id = some r) :
    Leaves g id (r.apply resolution) (.resolve id resolution) (.ok x)

theorem Effect.Does.leaves {g g' : Registry} {e : Effect} {x : e.Answer} (h : e.Does g g' x)
    {id : String} {r : OrderRecord} (after : g'.get? id = some r) : e.Leaves g id r x := by
  cases h with
  | aside _ same | read same | readAll same | notReserved same | notAdopted same | lost _ same
  | completedTwice _ _ same | resolvedBefore same | contradicted _ _ _ same =>
    exact .kept (same ▸ after)
  | reserved _ view | adopted _ view =>
    rw [view] at after
    split at after
    · next here =>
      cases after
      first | exact .reserved here | exact .adopted here
    · exact .kept after
  | completed present reserved view =>
    rw [view] at after
    split at after
    · next here =>
      subst here
      cases after
      exact .completed present reserved
    · exact .kept after
  | released view =>
    rw [view] at after
    split at after
    · exact .kept (Option.eq_some_of_filter_eq_some after)
    · exact .kept after
  | resolved present view =>
    rw [view] at after
    split at after
    · next here =>
      subst here
      cases after
      exact .resolved present
    · exact .kept after
  | cleared view =>
    rw [view] at after
    split at after
    · cases after
    · exact .kept after

/-- Tracking a record, for a placement or as adopted. -/
theorem Desk.track_cases (d : Desk) (record : OrderRecord) :
    ((d.track record).1 = .ok () ∧ d.book.registry.get? record.id = none ∧
      ∀ id, (d.track record).2.book.registry.get? id =
        if record.id = id then some record else d.book.registry.get? id) ∨
    ∃ e, (d.track record).1 = .error e ∧ (d.track record).2 = d := by
  unfold track
  split
  · next registry tracked =>
    obtain ⟨free, view⟩ := Registry.get?_of_track tracked
    exact .inl ⟨rfl, free, view⟩
  · next e _ => exact .inr ⟨e, rfl, rfl⟩

/-- A record is not tracked only because its identifier is taken. -/
theorem Desk.eq_of_track_error {d : Desk} {record : OrderRecord} {e : DeskError}
    (h : (d.track record).1 = .error e) : e = .duplicateOrder record.id := by
  unfold track Registry.track at h
  split at h
  · next tracked => cases h
  · next failed tracked =>
    cases h
    split at tracked
    · cases tracked
      rfl
    · cases tracked

/-- **Every step does one of these.** -/
theorem Effect.does_apply (e : Effect) (d : Desk) :
    e.Does d.book.registry (e.apply d).2.book.registry (e.apply d).1 := by
  cases e with
  | order id => exact .read rfl
  | orders => exact .readAll rfl
  | reserve record =>
    show Does _ (d.track record).2.book.registry (.reserve record) (d.track record).1
    rcases d.track_cases record with ⟨answer, free, view⟩ | ⟨e, answer, same⟩
    · rw [answer]
      exact .reserved free view
    · rw [answer]
      exact .notReserved (by rw [same])
  | adopt record =>
    show Does _ (d.track record).2.book.registry (.adopt record) (d.track record).1
    rcases d.track_cases record with ⟨answer, free, view⟩ | ⟨e, answer, same⟩
    · rw [answer]
      exact .adopted free view
    · rw [answer]
      exact .notAdopted (by rw [same])
  | broadcast id hash =>
    unfold apply
    dsimp only
    split
    · next found registry completed =>
      rcases Registry.get?_of_broadcast completed with ⟨absent, same⟩ | ⟨r, present, reserved, view⟩
      · exact .lost absent same
      · exact .completed present reserved view
    · next b twice =>
      obtain ⟨r, present, sent⟩ := Registry.broadcast_error twice
      exact .completedTwice present sent rfl
  | release id => exact .released (Registry.get?_release _ id)
  | resolve id resolution =>
    unfold apply
    dsimp only
    split
    · next found registry resolved =>
      rcases Registry.get?_of_resolve resolved with same | ⟨r, present, -, view⟩
      · exact .resolvedBefore same
      · exact .resolved present view
    · next b contradiction =>
      obtain ⟨r, present, terminal, apart⟩ := Registry.resolve_error contradiction
      exact .contradicted present terminal apart rfl
  | clear id => exact .cleared (Registry.get?_clear _ id)
  | _ => exact .aside rfl (registry_apply _ d rfl)

/-- An order that waits is resolved. -/
theorem Registry.resolve_of_open {g : Registry} {id : String} {r : OrderRecord}
    (present : g.get? id = some r) (waiting : r.state.isTerminal = false) (resolution : Resolution) :
    ∃ found after, g.resolve id resolution = .ok (found, after) ∧ ∀ other, after.get? other =
      if id = other then some (r.apply resolution) else g.get? other := by
  unfold resolve
  rw [present]
  dsimp only
  rw [if_neg (by simp [waiting])]
  refine ⟨_, _, rfl, fun other => (get?_modify g id (·.apply resolution) (fun _ => rfl) other).trans ?_⟩
  split
  · next same => rw [← same, present, Option.map_some]
  · rfl

namespace Floor

/-- A desk that is there is put back as it is told. -/
theorem desk_putDesk {σ : Type} {f : Floor σ} (d : Desk) (books : f.books ≠ []) :
    (f.putDesk 0 d).desk 0 = d := by
  obtain ⟨book, rest, hbooks⟩ := List.exists_cons_of_ne_nil books
  unfold desk putDesk
  simp [hbooks]

/-- Stopping a desk leaves its orders as they are. -/
theorem registry_stop {σ : Type} (f : Floor σ) (i : Nat) :
    ((f.putDesk i (f.desk i).stop).desk 0).book.registry = (f.desk 0).book.registry := by
  unfold desk putDesk
  simp only [List.getElem?_set]
  split
  · next same =>
    subst same
    split
    · rfl
    · next outside => rw [List.getElem?_eq_none (Nat.not_lt.1 outside)]
  · rfl

theorem books_putDesk {σ : Type} {f : Floor σ} (i : Nat) (d : Desk) (books : f.books ≠ []) :
    (f.putDesk i d).books ≠ [] := by
  simpa [putDesk, List.set_eq_nil_iff] using books

theorem books_giveUp {α σ : Type} {f : Floor σ} (books : f.books ≠ []) (me : Nat) (job : Job α) :
    (f.giveUp me job).2.books ≠ [] := by
  show (job.reserved.foldl (fun f id => f.putDesk job.desk
    ((Effect.release id).apply (f.desk job.desk)).2) f).books ≠ []
  induction job.reserved generalizing f with
  | nil => exact books
  | cons id rest ih => exact ih (books_putDesk _ _ books)

/-- What is reserved for an operation that is given up is free again. -/
theorem registry_giveUp {α σ : Type} {f : Floor σ} (books : f.books ≠ []) (me : Nat) {job : Job α}
    (seat : job.desk = 0) (id : String) :
    ((f.giveUp me job).2.desk 0).book.registry.get? id =
      if id ∈ job.reserved then
        ((f.desk 0).book.registry.get? id).filter (·.state != .pendingSubmit)
      else (f.desk 0).book.registry.get? id := by
  show ((job.reserved.foldl (fun f id => f.putDesk job.desk
    ((Effect.release id).apply (f.desk job.desk)).2) f).desk 0).book.registry.get? id = _
  rw [seat]
  induction job.reserved generalizing f with
  | nil => simp
  | cons first rest ih =>
    -- Identifiers are freed one by one, and freeing one twice is freeing it once.
    have freed : (((Effect.release first).apply (f.desk 0)).2.book.registry.get? id) =
        if first = id then ((f.desk 0).book.registry.get? id).filter (·.state != .pendingSubmit)
        else (f.desk 0).book.registry.get? id := Registry.get?_release _ first id
    rw [List.foldl_cons, ih (books_putDesk _ _ books), desk_putDesk _ books, freed]
    by_cases same : first = id
    · simp [same, Option.filter_filter]
    · simp [same, Ne.symm same]

end Floor

end OrderDesk
