import OrderDesk.Order.Record

/-!
# `OrderDesk.Order.Registry` — all orders of a desk

Records by identifier, each identifier at most once. A placement reserves its identifier before
anything is sent and completes the record once it is.

## Contents
- `Registry.get?`, `contains`, `records`: the views.
- `Registry.insert`, `modify`, `erase`: the changes to one record, each with what it does to `get?`.
- `Registry.track`, `broadcast`, `release`, `resolve`, `clear`: the steps of an order's life, each with
  what it does to `get?`.
-/

namespace OrderDesk

/-- The tracked orders in the order of tracking. -/
structure Registry where
  entries : List OrderRecord
  /-- An identifier stands for one order. -/
  unique : (entries.map (·.id)).Nodup
deriving DecidableEq, Repr

namespace Registry

/-- No order is tracked. -/
def empty : Registry := ⟨[], List.nodup_nil⟩

instance : Inhabited Registry := ⟨empty⟩

/-- The record of an identifier. -/
def get? (g : Registry) (id : String) : Option OrderRecord := g.entries.find? (·.id == id)

/-- An identifier is taken, reserved ones included. -/
def contains (g : Registry) (id : String) : Bool := g.entries.any (·.id == id)

def size (g : Registry) : Nat := g.entries.length

/-- A taken identifier is one with a record. -/
theorem contains_eq_isSome (g : Registry) (id : String) : g.contains id = (g.get? id).isSome := by
  rw [Bool.eq_iff_iff]
  simp [contains, get?, List.find?_isSome]

/-- An identifier without a record is none of the tracked ones. -/
theorem not_mem_of_free {g : Registry} {id : String} (free : g.contains id = false) :
    id ∉ g.entries.map (·.id) := by
  intro h
  obtain ⟨r, hr, rfl⟩ := List.mem_map.1 h
  have taken : g.contains r.id = true := List.any_eq_true.2 ⟨r, hr, by simp⟩
  rw [free] at taken
  cases taken

/-- A record stands under its own identifier. -/
theorem id_of_get? {g : Registry} {id : String} {r : OrderRecord} (h : g.get? id = some r) :
    r.id = id := by
  simpa using List.find?_some h

/-- A tracked record is found under its identifier. -/
theorem get?_of_mem {g : Registry} {r : OrderRecord} (h : r ∈ g.entries) : g.get? r.id = some r := by
  obtain ⟨entries, unique⟩ := g
  show entries.find? (·.id == r.id) = some r
  change r ∈ entries at h
  induction entries with
  | nil => cases h
  | cons first rest ih =>
    obtain ⟨apart, unique⟩ := List.nodup_cons.1 unique
    rcases List.mem_cons.1 h with rfl | h
    · rw [List.find?_cons_of_pos (by simp)]
    · have ne : first.id ≠ r.id := fun same => apart (List.mem_map.2 ⟨r, h, same.symm⟩)
      rw [List.find?_cons_of_neg (by simpa using ne)]
      exact ih unique h

/-- Adds a record under an identifier that is free. -/
def insert (g : Registry) (record : OrderRecord) (free : g.contains record.id = false) : Registry where
  entries := g.entries ++ [record]
  unique := by
    rw [List.map_append, List.nodup_append]
    refine ⟨g.unique, by simp, fun id hid other hother => ?_⟩
    rw [List.mem_singleton.1 hother]
    rintro rfl
    exact not_mem_of_free free hid

/-- Changes the record of an identifier, which keeps its identifier. -/
def modify (g : Registry) (id : String) (change : OrderRecord → OrderRecord)
    (keeps : ∀ r, (change r).id = r.id) : Registry where
  entries := g.entries.map fun r => if r.id == id then change r else r
  unique := by
    have same : ((·.id) ∘ fun r : OrderRecord => if r.id == id then change r else r) = (·.id) := by
      funext r
      simp only [Function.comp_apply]
      split
      · exact keeps r
      · rfl
    rw [List.map_map, same]
    exact g.unique

/-- Removes the record of an identifier. -/
def erase (g : Registry) (id : String) : Registry where
  entries := g.entries.filter (·.id != id)
  unique := g.unique.sublist (List.filter_sublist.map _)

/-- Only the added identifier is found anew. -/
theorem get?_insert (g : Registry) (record : OrderRecord) (free : g.contains record.id = false)
    (id : String) :
    (g.insert record free).get? id = if record.id = id then some record else g.get? id := by
  simp only [get?, insert, List.find?_append, List.find?_singleton]
  by_cases h : record.id = id
  · subst h
    have absent : g.entries.find? (·.id == record.id) = none :=
      List.find?_eq_none.2 fun r hr hid =>
        not_mem_of_free free (List.mem_map.2 ⟨r, hr, by simpa using hid⟩)
    simp [absent]
  · simp [h]

/-- Only the changed identifier is found otherwise. -/
theorem get?_modify (g : Registry) (id : String) (change : OrderRecord → OrderRecord)
    (keeps : ∀ r, (change r).id = r.id) (other : String) :
    (g.modify id change keeps).get? other =
      if id = other then (g.get? other).map change else g.get? other := by
  simp only [get?, modify, List.find?_map]
  have sameId : ((fun r : OrderRecord => r.id == other) ∘
      fun r => if r.id == id then change r else r) = fun r => r.id == other := by
    funext r
    simp only [Function.comp_apply]
    split
    · rw [keeps]
    · rfl
  rw [sameId]
  cases h : g.entries.find? (·.id == other) with
  | none => simp
  | some r =>
    have hid : r.id = other := by simpa using List.find?_some h
    by_cases hk : id = other
    · simp [hk, hid]
    · simp [hk, hid, Ne.symm hk]

/-- An erased identifier is found no more. -/
theorem get?_erase (g : Registry) (id other : String) :
    (g.erase id).get? other = if id = other then none else g.get? other := by
  simp only [get?, erase, List.find?_filter]
  split
  · next h =>
    subst h
    simp [List.find?_eq_none]
  · next h =>
    congr 1
    funext r
    by_cases hr : r.id = other
    · simp [hr, Ne.symm h]
    · simp [hr]

/-- What was added last can be removed as if it had never been there. -/
theorem erase_insert (g : Registry) (record : OrderRecord) (free : g.contains record.id = false) :
    (g.insert record free).erase record.id = g := by
  obtain ⟨entries, unique⟩ := g
  unfold insert erase
  congr 1
  show (entries ++ [record]).filter (·.id != record.id) = entries
  have others : entries.filter (·.id != record.id) = entries := by
    refine List.filter_eq_self.2 fun r hr => ?_
    refine bne_iff_ne.2 fun same => not_mem_of_free free (List.mem_map.2 ⟨r, hr, same⟩)
  rw [List.filter_append, others, List.filter_cons_of_neg (by simp), List.filter_nil,
    List.append_nil]

/-- What was added last is changed alone. -/
theorem modify_insert (g : Registry) (record : OrderRecord) (free : g.contains record.id = false)
    (change : OrderRecord → OrderRecord) (keeps : ∀ r, (change r).id = r.id) :
    ((g.insert record free).modify record.id change keeps).entries =
      g.entries ++ [change record] := by
  show (g.entries ++ [record]).map (fun r => if r.id == record.id then change r else r) = _
  have others : g.entries.map (fun r => if r.id == record.id then change r else r) = g.entries := by
    refine (List.map_congr_left fun r hr => ?_).trans (List.map_id _)
    refine if_neg fun same => not_mem_of_free free (List.mem_map.2 ⟨r, hr, by simpa using same⟩)
  rw [List.map_append, others, List.map_cons, List.map_nil, if_pos (by simp)]

/-- Starts tracking a record whose identifier is free. -/
def track (g : Registry) (record : OrderRecord) : Except DeskError Registry :=
  if taken : g.contains record.id then .error (.duplicateOrder record.id)
  else .ok (g.insert record (by simpa using taken))

theorem track_of_free {g : Registry} {record : OrderRecord}
    (free : g.contains record.id = false) : g.track record = .ok (g.insert record free) := by
  unfold track
  rw [dif_neg (by simp [free])]

/-- Completes a reserved record with its transaction. None if there is no record; completing one a
second time is a contradiction. -/
def broadcast (g : Registry) (id : String) (hash : Hash) :
    Except Breakdown (Option OrderRecord × Registry) :=
  match g.get? id with
  | none => .ok (none, g)
  | some record =>
    if record.state = .pendingSubmit then
      .ok (some (record.broadcast hash), g.modify id (·.broadcast hash) fun _ => rfl)
    else .error (.assertion s!"order {id} was already broadcast")

/-- Gives up a reservation. Records whose placement was sent stay. -/
def release (g : Registry) (id : String) : Bool × Registry :=
  match g.get? id with
  | some record => if record.state = .pendingSubmit then (true, g.erase id) else (false, g)
  | none => (false, g)

/-- Applies what a receipt settled. A failed record may be told of a failure again, which changes
nothing; anything else said of a terminal record is a contradiction. -/
def resolve (g : Registry) (id : String) (resolution : Resolution) :
    Except Breakdown (Option OrderRecord × Registry) :=
  match g.get? id with
  | none => .ok (none, g)
  | some record =>
    if record.state.isTerminal then
      match record.status, resolution with
      | .failed _, .failed _ => .ok (some record, g)
      | _, _ => .error (.assertion s!"order {id} is {record.state.text} and cannot be resolved")
    else
      .ok (some (record.apply resolution), g.modify id (·.apply resolution) fun _ => rfl)

/-- Stops tracking an order. -/
def clear (g : Registry) (id : String) : Option OrderRecord × Registry :=
  match g.get? id with
  | some record => (some record.cancelled, g.erase id)
  | none => (none, g)

/-! ### What each step does to the view -/

/-- Tracking succeeds for a free identifier, which then has the record. -/
theorem get?_of_track {g after : Registry} {record : OrderRecord}
    (h : g.track record = .ok after) :
    g.get? record.id = none ∧
      ∀ id, after.get? id = if record.id = id then some record else g.get? id := by
  unfold track at h
  split at h
  · cases h
  · next free =>
    cases h
    refine ⟨?_, get?_insert g record _⟩
    rw [contains_eq_isSome, Bool.not_eq_true, Option.isSome_eq_false_iff, Option.isNone_iff_eq_none]
      at free
    exact free

/-- A reservation just made is given up as if it had never been made. -/
theorem release_insert (g : Registry) (record : OrderRecord) (free : g.contains record.id = false)
    (reserved : record.state = .pendingSubmit) :
    ((g.insert record free).release record.id).2 = g := by
  unfold release
  rw [get?_insert, if_pos rfl]
  dsimp only
  rw [if_pos reserved]
  exact g.erase_insert record free

/-- A reservation just made is completed in its place. -/
theorem broadcast_insert (g : Registry) (record : OrderRecord)
    (free : g.contains record.id = false) (reserved : record.state = .pendingSubmit) (hash : Hash) :
    ∃ found after, (g.insert record free).broadcast record.id hash = .ok (found, after) ∧
      after.entries = g.entries ++ [record.broadcast hash] := by
  unfold broadcast
  rw [get?_insert, if_pos rfl]
  dsimp only
  rw [if_pos reserved]
  exact ⟨_, _, rfl, g.modify_insert record free _ _⟩

/-- Completing finds no record or a reserved one, which is then complete. -/
theorem get?_of_broadcast {g after : Registry} {id : String} {hash : Hash}
    {found : Option OrderRecord} (h : g.broadcast id hash = .ok (found, after)) :
    (g.get? id = none ∧ after = g) ∨
      ∃ r, g.get? id = some r ∧ r.state = .pendingSubmit ∧
        ∀ other, after.get? other = if id = other then some (r.broadcast hash) else g.get? other := by
  unfold broadcast at h
  split at h
  · next absent =>
    cases h
    exact .inl ⟨absent, rfl⟩
  · next r present =>
    split at h
    · next reserved =>
      cases h
      refine .inr ⟨r, present, reserved, fun other => ?_⟩
      refine (get?_modify g id (·.broadcast hash) (fun _ => rfl) other).trans ?_
      split
      · next same => rw [← same, present, Option.map_some]
      · rfl
    · cases h

/-- Completing contradicts a record that is not a reservation. -/
theorem broadcast_error {g : Registry} {id : String} {hash : Hash} {b : Breakdown}
    (h : g.broadcast id hash = .error b) : ∃ r, g.get? id = some r ∧ r.state ≠ .pendingSubmit := by
  unfold broadcast at h
  split at h
  · cases h
  · next r present =>
    split at h
    · cases h
    · next sent => exact ⟨r, present, sent⟩

/-- Giving up removes a reserved record and no other. -/
theorem get?_release (g : Registry) (id other : String) :
    (g.release id).2.get? other =
      if id = other then (g.get? other).filter (·.state != .pendingSubmit) else g.get? other := by
  unfold release
  split
  · next r present =>
    split
    · next reserved =>
      rw [get?_erase]
      split
      · next same =>
        rw [← same, present, Option.filter_some, if_neg (by simp [reserved])]
      · rfl
    · next sent =>
      split
      · next same => rw [← same, present, Option.filter_some, if_pos (by simpa using sent)]
      · rfl
  · next absent =>
    split
    · next same => rw [← same, absent, Option.filter_none]
    · rfl

/-- Applying a resolution finds no record, tells a failed one of a failure, or applies to one that may
still change. -/
theorem get?_of_resolve {g after : Registry} {id : String} {resolution : Resolution}
    {found : Option OrderRecord} (h : g.resolve id resolution = .ok (found, after)) :
    after = g ∨ ∃ r, g.get? id = some r ∧ r.state.isTerminal = false ∧
      ∀ other, after.get? other =
        if id = other then some (r.apply resolution) else g.get? other := by
  unfold resolve at h
  split at h
  · cases h
    exact .inl rfl
  · next r present =>
    split at h
    · split at h
      · cases h
        exact .inl rfl
      · cases h
    · next open' =>
      cases h
      refine .inr ⟨r, present, by simpa using open', fun other => ?_⟩
      refine (get?_modify g id (·.apply resolution) (fun _ => rfl) other).trans ?_
      split
      · next same => rw [← same, present, Option.map_some]
      · rfl

/-- A resolution contradicts a terminal record, unless both are failures. -/
theorem resolve_error {g : Registry} {id : String} {resolution : Resolution} {b : Breakdown}
    (h : g.resolve id resolution = .error b) :
    ∃ r, g.get? id = some r ∧ r.state.isTerminal = true ∧
      ∀ known told, ¬ (r.status = .failed known ∧ resolution = .failed told) := by
  unfold resolve at h
  split at h
  · cases h
  · next r present =>
    split at h
    · next terminal =>
      split at h
      · cases h
      · next other =>
        refine ⟨r, present, terminal, ?_⟩
        rintro known told ⟨status, same⟩
        exact other known told status same
    · cases h

/-- Clearing removes the record. -/
theorem get?_clear (g : Registry) (id other : String) :
    (g.clear id).2.get? other = if id = other then none else g.get? other := by
  unfold clear
  split
  · rw [get?_erase]
  · next absent =>
    split
    · next same => rw [← same, absent]
    · rfl

/-- All records, oldest first; of the same age, those tracked first. -/
def records (g : Registry) : List OrderRecord :=
  g.entries.mergeSort fun a b => decide (a.created ≤ b.created)

end Registry
end OrderDesk
