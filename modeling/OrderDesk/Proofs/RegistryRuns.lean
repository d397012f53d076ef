import OrderDesk.Order.Registry

/-!
# `OrderDesk.Proofs.RegistryRuns` — what any steps on the tracked orders keep

The steps of an order's life may come in any order and under any identifier: a receipt may be told
of an order that was never sent, twice, or after the order was dropped. Whatever comes, the fields of
every tracked record agree with each other, an order that failed stays as it failed, and every record
that was tracked is given back at most once.

## Contents
- `OrderFields`: a record as its single fields, with the steps that set them one by one;
  `OrderFields.Agree`: the fields of a tracked record agree, and every such step keeps that.
- `RegistryStep`, `Registry.step`, `Registry.run`: any steps, with their outcomes.
- `Registry.Turn`: all that a step may do to the record under its identifier; `Registry.step_turn`.
- `Registry.Lawful`: what one step does; `Registry.lawful_step`: every step does so.
- `Registry.run_balance`: how often a record is given back.
- `Registry.run_agrees`: the result over all sequences of steps.
-/

namespace OrderDesk

/-! ### The fields of a record -/

/-- What a record says of its order, one field beside the other. -/
structure OrderFields where
  state : OrderState
  reference : Option OrderRef
  hash : Hash
  failure : Option RevertReason
deriving DecidableEq

def OrderRecord.fields (r : OrderRecord) : OrderFields :=
  ⟨r.state, r.reference?, r.hash, r.failure?⟩

namespace OrderFields

/-- The fields of an order that is not sent yet. -/
def pending : OrderFields := ⟨.pendingSubmit, none, Hash.zero, none⟩

/-- The placement was sent. -/
def broadcast (f : OrderFields) (hash : Hash) : OrderFields :=
  { f with hash, reference := some (.placement hash), state := .awaitingConfirmation }

/-- The placement's receipt was seen. -/
def apply (f : OrderFields) : Resolution → OrderFields
  | .placed id => { f with reference := some (.number id), state := .resting }
  | .immediatelyFilled => { f with reference := none, state := .immediatelyFilled }
  | .unresolved => { f with reference := some (.placement f.hash), state := .awaitingConfirmation }
  | .failed reason => { f with reference := none, failure := some reason, state := .failed }

/-- **The fields agree**: the reference is a number just for a resting order, its own placement just
for one that waits, and absent for the others; a reason stands just with a failure. The order is not
cancelled. -/
structure Agree (f : OrderFields) : Prop where
  number : (∃ id, f.reference = some (.number id)) ↔ f.state = .resting
  placement : ∀ hash, f.reference = some (.placement hash) ↔
    f.state = .awaitingConfirmation ∧ hash = f.hash
  nameless : f.reference = none ↔
    f.state = .pendingSubmit ∨ f.state = .immediatelyFilled ∨ f.state = .failed
  failure : (∃ reason, f.failure = some reason) ↔ f.state = .failed
  live : f.state ≠ .cancelled

theorem agree_pending : pending.Agree := by
  constructor <;> simp [pending]

/-- An order that was not sent has no failure, and none after. -/
theorem Agree.broadcast {f : OrderFields} (agree : f.Agree) (reserved : f.state = .pendingSubmit)
    (hash : Hash) : (f.broadcast hash).Agree := by
  have harmless := agree.failure
  rw [reserved] at harmless
  constructor <;> simp [OrderFields.broadcast, eq_comm]
  simpa using harmless

/-- Each resolution of an order that may still change sets what its new state asks for. -/
theorem Agree.apply {f : OrderFields} (agree : f.Agree) (going : f.state.isTerminal = false)
    (resolution : Resolution) : (f.apply resolution).Agree := by
  have harmless : f.failure = none := by
    refine Option.eq_none_iff_forall_ne_some.2 fun reason h => ?_
    rw [agree.failure.1 ⟨reason, h⟩] at going
    cases going
  cases resolution <;> constructor <;> simp [OrderFields.apply, harmless, eq_comm]

end OrderFields

namespace OrderRecord

/-- A placement that is sent sets three fields. -/
theorem fields_broadcast {r : OrderRecord} (reserved : r.state = .pendingSubmit) (hash : Hash) :
    (r.broadcast hash).fields = r.fields.broadcast hash := by
  unfold fields reference? failure? state at *
  cases status : r.status with
  | pendingSubmit => rfl
  | _ =>
    rw [status] at reserved
    cases reserved

/-- A resolution sets the reference and the state, and a failure also its reason. -/
theorem fields_apply {r : OrderRecord} (going : r.state.isTerminal = false) (resolution : Resolution) :
    (r.apply resolution).fields = r.fields.apply resolution := by
  unfold fields reference? failure? state at *
  cases status : r.status with
  | failed reason | cancelled last =>
    rw [status] at going
    cases going
  | _ => cases resolution <;> rfl

end OrderRecord

/-! ### Steps and runs -/

/-- A step on the tracked orders. A record is tracked as a placement begins it, or as that of a
placement that was sent elsewhere. -/
inductive RegistryStep where
  | reserve (id : String) (pair : Pair) (base quote : Address) (side : Side) (created : Instant)
  | adopt (id : String) (pair : Pair) (base quote : Address) (side : Side) (created : Instant)
    (hash : Hash)
  | broadcast (id : String) (hash : Hash)
  | release (id : String)
  | resolve (id : String) (resolution : Resolution)
  | clear (id : String)

/-- What a step comes to. -/
inductive RegistryStep.Outcome where
  | tracked
  | refused (e : DeskError)
  /-- The record as the step leaves it, if there is one. -/
  | told (record : Option OrderRecord)
  | freed (was : Bool)
  /-- The step contradicts the record; nothing is changed. -/
  | broken (b : Breakdown)

/-- The identifier that a step is about. -/
def RegistryStep.id : RegistryStep → String
  | reserve id .. | adopt id .. | broadcast id _ | release id | resolve id _ | clear id => id

/-- The record that a step begins to track. -/
def RegistryStep.record? : RegistryStep → Option OrderRecord
  | reserve id pair base quote side created => some { id, pair, base, quote, side, created }
  | adopt id pair base quote side created hash =>
    some (OrderRecord.broadcast { id, pair, base, quote, side, created } hash)
  | _ => none

/-- A step sets the fields of a tracked record, one by one. -/
def RegistryStep.assign (f : OrderFields) : RegistryStep → OrderFields
  | broadcast _ hash => if f.state = .pendingSubmit then f.broadcast hash else f
  | resolve _ resolution => if f.state.isTerminal then f else f.apply resolution
  | _ => f

/-- Whatever a step sets, the fields agree after it. -/
theorem OrderFields.Agree.assign {f : OrderFields} (agree : f.Agree) (s : RegistryStep) :
    (s.assign f).Agree := by
  cases s with
  | broadcast id hash =>
    show (if _ then _ else _ : OrderFields).Agree
    split
    · next reserved => exact agree.broadcast reserved hash
    · exact agree
  | resolve id resolution =>
    show (if _ then _ else _ : OrderFields).Agree
    split
    · exact agree
    · next going => exact agree.apply (by simpa using going) resolution
  | reserve | adopt | release | clear => exact agree

namespace Registry

open RegistryStep (Outcome)

/-- Tracking a record, with the orders after it. -/
def tracking (g : Registry) (record : OrderRecord) : Outcome × Registry :=
  match g.track record with
  | .ok after => (.tracked, after)
  | .error e => (.refused e, g)

/-- The outcome of a change to one record that may be contradicted. -/
def changing (g : Registry) : Except Breakdown (Option OrderRecord × Registry) → Outcome × Registry
  | .ok (record, after) => (.told record, after)
  | .error b => (.broken b, g)

/-- One step, with the orders after it. -/
def step (g : Registry) (s : RegistryStep) : Outcome × Registry :=
  match s with
  | .reserve id pair base quote side created => g.tracking { id, pair, base, quote, side, created }
  | .adopt id pair base quote side created hash =>
    g.tracking (OrderRecord.broadcast { id, pair, base, quote, side, created } hash)
  | .broadcast id hash => g.changing (g.broadcast id hash)
  | .release id => (.freed (g.release id).1, (g.release id).2)
  | .resolve id resolution => g.changing (g.resolve id resolution)
  | .clear id => (.told (g.clear id).1, (g.clear id).2)

/-- Steps one after another, each with its outcome. -/
def run (g : Registry) : List RegistryStep → List (RegistryStep × Outcome) × Registry
  | [] => ([], g)
  | s :: rest => ((s, (g.step s).1) :: ((g.step s).2.run rest).1, ((g.step s).2.run rest).2)

/-! ### What one step does -/

/-- All that a step may do to the record under its identifier: its outcome, the record before and the
record after. -/
inductive Turn : RegistryStep → Outcome → Option OrderRecord → Option OrderRecord → Prop where
  | begun {s record} (made : s.record? = some record) : Turn s .tracked none (some record)
  | taken {s record r} (made : s.record? = some record) :
    Turn s (.refused (.duplicateOrder s.id)) (some r) (some r)
  | sent {id hash r} (reserved : r.state = .pendingSubmit) :
    Turn (.broadcast id hash) (.told (some (r.broadcast hash))) (some r) (some (r.broadcast hash))
  | sentBefore {id hash r b} (going : r.state ≠ .pendingSubmit) :
    Turn (.broadcast id hash) (.broken b) (some r) (some r)
  | freed {id r} (reserved : r.state = .pendingSubmit) :
    Turn (.release id) (.freed true) (some r) none
  | kept {id r} (going : r.state ≠ .pendingSubmit) :
    Turn (.release id) (.freed false) (some r) (some r)
  | resolved {id resolution r} (going : r.state.isTerminal = false) :
    Turn (.resolve id resolution) (.told (some (r.apply resolution))) (some r)
      (some (r.apply resolution))
  | failedBefore {id reason r known} (failed : r.status = .failed known) :
    Turn (.resolve id (.failed reason)) (.told (some r)) (some r) (some r)
  | ended {id resolution r b} (terminal : r.state.isTerminal = true) :
    Turn (.resolve id resolution) (.broken b) (some r) (some r)
  | cleared {id r} : Turn (.clear id) (.told (some r.cancelled)) (some r) none
  | absent {s out} (unmade : s.record? = none) (idle : out = .told none ∨ out = .freed false) :
    Turn s out none none

/-- Tracking begins a record or finds its identifier taken; no other record is touched. -/
theorem tracking_turn (g : Registry) {s : RegistryStep} {record : OrderRecord}
    (made : s.record? = some record) (own : record.id = s.id) :
    Turn s (g.tracking record).1 (g.get? s.id) ((g.tracking record).2.get? s.id) ∧
      ∀ other, other ≠ s.id → (g.tracking record).2.get? other = g.get? other := by
  unfold tracking
  cases h : g.track record with
  | ok after =>
    obtain ⟨free, view⟩ := get?_of_track h
    refine ⟨?_, fun other apart => ?_⟩
    · rw [← own, free, view, if_pos rfl]
      exact .begun made
    · show after.get? other = _
      rw [view, if_neg fun same => apart (same.symm.trans own)]
  | error e =>
    refine ⟨?_, fun _ _ => rfl⟩
    unfold track at h
    split at h
    · next taken =>
      cases h
      rw [contains_eq_isSome, Option.isSome_iff_exists, own] at taken
      obtain ⟨r, found⟩ := taken
      simp only [found, own]
      exact .taken made
    · cases h

/-- A record that is changed is found as the change leaves it. -/
theorem get?_modify_self {g : Registry} {id : String} {r : OrderRecord} (found : g.get? id = some r)
    {change : OrderRecord → OrderRecord} {keeps : ∀ r, (change r).id = r.id} :
    (g.modify id change keeps).get? id = some (change r) := by
  rw [get?_modify, if_pos rfl, found, Option.map_some]

/-- **A step takes one of the turns at its own identifier and touches no other record.** -/
theorem step_turn (g : Registry) (s : RegistryStep) :
    Turn s (g.step s).1 (g.get? s.id) ((g.step s).2.get? s.id) ∧
      ∀ other, other ≠ s.id → (g.step s).2.get? other = g.get? other := by
  cases s with
  | reserve id pair base quote side created => exact tracking_turn g rfl rfl
  | adopt id pair base quote side created hash => exact tracking_turn g rfl rfl
  | broadcast id hash =>
    unfold step
    dsimp only [RegistryStep.id]
    unfold broadcast
    cases found : g.get? id with
    | none => exact ⟨by simpa [changing, found] using .absent rfl (.inl rfl), fun _ _ => rfl⟩
    | some r =>
      dsimp only
      split
      · next reserved =>
        refine ⟨?_, fun other apart => ?_⟩
        · have left : (g.modify id (·.broadcast hash) fun _ => rfl).get? id = some (r.broadcast hash) :=
            get?_modify_self found
          exact (congrArg (Turn _ _ _) left).mpr (.sent reserved)
        · exact (get?_modify g id (·.broadcast hash) (fun _ => rfl) other).trans
            (if_neg (Ne.symm apart))
      · next going => exact ⟨by simpa [changing, found] using .sentBefore going, fun _ _ => rfl⟩
  | release id =>
    unfold step
    dsimp only [RegistryStep.id]
    refine ⟨?_, fun other apart => (get?_release g id other).trans (if_neg (Ne.symm apart))⟩
    unfold release
    cases found : g.get? id with
    | none => simpa [found] using .absent rfl (.inr rfl)
    | some r =>
      dsimp only
      split
      · next reserved => simpa [get?_erase] using .freed reserved
      · next going => simpa [found] using .kept going
  | resolve id resolution =>
    unfold step
    dsimp only [RegistryStep.id]
    unfold resolve
    cases found : g.get? id with
    | none => exact ⟨by simpa [changing, found] using .absent rfl (.inl rfl), fun _ _ => rfl⟩
    | some r =>
      dsimp only
      split
      · next terminal =>
        split
        · next known reason status =>
          exact ⟨by simpa [changing, found] using .failedBefore status, fun _ _ => rfl⟩
        · exact ⟨by simpa [changing, found] using .ended terminal, fun _ _ => rfl⟩
      · next going =>
        refine ⟨?_, fun other apart => ?_⟩
        · have left : (g.modify id (·.apply resolution) fun _ => rfl).get? id = some (r.apply resolution) :=
            get?_modify_self found
          exact (congrArg (Turn _ _ _) left).mpr (.resolved (by simpa using going))
        · exact (get?_modify g id (·.apply resolution) (fun _ => rfl) other).trans
            (if_neg (Ne.symm apart))
  | clear id =>
    unfold step
    dsimp only [RegistryStep.id]
    refine ⟨?_, fun other apart => (get?_clear g id other).trans (if_neg (Ne.symm apart))⟩
    unfold clear
    cases found : g.get? id with
    | none => simpa [found] using .absent rfl (.inl rfl)
    | some r => simpa [get?_erase] using .cleared

/-- **What one step does, whatever orders are tracked.** -/
structure Lawful (g : Registry) (s : RegistryStep) : Prop where
  /-- No record of another identifier is changed, begun or dropped. -/
  others : ∀ id, id ≠ s.id → (g.step s).2.get? id = g.get? id
  /-- A record is begun as the step makes it. -/
  begun : ∀ r, g.get? s.id = none → (g.step s).2.get? s.id = some r → s.record? = some r
  /-- A record that stays has the fields that the step sets, and its other fields as before. -/
  assigned : ∀ before after, g.get? s.id = some before → (g.step s).2.get? s.id = some after →
    after.fields = s.assign before.fields
  /-- Only clearing drops a record, and giving up one that was never sent. -/
  dropped : ∀ r, g.get? s.id = some r → (g.step s).2.get? s.id = none →
    s = .clear s.id ∨ s = .release s.id ∧ r.state = .pendingSubmit
  /-- A failed order stays as it failed until it is cleared. -/
  failed : ∀ r, g.get? s.id = some r → r.state = .failed → s ≠ .clear s.id →
    (g.step s).2.get? s.id = some r
  /-- Clearing gives back the record there is, and it is tracked no more. -/
  cleared : ∀ id, s = .clear id →
    (g.step s).1 = .told ((g.get? id).map (·.cancelled)) ∧ (g.step s).2.get? id = none

/-- A record that stays through its turn has the fields that the step sets. -/
theorem Turn.assigned {s : RegistryStep} {out : Outcome} {before after : OrderRecord}
    (turn : Turn s out (some before) (some after)) : after.fields = s.assign before.fields := by
  cases turn with
  | taken made => cases s <;> first | rfl | cases made
  | sent reserved =>
    exact (OrderRecord.fields_broadcast reserved _).trans (if_pos reserved).symm
  | sentBefore going => exact (if_neg going).symm
  | kept => rfl
  | resolved going =>
    refine (OrderRecord.fields_apply going _).trans (if_neg fun terminal => ?_).symm
    exact Bool.false_ne_true (going.symm.trans terminal)
  | failedBefore failed =>
    have terminal : before.fields.state.isTerminal = true := by
      simp [OrderRecord.fields, OrderRecord.state, failed, OrderStatus.state, OrderState.isTerminal]
    exact (if_pos terminal).symm
  | ended terminal => exact (if_pos terminal).symm

/-- A record is begun as the step makes it. -/
theorem Turn.begun_as {s : RegistryStep} {out : Outcome} {r : OrderRecord}
    (turn : Turn s out none (some r)) : s.record? = some r := by
  cases turn with
  | begun made => exact made

/-- Only clearing drops a record, and giving up one that was never sent. -/
theorem Turn.dropped {s : RegistryStep} {out : Outcome} {r : OrderRecord}
    (turn : Turn s out (some r) none) :
    s = .clear s.id ∨ s = .release s.id ∧ r.state = .pendingSubmit := by
  cases turn with
  | freed reserved => exact .inr ⟨rfl, reserved⟩
  | cleared => exact .inl rfl

/-- A failed record stays through every turn but clearing. -/
theorem Turn.failed {s : RegistryStep} {out : Outcome} {r : OrderRecord}
    {left : Option OrderRecord} (turn : Turn s out (some r) left) (failed : r.state = .failed)
    (other : s ≠ .clear s.id) : left = some r := by
  cases turn with
  | taken | sentBefore | kept | failedBefore | ended => rfl
  | sent reserved | freed reserved =>
    rw [failed] at reserved
    cases reserved
  | resolved going =>
    rw [failed] at going
    cases going
  | cleared => exact absurd rfl other

/-- Every step is lawful. -/
theorem lawful_step (g : Registry) (s : RegistryStep) : g.Lawful s := by
  obtain ⟨turn, others⟩ := g.step_turn s
  refine ⟨others, fun r free found => ?_, fun before after was found => ?_,
    fun r was gone => ?_, fun r was failed other => ?_, ?_⟩
  · rw [free, found] at turn
    exact turn.begun_as
  · rw [was, found] at turn
    exact turn.assigned
  · rw [was, gone] at turn
    exact turn.dropped
  · rw [was] at turn
    exact turn.failed failed other
  · rintro id rfl
    refine ⟨?_, (get?_clear g id id).trans (if_pos rfl)⟩
    show Outcome.told (g.clear id).1 = _
    unfold clear
    cases g.get? id <;> rfl

/-! ### What any steps keep -/

/-- The fields of every tracked record agree. -/
def Agrees (g : Registry) : Prop := ∀ id r, g.get? id = some r → r.fields.Agree

/-- A record is tracked with fields that agree. -/
theorem agree_made {s : RegistryStep} {r : OrderRecord} (made : s.record? = some r) :
    r.fields.Agree := by
  cases s with
  | reserve =>
    cases made
    exact OrderFields.agree_pending
  | adopt id pair base quote side created hash =>
    cases made
    exact OrderFields.agree_pending.broadcast rfl hash
  | broadcast | release | resolve | clear => cases made

theorem agrees_step {g : Registry} (agrees : g.Agrees) (s : RegistryStep) :
    (g.step s).2.Agrees := by
  have lawful := g.lawful_step s
  intro id r found
  by_cases own : id = s.id
  · subst own
    cases was : g.get? s.id with
    | none => exact agree_made (lawful.begun r was found)
    | some before =>
      rw [lawful.assigned before r was found]
      exact (agrees s.id before was).assign s
  · rw [lawful.others id own] at found
    exact agrees id r found

theorem agrees_run {g : Registry} (agrees : g.Agrees) (steps : List RegistryStep) :
    (g.run steps).2.Agrees := by
  induction steps generalizing g with
  | nil => exact agrees
  | cons s rest ih => exact ih (agrees_step agrees s)

/-- An order that failed stays as it failed until it is cleared. -/
theorem failed_run {g : Registry} {id : String} {r : OrderRecord} (found : g.get? id = some r)
    (failed : r.state = .failed) {steps : List RegistryStep}
    (uncleared : RegistryStep.clear id ∉ steps) : (g.run steps).2.get? id = some r := by
  induction steps generalizing g with
  | nil => exact found
  | cons s rest ih =>
    refine ih ?_ fun later => uncleared (List.mem_cons_of_mem s later)
    by_cases own : id = s.id
    · subst own
      refine (g.lawful_step s).failed r found failed fun clearing => uncleared ?_
      rw [← clearing]
      exact List.mem_cons_self
    · rw [(g.lawful_step s).others id own]
      exact found

/-! ### How often a record is given back -/

/-- The step tracked a record under the identifier. -/
def tracks (id : String) : RegistryStep × Outcome → Bool
  | (s, .tracked) => s.id == id
  | _ => false

/-- The step gave back the record of the identifier. -/
def givesBack (id : String) : RegistryStep × Outcome → Bool
  | (.clear own, .told (some _)) => own == id
  | _ => false

/-- The step gave up the reservation of the identifier. -/
def givesUp (id : String) : RegistryStep × Outcome → Bool
  | (.release own, .freed true) => own == id
  | _ => false

/-- A step about another identifier tracks, gives back and gives up nothing. -/
theorem idle_of_other {s : RegistryStep} {id : String} (apart : id ≠ s.id) (out : Outcome) :
    tracks id (s, out) = false ∧ givesBack id (s, out) = false ∧ givesUp id (s, out) = false := by
  refine ⟨?_, ?_, ?_⟩
  · unfold tracks
    split
    · next same =>
      cases same
      simpa using Ne.symm apart
    · rfl
  · unfold givesBack
    split
    · next same =>
      cases same
      simpa [RegistryStep.id] using Ne.symm apart
    · rfl
  · unfold givesUp
    split
    · next same =>
      cases same
      simpa [RegistryStep.id] using Ne.symm apart
    · rfl

/-- A turn accounts for the record: what was there or is tracked is given back, given up, or there
after it. -/
theorem Turn.balance {s : RegistryStep} {out : Outcome} {before after : Option OrderRecord}
    (turn : Turn s out before after) :
    (tracks s.id (s, out)).toNat + before.isSome.toNat =
      (givesBack s.id (s, out)).toNat + (givesUp s.id (s, out)).toNat + after.isSome.toNat := by
  cases turn with
  | begun made => cases s <;> cases made <;> simp [tracks, givesBack, givesUp]
  | absent unmade idle =>
    rcases idle with rfl | rfl <;> cases s <;> simp [tracks, givesBack, givesUp]
  | _ => simp [tracks, givesBack, givesUp, RegistryStep.id]

theorem step_balance (g : Registry) (s : RegistryStep) (id : String) :
    (tracks id (s, (g.step s).1)).toNat + (g.get? id).isSome.toNat =
      (givesBack id (s, (g.step s).1)).toNat + (givesUp id (s, (g.step s).1)).toNat +
        ((g.step s).2.get? id).isSome.toNat := by
  obtain ⟨turn, others⟩ := g.step_turn s
  by_cases own : id = s.id
  · subst own
    exact turn.balance
  · obtain ⟨untracked, ungiven, unfreed⟩ := idle_of_other own (g.step s).1
    rw [untracked, ungiven, unfreed, others id own]
    simp

/-- Over any steps, the records tracked under an identifier are those given back, those given up and
the one that is still there. -/
theorem run_balance (g : Registry) (steps : List RegistryStep) (id : String) :
    (g.run steps).1.countP (tracks id) + (g.get? id).isSome.toNat =
      (g.run steps).1.countP (givesBack id) + (g.run steps).1.countP (givesUp id) +
        ((g.run steps).2.get? id).isSome.toNat := by
  induction steps generalizing g with
  | nil => simp [run]
  | cons s rest ih =>
    have first := g.step_balance s id
    have later := ih (g.step s).2
    have one : ∀ b : Bool, (if b = true then 1 else 0) = b.toNat := by decide
    simp only [run, List.countP_cons, one]
    omega

/-- **The fields of every tracked record agree after any steps.** Tracking, completing, giving up,
resolving and clearing may come in any order and under any identifiers, and some may contradict the
record they are about. Every record then stands under its own identifier with fields that agree; each
next step is lawful; an order that failed stays as it failed until it is cleared; and every record
that was tracked was given back once, given up once, or is still there. -/
theorem run_agrees (steps : List RegistryStep) :
    (∀ id r, (empty.run steps).2.get? id = some r → r.id = id ∧ r.fields.Agree) ∧
    (∀ s, (empty.run steps).2.Lawful s) ∧
    (∀ id r later, (empty.run steps).2.get? id = some r → r.state = .failed →
      RegistryStep.clear id ∉ later → ((empty.run steps).2.run later).2.get? id = some r) ∧
    (∀ id, (empty.run steps).1.countP (tracks id) =
      (empty.run steps).1.countP (givesBack id) + (empty.run steps).1.countP (givesUp id) +
        ((empty.run steps).2.get? id).isSome.toNat) := by
  have none_tracked : empty.Agrees := fun id r found => nomatch found
  refine ⟨fun id r found => ⟨id_of_get? found, agrees_run none_tracked steps id r found⟩,
    fun s => lawful_step _ s, fun id r later found failed uncleared =>
      failed_run found failed uncleared, fun id => ?_⟩
  simpa [empty, get?] using empty.run_balance steps id

end Registry

end OrderDesk
