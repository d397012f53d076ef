import OrderDesk.Proofs.Log
import OrderDesk.Proofs.OrderHistory
import OrderDesk.Proofs.PlacementPhase

/-!
# `OrderDesk.Proofs.Reservations` — whose an identifier is

Placements take turns, many of them under one identifier. Each has the phase that its log tells, and
by its phase it has an identifier or none. No step of one of them, and no drop, gives an identifier to
two, or leaves an order that is nobody's.

## Contents
- `Scene.Reserved`, `Scene.Accepted`, `Scene.Holds`: what the log of a placement says of its identifier.
- `PlacementPhase.Tells`: a log and a phase that say the same, with `PlacementPhase.Tells.next`.
- `Apart`: each identifier is that of one order; `Apart.same`, `Apart.replaced`: what keeps it so.
- `Scene.Recorded`, `Scene.Unshared`: the two halves of the invariant, kept by a step (`took`), by a
  change that is none (`quiet`), and by a drop (`Scene.Unshared.without`).
-/

namespace OrderDesk

/-! ### What a log says of an identifier -/

namespace Event

/-- The identifier that is reserved. -/
def reserves? : Event → Option String
  | did (.reserve record) (.ok ()) => some record.id
  | _ => none

/-- The identifier that is given up. -/
def releases? : Event → Option String
  | did (.release id) _ => some id
  | _ => none

/-- The hash of the transaction that the node took. -/
def accepts? : Event → Option Hash
  | told (.send tx) (.ok _) => some tx.hash
  | _ => none

/-- The identifier that is looked for, or to be reserved. -/
def wants? : Event → Option String
  | did (.order id) _ => some id
  | did (.reserve record) _ => some record.id
  | _ => none

/-- What happens in passing is about no identifier and no transaction. -/
theorem Passing.silent {ev : Event} (h : ev.Passing) :
    ev.reserves? = none ∧ ev.releases? = none ∧ ev.accepts? = none ∧ ev.wants? = none := by
  cases ev with
  | did e x => cases e <;> first | exact ⟨rfl, rfl, rfl, rfl⟩ | cases h.1
  | told r x => cases r <;> first | exact ⟨rfl, rfl, rfl, rfl⟩ | cases h.2
  | _ => exact ⟨rfl, rfl, rfl, rfl⟩

end Event

/-- The call comes upon its identifier and finds it taken. -/
def Deed.FindsTaken (deed : Deed) (id : String) : Prop :=
  deed.event.wants? = some id ∧ deed.found.contains id = true

namespace Scene

variable {α : Type}

/-- The call reserved the identifier. -/
def Reserved (s : Scene α) (me : Nat) (id : String) : Prop := ∃ ev ∈ s.log me, ev.reserves? = some id

/-- The call gave the identifier up. -/
def Released (s : Scene α) (me : Nat) (id : String) : Prop := ∃ ev ∈ s.log me, ev.releases? = some id

/-- The call was told that the node took its transaction. -/
def Accepted (s : Scene α) (me : Nat) (hash : Hash) : Prop := ∃ ev ∈ s.log me, ev.accepts? = some hash

/-- The call was dropped. -/
def Dropped (s : Scene α) (me : Nat) : Prop := ∃ job, s.jobs[me]? = some job ∧ job.progress = .givenUp

/-- **The identifier is the call's**: it reserved the identifier, did not give it up, and was not
dropped before the node took its transaction. -/
def Holds (s : Scene α) (me : Nat) (id : String) : Prop :=
  s.Reserved me id ∧ ¬ s.Released me id ∧ (s.Dropped me → ∃ hash, s.Accepted me hash)

end Scene

/-- How far a placement has come with its identifier after a history. -/
def phase (history : List Deed) (me : Nat) : PlacementPhase :=
  Scene.known .fresh PlacementPhase.after history me

/-- What the log of a placement says of its phase. -/
structure PlacementPhase.Tells (phase : PlacementPhase) (log : List Event) : Prop where
  reserves : log.filterMap Event.reserves? = phase.reserved?.toList
  releases : log.filterMap Event.releases? = phase.freed?.toList
  accepts : log.filterMap Event.accepts? = phase.accepted?.toList
  asks : phase.isEarly = true → ∀ r, .asked r ∉ log

namespace PlacementPhase

theorem tells_nil : fresh.Tells [] := ⟨rfl, rfl, rfl, fun _ _ => List.not_mem_nil⟩

/-- One event at the end of a log adds what it says itself. -/
theorem filterMap_concat {β : Type} (f : Event → Option β) (log : List Event) (ev : Event) :
    (log ++ [ev]).filterMap f = log.filterMap f ++ (f ev).toList := by
  rw [List.filterMap_append, List.filterMap_cons]
  cases f ev <;> rfl

/-- **The log goes with the phase** from event to event. -/
theorem Tells.next {phase phase' : PlacementPhase} {log : List Event} {ev : Event} (h : phase.Tells log)
    (transition : Transition phase ev phase') : phase'.Tells (log ++ [ev]) := by
  obtain ⟨reserves, releases, accepts, asks⟩ := h
  have quiet (early : phase.isEarly = true) (asksNothing : ∀ r, ev ≠ .asked r) :
      ∀ r, .asked r ∉ log ++ [ev] := by
    intro r mem
    rcases List.mem_append.1 mem with before | now
    · exact asks early r before
    · exact asksNothing r (List.mem_singleton.1 now).symm
  constructor
  case asks =>
    intro early
    cases transition with
    | passing _ first => exact quiet early (first early).2
    | looked | found | refuse => exact quiet rfl nofun
    | _ => cases early
  all_goals
    rw [filterMap_concat]
    first | rw [reserves] | rw [releases] | rw [accepts]
    cases transition with
    | passing passing _ => simp [passing.silent]
    | _ => rfl

end PlacementPhase

/-! ### One order for each identifier -/

/-- **Each identifier is that of one order**: of one that was tracked earlier and is as it was, or of
one placement, whose record is there and fits it. -/
structure Apart (earlier orders : Registry) (holds : Nat → String → Prop)
    (fits : Nat → OrderRecord → Prop) : Prop where
  alone : ∀ me other id, holds me id → holds other id → me = other
  new : ∀ me id, holds me id → earlier.get? id = none
  kept : ∀ id r, earlier.get? id = some r → orders.get? id = some r
  held : ∀ me id, holds me id → ∃ r, orders.get? id = some r ∧ fits me r
  tracked : ∀ id r, orders.get? id = some r → earlier.get? id = some r ∨ ∃ me, holds me id

namespace Apart

variable {earlier orders orders' : Registry} {holds holds' : Nat → String → Prop}
  {fits fits' : Nat → OrderRecord → Prop}

/-- The orders are as before, and so is whose they are. -/
theorem same (h : Apart earlier orders holds fits) (view : ∀ id, orders'.get? id = orders.get? id)
    (holders : ∀ me id, holds' me id ↔ holds me id)
    (fit : ∀ me r, fits me r → fits' me r) : Apart earlier orders' holds' fits' where
  alone me other id mine theirs :=
    h.alone me other id ((holders me id).1 mine) ((holders other id).1 theirs)
  new me id mine := h.new me id ((holders me id).1 mine)
  kept id r before := (view id).trans (h.kept id r before)
  held me id mine := by
    obtain ⟨r, present, fitted⟩ := h.held me id ((holders me id).1 mine)
    exact ⟨r, (view id).trans present, fit me r fitted⟩
  tracked id r present := by
    rw [view] at present
    refine (h.tracked id r present).imp_right ?_
    rintro ⟨me, mine⟩
    exact ⟨me, (holders me id).2 mine⟩

/-- A free identifier is nobody's. -/
theorem unheld (h : Apart earlier orders holds fits) {id : String} (free : orders.get? id = none)
    (me : Nat) : ¬ holds me id := by
  intro mine
  obtain ⟨r, present, -⟩ := h.held me id mine
  cases free.symm.trans present

/-- An identifier that is somebody's or free was not tracked earlier. -/
theorem untracked (h : Apart earlier orders holds fits) {me : Nat} {id : String}
    (mine : holds me id ∨ orders.get? id = none) : earlier.get? id = none := by
  rcases mine with mine | free
  · exact h.new me id mine
  · refine Option.eq_none_iff_forall_ne_some.2 fun r before => ?_
    cases free.symm.trans (h.kept id r before)

/-- Others have other identifiers. -/
theorem elsewhere (h : Apart earlier orders holds fits) {me other : Nat} {id x : String}
    (mine : holds me id ∨ orders.get? id = none) (ne : other ≠ me) (has : holds other x) :
    id ≠ x := by
  rintro rfl
  rcases mine with mine | free
  · exact ne (h.alone other me id has mine)
  · exact h.unheld free other has

/-- The order of one identifier becomes another, or none, by one whose it is or who found it free. -/
theorem replaced (h : Apart earlier orders holds fits) {me : Nat} {id : String}
    {new : Option OrderRecord}
    (view : ∀ x, orders'.get? x = if id = x then new else orders.get? x)
    (mine : holds me id ∨ orders.get? id = none)
    (theirs : ∀ other x, other ≠ me → (holds' other x ↔ holds other x))
    (theirFit : ∀ other r, other ≠ me → fits other r → fits' other r)
    (only : ∀ x, holds me x → x = id) (onlyAfter : ∀ x, holds' me x → x = id)
    (now : (holds' me id ∧ ∃ r, new = some r ∧ fits' me r) ∨ ¬ holds' me id ∧ new = none) :
    Apart earlier orders' holds' fits' := by
  have fresh := h.untracked mine
  constructor
  case alone =>
    -- Whoever is not the mover has what it had, and that is another identifier than the mover's.
    intro one other x hone hother
    by_cases first : one = me
    · by_cases second : other = me
      · rw [first, second]
      · subst first
        obtain rfl := onlyAfter x hone
        exact absurd rfl (h.elsewhere mine second ((theirs other x second).1 hother))
    · by_cases second : other = me
      · subst second
        obtain rfl := onlyAfter x hother
        exact absurd rfl (h.elsewhere mine first ((theirs one x first).1 hone))
      · exact h.alone one other x ((theirs one x first).1 hone) ((theirs other x second).1 hother)
  case new =>
    intro one x hone
    by_cases first : one = me
    · subst first
      rw [onlyAfter x hone, fresh]
    · exact h.new one x ((theirs one x first).1 hone)
  case kept =>
    intro x r before
    have ne : id ≠ x := by
      rintro rfl
      cases fresh.symm.trans before
    rw [view, if_neg ne]
    exact h.kept x r before
  case held =>
    intro one x hone
    by_cases first : one = me
    · subst first
      obtain rfl := onlyAfter x hone
      rcases now with ⟨-, r, rfl, fitted⟩ | ⟨not, -⟩
      · exact ⟨r, by rw [view, if_pos rfl], fitted⟩
      · exact absurd hone not
    · have before := (theirs one x first).1 hone
      obtain ⟨r, present, fitted⟩ := h.held one x before
      refine ⟨r, ?_, theirFit one r first fitted⟩
      rw [view, if_neg (h.elsewhere mine first before)]
      exact present
  case tracked =>
    intro x r present
    rw [view] at present
    split at present
    · next here =>
      subst here
      rcases now with ⟨has, -⟩ | ⟨-, none⟩
      · exact .inr ⟨me, has⟩
      · cases none.symm.trans present
    · next ne =>
      refine (h.tracked x r present).imp_right ?_
      rintro ⟨one, hone⟩
      by_cases first : one = me
      · subst first
        exact absurd (only x hone).symm ne
      · exact ⟨one, (theirs one x first).2 hone⟩

end Apart

/-! ### The invariant -/

namespace PlacementPhase

/-- A placement may be dropped here. It may not between the acceptance of its transaction and the
completion of its record, nor once it was refused: there it waits for nothing. -/
def mayWait : PlacementPhase → Bool
  | accepted _ _ | refused _ => false
  | fresh | reserved _ | handed _ _ | placed _ _ | freed _ => true

variable {α : Type} {Q : α → PlacementPhase → Prop}

theorem mayWait_of_suspended {phase : PlacementPhase} {progress : Progress α}
    (safe : progress.Safe PlacementPhase.watch Q phase) (suspended : progress.isSuspended = true) :
    phase.mayWait = true := by
  cases phase with
  | accepted _ _ | refused _ =>
    -- Whatever it waits for, the watch would not let it go on.
    cases progress with
    | inLine a next => exact (watch_step.1 safe).1.elim
    | asleep till next => exact (watch_step.1 (safe false)).1.elim
    | asking r next => exact (watch_step.1 (safe (.error default))).1.elim
    | _ => cases suspended
  | _ => rfl

/-- One that was refused is over, or has only its end before it. -/
theorem over_of_refused {id : String} {progress : Progress α}
    (safe : progress.Safe PlacementPhase.watch Q (refused id)) (working : progress ≠ .givenUp) :
    ∃ a, (progress = .ready (.done a) ∨ progress = .finished a) ∧ Q a (refused id) := by
  cases progress with
  | finished a => exact ⟨a, .inr rfl, safe⟩
  | givenUp => exact absurd rfl working
  | inLine _ _ | asleep _ _ | asking _ _ => cases mayWait_of_suspended safe rfl
  | ready p =>
    cases p with
    | done a => exact ⟨a, .inl rfl, safe⟩
    | act e next => exact (watch_step.1 (safe default)).1.elim
    | ask _ _ | sleep _ _ | lock _ _ | unlock _ _ => exact (watch_step.1 safe).1.elim

/-- A reservation is the placement's, and its record is not complete. -/
theorem held_of_pending {phase : PlacementPhase} {id : String} (pending : phase.pending? = some id) :
    phase.held? = some id ∧ ∀ r, phase.Fits r → r.state = .pendingSubmit := by
  cases phase with
  | reserved _ | handed _ _ | accepted _ _ => exact ⟨pending, fun _ fit => fit⟩
  | _ => cases pending

/-- Nothing reserved now was reserved before. -/
theorem Transition.isEarly {phase phase' : PlacementPhase} {ev : Event}
    (transition : Transition phase ev phase') (early : phase'.isEarly = true) :
    phase.isEarly = true := by
  cases transition with
  | passing => exact early
  | looked | found | refuse => rfl
  | _ => cases early

/-- An identifier is the placement's from before, or reserved now. -/
theorem of_held_after {phase : PlacementPhase} {ev : Event} {id : String}
    (held : (phase.after ev).held? = some id) :
    phase.held? = some id ∨ ∃ record, ev = .did (.reserve record) (.ok ()) ∧ record.id = id := by
  unfold after at held
  split at held
  · cases held
  · cases held
    exact .inr ⟨_, rfl, rfl⟩
  · cases held
  · cases held
  all_goals exact .inl held

/-- What the floor would free if the placement were dropped. -/
theorem Transition.reserved {phase phase' : PlacementPhase} {ev : Event}
    (transition : Transition phase ev phase') :
    Scene.reservedBy phase.pending?.toList ev = phase'.pending?.toList := by
  cases transition with
  | passing passing _ =>
    cases ev with
    | did e x => cases e <;> first | rfl | cases passing.1
    | _ => rfl
  | complete | release => simp [Scene.reservedBy, Floor.reservedAfter, pending?]
  | _ => rfl

end PlacementPhase

namespace Scene

variable {α : Type}

/-- Log, floor and phase of each placement go together. -/
structure Recorded (s : Scene α) : Prop where
  seated : s.Seated
  reserved : ∀ (me : Nat) (job : Job α), s.jobs[me]? = some job → job.progress ≠ .givenUp →
    job.reserved = (phase s.history me).pending?.toList
  dropped : ∀ me, s.Dropped me → (phase s.history me).mayWait = true
  tells : ∀ me, (phase s.history me).Tells (s.log me)
  found : ∀ deed ∈ s.history, ∀ id, deed.FindsTaken id → phase s.history deed.who = .refused id
  undisturbed : ∀ deed ∈ s.history, (phase s.history deed.who).isEarly = true →
    deed.left = deed.found

/-- The identifier is the placement's by its phase. One that was dropped has no reservation. -/
def Occupies (s : Scene α) (me : Nat) (id : String) : Prop :=
  (phase s.history me).held? = some id ∧ (s.Dropped me → (phase s.history me).pending? = none)

/-- Each identifier is that of one order. -/
def Unshared (earlier : Registry) (s : Scene α) : Prop :=
  Apart earlier s.orders s.Occupies fun me => (phase s.history me).Fits

theorem phase_took (s : Scene α) (me : Nat) (job : Job α) (ev : Event) (progress : Progress α)
    (floor : Floor Unit) (other : Nat) :
    phase (s.took me job ev progress floor).history other =
      if me = other then (phase s.history me).after ev else phase s.history other :=
  known_took ..

section Step

variable {s : Scene α} {me : Nat} {job : Job α} {ev : Event} {progress : Progress α}
  {floor : Floor Unit}

/-- A step drops nobody. -/
theorem dropped_took (step : s.floor.Move me job.desk job.progress ev progress floor) (other : Nat) :
    (s.took me job ev progress floor).Dropped other ↔ s.Dropped other ∧ other ≠ me := by
  constructor
  · rintro ⟨job', hjob, gone⟩
    rcases of_getElem?_set hjob with ⟨-, rfl⟩ | ⟨ne, hjob⟩
    · exact absurd gone step.working
    · exact ⟨⟨job', hjob, gone⟩, ne⟩
  · rintro ⟨⟨job', hjob, gone⟩, ne⟩
    exact ⟨job', (List.getElem?_set_ne (Ne.symm ne)).trans hjob, gone⟩

theorem not_dropped (here : s.jobs[me]? = some job)
    (step : s.floor.Move me job.desk job.progress ev progress floor) : ¬ s.Dropped me := by
  rintro ⟨job', hjob, gone⟩
  cases here.symm.trans hjob
  exact step.ne_givenUp gone

/-- One that finds its identifier taken is refused. -/
theorem refused_of_finds (seated : s.Seated) (here : s.jobs[me]? = some job)
    (step : s.floor.Move me job.desk job.progress ev progress floor) {before now : PlacementPhase}
    (transition : PlacementPhase.Transition before ev now) {id : String}
    (finds : (s.deedOf me ev).FindsTaken id) :
    now = .refused id := by
  obtain ⟨wants, taken⟩ := finds
  have present : (s.orders.get? id).isSome = true := (s.orders.contains_eq_isSome id).symm.trans taken
  cases transition with
  | passing passing _ => cases passing.silent.2.2.2.symm.trans wants
  | found | refuse =>
    cases wants
    rfl
  | looked =>
    cases wants
    rw [← (does_left seated here step).of_read.1] at present
    cases present
  | reserve _ =>
    cases wants
    cases does_left seated here step with
    | aside off same => cases off
    | reserved free view =>
      rw [free] at present
      cases present
  | _ => cases wants

/-- One that has reserved nothing yet leaves the orders as they are. -/
theorem undisturbed_of_early (seated : s.Seated) (here : s.jobs[me]? = some job)
    (step : s.floor.Move me job.desk job.progress ev progress floor) {before now : PlacementPhase}
    (transition : PlacementPhase.Transition before ev now) (early : now.isEarly = true) :
    (s.deedOf me ev).left = (s.deedOf me ev).found := by
  cases transition with
  | passing passing _ => exact Deed.left_of_reads passing.1.reads
  | looked | found => exact Deed.left_of_reads rfl
  | refuse =>
    cases does_left seated here step with
    | aside off same => cases off
    | notReserved same => exact same
  | _ => cases early

theorem Recorded.took (h : s.Recorded) (here : s.jobs[me]? = some job)
    (step : s.floor.Move me job.desk job.progress ev progress floor)
    (permit : PlacementPhase.may (phase s.history me) ev) :
    (s.took me job ev progress floor).Recorded := by
  have transition := PlacementPhase.transition permit
  have own : me = (s.deedOf me ev).who := rfl
  constructor
  case seated => exact h.seated.took here step
  case reserved =>
    intro other job' hjob working
    rw [phase_took]
    rcases of_getElem?_set hjob with ⟨rfl, rfl⟩ | ⟨ne, hjob⟩
    · rw [if_pos rfl, ← transition.reserved, ← h.reserved other job here step.ne_givenUp]
    · rw [if_neg (Ne.symm ne)]
      exact h.reserved other job' hjob working
  case dropped =>
    intro other gone
    obtain ⟨gone, ne⟩ := (dropped_took step other).1 gone
    rw [phase_took, if_neg (Ne.symm ne)]
    exact h.dropped other gone
  case tells =>
    intro other
    rw [phase_took, log_took]
    split
    · exact (h.tells me).next transition
    · exact h.tells other
  case found =>
    intro deed hd id finds
    rw [history_took h.seated here] at hd
    rw [phase_took]
    rcases List.mem_append.1 hd with before | now
    · have refused := h.found deed before id finds
      split
      · next same =>
        -- It was refused before, so it takes no step now.
        rw [same, refused] at permit
        exact permit.elim
      · exact refused
    · obtain rfl := List.mem_singleton.1 now
      rw [if_pos own]
      exact refused_of_finds h.seated here step transition finds
  case undisturbed =>
    intro deed hd early
    rw [history_took h.seated here] at hd
    rw [phase_took] at early
    rcases List.mem_append.1 hd with before | now
    · refine h.undisturbed deed before ?_
      split at early
      · next same => exact same ▸ transition.isEarly early
      · exact early
    · obtain rfl := List.mem_singleton.1 now
      rw [if_pos own] at early
      exact undisturbed_of_early h.seated here step transition early

/-- What is whose after a step has changed for the one that took it only. -/
theorem occupies_took (step : s.floor.Move me job.desk job.progress ev progress floor) {other : Nat}
    (ne : other ≠ me) (id : String) :
    (s.took me job ev progress floor).Occupies other id ↔ s.Occupies other id := by
  unfold Occupies
  rw [phase_took, if_neg (Ne.symm ne), dropped_took step other, and_iff_left ne]

theorem occupies_mover (step : s.floor.Move me job.desk job.progress ev progress floor) (id : String) :
    (s.took me job ev progress floor).Occupies me id ↔
      ((phase s.history me).after ev).held? = some id := by
  unfold Occupies
  rw [phase_took, if_pos rfl, dropped_took step me]
  exact and_iff_left fun dropped => absurd rfl dropped.2

theorem occupies_of_working (here : s.jobs[me]? = some job)
    (step : s.floor.Move me job.desk job.progress ev progress floor) (id : String) :
    s.Occupies me id ↔ (phase s.history me).held? = some id :=
  and_iff_left fun dropped => absurd dropped (not_dropped here step)

variable {earlier : Registry} {before now : PlacementPhase}

/-- A step that leaves the orders as they are, and whose identifier is whose. -/
theorem Unshared.kept (h : s.Unshared earlier) (here : s.jobs[me]? = some job)
    (step : s.floor.Move me job.desk job.progress ev progress floor)
    (was : phase s.history me = before) (is : before.after ev = now)
    (view : ∀ id, (s.took me job ev progress floor).orders.get? id = s.orders.get? id)
    (held : now.held? = before.held?) (fits : ∀ r, before.Fits r → now.Fits r) :
    (s.took me job ev progress floor).Unshared earlier := by
  refine Apart.same h view (fun other id => ?_) fun other r fit => ?_
  · by_cases same : other = me
    · subst same
      rw [occupies_mover step, occupies_of_working here step, was, is, held]
    · exact occupies_took step same id
  · show (phase _ other).Fits r
    rw [phase_took]
    split
    · next same =>
      subst same
      rw [was, is]
      exact fits r (was ▸ fit)
    · exact fit

/-- A step that makes the order of one identifier another or none: the identifier is that of the one
who takes the step, or free. -/
theorem Unshared.rewritten (h : s.Unshared earlier) (here : s.jobs[me]? = some job)
    (step : s.floor.Move me job.desk job.progress ev progress floor)
    (was : phase s.history me = before) (is : before.after ev = now) {id : String}
    {new : Option OrderRecord}
    (view : ∀ x, (s.took me job ev progress floor).orders.get? x =
      if id = x then new else s.orders.get? x)
    (mine : before.held? = some id ∨ before.held? = none ∧ s.orders.get? id = none)
    (left : (now.held? = some id ∧ ∃ r, new = some r ∧ now.Fits r) ∨ now.held? = none ∧ new = none) :
    (s.took me job ev progress floor).Unshared earlier := by
  have holding (x : String) : s.Occupies me x ↔ before.held? = some x := by
    rw [occupies_of_working here step, was]
  have holdingNow (x : String) :
      (s.took me job ev progress floor).Occupies me x ↔ now.held? = some x := by
    rw [occupies_mover step, was, is]
  refine Apart.replaced h view ?_ (fun other x ne => occupies_took step ne x)
    (fun other r ne fit => ?_) (fun x has => ?_) (fun x has => ?_) ?_
  · exact mine.imp (holding id).2 And.right
  · show (phase _ other).Fits r
    rw [phase_took, if_neg (Ne.symm ne)]
    exact fit
  · have has := (holding x).1 has
    rcases mine with mine | ⟨none, -⟩
    · exact Option.some.inj (has.symm.trans mine)
    · cases none.symm.trans has
  · have has := (holdingNow x).1 has
    rcases left with ⟨mine, -⟩ | ⟨none, -⟩
    · exact Option.some.inj (has.symm.trans mine)
    · cases none.symm.trans has
  · rw [holdingNow]
    refine left.imp (fun has => ⟨has.1, ?_⟩) fun gone => ⟨by simp [gone.1], gone.2⟩
    obtain ⟨-, r, same, fit⟩ := has
    refine ⟨r, same, ?_⟩
    show (phase _ me).Fits r
    rw [phase_took, if_pos rfl, was, is]
    exact fit

/-- The record of a placement that takes a step. -/
theorem Unshared.record (h : s.Unshared earlier) (here : s.jobs[me]? = some job)
    (step : s.floor.Move me job.desk job.progress ev progress floor)
    (was : phase s.history me = before) {id : String} (held : before.held? = some id) :
    ∃ r, s.orders.get? id = some r ∧ before.Fits r := by
  have mine : s.Occupies me id := (occupies_of_working here step id).2 (was ▸ held)
  obtain ⟨r, present, fit⟩ := h.held me id mine
  exact ⟨r, present, was ▸ fit⟩

/-- **A step keeps identifiers apart** if its phase permits it. -/
theorem Unshared.took (h : s.Unshared earlier) (seated : s.Seated) (here : s.jobs[me]? = some job)
    (step : s.floor.Move me job.desk job.progress ev progress floor)
    (permit : PlacementPhase.may (phase s.history me) ev) :
    (s.took me job ev progress floor).Unshared earlier := by
  have transition := PlacementPhase.transition permit
  have left := orders_took seated here step
  generalize was : phase s.history me = before at transition
  generalize is : before.after ev = now at transition
  cases transition with
  | passing passing _ =>
    refine h.kept here step was is (fun id => ?_) rfl fun r fit => fit
    rw [left, Deed.left_of_reads passing.1.reads]
    rfl
  | looked | found =>
    have same := (does_took seated here step).of_read.2
    exact h.kept here step was is (fun id => by rw [same]) rfl fun r fit => fit
  | hand | accept | reject =>
    exact h.kept here step was is (fun id => by rw [left]; rfl) rfl fun r fit => fit
  | reserve pending =>
    cases does_took seated here step with
    | aside off same => cases off
    | reserved free view =>
      refine h.rewritten here step was is view (.inr ⟨rfl, free⟩) (.inl ⟨rfl, _, rfl, ?_⟩)
      show OrderRecord.state _ = _
      rw [OrderRecord.state, pending]
      rfl
  | refuse =>
    cases does_took seated here step with
    | aside off same => cases off
    | notReserved same =>
      exact h.kept here step was is (fun id => by rw [same]) rfl fun r fit => fit
  | complete =>
    -- The reservation is still there, so the record is neither lost nor completed before.
    obtain ⟨r, present, pending⟩ := h.record here step was rfl
    cases does_took seated here step with
    | aside off same => cases off
    | completed _ _ view =>
      exact h.rewritten here step was is view (.inl rfl) (.inl ⟨rfl, _, rfl, rfl, nofun⟩)
    | lost absent _ => cases absent.symm.trans present
    | completedTwice present' sent _ =>
      cases present.symm.trans present'
      exact absurd pending sent
  | @release id answer =>
    obtain ⟨r, present, pending⟩ := h.record here step was rfl
    cases does_took seated here step with
    | aside off same => cases off
    | released view =>
      have reserved : r.state = .pendingSubmit := pending
      have freed (x : String) :
          (s.took me job (.did (.release id) answer) progress floor).orders.get? x =
            if id = x then none else s.orders.get? x := by
        rw [view]
        split
        · next same => rw [← same, present, Option.filter_some, if_neg (by simp [reserved])]
        · rfl
      exact h.rewritten here step was is freed (.inl rfl) (.inr ⟨rfl, rfl⟩)
  | @settle _ _ resolution _ =>
    obtain ⟨r, present, stands⟩ := h.record here step was rfl
    cases does_took seated here step with
    | aside off same => cases off
    | resolved present' view =>
      cases present.symm.trans present'
      refine h.rewritten here step was is view (.inl rfl) (.inl ⟨rfl, _, rfl, stands.1, ?_⟩)
      cases resolution <;> nofun
    | resolvedBefore same =>
      exact h.kept here step was is (fun id => by rw [same]) rfl fun r fit => fit
    | contradicted _ _ _ same =>
      exact h.kept here step was is (fun id => by rw [same]) rfl fun r fit => fit

end Step

/-! ### Changes that are no steps -/

/-- Nothing is recorded anew without a deed. -/
theorem Recorded.quiet {s s' : Scene α} (h : s.Recorded) (seated : s'.Seated)
    (history : s'.history = s.history)
    (reserved : ∀ (me : Nat) (job : Job α), s'.jobs[me]? = some job → job.progress ≠ .givenUp →
      job.reserved = (phase s.history me).pending?.toList)
    (dropped : ∀ me, s'.Dropped me → (phase s.history me).mayWait = true) : s'.Recorded := by
  refine ⟨seated, ?_, ?_, fun me => ?_, ?_, ?_⟩
  · rw [history]
    exact reserved
  · rw [history]
    exact dropped
  · have log : s'.log me = s.log me := by
      unfold log
      rw [history]
    rw [history, log]
    exact h.tells me
  · rw [history]
    exact h.found
  · rw [history]
    exact h.undisturbed

/-- Identifiers stay apart when nobody is dropped and no order changes. -/
theorem Unshared.quiet {earlier : Registry} {s s' : Scene α} (h : s.Unshared earlier)
    (history : s'.history = s.history) (orders : ∀ id, s'.orders.get? id = s.orders.get? id)
    (dropped : ∀ me, s'.Dropped me ↔ s.Dropped me) : s'.Unshared earlier := by
  refine Apart.same h orders (fun me id => ?_) fun me r fit => ?_
  · unfold Occupies
    rw [history, dropped]
  · show (phase s'.history me).Fits r
    rw [history]
    exact fit

section Dropping

variable {s : Scene α} {me : Nat} {job : Job α}

/-- The scene without an operation that is dropped. -/
def without (s : Scene α) (me : Nat) (job : Job α) : Scene α :=
  { s with floor := (s.floor.giveUp me job).2, jobs := s.jobs.set me (s.floor.giveUp me job).1 }

theorem dropped_without (here : s.jobs[me]? = some job) (other : Nat) :
    (s.without me job).Dropped other ↔ other = me ∨ s.Dropped other := by
  constructor
  · rintro ⟨job', hjob, gone⟩
    rcases of_getElem?_set hjob with ⟨same, -⟩ | ⟨-, hjob⟩
    · exact .inl same
    · exact .inr ⟨job', hjob, gone⟩
  · intro h
    by_cases same : other = me
    · subst same
      obtain ⟨inside, -⟩ := List.getElem?_eq_some_iff.1 here
      exact ⟨_, List.getElem?_set_self inside, rfl⟩
    · obtain ⟨job', hjob, gone⟩ := h.resolve_left same
      exact ⟨job', (List.getElem?_set_ne (Ne.symm same)).trans hjob, gone⟩

theorem occupies_without (here : s.jobs[me]? = some job) {other : Nat} (ne : other ≠ me)
    (id : String) : (s.without me job).Occupies other id ↔ s.Occupies other id := by
  unfold Occupies
  rw [dropped_without here, or_iff_right ne]
  rfl

/-- **Dropping a placement** frees the identifier that it has reserved. -/
theorem Unshared.without {earlier : Registry} (h : s.Unshared earlier) (recorded : s.Recorded)
    (here : s.jobs[me]? = some job) (working : job.progress ≠ .givenUp) :
    (s.without me job).Unshared earlier := by
  have dropped : (s.without me job).Dropped me := (dropped_without here me).2 (.inl rfl)
  have reserved := recorded.reserved me job here working
  have view (id : String) : (s.without me job).orders.get? id =
      if id ∈ job.reserved then (s.orders.get? id).filter (·.state != .pendingSubmit)
      else s.orders.get? id :=
    Floor.registry_giveUp recorded.seated.books me (recorded.seated.desk me job here) id
  cases pending : (phase s.history me).pending? with
  | none =>
    -- Nothing is reserved: the placement keeps its record, if it has one.
    rw [pending, Option.toList_none] at reserved
    refine Apart.same h (fun id => ?_) (fun other id => ?_) fun _ _ fit => fit
    · rw [view, reserved, if_neg List.not_mem_nil]
    · by_cases same : other = me
      · subst same
        exact and_congr_right fun _ => ⟨fun _ _ => pending, fun _ _ => pending⟩
      · exact occupies_without here same id
  | some id =>
    obtain ⟨held, fits⟩ := PlacementPhase.held_of_pending pending
    have mine : s.Occupies me id := by
      refine ⟨held, ?_⟩
      rintro ⟨job', hjob, gone⟩
      cases here.symm.trans hjob
      exact absurd gone working
    have lost (x : String) : ¬ (s.without me job).Occupies me x := by
      intro has
      cases (has.2 dropped).symm.trans pending
    obtain ⟨r, present, fit⟩ := h.held me id mine
    have freed (x : String) : (s.without me job).orders.get? x =
        if id = x then none else s.orders.get? x := by
      rw [view, reserved, pending, Option.toList_some]
      by_cases same : id = x
      · rw [← same, if_pos (List.mem_singleton_self _), if_pos rfl, present, Option.filter_some,
          if_neg (by simp [fits r fit])]
      · rw [if_neg same, if_neg fun mem => same (List.mem_singleton.1 mem).symm]
    refine Apart.replaced h freed (.inl mine) (fun other x ne => occupies_without here ne x)
      (fun _ _ _ fit => fit) (fun x has => ?_) (fun x has => absurd has (lost x)) (.inr ⟨lost id, rfl⟩)
    exact Option.some.inj (has.1.symm.trans held)

end Dropping

end Scene

end OrderDesk
