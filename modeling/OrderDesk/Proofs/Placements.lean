import OrderDesk.Proofs.Reservations

/-!
# `OrderDesk.Proofs.Placements` — placements that share identifiers

Placements are called on a desk at the same time, many of them under one identifier, and take turns in
any way. Each of them may be refused, fail or be dropped. An identifier is reserved from before the
first question until the record is complete, so nobody else comes in between, and whoever does not get
to complete it gives it back.

## Contents
- `Connector.placing`: a placement as a call on the floor.
- `Scene.Arranged`: the invariant of all runs, with `Arranged.change`.
- `Scene.Refused`, `Scene.Completed`: what a call that is refused does, and what is left in the end.
- `Connector.placements_apart`: one order for each identifier, at every moment and in the end.
- `SharedIdentifier`: two placements that both find an identifier free.
-/

namespace OrderDesk

/-! ### Placements of a desk -/

/-- The result of a placement under an identifier. -/
structure Placing where
  id : String
  result : Except Fault OrderHandle

/-- A placement as an operation on the floor. -/
def Connector.placing (c : Connector) (call : String × OrderRequest) : Nat × Routine Placing :=
  (0, (c.place call.1 call.2).run.bind fun result => .done ⟨call.1, result⟩)

namespace Scene

variable {c : Connector} {earlier : Registry} {s s' : Scene Placing}

/-- **The invariant of all runs.** -/
structure Arranged (earlier : Registry) (s : Scene Placing) : Prop where
  watched : Watched .fresh PlacementPhase.may PlacementPhase.after
    (fun p => PlacementPhase.Ends p.id p.result) s
  recorded : s.Recorded
  unshared : s.Unshared earlier

theorem arranged_opening (common : Common) (book : Book) :
    (opening common [book] : Scene Placing).Arranged book.registry where
  watched := watched_opening common [book]
  recorded := {
    seated := ⟨fun me job h => by simp [opening] at h, by simp [opening]⟩
    reserved := fun me job h => by simp [opening] at h
    dropped := fun me h => by
      obtain ⟨job, here, -⟩ := h
      simp [opening] at here
    tells := fun me => PlacementPhase.tells_nil
    found := fun deed hd => absurd hd List.not_mem_nil
    undisturbed := fun deed hd => absurd hd List.not_mem_nil }
  unshared := {
    alone := fun me other id h => nomatch h.1
    new := fun me id h => nomatch h.1
    kept := fun id r before => before
    held := fun me id h => nomatch h.1
    tracked := fun id r present => .inl present }

theorem placing_safe (c : Connector) (call : String × OrderRequest) :
    (c.placing call).2.Safe PlacementPhase.watch (fun p => PlacementPhase.Ends p.id p.result) .fresh :=
  (Routine.safe_bind _ _ _).2 (c.place_placementPhase call.2)

/-- A call is nobody who was there, and not dropped. -/
theorem dropped_call {call : String × OrderRequest} {once : Bool} (me : Nat) :
    ({ s with jobs := s.jobs ++ [jobOf c.placing call once] } : Scene Placing).Dropped me ↔
      s.Dropped me := by
  constructor
  · rintro ⟨job, here, gone⟩
    rcases of_getElem?_concat here with here | ⟨-, rfl⟩
    · exact ⟨job, here, gone⟩
    · cases gone
  · rintro ⟨job, here, gone⟩
    refine ⟨job, ?_, gone⟩
    rw [List.getElem?_append_left (List.getElem?_eq_some_iff.1 here).1]
    exact here

theorem Arranged.recorded_call (h : s.Arranged earlier) (call : String × OrderRequest) (once : Bool)
    (seated : Seated { s with jobs := s.jobs ++ [jobOf c.placing call once] }) :
    Recorded { s with jobs := s.jobs ++ [jobOf c.placing call once] } := by
  refine h.recorded.quiet seated rfl (fun me job here working => ?_) fun me gone => ?_
  · rcases of_getElem?_concat here with here | ⟨rfl, rfl⟩
    · exact h.recorded.reserved me job here working
    · -- It has done nothing yet.
      show [] = (known .fresh PlacementPhase.after s.history s.jobs.length).pending?.toList
      rw [h.watched.known_of_le (Nat.le_refl _)]
      rfl
  · exact h.recorded.dropped me ((dropped_call me).1 gone)

/-- The end of a placement drops nobody. -/
theorem dropped_finish {me : Nat} {job : Job Placing} {a : Placing} (here : s.jobs[me]? = some job)
    (ended : job.progress = .ready (.done a)) (other : Nat) :
    ({ s with jobs := s.jobs.set me { job with progress := .finished a } } : Scene Placing).Dropped
      other ↔ s.Dropped other := by
  constructor
  · rintro ⟨job', hjob, gone⟩
    rcases of_getElem?_set hjob with ⟨-, rfl⟩ | ⟨-, hjob⟩
    · cases gone
    · exact ⟨job', hjob, gone⟩
  · rintro ⟨job', hjob, gone⟩
    by_cases same : other = me
    · subst same
      cases here.symm.trans hjob
      cases ended.symm.trans gone
    · exact ⟨job', (List.getElem?_set_ne (Ne.symm same)).trans hjob, gone⟩

theorem Arranged.recorded_finish (h : s.Arranged earlier) {me : Nat} {job : Job Placing} {a : Placing}
    (here : s.jobs[me]? = some job) (ended : job.progress = .ready (.done a))
    (seated : Seated { s with jobs := s.jobs.set me { job with progress := .finished a } }) :
    Recorded { s with jobs := s.jobs.set me { job with progress := .finished a } } := by
  refine h.recorded.quiet seated rfl (fun other job' hjob working => ?_) fun other gone => ?_
  · rcases of_getElem?_set hjob with ⟨rfl, rfl⟩ | ⟨-, hjob⟩
    · refine h.recorded.reserved other job here ?_
      rw [ended]
      nofun
    · exact h.recorded.reserved other job' hjob working
  · exact h.recorded.dropped other ((dropped_finish here ended other).1 gone)

/-- One that may be dropped is where it may wait. -/
theorem Arranged.mayWait (h : s.Arranged earlier) {me : Nat} {job : Job Placing}
    (here : s.jobs[me]? = some job) (may : s.mayGiveUp me job = true) :
    (phase s.history me).mayWait = true := by
  by_cases suspended : job.progress.isSuspended = true
  · exact PlacementPhase.mayWait_of_suspended (h.watched.safe me job here) suspended
  · -- It has not begun.
    have absent : ∀ deed ∈ s.history, deed.who ≠ me := by
      simp only [mayGiveUp, suspended, Bool.false_or, Bool.and_eq_true, List.all_eq_true] at may
      intro deed hd
      simpa using may.2 deed hd
    show (known .fresh PlacementPhase.after s.history me).mayWait = true
    rw [known_of_absent absent]
    rfl

theorem Arranged.recorded_without (h : s.Arranged earlier) {me : Nat} {job : Job Placing}
    (here : s.jobs[me]? = some job) (may : s.mayGiveUp me job = true)
    (seated : (s.without me job).Seated) : (s.without me job).Recorded := by
  refine h.recorded.quiet seated rfl (fun other job' hjob working => ?_) fun other gone => ?_
  · rcases of_getElem?_set hjob with ⟨-, rfl⟩ | ⟨-, hjob⟩
    · exact absurd rfl working
    · exact h.recorded.reserved other job' hjob working
  · rcases (dropped_without here other).1 gone with rfl | gone
    · exact h.mayWait here may
    · exact h.recorded.dropped other gone

/-- **Every change keeps it.** -/
theorem Arranged.change (h : s.Arranged earlier) (change : Change c.placing s s') :
    s'.Arranged earlier := by
  have watched := h.watched.change (placing_safe c) change
  have seated := h.recorded.seated.kept (fun _ => rfl) change
  have both : s'.Recorded ∧ s'.Unshared earlier := by
    cases change with
    | still => exact ⟨h.recorded, h.unshared⟩
    | move here step =>
      have permit := h.watched.permits here step
      exact ⟨h.recorded.took here step permit, h.unshared.took h.recorded.seated here step permit⟩
    | call call once =>
      exact ⟨h.recorded_call call once seated, h.unshared.quiet rfl (fun _ => rfl) dropped_call⟩
    | finish here ended =>
      exact ⟨h.recorded_finish here ended seated,
        h.unshared.quiet rfl (fun _ => rfl) (dropped_finish here ended)⟩
    | giveUp here may =>
      exact ⟨h.recorded_without here may seated,
        h.unshared.without h.recorded here (working_of_mayGiveUp may)⟩
    | clock now =>
      exact ⟨h.recorded.quiet seated rfl h.recorded.reserved h.recorded.dropped,
        h.unshared.quiet rfl (fun _ => rfl) fun _ => Iff.rfl⟩
    | stop desk =>
      refine ⟨h.recorded.quiet seated rfl h.recorded.reserved h.recorded.dropped,
        h.unshared.quiet rfl (fun id => ?_) fun _ => Iff.rfl⟩
      exact congrArg (·.get? id) (s.floor.registry_stop desk)
  exact ⟨watched, both.1, both.2⟩

/-! ### From the phases to the logs -/

theorem Recorded.reserved_iff (h : s.Recorded) {me : Nat} {id : String} :
    s.Reserved me id ↔ (phase s.history me).reserved? = some id := by
  unfold Reserved
  rw [← List.mem_filterMap, (h.tells me).reserves, Option.mem_toList]

theorem Recorded.released_iff (h : s.Recorded) {me : Nat} {id : String} :
    s.Released me id ↔ (phase s.history me).freed? = some id := by
  unfold Released
  rw [← List.mem_filterMap, (h.tells me).releases, Option.mem_toList]

theorem Recorded.accepted_iff (h : s.Recorded) {me : Nat} {hash : Hash} :
    s.Accepted me hash ↔ (phase s.history me).accepted? = some hash := by
  unfold Accepted
  rw [← List.mem_filterMap, (h.tells me).accepts, Option.mem_toList]

/-- What is whose by its log is so by its phase. -/
theorem Recorded.holds_iff (h : s.Recorded) (me : Nat) (id : String) :
    s.Holds me id ↔ s.Occupies me id := by
  unfold Holds Occupies
  simp only [h.reserved_iff, h.released_iff, h.accepted_iff]
  have waits := h.dropped me
  generalize phase s.history me = phase at waits
  cases phase with
  | accepted other hash =>
    have working : ¬ s.Dropped me := fun gone => by cases waits gone
    simp [PlacementPhase.reserved?, PlacementPhase.held?, PlacementPhase.freed?, working]
  | freed other =>
    simp only [PlacementPhase.reserved?, PlacementPhase.freed?, PlacementPhase.held?]
    exact ⟨fun has => absurd has.1 has.2.1, fun has => nomatch has.1⟩
  | _ =>
    simp [PlacementPhase.reserved?, PlacementPhase.held?, PlacementPhase.freed?,
      PlacementPhase.accepted?, PlacementPhase.pending?]

/-- Identifiers come to somebody only if they are free. -/
theorem occupies_change (seated : s.Seated) (change : Change c.placing s s') {me : Nat} {id : String}
    (has : s'.Occupies me id) : s.Occupies me id ∨ s.orders.get? id = none := by
  cases change with
  | still | clock | stop => exact .inl has
  | call call once => exact .inl ⟨has.1, fun gone => has.2 ((dropped_call me).2 gone)⟩
  | finish here ended => exact .inl ⟨has.1, fun gone => has.2 ((dropped_finish here ended me).2 gone)⟩
  | giveUp here may => exact .inl ⟨has.1, fun gone => has.2 ((dropped_without here me).2 (.inr gone))⟩
  | @move other job ev progress floor here step =>
    by_cases same : me = other
    · subst same
      have now := (occupies_mover step id).1 has
      rcases PlacementPhase.of_held_after now with before | ⟨record, rfl, rfl⟩
      · exact .inl ((occupies_of_working here step id).2 before)
      · cases does_took seated here step with
        | aside off same => cases off
        | reserved free view => exact .inr free
    · exact .inl ((occupies_took step same id).1 has)

/-- **An identifier that is nobody's any more is free.** -/
theorem Arranged.free_again (h : s.Arranged earlier) (change : Change c.placing s s') {me : Nat}
    {id : String} (had : s.Holds me id) (lost : ¬ s'.Holds me id) : s'.orders.get? id = none := by
  have after := h.change change
  rw [h.recorded.holds_iff] at had
  rw [after.recorded.holds_iff] at lost
  refine Option.eq_none_iff_forall_ne_some.2 fun r present => ?_
  rcases after.unshared.tracked id r present with before | ⟨other, has⟩
  · cases (h.unshared.new me id had).symm.trans before
  · rcases occupies_change h.recorded.seated change has with before | free
    · exact lost (h.unshared.alone other me id before had ▸ has)
    · exact Apart.unheld h.unshared free me had

/-- Who has done something is there. -/
theorem Arranged.job_of_began (h : s.Arranged earlier) {me : Nat}
    (began : phase s.history me ≠ .fresh) : ∃ job, s.jobs[me]? = some job := by
  refine Option.ne_none_iff_exists'.1 fun none => began ?_
  exact h.watched.known_of_le (List.getElem?_eq_none_iff.1 none)

/-- **A placement that is over** and not given up has placed its order. -/
theorem Arranged.placed_of_over (h : s.Arranged earlier) {me : Nat} {job : Job Placing}
    (here : s.jobs[me]? = some job) (done : Floor.isOver job = true) {id : String}
    (has : s.Occupies me id) : ∃ hash, phase s.history me = .placed id hash := by
  obtain ⟨held, kept⟩ := has
  have safe := h.watched.safe me job here
  change job.progress.Safe PlacementPhase.watch _ (phase s.history me) at safe
  unfold Floor.isOver at done
  split at done
  · next a finished =>
    rw [finished] at safe
    generalize phase s.history me = phase at safe held
    cases phase with
    | placed other hash =>
      cases held
      exact ⟨hash, rfl⟩
    | reserved _ | handed _ _ | accepted _ _ => exact safe.elim
    | fresh | refused _ | freed _ => cases held
  · next gone =>
    have none := kept ⟨job, here, gone⟩
    generalize phase s.history me = phase at none held
    cases phase with
    | placed other hash =>
      cases held
      exact ⟨hash, rfl⟩
    | reserved _ | handed _ _ | accepted _ _ => cases none
    | fresh | refused _ | freed _ => cases held
  · cases done

/-- Whose transaction the node took, the identifier is that one's. -/
theorem Recorded.occupies_of_accepted (h : s.Recorded) {me : Nat} {hash : Hash}
    (took : s.Accepted me hash) : ∃ id, s.Reserved me id ∧ s.Occupies me id := by
  rw [h.accepted_iff] at took
  simp only [h.reserved_iff]
  unfold Occupies
  have waits := h.dropped me
  generalize phase s.history me = phase at took waits
  cases phase with
  | placed id _ => exact ⟨id, rfl, rfl, fun _ => rfl⟩
  | accepted id _ => exact ⟨id, rfl, rfl, fun gone => by cases waits gone⟩
  | _ => cases took

/-- The call is over, with a result or dropped. -/
def Over (s : Scene α) (me : Nat) : Prop := ∃ job, s.jobs[me]? = some job ∧ Floor.isOver job = true

/-- All calls are over. -/
def AllOver (s : Scene α) : Prop :=
  ∀ (me : Nat) (job : Job α), s.jobs[me]? = some job → Floor.isOver job = true

/-- The placement under the identifier ended with this handle. -/
def Succeeded (s : Scene Placing) (me : Nat) (id : String) (handle : OrderHandle) : Prop :=
  ∃ job, s.jobs[me]? = some job ∧ job.progress = .finished ⟨id, .ok handle⟩

/-- The call placed the order of the identifier with a transaction of this hash. -/
def Placed (s : Scene α) (me : Nat) (id : String) (hash : Hash) : Prop :=
  s.Reserved me id ∧ s.Accepted me hash

/-- **A call that is refused** asks nothing, leaves the orders as they are, and has only its end before
it, which says that the identifier is taken. -/
structure Refused (s : Scene Placing) (me : Nat) (id : String) : Prop where
  silent : ∀ r, .asked r ∉ s.log me
  undisturbed : ∀ deed ∈ s.history, deed.who = me → deed.left = deed.found
  fails : ∃ job, s.jobs[me]? = some job ∧
    (job.progress = .ready (.done ⟨id, .error (.error (.duplicateOrder id))⟩) ∨
      job.progress = .finished ⟨id, .error (.error (.duplicateOrder id))⟩)

/-- **What is left when all calls are over**: the orders that were tracked earlier and one for each
placement that the node took, under its hash, and no new reservation. -/
structure Completed (earlier : Registry) (s : Scene α) : Prop where
  unreserved : ∀ id r, s.orders.get? id = some r → r.state = .pendingSubmit → earlier.get? id = some r
  tracked : ∀ id r, s.orders.get? id = some r →
    earlier.get? id = some r ∨ ∃ me, s.Placed me id r.hash
  accepted : ∀ me hash, s.Accepted me hash →
    ∃ id r, s.Placed me id hash ∧ earlier.get? id = none ∧ s.orders.get? id = some r ∧ r.Stands hash
  one : ∀ me other id id' hash hash', s.Placed me id hash → s.Placed other id' hash' →
    (me = other ↔ id = id')

theorem Arranged.apart (h : s.Arranged earlier) : Apart earlier s.orders s.Holds fun me r =>
    r.state = .pendingSubmit ∨ ∃ hash, s.Accepted me hash ∧ r.Stands hash := by
  refine Apart.same h.unshared (fun _ => rfl) h.recorded.holds_iff fun me r fit => ?_
  simp only [h.recorded.accepted_iff]
  generalize phase s.history me = phase at fit
  cases phase with
  | placed id hash => exact .inr ⟨hash, rfl, fit⟩
  | _ => exact .inl fit

theorem Arranged.refused (h : s.Arranged earlier) {deed : Deed} (mem : deed ∈ s.history) {id : String}
    (finds : deed.FindsTaken id) : s.Refused deed.who id := by
  have refused := h.recorded.found deed mem id finds
  have early : (phase s.history deed.who).isEarly = true := by
    rw [refused]
    rfl
  refine ⟨(h.recorded.tells deed.who).asks early, fun other hd same => ?_, ?_⟩
  · exact h.recorded.undisturbed other hd (same ▸ early)
  · have began : phase s.history deed.who ≠ .fresh := by
      rw [refused]
      nofun
    obtain ⟨job, here⟩ := h.job_of_began began
    have safe := h.watched.safe deed.who job here
    change job.progress.Safe PlacementPhase.watch _ (phase s.history deed.who) at safe
    rw [refused] at safe
    have working : job.progress ≠ .givenUp := by
      intro gone
      have waits := h.recorded.dropped deed.who ⟨job, here, gone⟩
      rw [refused] at waits
      cases waits
    obtain ⟨⟨other, result⟩, standing, same, failed⟩ := PlacementPhase.over_of_refused safe working
    obtain rfl : id = other := same
    obtain rfl : result = .error (.error (.duplicateOrder id)) := failed
    exact ⟨job, here, standing⟩

/-- The handle of a placement names its order. -/
theorem Arranged.placed_of_handle (h : s.Arranged earlier) {me : Nat} {id : String}
    {handle : OrderHandle} (success : s.Succeeded me id handle) :
    handle.id = id ∧ s.Placed me id handle.hash := by
  obtain ⟨job, here, finished⟩ := success
  have ended := h.watched.safe me job here
  rw [finished] at ended
  change PlacementPhase.Ends id (.ok handle) (phase s.history me) at ended
  unfold Placed
  rw [h.recorded.reserved_iff, h.recorded.accepted_iff]
  generalize phase s.history me = phase at ended
  cases phase with
  | placed other hash =>
    obtain ⟨rfl, names⟩ := ended
    obtain ⟨sameId, rfl⟩ := names handle rfl
    exact ⟨sameId, rfl, rfl⟩
  | fresh =>
    obtain ⟨fault, failed⟩ := ended
    cases failed
  | freed other =>
    obtain ⟨-, fault, failed⟩ := ended
    cases failed
  | refused other => cases ended.2
  | reserved _ | handed _ _ | accepted _ _ => exact ended.elim

theorem Arranged.completed (h : s.Arranged earlier) (done : s.AllOver) : s.Completed earlier := by
  -- Whoever has an identifier has placed its order.
  have placed (me : Nat) (id : String) (has : s.Occupies me id) :
      ∃ hash, phase s.history me = .placed id hash := by
    have began : phase s.history me ≠ .fresh := fun fresh => by
      rw [Occupies, fresh] at has
      cases has.1
    obtain ⟨job, here⟩ := h.job_of_began began
    exact h.placed_of_over here (done me job here) has
  have occupied {me : Nat} {id : String} {hash : Hash} (has : s.Placed me id hash) :
      s.Occupies me id ∧ phase s.history me = .placed id hash := by
    obtain ⟨reserved, accepted⟩ := has
    obtain ⟨other, sameReserved, mine⟩ := h.recorded.occupies_of_accepted accepted
    obtain ⟨hash', inPhase⟩ := placed me other mine
    rw [h.recorded.reserved_iff, inPhase] at reserved
    rw [h.recorded.accepted_iff, inPhase] at accepted
    cases reserved
    cases accepted
    exact ⟨mine, inPhase⟩
  constructor
  case unreserved =>
    intro id r present pending
    rcases h.unshared.tracked id r present with before | ⟨me, mine⟩
    · exact before
    · obtain ⟨hash, inPhase⟩ := placed me id mine
      obtain ⟨r', present', fit⟩ := h.unshared.held me id mine
      cases present.symm.trans present'
      rw [inPhase] at fit
      exact absurd pending fit.2
  case tracked =>
    intro id r present
    refine (h.unshared.tracked id r present).imp_right ?_
    rintro ⟨me, mine⟩
    obtain ⟨hash, inPhase⟩ := placed me id mine
    obtain ⟨r', present', fit⟩ := h.unshared.held me id mine
    cases present.symm.trans present'
    rw [inPhase] at fit
    refine ⟨me, h.recorded.reserved_iff.2 ?_, h.recorded.accepted_iff.2 ?_⟩
    · rw [inPhase]
      rfl
    · rw [inPhase, fit.1]
      rfl
  case accepted =>
    intro me hash accepted
    obtain ⟨id, reserved, mine⟩ := h.recorded.occupies_of_accepted accepted
    obtain ⟨r, present, fit⟩ := h.unshared.held me id mine
    have inPhase := (occupied ⟨reserved, accepted⟩).2
    rw [inPhase] at fit
    exact ⟨id, r, ⟨reserved, accepted⟩, h.unshared.new me id mine, present, fit⟩
  case one =>
    intro me other id id' hash hash' first second
    obtain ⟨mine, inPhase⟩ := occupied first
    obtain ⟨theirs, inPhase'⟩ := occupied second
    constructor
    · rintro rfl
      cases inPhase.symm.trans inPhase'
      rfl
    · rintro rfl
      exact h.unshared.alone me other id mine theirs

end Scene

/-- **Placements that share identifiers.** Placements of a desk take turns in any way, and each of them
may fail, be rejected, or be dropped wherever it waits. At every moment each identifier is that of one
order: one that was tracked before and is as it was, or that of one call, which has reserved it or
placed it. A call that comes upon its identifier taken is refused. One that is over has its identifier
only if the node took its transaction, and an identifier that was somebody's and is not any more is
free. When all are over there is one new order for each placement that the node took. -/
theorem Connector.placements_apart (c : Connector) (common : Common) (book : Book)
    (choices : List (Choice (String × OrderRequest))) :
    let s := (Scene.opening common [book]).play c.placing choices
    (Apart book.registry s.orders s.Holds fun me r =>
      r.state = .pendingSubmit ∨ ∃ hash, s.Accepted me hash ∧ r.Stands hash) ∧
    (∀ deed ∈ s.history, ∀ id, deed.FindsTaken id → s.Refused deed.who id) ∧
    (∀ me id, s.Over me → s.Holds me id → ∃ hash, s.Accepted me hash) ∧
    (∀ choice me id, s.Holds me id → ¬ (s.next c.placing choice).Holds me id →
      (s.next c.placing choice).orders.get? id = none) ∧
    (∀ me id handle, s.Succeeded me id handle → handle.id = id ∧ s.Placed me id handle.hash) ∧
    (s.AllOver → s.Completed book.registry) := by
  have arranged : ((Scene.opening common [book]).play c.placing choices).Arranged book.registry :=
    Scene.play_induction (Scene.arranged_opening common book) (fun _ _ h => h.change) choices
  refine ⟨arranged.apart, fun deed mem id => arranged.refused mem, ?_,
    fun choice me id => arranged.free_again (Scene.change_next _ _ choice),
    fun me id handle => arranged.placed_of_handle, arranged.completed⟩
  rintro me id ⟨job, here, done⟩ has
  rw [arranged.recorded.holds_iff] at has
  obtain ⟨hash, inPhase⟩ := arranged.placed_of_over here done has
  refine ⟨hash, arranged.recorded.accepted_iff.2 ?_⟩
  rw [inPhase]
  rfl

/-! ### Two placements under one identifier -/

namespace SharedIdentifier

/-- A desk with two tokens that checks no funds. -/
def desk : Connector :=
  { (default : Connector) with
    deployment :=
      { chainId := 1, exchange := ⟨7⟩
        tokens := [⟨"A", ⟨1⟩, 6, false⟩, ⟨"B", ⟨2⟩, 6, false⟩] }
    funds := .unchecked }

def order : OrderRequest := ⟨⟨"A", "B"⟩, .bid, .limit, .finite 1 0, .finite 1 0⟩

/-- The node takes every transaction. -/
def node : (r : Request) → r.Reply
  | .pendingNonce _ => .ok 0
  | .send tx => .ok tx.hash
  | _ => .error default

/-- Two placements are called under one identifier. Both find it free; the second one goes on first. -/
def choices : List (Choice (String × OrderRequest)) :=
  [.call ("a", order), .call ("a", order)] ++ List.replicate 2 (.go 0 node false) ++
    List.replicate 30 (.go 1 node false) ++ List.replicate 10 (.go 0 node false)

def scene : Scene Placing := (Scene.opening {} [{}]).play desk.placing choices

/-- The first placement comes upon the reservation of the second. -/
def comesUpon (deed : Deed) : Bool :=
  deed.who == 0 && deed.event.wants? == some "a" && deed.found.contains "a"

/-- The placement succeeded. -/
def succeeds (job : Job Placing) : Bool :=
  match job.progress with
  | .finished ⟨id, .ok _⟩ => id == "a"
  | _ => false

/-- **The one that comes second is refused**, though it found the identifier free when it looked. The
other one places its order, and that is all that is left. -/
theorem refused_by_other : scene.Refused 0 "a" ∧ (∃ hash, scene.Placed 1 "a" hash) ∧
    scene.Completed ({} : Book).registry := by
  obtain ⟨-, refused, -, -, succeeded, completed⟩ := desk.placements_apart {} {} choices
  have upon : scene.history.any comesUpon = true := by decide +kernel
  have success : (scene.jobs[1]?).any succeeds = true := by decide +kernel
  have ended : scene.jobs.all Floor.isOver = true := by decide +kernel
  refine ⟨?_, ?_, completed fun me job here => ?_⟩
  · obtain ⟨deed, mem, same⟩ := List.any_eq_true.1 upon
    simp only [comesUpon, Bool.and_eq_true, beq_iff_eq] at same
    obtain ⟨⟨first, wants⟩, taken⟩ := same
    exact first ▸ refused deed mem "a" ⟨wants, taken⟩
  · obtain ⟨job, here, succeeds⟩ := (Option.any_eq_true _ _).1 success
    unfold SharedIdentifier.succeeds at succeeds
    split at succeeds
    · next id handle finished =>
      obtain rfl : id = "a" := by simpa using succeeds
      exact ⟨handle.hash, (succeeded 1 "a" handle ⟨job, here, finished⟩).2⟩
    · cases succeeds
  · exact List.all_eq_true.1 ended job (List.mem_of_getElem? here)

end SharedIdentifier

end OrderDesk
