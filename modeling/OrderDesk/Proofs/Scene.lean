import OrderDesk.Proofs.Watch
import OrderDesk.Routine.Floor

/-!
# `OrderDesk.Proofs.Scene` — operations in any order of their steps

`Floor.join` lets operations take turns in one way. Here they take them in any way: a *scene* is a
floor with operations at work and the history of what they did, and a *choice* says what happens
next. The outside answers each question as the choice has it, so a theorem about `Scene.play` is one
about every schedule and every outside. An operation may be given up wherever it is suspended.

## Contents
- `Floor.Move`: one step of one operation, a constructor for each kind of event; `Floor.move?`
  computes it.
- `Scene`, `Choice`, `Scene.next`, `Scene.play`.
- `Scene.Change`: all that a choice can do (`Scene.change_next`), and `Scene.play_induction`.
- `Scene.Watched`, `Scene.play_watched`: when every operation passes a watch, an invariant need only be
  kept by the changes that the watch permits.
-/

namespace OrderDesk

/-- The line for a lock as one more joins, leaves or is given up. -/
@[simp] theorem Floor.line_putLine {σ : Type} (f : Floor σ) (wallet other : Address)
    (line : List Nat) :
    (f.putLine wallet line).line other = if wallet = other then line else f.line other := by
  unfold Floor.line Floor.putLine
  by_cases h : wallet = other
  · simp [h]
  · have hne : (wallet == other) = false := by simpa using h
    simp only [List.find?_cons, hne, List.find?_filter, h, if_false]
    congr 3
    funext entry
    by_cases he : entry.1 = other
    · simp [he, Ne.symm h]
    · simp [he]

namespace Floor

variable {α : Type}

/-- Who gives up leaves the line; those behind move up. -/
theorem line_giveUp {σ : Type} (f : Floor σ) (me : Nat) (job : Job α) (wallet : Address) :
    (f.giveUp me job).2.line wallet = (f.line wallet).filter (· != me) := by
  have freed (ids : List String) (f : Floor σ) :
      (ids.foldl (fun f id => f.putDesk job.desk
        ((Effect.release id).apply (f.desk job.desk)).2) f).lines = f.lines := by
    induction ids generalizing f with
    | nil => rfl
    | cons id rest ih => exact ih _
  unfold line giveUp
  simp only [freed, List.find?_map]
  have same : ((fun x : Address × List Nat => x.1 == wallet) ∘
      fun x : Address × List Nat => (x.1, x.2.filter (· != me))) = (·.1 == wallet) := rfl
  rw [same]
  cases f.lines.find? (·.1 == wallet) <;> rfl

/-- Giving up frees identifiers and changes nothing of what desks share. -/
theorem common_giveUp {σ : Type} (f : Floor σ) (me : Nat) (job : Job α) :
    (f.giveUp me job).2.common = f.common := by
  show (job.reserved.foldl _ f).common = f.common
  induction job.reserved generalizing f with
  | nil => rfl
  | cons id rest ih => exact ih _

end Floor

/-- The progress leaves the operation suspended: waiting for a reply, for the end of a pause or for
a lock. -/
def Progress.isSuspended {α : Type} : Progress α → Bool
  | .inLine _ _ | .asleep _ _ | .asking _ _ => true
  | .ready _ | .finished _ | .givenUp => false

namespace Floor

variable {α : Type}

/-- A pause may end: the desk is to stop, or the time has come. -/
def mayWake (f : Floor Unit) (i : Nat) (till : Instant) (stopped : Bool) : Bool :=
  if stopped then (f.desk i).book.stopping else decide (till ≤ f.common.now)

/-- One step of operation `me` on desk `i`, with the event it makes. -/
inductive Move (me i : Nat) : Floor Unit → Progress α → Event → Progress α → Floor Unit → Prop
  | did {f e next} :
    Move me i f (.ready (.act e next)) (.did e (e.apply (f.desk i)).1)
      (.ready (next (e.apply (f.desk i)).1)) (f.putDesk i (e.apply (f.desk i)).2)
  | asked {f r next} : Move me i f (.ready (.ask r next)) (.asked r) (.asking r next) f
  | told {f r next x} : Move me i f (.asking r next) (.told r x) (.ready (next x)) f
  | slept {f d next} :
    Move me i f (.ready (.sleep d next)) (.slept d) (.asleep (f.common.now.after d.asPause) next) f
  | woke {f till next b} (why : f.mayWake i till b = true) :
    Move me i f (.asleep till next) (.woke b) (.ready (next b)) f
  | queued {f a next} :
    Move me i f (.ready (.lock a next)) (.queued a) (.inLine a next)
      (f.putLine a (f.line a ++ [me]))
  | locked {f a next} (first : (f.line a).head? = some me) :
    Move me i f (.inLine a next) (.locked a) (.ready next) f
  | unlocked {f a next} :
    Move me i f (.ready (.unlock a next)) (.unlocked a) (.ready next)
      (f.putLine a ((f.line a).filter (· != me)))

/-- The step of an operation, if it can take one; `answer` and `stopped` are what it is told. -/
def move? (me i : Nat) (answer : (r : Request) → r.Reply) (stopped : Bool) (f : Floor Unit) :
    Progress α → Option (Event × Progress α × Floor Unit)
  | .ready (.act e next) =>
    some (.did e (e.apply (f.desk i)).1, .ready (next (e.apply (f.desk i)).1),
      f.putDesk i (e.apply (f.desk i)).2)
  | .ready (.ask r next) => some (.asked r, .asking r next, f)
  | .asking r next => some (.told r (answer r), .ready (next (answer r)), f)
  | .ready (.sleep d next) => some (.slept d, .asleep (f.common.now.after d.asPause) next, f)
  | .asleep till next =>
    if f.mayWake i till stopped then
      some (.woke stopped, .ready (next stopped), f)
    else none
  | .ready (.lock a next) => some (.queued a, .inLine a next, f.putLine a (f.line a ++ [me]))
  | .inLine a next =>
    if (f.line a).head? = some me then some (.locked a, .ready next, f) else none
  | .ready (.unlock a next) =>
    some (.unlocked a, .ready next, f.putLine a ((f.line a).filter (· != me)))
  | .ready (.done _) | .finished _ | .givenUp => none

/-- An operation that takes a step was not given up. -/
theorem Move.ne_givenUp {me i : Nat} {f f' : Floor Unit} {progress progress' : Progress α}
    {ev : Event} (step : f.Move me i progress ev progress' f') : progress ≠ .givenUp := by
  rintro rfl
  cases step

/-- A step leaves the operation at work. -/
theorem Move.working {me i : Nat} {f f' : Floor Unit} {progress progress' : Progress α}
    {ev : Event} (step : f.Move me i progress ev progress' f') : progress' ≠ .givenUp := by
  rintro rfl
  cases step

theorem move_of_move? {me i : Nat} {answer : (r : Request) → r.Reply} {stopped : Bool}
    {f f' : Floor Unit} {progress progress' : Progress α} {ev : Event}
    (h : f.move? me i answer stopped progress = some (ev, progress', f')) :
    f.Move me i progress ev progress' f' := by
  cases progress with
  | ready p =>
    cases p with
    | done a => cases h
    | act e next => cases h; exact .did
    | ask r next => cases h; exact .asked
    | sleep d next => cases h; exact .slept
    | lock a next => cases h; exact .queued
    | unlock a next => cases h; exact .unlocked
  | asking r next => cases h; exact .told
  | asleep till next =>
    by_cases why : f.mayWake i till stopped = true
    · rw [move?, if_pos why] at h
      cases h
      exact .woke why
    · rw [move?, if_neg why] at h
      cases h
  | inLine a next =>
    by_cases first : (f.line a).head? = some me
    · rw [move?, if_pos first] at h
      cases h
      exact .locked first
    · rw [move?, if_neg first] at h
      cases h
  | finished a => cases h
  | givenUp => cases h

end Floor

/-- An event, the operation it belongs to, and the desk as the event found it. -/
structure Deed where
  who : Nat
  event : Event
  desk : Desk

/-- A floor, the operations at work on it, and what they did so far, the latest last. -/
structure Scene (α : Type) where
  floor : Floor Unit
  jobs : List (Job α) := []
  history : List Deed := []

/-- What happens next. -/
inductive Choice (ι : Type) where
  /-- An operation is called; `once` is for a floor that gives it up after its first turn. -/
  | call (c : ι) (once : Bool := false)
  /-- An operation takes a step, or is over if it has none left. A suspended one goes on as it is
  told here. -/
  | go (me : Nat) (answer : (r : Request) → r.Reply) (stopped : Bool)
  /-- An operation is given up where it is suspended, or before its first step. -/
  | giveUp (me : Nat)
  /-- The clock comes to show a time. -/
  | clock (now : Instant)
  | stop (desk : Nat)

namespace Scene

variable {α ι : Type}

/-- Nothing has been called yet. -/
def opening (common : Common) (books : List Book) : Scene α :=
  { floor := { common, books, outside := () } }

/-- The identifiers that an operation has reserved after an event. -/
def reservedBy (reserved : List String) : Event → List String
  | .did e x => Floor.reservedAfter reserved e x
  | _ => reserved

/-- The operation may be given up now. -/
def mayGiveUp (s : Scene α) (me : Nat) (job : Job α) : Bool :=
  job.progress.isSuspended || (!Floor.isOver job && s.history.all (·.who != me))

/-- The scene after a step of one operation. -/
def took (s : Scene α) (me : Nat) (job : Job α) (ev : Event) (progress : Progress α)
    (floor : Floor Unit) : Scene α where
  floor
  jobs := s.jobs.set me { job with progress, reserved := reservedBy job.reserved ev }
  history := s.history ++ [⟨me, ev, s.floor.desk job.desk⟩]

/-- The operation for a call, before its first step. -/
def jobOf (calls : ι → Nat × Routine α) (c : ι) (once : Bool) : Job α where
  desk := (calls c).1
  progress := .ready (calls c).2
  once

/-- What a choice makes of a scene; a choice that is none leaves it as it is. `calls` says what
operation a call is and on which desk. -/
def next (calls : ι → Nat × Routine α) (s : Scene α) : Choice ι → Scene α
  | .call c once => { s with jobs := s.jobs ++ [jobOf calls c once] }
  | .go me answer stopped =>
    match s.jobs[me]? with
    | none => s
    | some job =>
      match s.floor.move? me job.desk answer stopped job.progress with
      | some (ev, progress, floor) => s.took me job ev progress floor
      | none =>
        match job.progress with
        | .ready (.done a) => { s with jobs := s.jobs.set me { job with progress := .finished a } }
        | _ => s
  | .giveUp me =>
    match s.jobs[me]? with
    | none => s
    | some job =>
      if s.mayGiveUp me job then
        { s with floor := (s.floor.giveUp me job).2, jobs := s.jobs.set me (s.floor.giveUp me job).1 }
      else s
  | .clock now => { s with floor := { s.floor with common := { s.floor.common with now } } }
  | .stop desk => { s with floor := s.floor.putDesk desk (s.floor.desk desk).stop }

/-- The scene after choices, one after another. -/
def play (calls : ι → Nat × Routine α) (s : Scene α) (choices : List (Choice ι)) : Scene α :=
  choices.foldl (next calls) s

/-- All that a choice can do to a scene. -/
inductive Change (calls : ι → Nat × Routine α) (s : Scene α) : Scene α → Prop
  | still : Change calls s s
  | call (c : ι) (once : Bool) :
    Change calls s { s with jobs := s.jobs ++ [jobOf calls c once] }
  | move {me : Nat} {job : Job α} {ev : Event} {progress : Progress α} {floor : Floor Unit}
    (here : s.jobs[me]? = some job) (step : s.floor.Move me job.desk job.progress ev progress floor) :
    Change calls s (s.took me job ev progress floor)
  | finish {me : Nat} {job : Job α} {a : α} (here : s.jobs[me]? = some job)
    (ended : job.progress = .ready (.done a)) :
    Change calls s { s with jobs := s.jobs.set me { job with progress := .finished a } }
  | giveUp {me : Nat} {job : Job α} (here : s.jobs[me]? = some job)
    (may : s.mayGiveUp me job = true) :
    Change calls s
      { s with floor := (s.floor.giveUp me job).2, jobs := s.jobs.set me (s.floor.giveUp me job).1 }
  | clock (now : Instant) :
    Change calls s { s with floor := { s.floor with common := { s.floor.common with now } } }
  | stop (desk : Nat) :
    Change calls s { s with floor := s.floor.putDesk desk (s.floor.desk desk).stop }

theorem change_next (calls : ι → Nat × Routine α) (s : Scene α) (choice : Choice ι) :
    Change calls s (s.next calls choice) := by
  cases choice with
  | call c once => exact .call c once
  | go me answer stopped =>
    simp only [next]
    split
    · exact .still
    · next job here =>
      split
      · next ev progress floor step => exact .move here (Floor.move_of_move? step)
      · split
        · next a ended => exact .finish here ended
        · exact .still
  | giveUp me =>
    simp only [next]
    split
    · exact .still
    · next job here =>
      split
      · next may => exact .giveUp here may
      · exact .still
  | clock now => exact .clock now
  | stop desk => exact .stop desk

/-- What was given up is not given up again. -/
theorem working_of_mayGiveUp {s : Scene α} {me : Nat} {job : Job α}
    (may : s.mayGiveUp me job = true) : job.progress ≠ .givenUp := by
  intro gone
  simp [mayGiveUp, Progress.isSuspended, Floor.isOver, gone] at may

/-- Replacing one operation leaves the others. -/
theorem of_getElem?_set {jobs : List (Job α)} {me other : Nat} {new job : Job α}
    (h : (jobs.set me new)[other]? = some job) :
    (other = me ∧ job = new) ∨ (other ≠ me ∧ jobs[other]? = some job) := by
  rw [List.getElem?_set] at h
  split at h
  · next same =>
    split at h
    · exact .inl ⟨same.symm, (Option.some.inj h).symm⟩
    · cases h
  · next ne => exact .inr ⟨fun same => ne same.symm, h⟩

/-- One more operation leaves the others. -/
theorem of_getElem?_concat {jobs : List (Job α)} {me : Nat} {new job : Job α}
    (h : (jobs ++ [new])[me]? = some job) :
    jobs[me]? = some job ∨ me = jobs.length ∧ job = new := by
  rw [List.getElem?_append] at h
  split at h
  · exact .inl h
  · next outside =>
    rw [List.getElem?_singleton] at h
    split at h
    · next first => exact .inr ⟨by omega, (Option.some.inj h).symm⟩
    · cases h

/-- **Invariants.** What holds at first and is kept by every change holds after all choices. -/
theorem play_induction {calls : ι → Nat × Routine α} {P : Scene α → Prop} {s : Scene α}
    (start : P s) (change : ∀ s s', P s → Change calls s s' → P s') (choices : List (Choice ι)) :
    P (s.play calls choices) := by
  induction choices generalizing s with
  | nil => exact start
  | cons choice rest ih => exact ih (change s _ start (change_next calls s choice))

/-! ### Operations under a watch -/

variable {S : Type}

/-- What a watch knows of an operation after a history. -/
def known (start : S) (after : S → Event → S) (history : List Deed) (me : Nat) : S :=
  history.foldl (fun s deed => if deed.who = me then after s deed.event else s) start

@[simp] theorem known_append (start : S) (after : S → Event → S) (history : List Deed) (deed : Deed)
    (me : Nat) : known start after (history ++ [deed]) me =
      if deed.who = me then after (known start after history me) deed.event
      else known start after history me := by
  simp [known, List.foldl_append]

/-- After a step the watch knows more of the one that took it, and the same of the others. -/
theorem known_took (start : S) (after : S → Event → S) (s : Scene α) (me : Nat) (job : Job α)
    (ev : Event) (progress : Progress α) (floor : Floor Unit) (other : Nat) :
    known start after (s.took me job ev progress floor).history other =
      if me = other then after (known start after s.history me) ev
      else known start after s.history other := by
  by_cases h : me = other
  · subst h
    simp [took]
  · simp [took, h]

/-- The watch has not seen anything of an operation without a deed. -/
theorem known_of_absent {start : S} {after : S → Event → S} {history : List Deed} {me : Nat}
    (absent : ∀ deed ∈ history, deed.who ≠ me) : known start after history me = start := by
  unfold known
  induction history with
  | nil => rfl
  | cons deed rest ih =>
    rw [List.foldl_cons, if_neg (absent deed (by simp))]
    exact ih fun d hd => absent d (by simp [hd])

end Scene

/-- What is left of an operation passes the watch. -/
def Progress.Safe {S α : Type} (w : Watch S) (Q : α → S → Prop) : Progress α → S → Prop
  | .ready p, s => p.Safe w Q s
  | .inLine a next, s => w.Step s (.locked a) (next.Safe w Q)
  | .asleep _ next, s => ∀ b : Bool, w.Step s (.woke b) ((next b).Safe w Q)
  | .asking r next, s => ∀ x : r.Reply, w.Step s (.told r x) ((next x).Safe w Q)
  | .finished a, s => Q a s
  | .givenUp, _ => True

/-- **One step.** A watched operation takes a step that the watch lets pass and stays watched. -/
theorem Floor.Move.safe {S α : Type} {w : Watch S} {Q : α → S → Prop} {me i : Nat}
    {f f' : Floor Unit} {progress progress' : Progress α} {ev : Event} {s : S}
    (step : f.Move me i progress ev progress' f') (h : progress.Safe w Q s) :
    w.Step s ev (progress'.Safe w Q) := by
  cases step with
  | did => exact h _
  | asked => exact h
  | told => exact h _
  | slept => exact h
  | woke why => exact h _
  | queued => exact h
  | locked first => exact h
  | unlocked => exact h

namespace Scene

variable {S α ι : Type} {calls : ι → Nat × Routine α} {start : S} {may : S → Event → Prop}
  {after : S → Event → S} {Q : α → S → Prop}

/-- Every operation of the scene passes a watch that saw all it did. -/
structure Watched (start : S) (may : S → Event → Prop) (after : S → Event → S) (Q : α → S → Prop)
    (s : Scene α) : Prop where
  present : ∀ deed ∈ s.history, deed.who < s.jobs.length
  safe : ∀ (me : Nat) (job : Job α), s.jobs[me]? = some job →
    job.progress.Safe (Watch.tracking may after) Q (known start after s.history me)

theorem watched_opening (common : Common) (books : List Book) :
    Watched start may after Q (opening common books) where
  present deed h := absurd h List.not_mem_nil
  safe me job h := by simp [opening] at h

/-- Of an operation that has not been called yet the watch knows nothing. -/
theorem Watched.known_of_le {s : Scene α} (h : Watched start may after Q s) {me : Nat}
    (later : s.jobs.length ≤ me) : known start after s.history me = start :=
  known_of_absent fun deed hd same => Nat.not_lt.2 later (same ▸ h.present deed hd)

/-- **What an operation does, its watch permits.** -/
theorem Watched.permits {s : Scene α} (h : Watched start may after Q s) {me : Nat} {job : Job α}
    {ev : Event} {progress : Progress α} {floor : Floor Unit} (here : s.jobs[me]? = some job)
    (step : s.floor.Move me job.desk job.progress ev progress floor) :
    may (known start after s.history me) ev :=
  (step.safe (h.safe me job here)).1

/-- A scene whose operations are watched stays such a scene. -/
theorem Watched.change (safe : ∀ c, (calls c).2.Safe (Watch.tracking may after) Q start)
    {s s' : Scene α} (h : Watched start may after Q s) (change : Change calls s s') :
    Watched start may after Q s' := by
  -- Replacing one operation leaves the others, whose events are the same as before.
  have replaced (me : Nat) (new : Job α)
      (hnew : new.progress.Safe (Watch.tracking may after) Q (known start after s.history me)) :
      ∀ (other : Nat) (job : Job α), (s.jobs.set me new)[other]? = some job →
        job.progress.Safe (Watch.tracking may after) Q (known start after s.history other) := by
    intro other job hjob
    rcases of_getElem?_set hjob with ⟨rfl, rfl⟩ | ⟨-, hjob⟩
    · exact hnew
    · exact h.safe other job hjob
  cases change with
  | still => exact h
  | call c once =>
    refine ⟨fun deed hd => ?_, fun me job hjob => ?_⟩
    · rw [List.length_append]
      exact Nat.lt_add_right _ (h.present deed hd)
    · rcases of_getElem?_concat hjob with hjob | ⟨rfl, rfl⟩
      · exact h.safe me job hjob
      · rw [h.known_of_le (Nat.le_refl _)]
        exact safe c
  | @move me job ev progress floor here step =>
    have inside : me < s.jobs.length := (List.getElem?_eq_some_iff.1 here).1
    refine ⟨fun deed hd => ?_, fun other job' hjob => ?_⟩
    · show deed.who < (s.jobs.set me _).length
      rw [List.length_set]
      rcases List.mem_append.1 hd with hd | hd
      · exact h.present deed hd
      · rw [List.mem_singleton.1 hd]
        exact inside
    · show job'.progress.Safe _ Q (known start after (s.history ++ [⟨me, ev, _⟩]) other)
      rw [known_append]
      rcases of_getElem?_set hjob with ⟨rfl, rfl⟩ | ⟨ne, hjob⟩
      · rw [if_pos rfl]
        exact ((Watch.tracking_step ..).1 (step.safe (h.safe other job here))).2
      · rw [if_neg (Ne.symm ne)]
        exact h.safe other job' hjob
  | @finish me job a here ended =>
    refine ⟨fun deed hd => ?_, replaced me _ ?_⟩
    · rw [List.length_set]
      exact h.present deed hd
    · have hsafe := h.safe me job here
      rw [ended] at hsafe
      exact hsafe
  | @giveUp me job here _ =>
    refine ⟨fun deed hd => ?_, replaced me _ trivial⟩
    rw [List.length_set]
    exact h.present deed hd
  | clock now => exact ⟨h.present, h.safe⟩
  | stop desk => exact ⟨h.present, h.safe⟩

/-- **Invariants of watched operations.** -/
theorem play_watched {I : Scene α → Prop}
    (safe : ∀ c, (calls c).2.Safe (Watch.tracking may after) Q start)
    {common : Common} {books : List Book} (first : I (opening common books))
    (keep : ∀ s s', Watched start may after Q s → I s → Change calls s s' → I s')
    (choices : List (Choice ι)) : I ((opening common books).play calls choices) := by
  have both : Watched start may after Q ((opening common books).play calls choices) ∧
      I ((opening common books).play calls choices) := by
    refine play_induction (P := fun s => Watched start may after Q s ∧ I s)
      ⟨watched_opening common books, first⟩ ?_ choices
    rintro s s' ⟨hw, hi⟩ change
    exact ⟨hw.change safe change, keep s s' hw hi change⟩
  exact both.2

end Scene
end OrderDesk
