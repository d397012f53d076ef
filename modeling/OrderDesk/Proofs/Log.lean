import OrderDesk.Proofs.Alone
import OrderDesk.Proofs.Scene

/-!
# `OrderDesk.Proofs.Log` — what an operation did from its first step to its last

The watch `Watch.log` lets every event pass and writes it down. What an operation meets under it
(`Attempt.Logs`) relates its outcome to the whole list of its events, for every reply of the outside
and every state of the desk in which a step may find it. From there it holds of each call in a scene
and of an operation that runs alone.

## Contents
- `Watch.log`, `Attempt.Logs` with one rule per way of building an operation.
- `Respects`: a log of events that a watch permits; `Routine.Safe.respects`.
- `Attempt.Only.logs`: an operation whose events are all of one kind.
- `notesOf`, `Attempt.Logs.noted`: what the log of an operation that runs alone leaves in the notes.
- `questionsOf`, `Attempt.logs_questions`: what was asked is what was answered.
- `Scene.log`, `Scene.logs_of_finished`: the log of a call in a scene.
-/

namespace OrderDesk

/-- Lets everything pass and writes it down. -/
def Watch.log : Watch (List Event) := .tracking (fun _ _ => True) fun log ev => log ++ [ev]

/-- One more event is written down. -/
@[simp] theorem Watch.log_step (log : List Event) (ev : Event) (P : List Event → Prop) :
    Watch.log.Step log ev P ↔ P (log ++ [ev]) := by
  unfold Watch.log
  rw [Watch.tracking_step, true_and]

/-! ### What a watch permits, in the log -/

section Respects

variable {S α : Type} {start : S} {may : S → Event → Prop} {after : S → Event → S}

/-- Each event of the log is one that is permitted after those before it. -/
def Respects (start : S) (may : S → Event → Prop) (after : S → Event → S) (log : List Event) : Prop :=
  ∀ before ev, before ++ [ev] <+: log → may (before.foldl after start) ev

theorem Respects.nil : Respects start may after [] := by
  intro before ev within
  cases List.append_eq_nil_iff.1 (List.prefix_nil.1 within)
  contradiction

theorem Respects.concat {log : List Event} {ev : Event} (h : Respects start may after log)
    (permitted : may (log.foldl after start) ev) : Respects start may after (log ++ [ev]) := by
  intro before last within
  rcases List.prefix_concat_iff.1 within with whole | earlier
  · obtain ⟨rfl, same⟩ := List.append_inj' whole rfl
    cases same
    exact permitted
  · exact h before last earlier

theorem Respects.shorter {log longer : List Event} (h : Respects start may after longer)
    (within : log <+: longer) : Respects start may after log :=
  fun before ev earlier => h before ev (earlier.trans within)

/-- **A watched operation** leaves a log of permitted events. -/
theorem Routine.Safe.respects {p : Routine α} {Q : α → S → Prop}
    (h : p.Safe (Watch.tracking may after) Q start) :
    p.Safe Watch.log (fun _ log => Respects start may after log) [] := by
  refine Routine.Safe.simulate
    (R := fun s log => s = log.foldl after start ∧ Respects start may after log) ?_ ?_
    ⟨rfl, Respects.nil⟩ h
  · rintro s log ev ⟨rfl, respects⟩ permitted
    refine (Watch.log_step ..).2 ⟨_, rfl, ?_, respects.concat permitted⟩
    rw [List.foldl_append]
    rfl
  · exact fun _ _ _ related _ => related.2

end Respects

namespace Attempt

variable {α β : Type}

/-- However the operation goes, what it came to and what it did meet `Q`. -/
def Logs (Q : Except Fault α → List Event → Prop) (p : Attempt α) : Prop := p.Safe Watch.log Q []

variable {Q : Except Fault α → List Event → Prop} {p : Attempt α}

theorem Logs.mono {Q' : Except Fault α → List Event → Prop} (h : p.Logs Q)
    (hQ : ∀ r own, Q r own → Q' r own) : p.Logs Q' :=
  Safe.mono h hQ

theorem Logs.and {Q' : Except Fault α → List Event → Prop} (h : p.Logs Q) (h' : p.Logs Q') :
    p.Logs fun r own => Q r own ∧ Q' r own :=
  Routine.Safe.and h h'

/-- What was written down before does not matter. -/
theorem Logs.after (h : p.Logs Q) (log : List Event) :
    p.Safe Watch.log (fun r all => ∃ own, all = log ++ own ∧ Q r own) log := by
  refine Routine.Safe.simulate (R := fun own all => all = log ++ own) ?_ ?_
    (List.append_nil log).symm h
  · rintro own _ ev rfl -
    refine (Watch.log_step ..).2 ⟨own ++ [ev], rfl, ?_⟩
    rw [List.append_assoc]
  · exact fun _ own _ same hQ => ⟨own, same, hQ⟩

/-- **Sequencing.** The second half's events follow those of the first. -/
theorem Logs.bind {R : Except Fault α → List Event → Prop} {Q : Except Fault β → List Event → Prop}
    {f : α → Attempt β} (hp : p.Logs R)
    (ok : ∀ a own, R (.ok a) own → (f a).Logs fun r more => Q r (own ++ more))
    (error : ∀ fault own, R (.error fault) own → Q (.error fault) own) : (p >>= f).Logs Q := by
  refine Safe.bind hp (fun a own hR => ?_) error
  refine Safe.mono ((ok a own hR).after own) ?_
  rintro r _ ⟨more, rfl, hQ⟩
  exact hQ

/-- Every operation has a log. -/
theorem logs_trivial (p : Attempt α) : p.Logs fun _ _ => True := by
  have always {γ : Type} (p : Routine γ) (log : List Event) :
      p.Safe Watch.log (fun _ _ => True) log := by
    induction p generalizing log with
    | done a => trivial
    | act e next ih => exact fun d => (Watch.log_step ..).2 (ih _ _)
    | ask r next ih => exact (Watch.log_step ..).2 fun x => (Watch.log_step ..).2 (ih x _)
    | sleep t next ih => exact (Watch.log_step ..).2 fun b => (Watch.log_step ..).2 (ih b _)
    | lock a next ih => exact (Watch.log_step ..).2 ((Watch.log_step ..).2 (ih _))
    | unlock a next ih => exact (Watch.log_step ..).2 (ih _)
  exact always p.run []

/-- A result that is only put differently. -/
theorem logs_map {Q : Except Fault β → List Event → Prop} {f : α → β} :
    (f <$> p).Logs Q ↔ p.Logs fun r own => Q (f <$> r) own := by
  show Routine.Safe Watch.log Q (Routine.bind p.run (ExceptT.bindCont fun a => pure (f a))) [] ↔ _
  rw [Routine.safe_bind]
  have same : (fun r => Routine.Safe Watch.log Q
      (ExceptT.bindCont (fun a => (pure (f a) : Attempt β)) r)) = fun r own => Q (f <$> r) own := by
    funext r
    cases r <;> rfl
  rw [same]
  rfl

@[simp] theorem logs_pure {a : α} : (pure a : Attempt α).Logs Q ↔ Q (.ok a) [] := Iff.rfl

@[simp] theorem logs_fail {e : DeskError} : (fail e : Attempt α).Logs Q ↔ Q (.error (.error e)) [] :=
  Iff.rfl

@[simp] theorem logs_breakdown {b : Breakdown} :
    (breakdown b : Attempt α).Logs Q ↔ Q (.error (.breakdown b)) [] :=
  Iff.rfl

@[simp] theorem logs_ofExcept {r : Except DeskError α} :
    (ofExcept r).Logs Q ↔ Q (r.mapError .error) [] := safe_ofExcept

@[simp] theorem logs_ofFault {r : Except Fault α} : (ofFault r).Logs Q ↔ Q r [] := safe_ofFault

theorem logs_act {e : Effect} {Q : Except Fault e.Answer → List Event → Prop} :
    (act e).Logs Q ↔ ∀ d : Desk, Q (.ok (e.apply d).1) [.did e (e.apply d).1] := by
  unfold Logs
  simp

theorem logs_reply {r : Request} {Q : Except Fault r.Reply → List Event → Prop} :
    (reply r).Logs Q ↔ ∀ x : r.Reply, Q (.ok x) [.asked r, .told r x] := by
  unfold Logs
  simp

theorem logs_sleep {t : Duration} {Q : Except Fault Bool → List Event → Prop} :
    (sleep t).Logs Q ↔ ∀ b : Bool, Q (.ok b) [.slept t, .woke b] := by
  unfold Logs
  rw [safe_sleep]
  simp

theorem logs_outcome {Q : Except Fault (Except Fault α) → List Event → Prop} :
    (outcome p).Logs Q ↔ p.Logs fun r own => Q (.ok r) own := safe_outcome

/-! What follows a step of one of these kinds adds its events. -/

section Next

variable {Q : Except Fault β → List Event → Prop}

theorem logs_act_bind {e : Effect} {f : e.Answer → Attempt β}
    (h : ∀ x : e.Answer, (f x).Logs fun r more => Q r (.did e x :: more)) :
    (act e >>= f).Logs Q := by
  refine Logs.bind (R := fun r own => ∃ x, r = .ok x ∧ own = [.did e x])
    (logs_act.2 fun d => ⟨_, rfl, rfl⟩) ?_ ?_
  · rintro x _ ⟨_, same, rfl⟩
    cases same
    exact h x
  · rintro _ _ ⟨_, same, _⟩
    cases same

theorem logs_reply_bind {q : Request} {f : q.Reply → Attempt β}
    (h : ∀ x : q.Reply, (f x).Logs fun r more => Q r (.asked q :: .told q x :: more)) :
    (reply q >>= f).Logs Q := by
  refine Logs.bind (R := fun r own => ∃ x, r = .ok x ∧ own = [.asked q, .told q x])
    (logs_reply.2 fun x => ⟨x, rfl, rfl⟩) ?_ ?_
  · rintro x _ ⟨_, same, rfl⟩
    cases same
    exact h x
  · rintro _ _ ⟨_, same, _⟩
    cases same

theorem logs_sleep_bind {t : Duration} {f : Bool → Attempt β}
    (h : ∀ b : Bool, (f b).Logs fun r more => Q r (.slept t :: .woke b :: more)) :
    (sleep t >>= f).Logs Q := by
  refine Logs.bind (R := fun r own => ∃ b, r = .ok b ∧ own = [.slept t, .woke b])
    (logs_sleep.2 fun b => ⟨b, rfl, rfl⟩) ?_ ?_
  · rintro b _ ⟨_, same, rfl⟩
    cases same
    exact h b
  · rintro _ _ ⟨_, same, _⟩
    cases same

/-- A failure that is caught does not end the whole. -/
theorem Logs.caught {R : Except Fault α → List Event → Prop} {f : Except Fault α → Attempt β}
    (hp : p.Logs R) (next : ∀ r own, R r own → (f r).Logs fun r' more => Q r' (own ++ more)) :
    (outcome p >>= f).Logs Q := by
  refine Logs.bind (R := fun r own => ∃ r', r = .ok r' ∧ R r' own)
    (logs_outcome.2 (hp.mono fun r own hR => ⟨r, rfl, hR⟩)) ?_ ?_
  · rintro r own ⟨_, same, hR⟩
    cases same
    exact next r own hR
  · rintro _ _ ⟨_, same, _⟩
    cases same

end Next

/-- The section's events stand between taking the lock and giving it back. -/
theorem Logs.locked {a : Address} (h : p.Logs fun r own => Q r (.queued a :: .locked a :: own ++
    [.unlocked a])) : (Attempt.locked a p).Logs Q := by
  unfold Logs
  rw [safe_locked]
  simp only [Watch.log_step]
  refine Safe.mono (h.after _) ?_
  rintro r _ ⟨own, rfl, hQ⟩
  exact hQ

/-- All that an operation of one kind does is of that kind. -/
theorem Only.logs {kind : Event → Prop} (h : p.Only kind) :
    p.Logs fun _ own => ∀ ev ∈ own, kind ev := by
  have first : ∀ ev ∈ ([] : List Event), kind ev := fun _ mem => absurd mem List.not_mem_nil
  refine Safe.mono (h.keeps (I := fun own : List Event => ∀ ev ∈ own, kind ev) ?_ first)
    fun _ _ kept => kept.1
  intro own ev hev kept
  refine (Watch.log_step ..).2 fun ev' mem => ?_
  rcases List.mem_append.1 mem with before | now
  · exact kept ev' before
  · rw [List.mem_singleton.1 now]
    exact hev

end Attempt

/-! ### Notes -/

/-- What is noted of an event. -/
def Event.note? : Event → Option Note
  | told r x => some ⟨r, x⟩
  | _ => none

/-- What is noted of a log. -/
def notesOf (log : List Event) : List Note := log.filterMap Event.note?

@[simp] theorem notesOf_nil : notesOf [] = [] := rfl

@[simp] theorem notesOf_append (log more : List Event) :
    notesOf (log ++ more) = notesOf log ++ notesOf more := List.filterMap_append ..

theorem mem_notesOf {log : List Event} {r : Request} {x : r.Reply} :
    (⟨r, x⟩ : Note) ∈ notesOf log ↔ .told r x ∈ log := by
  unfold notesOf
  rw [List.mem_filterMap]
  constructor
  · rintro ⟨ev, mem, noted⟩
    cases ev with
    | told r' x' =>
      cases noted
      exact mem
    | _ => cases noted
  · exact fun mem => ⟨_, mem, rfl⟩

/-- What is asked with an event. -/
def Event.question? : Event → Option Request
  | asked r => some r
  | _ => none

/-- The questions of a log, in their order. -/
def questionsOf (log : List Event) : List Request := log.filterMap Event.question?

@[simp] theorem questionsOf_append (log more : List Event) :
    questionsOf (log ++ more) = questionsOf log ++ questionsOf more := List.filterMap_append ..

/-- **Every question is answered before the next step**, so the notes of an operation name its
questions, each once and in their order. -/
theorem Attempt.logs_questions {α : Type} (p : Attempt α) :
    p.Logs fun _ own => questionsOf own = (notesOf own).map Note.request := by
  have always {γ : Type} (p : Routine γ) {log : List Event}
      (same : questionsOf log = (notesOf log).map Note.request) :
      p.Safe Watch.log (fun _ own => questionsOf own = (notesOf own).map Note.request) log := by
    -- An event that neither asks nor tells adds to neither side.
    have other {log : List Event} (same : questionsOf log = (notesOf log).map Note.request) {ev : Event}
        (asks : ev.question? = none) (tells : ev.note? = none) :
        questionsOf (log ++ [ev]) = (notesOf (log ++ [ev])).map Note.request := by
      rw [questionsOf_append, notesOf_append, same, List.map_append]
      simp [questionsOf, notesOf, asks, tells]
    induction p generalizing log with
    | done a => exact same
    | act e next ih => exact fun d => (Watch.log_step ..).2 (ih _ (other same rfl rfl))
    | ask r next ih =>
      refine (Watch.log_step ..).2 fun x => (Watch.log_step ..).2 (ih x ?_)
      rw [List.append_assoc, questionsOf_append, notesOf_append, same, List.map_append]
      rfl
    | sleep t next ih =>
      exact (Watch.log_step ..).2 fun b =>
        (Watch.log_step ..).2 (ih b (other (other same rfl rfl) rfl rfl))
    | lock a next ih =>
      exact (Watch.log_step ..).2 ((Watch.log_step ..).2 (ih (other (other same rfl rfl) rfl rfl)))
    | unlock a next ih => exact (Watch.log_step ..).2 (ih (other same rfl rfl))
  exact always p.run rfl

/-- An operation that runs alone leaves the notes of its log. -/
theorem Attempt.Logs.noted {ε α : Type} {env : Environment ε} {s : Desk × ε × List Note}
    {Q : Except Fault α → List Event → Prop} {p : Attempt α} (h : p.Logs Q) :
    p.Safe env.noted.alone (fun r s' => ∃ own, s'.2.2 = s.2.2 ++ notesOf own ∧ Q r own) s := by
  refine Routine.Safe.simulate (R := fun own t => t.2.2 = s.2.2 ++ notesOf own) ?_ ?_
    (List.append_nil _).symm h
  · intro own t ev same _
    refine ⟨trivial, fun t' next => ⟨own ++ [ev], rfl, ?_⟩⟩
    rw [notesOf_append, ← List.append_assoc, ← same]
    -- Only a reply leaves a note.
    cases ev with
    | told r x =>
      obtain ⟨rfl, rfl⟩ := next
      rfl
    | did e x =>
      obtain ⟨-, rfl⟩ := next
      exact (List.append_nil _).symm
    | slept d =>
      obtain rfl := next
      exact (List.append_nil _).symm
    | woke b =>
      obtain ⟨-, rfl⟩ := next
      exact (List.append_nil _).symm
    | asked r | queued a | locked a | unlocked a =>
      obtain rfl := next
      exact (List.append_nil _).symm
  · exact fun _ own _ same hQ => ⟨own, same, hQ⟩

/-! ### Calls in a scene -/

/-- What is told is what the answer is. -/
theorem Floor.told_of_move? {α : Type} {me i : Nat} {answer : (r : Request) → r.Reply}
    {stopped : Bool} {f f' : Floor Unit} {progress progress' : Progress α} {r : Request} {x : r.Reply}
    (h : f.move? me i answer stopped progress = some (.told r x, progress', f')) :
    x = answer r := by
  have step := move_of_move? h
  cases step with
  | told =>
    rw [move?] at h
    cases h
    rfl

namespace Scene

variable {α ι : Type}

/-- All that one call did so far. -/
def log (s : Scene α) (me : Nat) : List Event :=
  (s.history.filter (·.who == me)).map (·.event)

theorem mem_log {s : Scene α} {me : Nat} {ev : Event} :
    ev ∈ s.log me ↔ ∃ deed ∈ s.history, deed.who = me ∧ deed.event = ev := by
  unfold log
  simp [and_assoc]

/-- What a watch knows of a call, it knows from the log of the call. -/
theorem known_eq_foldl {S : Type} (start : S) (after : S → Event → S) (s : Scene α) (me : Nat) :
    known start after s.history me = (s.log me).foldl after start := by
  unfold log known
  induction s.history generalizing start with
  | nil => rfl
  | cons deed rest ih =>
    rw [List.foldl_cons, ih]
    by_cases own : deed.who = me
    · rw [if_pos own, List.filter_cons_of_pos (by simpa using own)]
      rfl
    · rw [if_neg own, List.filter_cons_of_neg (by simpa using own)]

/-- What a watch that writes everything down knows of a call is its log. -/
theorem known_log (s : Scene α) (me : Nat) :
    known [] (fun log ev => log ++ [ev]) s.history me = s.log me := by
  have written (before log : List Event) :
      log.foldl (fun log ev => log ++ [ev]) before = before ++ log := by
    induction log generalizing before with
    | nil => exact (List.append_nil _).symm
    | cons ev rest ih => rw [List.foldl_cons, ih, List.append_assoc, List.singleton_append]
  rw [known_eq_foldl, written, List.nil_append]

/-- A step adds its event to the log of the one that took it. -/
theorem log_took (s : Scene α) (me : Nat) (job : Job α) (ev : Event) (progress : Progress α)
    (floor : Floor Unit) (other : Nat) : (s.took me job ev progress floor).log other =
      if me = other then s.log me ++ [ev] else s.log other := by
  rw [← known_log, known_took, known_log, known_log]

/-- Whoever answers all questions the same way told all that was told. -/
theorem told_play {calls : ι → Nat × Routine α} {node : (r : Request) → r.Reply} {s : Scene α}
    {choices : List (Choice ι)}
    (answers : ∀ me answer stopped, .go me answer stopped ∈ choices → answer = node) {deed : Deed}
    (mem : deed ∈ (s.play calls choices).history) {r : Request} {x : r.Reply}
    (told : deed.event = .told r x) : deed ∈ s.history ∨ x = node r := by
  induction choices generalizing s with
  | nil => exact .inl mem
  | cons choice rest ih =>
    have later : ∀ me answer stopped, .go me answer stopped ∈ rest → answer = node :=
      fun me answer stopped mem => answers me answer stopped (List.mem_cons_of_mem _ mem)
    refine (ih later mem).elim (fun before => ?_) .inr
    cases choice with
    | go me answer stopped =>
      obtain rfl := answers me answer stopped (List.mem_cons_self ..)
      simp only [next] at before
      split at before
      · exact .inl before
      · split at before
        · next ev progress floor step =>
          rcases List.mem_append.1 before with before | now
          · exact .inl before
          · obtain rfl := List.mem_singleton.1 now
            obtain rfl : ev = .told r x := told
            exact .inr (Floor.told_of_move? step)
        · split at before
          · exact .inl before
          · exact .inl before
    | giveUp me =>
      simp only [next] at before
      split at before
      · exact .inl before
      · split at before
        · exact .inl before
        · exact .inl before
    | call c once => exact .inl before
    | clock now => exact .inl before
    | stop desk => exact .inl before

/-- **The log of a finished call.** What every call meets under the log, each finished call of a scene
has met with its outcome. -/
theorem logs_of_finished {calls : ι → Nat × Routine α} {Q : α → List Event → Prop}
    (safe : ∀ c, (calls c).2.Safe Watch.log Q []) (common : Common) (books : List Book)
    (choices : List (Choice ι)) {me : Nat} {job : Job α} {a : α}
    (here : ((opening common books).play calls choices).jobs[me]? = some job)
    (finished : job.progress = .finished a) :
    Q a (((opening common books).play calls choices).log me) := by
  have watched : Watched [] (fun _ _ => True) (fun log ev => log ++ [ev]) Q
      ((opening common books).play calls choices) :=
    play_watched safe (watched_opening common books) (fun _ _ hw _ change => hw.change safe change)
      choices
  have met := watched.safe me job here
  rw [finished, known_log] at met
  exact met

end Scene
end OrderDesk
