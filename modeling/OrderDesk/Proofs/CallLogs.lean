import OrderDesk.Proofs.Log

/-!
# `OrderDesk.Proofs.CallLogs` — the operations of a scene and the calls they came from

Operations stand in a scene in the order in which they were called. What every call's log is when the
call has come to its end, the log of its operation is the beginning of: at any time, also after it was
given up. Once the operation is finished its log is the whole.

## Contents
- `Begins`: the beginning of a log that meets an assertion; `Routine.Safe.begins`: an operation can
  come to its end from wherever it is.
- `Scene.called`: the calls that were made.
- `Scene.Serves`, `Scene.serves_play`: each operation with the call that it came from.
-/

namespace OrderDesk

variable {α ι : Type}

/-- Something that meets the assertion begins with the log. -/
def Begins (Q : α → List Event → Prop) (log : List Event) : Prop := ∃ a more, Q a (log ++ more)

theorem Begins.of_concat {Q : α → List Event → Prop} {log : List Event} {ev : Event}
    (h : Begins Q (log ++ [ev])) : Begins Q log := by
  obtain ⟨a, more, hQ⟩ := h
  exact ⟨a, ev :: more, by rwa [List.append_assoc] at hQ⟩

/-- **Every operation can come to its end**: any answers lead there. -/
theorem Routine.Safe.begins {Q : α → List Event → Prop} {p : Routine α} {log : List Event}
    (h : p.Safe Watch.log Q log) : Begins Q log := by
  induction p generalizing log with
  | done a => exact ⟨a, [], by rwa [List.append_nil]⟩
  | act e next ih => exact (ih _ ((Watch.log_step ..).1 (h default))).of_concat
  | ask r next ih =>
    have told := (Watch.log_step ..).1 h (.error default)
    exact (ih _ ((Watch.log_step ..).1 told)).of_concat.of_concat
  | sleep d next ih =>
    have woke := (Watch.log_step ..).1 h false
    exact (ih _ ((Watch.log_step ..).1 woke)).of_concat.of_concat
  | lock a next ih =>
    have locked := (Watch.log_step ..).1 h
    exact (ih ((Watch.log_step ..).1 locked)).of_concat.of_concat
  | unlock a next ih => exact (ih ((Watch.log_step ..).1 h)).of_concat

theorem Progress.Safe.begins {Q : α → List Event → Prop} {progress : Progress α} {log : List Event}
    (h : progress.Safe Watch.log Q log) (working : progress ≠ .givenUp) : Begins Q log := by
  cases progress with
  | ready p => exact Routine.Safe.begins h
  | inLine a next => exact (Routine.Safe.begins ((Watch.log_step ..).1 h)).of_concat
  | asleep till next => exact (Routine.Safe.begins ((Watch.log_step ..).1 (h false))).of_concat
  | asking r next =>
    exact (Routine.Safe.begins ((Watch.log_step ..).1 (h (.error default)))).of_concat
  | finished a => exact ⟨a, [], by rwa [List.append_nil]⟩
  | givenUp => exact absurd rfl working

/-- The call that a choice makes. -/
def Choice.call? : Choice ι → Option ι
  | .call c _ => some c
  | _ => none

namespace Scene

/-- The calls that were made, in their order. -/
def called (choices : List (Choice ι)) : List ι := choices.filterMap Choice.call?

/-- Every operation of the scene serves one of the calls, in their order: its log begins one of those
that its call may come to, and what is left of it leads there. -/
structure Serves (Q : ι → α → List Event → Prop) (made : List ι) (s : Scene α) : Prop where
  length : s.jobs.length = made.length
  present : ∀ deed ∈ s.history, deed.who < s.jobs.length
  begins : ∀ (me : Nat) (c : ι), made[me]? = some c → Begins (Q c) (s.log me)
  safe : ∀ (me : Nat) (job : Job α) (c : ι), s.jobs[me]? = some job → made[me]? = some c →
    job.progress.Safe Watch.log (Q c) (s.log me)

variable {Q : ι → α → List Event → Prop} {calls : ι → Nat × Routine α} {made : List ι}
  {s s' : Scene α}

/-- What was not called yet did nothing. -/
theorem Serves.log_of_le (h : Serves Q made s) {me : Nat} (later : s.jobs.length ≤ me) :
    s.log me = [] := by
  rw [← known_log]
  exact known_of_absent fun deed mem same => Nat.not_lt.2 later (same ▸ h.present deed mem)

/-- One more call. -/
theorem Serves.call (safe : ∀ c, (calls c).2.Safe Watch.log (Q c) []) (h : Serves Q made s) (c : ι)
    (once : Bool) : Serves Q (made ++ [c]) { s with jobs := s.jobs ++ [jobOf calls c once] } := by
  have fresh : s.log made.length = [] := h.log_of_le (Nat.le_of_eq h.length)
  have ofMade {me : Nat} {other : ι} (here : (made ++ [c])[me]? = some other) :
      made[me]? = some other ∨ me = made.length ∧ other = c := by
    rw [List.getElem?_append] at here
    split at here
    · exact .inl here
    · next outside =>
      rw [List.getElem?_singleton] at here
      split at here
      · exact .inr ⟨by omega, (Option.some.inj here).symm⟩
      · cases here
  refine ⟨?_, fun deed mem => ?_, fun me other here => ?_, fun me job other hjob here => ?_⟩
  · rw [List.length_append, List.length_append, h.length]
    rfl
  · rw [List.length_append]
    exact Nat.lt_add_right _ (h.present deed mem)
  · rcases ofMade here with here | ⟨rfl, rfl⟩
    · exact h.begins me other here
    · show Begins _ (s.log _)
      rw [fresh]
      exact (safe _).begins
  · show job.progress.Safe _ _ (s.log me)
    rcases ofMade here with here | ⟨rfl, rfl⟩
    · rcases of_getElem?_concat hjob with hjob | ⟨rfl, -⟩
      · exact h.safe me job other hjob here
      · rw [h.length, List.getElem?_eq_none (Nat.le_refl _)] at here
        cases here
    · rcases of_getElem?_concat hjob with hjob | ⟨-, rfl⟩
      · rw [← h.length, List.getElem?_eq_none (Nat.le_refl _)] at hjob
        cases hjob
      · rw [fresh]
        exact safe _

/-- Any other change, which replaces at most one operation by what is left of it. -/
theorem Serves.change (h : Serves Q made s) (change : Change calls s s')
    (same : s'.jobs.length = s.jobs.length) : Serves Q made s' := by
  have replaced (me : Nat) (new : Job α) (hnew : ∀ c, made[me]? = some c →
      new.progress.Safe Watch.log (Q c) (s.log me)) :
      ∀ (other : Nat) (job : Job α) (c : ι), (s.jobs.set me new)[other]? = some job →
        made[other]? = some c → job.progress.Safe Watch.log (Q c) (s.log other) := by
    intro other job c hjob here
    rcases of_getElem?_set hjob with ⟨rfl, rfl⟩ | ⟨-, hjob⟩
    · exact hnew c here
    · exact h.safe other job c hjob here
  cases change with
  | still => exact h
  | call c once =>
    rw [List.length_append] at same
    exact absurd same (Nat.ne_of_gt (Nat.lt_succ_self _))
  | @move me job ev progress floor here step =>
    have stepped {c : ι} (own : made[me]? = some c) :
        progress.Safe Watch.log (Q c) (s.log me ++ [ev]) :=
      (Watch.log_step ..).1 (step.safe (h.safe me job c here own))
    refine ⟨same.trans h.length, fun deed mem => ?_, fun other c own => ?_,
      fun other job' c hjob own => ?_⟩
    · rw [same]
      rcases List.mem_append.1 mem with mem | mem
      · exact h.present deed mem
      · rw [List.mem_singleton.1 mem]
        exact (List.getElem?_eq_some_iff.1 here).1
    · rw [log_took]
      split
      · next mine =>
        subst mine
        exact (stepped own).begins step.working
      · exact h.begins other c own
    · rw [log_took]
      rcases of_getElem?_set hjob with ⟨rfl, rfl⟩ | ⟨ne, hjob⟩
      · rw [if_pos rfl]
        exact stepped own
      · rw [if_neg (Ne.symm ne)]
        exact h.safe other job' c hjob own
  | @finish me job a here ended =>
    refine ⟨same.trans h.length, fun deed mem => same ▸ h.present deed mem, h.begins,
      replaced me _ fun c own => ?_⟩
    have left := h.safe me job c here own
    rw [ended] at left
    exact left
  | @giveUp me job here may =>
    exact ⟨same.trans h.length, fun deed mem => same ▸ h.present deed mem, h.begins,
      replaced me _ fun _ _ => trivial⟩
  | clock now => exact ⟨h.length, h.present, h.begins, h.safe⟩
  | stop desk => exact ⟨h.length, h.present, h.begins, h.safe⟩

/-- A choice that is no call leaves as many operations as there were. -/
theorem length_next {choice : Choice ι} (none : choice.call? = none) :
    (s.next calls choice).jobs.length = s.jobs.length := by
  cases choice with
  | call c once => cases none
  | go me answer stopped =>
    simp only [next]
    split
    · rfl
    · split
      · exact List.length_set ..
      · split
        · exact List.length_set ..
        · rfl
  | giveUp me =>
    simp only [next]
    split
    · rfl
    · split
      · exact List.length_set ..
      · rfl
  | clock now => rfl
  | stop desk => rfl

/-- **Whatever happens, every operation serves its call.** -/
theorem serves_play (safe : ∀ c, (calls c).2.Safe Watch.log (Q c) []) (common : Common)
    (books : List Book) (choices : List (Choice ι)) :
    Serves Q (called choices) ((opening common books).play calls choices) := by
  have onward : ∀ (choices : List (Choice ι)) (made : List ι) (s : Scene α), Serves Q made s →
      Serves Q (made ++ called choices) (s.play calls choices) := by
    intro choices
    induction choices with
    | nil =>
      intro made s h
      rwa [called, List.filterMap_nil, List.append_nil]
    | cons choice rest ih =>
      intro made s h
      cases calling : choice.call? with
      | none =>
        rw [called, List.filterMap_cons_none calling]
        exact ih made _ (h.change (change_next calls s choice) (length_next calling))
      | some c =>
        rw [called, List.filterMap_cons_some calling, List.append_cons]
        cases choice with
        | call other once =>
          obtain rfl : other = c := Option.some.inj calling
          exact ih _ _ (h.call safe other once)
        | _ => cases calling
  have first : Serves Q [] (opening common books : Scene α) := by
    refine ⟨rfl, fun _ mem => absurd mem List.not_mem_nil, fun _ _ here => ?_, fun _ _ _ _ here => ?_⟩
    · cases here
    · cases here
  exact onward choices [] _ first

end Scene
end OrderDesk
