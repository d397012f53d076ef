import OrderDesk.Routine.Basic

/-!
# `OrderDesk.Proofs.Watch` — what holds of an operation whatever it is answered

An operation is a tree of steps, so what it does is a sequence of events: steps on the desk's state
with their answers, questions and replies, pauses, and the wallet's lock. A *watch* follows these
events with a state of its own and says which of them it lets pass. `Routine.Safe` is the weakest
precondition of an operation under a watch: every event passes and the outcome meets an assertion,
for every reply of the outside and every state of the desk in which a step may find it.

## Contents
- `Event`, `Watch`, `Routine.Safe` with sequencing (`Routine.safe_bind`) and consequence.
- `Attempt.Safe`: the rules for operations that may fail, one per way of building them.
- `Attempt.Only`: an operation whose events are all of one kind, and what a watch that ignores such
  events learns from that (`Attempt.Only.safe`).
-/

namespace OrderDesk

/-- What an operation does or learns. -/
inductive Event where
  | did (effect : Effect) (answer : effect.Answer)
  | asked (request : Request)
  | told (request : Request) (reply : request.Reply)
  | slept (duration : Duration)
  | woke (stopped : Bool)
  /-- It came to the end of the line for a wallet's lock. -/
  | queued (wallet : Address)
  | locked (wallet : Address)
  | unlocked (wallet : Address)

/-- An answer that records contradict each other. -/
def Event.Contradicts : Event → Prop
  | did (.broadcast _ _) (.error _) => True
  | did (.resolve _ _) (.error _) => True
  | _ => False

/-- An observer of operations with states of type `S`. -/
structure Watch (S : Type) where
  /-- The events let pass. -/
  may : S → Event → Prop
  /-- How an event changes the observer's state. -/
  next : S → Event → S → Prop

namespace Watch

variable {S : Type}

/-- The event passes, and `P` holds in every state after it. -/
def Step (w : Watch S) (s : S) (ev : Event) (P : S → Prop) : Prop :=
  w.may s ev ∧ ∀ s', w.next s ev s' → P s'

theorem Step.mono {w : Watch S} {s : S} {ev : Event} {P P' : S → Prop} (h : w.Step s ev P)
    (hP : ∀ s', P s' → P' s') : w.Step s ev P' :=
  ⟨h.1, fun s' hs' => hP s' (h.2 s' hs')⟩

/-- A watch whose state after an event is computed. -/
def tracking (may : S → Event → Prop) (after : S → Event → S) : Watch S :=
  ⟨may, fun s ev s' => s' = after s ev⟩

@[simp] theorem tracking_step (may : S → Event → Prop) (after : S → Event → S) (s : S)
    (ev : Event) (P : S → Prop) :
    (tracking may after).Step s ev P ↔ may s ev ∧ P (after s ev) := by
  unfold Step tracking
  constructor
  · rintro ⟨hmay, hP⟩
    exact ⟨hmay, hP _ rfl⟩
  · rintro ⟨hmay, hP⟩
    refine ⟨hmay, ?_⟩
    rintro s' rfl
    exact hP

/-- Lets one kind of events pass and keeps no state. -/
def only (kind : Event → Prop) : Watch Unit := tracking (fun _ ev => kind ev) fun _ _ => ()

/-- The event passes and leaves the watch where it is. -/
def Ignores (w : Watch S) (s : S) (ev : Event) : Prop := w.Step s ev (· = s)

end Watch

namespace Routine

variable {S α β : Type} {w : Watch S}

/-- Every event of the operation passes the watch, and its outcome meets `Q`. -/
def Safe (w : Watch S) (Q : α → S → Prop) : Routine α → S → Prop
  | done a, s => Q a s
  | act e next, s =>
    ∀ d : Desk, w.Step s (.did e (e.apply d).1) (Safe w Q (next (e.apply d).1))
  | ask r next, s =>
    w.Step s (.asked r) fun s => ∀ x : r.Reply, w.Step s (.told r x) (Safe w Q (next x))
  | sleep t next, s =>
    w.Step s (.slept t) fun s => ∀ b : Bool, w.Step s (.woke b) (Safe w Q (next b))
  | lock a next, s =>
    w.Step s (.queued a) fun s => w.Step s (.locked a) (Safe w Q next)
  | unlock a next, s => w.Step s (.unlocked a) (Safe w Q next)

/-- The first operation is safe if the second is wherever the first ends. -/
theorem safe_bind {Q : β → S → Prop} (p : Routine α) (f : α → Routine β) (s : S) :
    (p.bind f).Safe w Q s ↔ p.Safe w (fun a => (f a).Safe w Q) s := by
  induction p generalizing s with
  | done a => rfl
  | act e next ih => simp only [bind, Safe, Watch.Step, ih]
  | ask r next ih => simp only [bind, Safe, Watch.Step, ih]
  | sleep t next ih => simp only [bind, Safe, Watch.Step, ih]
  | lock a next ih => simp only [bind, Safe, Watch.Step, ih]
  | unlock a next ih => simp only [bind, Safe, Watch.Step, ih]

/-- **Consequence.** A weaker assertion is met as well. -/
theorem Safe.mono {Q Q' : α → S → Prop} {p : Routine α} {s : S} (h : p.Safe w Q s)
    (hQ : ∀ a s, Q a s → Q' a s) : p.Safe w Q' s := by
  induction p generalizing s with
  | done a => exact hQ a s h
  | act e next ih =>
    intro d
    exact Watch.Step.mono (h d) fun s' hs' => ih _ hs'
  | ask r next ih =>
    refine Watch.Step.mono h fun s₁ h₁ x => ?_
    exact Watch.Step.mono (h₁ x) fun s₂ h₂ => ih x h₂
  | sleep t next ih =>
    refine Watch.Step.mono h fun s₁ h₁ b => ?_
    exact Watch.Step.mono (h₁ b) fun s₂ h₂ => ih b h₂
  | lock a next ih =>
    refine Watch.Step.mono h fun s₁ h₁ => ?_
    exact Watch.Step.mono h₁ fun s₂ h₂ => ih h₂
  | unlock a next ih => exact Watch.Step.mono h fun s' hs' => ih hs'

/-- Two assertions that are met are met together. -/
theorem Safe.and {Q Q' : α → S → Prop} {p : Routine α} {s : S} (h : p.Safe w Q s)
    (h' : p.Safe w Q' s) : p.Safe w (fun a s => Q a s ∧ Q' a s) s := by
  induction p generalizing s with
  | done a => exact ⟨h, h'⟩
  | act e next ih =>
    intro d
    exact ⟨(h d).1, fun s₁ h₁ => ih _ ((h d).2 s₁ h₁) ((h' d).2 s₁ h₁)⟩
  | ask r next ih =>
    refine ⟨h.1, fun s₁ h₁ x => ⟨(h.2 s₁ h₁ x).1, fun s₂ h₂ => ?_⟩⟩
    exact ih x ((h.2 s₁ h₁ x).2 s₂ h₂) ((h'.2 s₁ h₁ x).2 s₂ h₂)
  | sleep t next ih =>
    refine ⟨h.1, fun s₁ h₁ b => ⟨(h.2 s₁ h₁ b).1, fun s₂ h₂ => ?_⟩⟩
    exact ih b ((h.2 s₁ h₁ b).2 s₂ h₂) ((h'.2 s₁ h₁ b).2 s₂ h₂)
  | lock a next ih =>
    refine ⟨h.1, fun s₁ h₁ => ⟨(h.2 s₁ h₁).1, fun s₂ h₂ => ?_⟩⟩
    exact ih ((h.2 s₁ h₁).2 s₂ h₂) ((h'.2 s₁ h₁).2 s₂ h₂)
  | unlock a next ih => exact ⟨h.1, fun s₁ h₁ => ih (h.2 s₁ h₁) (h'.2 s₁ h₁)⟩

/-- **Refinement of watches.** What a stricter watch lets pass, a watch that follows it lets pass:
`R` relates their states, and each event that the first permits keeps them related. -/
theorem Safe.simulate {T : Type} {v : Watch T} {R : S → T → Prop} {Q : α → S → Prop}
    {Q' : α → T → Prop}
    (step : ∀ s t ev, R s t → w.may s ev → v.Step t ev fun t' => ∃ s', w.next s ev s' ∧ R s' t')
    (result : ∀ a s t, R s t → Q a s → Q' a t) {p : Routine α} {s : S} {t : T} (hR : R s t)
    (h : p.Safe w Q s) : p.Safe v Q' t := by
  induction p generalizing s t with
  | done a => exact result a s t hR h
  | act e next ih =>
    intro d
    refine (step s t _ hR (h d).1).mono ?_
    rintro t' ⟨s', hs', hR'⟩
    exact ih _ hR' ((h d).2 s' hs')
  | ask r next ih =>
    refine (step s t _ hR h.1).mono ?_
    rintro t₁ ⟨s₁, hs₁, hR₁⟩ x
    have hx := h.2 s₁ hs₁ x
    refine (step s₁ t₁ _ hR₁ hx.1).mono ?_
    rintro t₂ ⟨s₂, hs₂, hR₂⟩
    exact ih x hR₂ (hx.2 s₂ hs₂)
  | sleep d next ih =>
    refine (step s t _ hR h.1).mono ?_
    rintro t₁ ⟨s₁, hs₁, hR₁⟩ b
    have hb := h.2 s₁ hs₁ b
    refine (step s₁ t₁ _ hR₁ hb.1).mono ?_
    rintro t₂ ⟨s₂, hs₂, hR₂⟩
    exact ih b hR₂ (hb.2 s₂ hs₂)
  | lock a next ih =>
    refine (step s t _ hR h.1).mono ?_
    rintro t₁ ⟨s₁, hs₁, hR₁⟩
    have hl := h.2 s₁ hs₁
    refine (step s₁ t₁ _ hR₁ hl.1).mono ?_
    rintro t₂ ⟨s₂, hs₂, hR₂⟩
    exact ih hR₂ (hl.2 s₂ hs₂)
  | unlock a next ih =>
    refine (step s t _ hR h.1).mono ?_
    rintro t' ⟨s', hs', hR'⟩
    exact ih hR' (h.2 s' hs')

end Routine

namespace Attempt

variable {S α β : Type} {w : Watch S}

/-- `Routine.Safe` for an operation that may fail. -/
def Safe (w : Watch S) (Q : Except Fault α → S → Prop) (p : Attempt α) (s : S) : Prop :=
  Routine.Safe w Q p.run s

/-- An assertion on a result; nothing is said of a failure. -/
def IfOk (P : α → S → Prop) : Except Fault α → S → Prop
  | .ok a, s => P a s
  | .error _, _ => True

/-- An assertion on a result and one on an error; nothing is said of a breakdown. -/
def Verdict (P : α → S → Prop) (E : DeskError → S → Prop) : Except Fault α → S → Prop
  | .ok a, s => P a s
  | .error (.error e), s => E e s
  | .error (.breakdown _), _ => True

/-- An assertion on a result and one on where a failure of any kind leaves the watch. -/
def Either (P : α → S → Prop) (F : S → Prop) : Except Fault α → S → Prop
  | .ok a, s => P a s
  | .error _, s => F s

/-- How an operation goes on with a result: a failure is the result of the whole. -/
def Onward (w : Watch S) (Q : Except Fault β → S → Prop) (f : α → Attempt β) :
    Except Fault α → S → Prop
  | .ok a, s => (f a).Safe w Q s
  | .error fault, s => Q (.error fault) s

@[simp] theorem safe_pure {Q : Except Fault α → S → Prop} (a : α) (s : S) :
    (pure a : Attempt α).Safe w Q s ↔ Q (.ok a) s := Iff.rfl

@[simp] theorem safe_throw {Q : Except Fault α → S → Prop} (f : Fault) (s : S) :
    (throw f : Attempt α).Safe w Q s ↔ Q (.error f) s := Iff.rfl

@[simp] theorem safe_fail {Q : Except Fault α → S → Prop} (e : DeskError) (s : S) :
    (fail e : Attempt α).Safe w Q s ↔ Q (.error (.error e)) s := Iff.rfl

@[simp] theorem safe_breakdown {Q : Except Fault α → S → Prop} (b : Breakdown) (s : S) :
    (breakdown b : Attempt α).Safe w Q s ↔ Q (.error (.breakdown b)) s := Iff.rfl

theorem safe_bind {Q : Except Fault β → S → Prop} (p : Attempt α) (f : α → Attempt β) (s : S) :
    (p >>= f).Safe w Q s ↔ p.Safe w (Onward w Q f) s := by
  show Routine.Safe w Q (Routine.bind p.run (ExceptT.bindCont f)) s ↔ _
  rw [Routine.safe_bind]
  unfold Safe
  have same : (fun r => Routine.Safe w Q (ExceptT.bindCont f r)) = Onward w Q f := by
    funext r
    cases r <;> rfl
  rw [same]

theorem Safe.mono {Q Q' : Except Fault α → S → Prop} {p : Attempt α} {s : S} (h : p.Safe w Q s)
    (hQ : ∀ r s, Q r s → Q' r s) : p.Safe w Q' s :=
  Routine.Safe.mono h hQ

/-- **Sequencing.** An assertion `R` between the two halves; a failure of the first is passed on. -/
theorem Safe.bind {R : Except Fault α → S → Prop} {Q : Except Fault β → S → Prop} {p : Attempt α}
    {f : α → Attempt β} {s : S} (hp : p.Safe w R s)
    (ok : ∀ a s', R (.ok a) s' → (f a).Safe w Q s')
    (error : ∀ fault s', R (.error fault) s' → Q (.error fault) s') : (p >>= f).Safe w Q s := by
  rw [safe_bind]
  refine hp.mono fun r s' hr => ?_
  cases r with
  | ok a => exact ok a s' hr
  | error fault => exact error fault s' hr

/-- Sequencing with verdicts. -/
theorem Verdict.bind {P : α → S → Prop} {P' : β → S → Prop} {E : DeskError → S → Prop}
    {p : Attempt α} {f : α → Attempt β} {s : S} (hp : p.Safe w (Verdict P E) s)
    (next : ∀ a s', P a s' → (f a).Safe w (Verdict P' E) s') :
    (p >>= f).Safe w (Verdict P' E) s := by
  refine Safe.bind hp next fun fault s' h => ?_
  cases fault with
  | error e => exact h
  | breakdown b => trivial

/-- Weaker assertions are met as well. -/
theorem Verdict.mono {P P' : α → S → Prop} {E E' : DeskError → S → Prop} {p : Attempt α} {s : S}
    (h : p.Safe w (Verdict P E) s) (hP : ∀ a s, P a s → P' a s) (hE : ∀ e s, E e s → E' e s) :
    p.Safe w (Verdict P' E') s := by
  refine Safe.mono h fun r s' hr => ?_
  match r, hr with
  | .ok a, hr => exact hP a s' hr
  | .error (.error e), hr => exact hE e s' hr
  | .error (.breakdown _), _ => trivial

@[simp] theorem safe_act {e : Effect} {Q : Except Fault e.Answer → S → Prop} {s : S} :
    (act e).Safe w Q s ↔ ∀ d : Desk, w.Step s (.did e (e.apply d).1) (Q (.ok (e.apply d).1)) :=
  Iff.rfl

@[simp] theorem safe_reply {r : Request} {Q : Except Fault r.Reply → S → Prop} {s : S} :
    (reply r).Safe w Q s ↔
      w.Step s (.asked r) fun s => ∀ x : r.Reply, w.Step s (.told r x) (Q (.ok x)) :=
  Iff.rfl

@[simp] theorem safe_sleep {t : Duration} {Q : Except Fault Bool → S → Prop} {s : S} :
    (sleep t).Safe w Q s ↔
      w.Step s (.slept t) fun s => ∀ b : Bool, w.Step s (.woke b) (Q (.ok b)) :=
  Iff.rfl

@[simp] theorem safe_lock {a : Address} {Q : Except Fault Unit → S → Prop} {s : S} :
    (lock a).Safe w Q s ↔
      w.Step s (.queued a) fun s => w.Step s (.locked a) (Q (.ok ())) :=
  Iff.rfl

@[simp] theorem safe_unlock {a : Address} {Q : Except Fault Unit → S → Prop} {s : S} :
    (unlock a).Safe w Q s ↔ w.Step s (.unlocked a) (Q (.ok ())) :=
  Iff.rfl

@[simp] theorem safe_outcome {Q : Except Fault (Except Fault α) → S → Prop} {p : Attempt α}
    {s : S} : (outcome p).Safe w Q s ↔ p.Safe w (fun r => Q (.ok r)) s := by
  show Routine.Safe w Q (Routine.bind p.run fun r => .done (.ok r)) s ↔ _
  rw [Routine.safe_bind]
  rfl

@[simp] theorem safe_ofExcept {Q : Except Fault α → S → Prop} {r : Except DeskError α} {s : S} :
    (ofExcept r).Safe w Q s ↔ Q (r.mapError .error) s := by
  cases r <;> rfl

@[simp] theorem safe_ofOutcome {Q : Except Fault α → S → Prop} {r : Except Breakdown α} {s : S} :
    (ofOutcome r).Safe w Q s ↔ Q (r.mapError .breakdown) s := by
  cases r <;> rfl

@[simp] theorem safe_ofFault {Q : Except Fault α → S → Prop} {r : Except Fault α} {s : S} :
    (ofFault r).Safe w Q s ↔ Q r s := by
  cases r <;> rfl

/-- A question whose error is the operation's. -/
theorem safe_ask {r : Request} {Q : Except Fault r.Answer → S → Prop} {s : S} :
    (ask r).Safe w Q s ↔
      w.Step s (.asked r) fun s =>
        ∀ x : r.Reply, w.Step s (.told r x) (Q (x.mapError .error)) := by
  unfold ask
  rw [safe_bind, safe_reply]
  have onward (x : r.Reply) :
      Onward w Q (fun result => ofExcept result) (.ok x) = Q (x.mapError .error) := by
    funext s
    exact propext safe_ofExcept
  simp only [onward]

/-- **The section under a lock.** The lock is given back whatever the result of the section is. -/
theorem safe_locked {a : Address} {body : Attempt α} {Q : Except Fault α → S → Prop} {s : S} :
    (locked a body).Safe w Q s ↔
      w.Step s (.queued a) fun s => w.Step s (.locked a) fun s =>
        body.Safe w (fun r s => w.Step s (.unlocked a) (Q r)) s := by
  unfold locked
  rw [safe_bind, safe_lock]
  -- The lock is given back before the result is passed on, whichever it is.
  have leave (r : Except Fault α) : Onward w Q (fun result => do
      unlock a
      ofFault result) (.ok r) = fun s => w.Step s (.unlocked a) (Q r) := by
    funext s
    show Safe w Q _ s = _
    rw [safe_bind, safe_unlock]
    refine congrArg (w.Step s (.unlocked a)) ?_
    funext s
    exact propext safe_ofFault
  have inside : Onward w Q (fun _ => do
      let result ← outcome body
      unlock a
      ofFault result) (.ok ()) = body.Safe w fun r s => w.Step s (.unlocked a) (Q r) := by
    funext s
    show Safe w Q _ s = _
    rw [safe_bind, safe_outcome]
    simp only [leave]
  rw [inside]

/-! ### Operations of one kind of events -/

variable {kind : Event → Prop}

/-- Records contradict each other only if an event of the kind says so. -/
def Sound (kind : Event → Prop) (r : Except Fault α) : Prop :=
  ∀ text, r = .error (.breakdown (.assertion text)) → ∃ ev, kind ev ∧ ev.Contradicts

theorem Sound.ok (a : α) : Sound kind (.ok a : Except Fault α) := fun _ same => by cases same

theorem Sound.fail (e : DeskError) : Sound kind (.error (.error e) : Except Fault α) :=
  fun _ same => by cases same

theorem Sound.arithmetic : Sound kind (.error (.breakdown .arithmetic) : Except Fault α) :=
  fun _ same => by cases same

/-- A fault is as sound for any other result. -/
theorem Sound.passed {f : Fault} (h : Sound kind (.error f : Except Fault α)) :
    Sound kind (.error f : Except Fault β) :=
  fun text same => h text (by cases same; rfl)

theorem Sound.mono {kind' : Event → Prop} {r : Except Fault α} (h : Sound kind r)
    (sub : ∀ ev, kind ev → kind' ev) : Sound kind' r := by
  intro text same
  obtain ⟨ev, hev, contradicts⟩ := h text same
  exact ⟨ev, sub ev hev, contradicts⟩

/-- All events of the operation are of a kind, and so are its contradictions. -/
def Only (kind : Event → Prop) (p : Attempt α) : Prop :=
  p.Safe (Watch.only kind) (fun r _ => Sound kind r) ()

/-- What every event of a kind keeps, an operation of that kind keeps. -/
theorem Only.keeps {I : S → Prop} {p : Attempt α} {s : S} (h : p.Only kind)
    (step : ∀ s ev, kind ev → I s → w.Step s ev I) (first : I s) :
    p.Safe w (fun r s => I s ∧ Sound kind r) s := by
  -- The watch of the kind has no state of its own, so the invariant alone relates the two.
  refine Routine.Safe.simulate (R := fun _ t => I t) ?_ ?_ first h
  · intro _ t ev ht hev
    refine (step t ev hev ht).mono fun t' ht' => ?_
    exact ⟨(), rfl, ht'⟩
  · exact fun _ _ t ht sound => ⟨ht, sound⟩

/-- **A watch that ignores a kind of events** stays where it is during an operation of that kind. -/
theorem Only.safe {Q : Except Fault α → S → Prop} {p : Attempt α} {s : S} (h : p.Only kind)
    (ignores : ∀ ev, kind ev → w.Ignores s ev) (hQ : ∀ r, Q r s) : p.Safe w Q s := by
  have stays : p.Safe w (fun r t => t = s ∧ Sound kind r) s := by
    refine h.keeps ?_ rfl
    rintro _ ev hev rfl
    exact ignores ev hev
  refine stays.mono ?_
  rintro r _ ⟨rfl, -⟩
  exact hQ r

/-- After operations of a kind that a watch ignores, it follows the next one from where it was. -/
theorem Only.followed {Q : Except Fault β → S → Prop} {p : Attempt α} {f : α → Attempt β} {s : S}
    (h : p.Only kind) (ignores : ∀ ev, kind ev → w.Ignores s ev)
    (stop : ∀ fault, Q (.error fault) s) (next : ∀ a, (f a).Safe w Q s) : (p >>= f).Safe w Q s := by
  rw [safe_bind]
  refine h.safe ignores fun r => ?_
  cases r with
  | ok a => exact next a
  | error fault => exact stop fault

theorem Only.mono {kind' : Event → Prop} {p : Attempt α} (h : p.Only kind)
    (sub : ∀ ev, kind ev → kind' ev) : p.Only kind' := by
  refine Safe.mono (h.keeps (I := fun _ => True) (fun _ ev hev _ => ?_) trivial) fun r _ kept => ?_
  · exact (Watch.tracking_step ..).2 ⟨sub ev hev, trivial⟩
  · exact kept.2.mono sub

@[simp] theorem only_pure (a : α) : (pure a : Attempt α).Only kind := Sound.ok a

@[simp] theorem only_fail (e : DeskError) : (fail e : Attempt α).Only kind := Sound.fail e

@[simp] theorem only_arithmetic : (breakdown .arithmetic : Attempt α).Only kind := Sound.arithmetic

@[simp] theorem only_ofExcept (r : Except DeskError α) : (ofExcept r).Only kind := by
  refine safe_ofExcept.2 ?_
  cases r with
  | ok a => exact Sound.ok a
  | error e => exact Sound.fail e

theorem only_ofOutcome {r : Except Breakdown α} :
    (ofOutcome r).Only kind ↔ Sound kind (r.mapError .breakdown) := safe_ofOutcome

theorem only_ofFault {r : Except Fault α} : (ofFault r).Only kind ↔ Sound kind r := safe_ofFault

theorem Only.bind {p : Attempt α} {f : α → Attempt β} (hp : p.Only kind)
    (hf : ∀ a, (f a).Only kind) : (p >>= f).Only kind :=
  Safe.bind hp (fun a _ _ => hf a) fun _ _ sound => sound.passed

/-- A failure that is caught is as sound as the operation. -/
theorem Only.caught {p : Attempt α} {f : Except Fault α → Attempt β} (hp : p.Only kind)
    (hf : ∀ r, Sound kind r → (f r).Only kind) : (outcome p >>= f).Only kind := by
  unfold Only
  rw [safe_bind, safe_outcome]
  exact Safe.mono hp fun r _ sound => hf r sound

theorem only_act {e : Effect} : (act e).Only kind ↔ ∀ d : Desk, kind (.did e (e.apply d).1) := by
  unfold Only
  simp [Watch.only, Sound.ok]

theorem only_reply {r : Request} :
    (reply r).Only kind ↔ kind (.asked r) ∧ ∀ x : r.Reply, kind (.told r x) := by
  unfold Only
  simp [Watch.only, Sound.ok]

theorem only_ask {r : Request} :
    (ask r).Only kind ↔ kind (.asked r) ∧ ∀ x : r.Reply, kind (.told r x) := by
  have sound (x : r.Reply) : Sound kind (x.mapError Fault.error) := by
    cases x with
    | ok a => exact Sound.ok a
    | error e => exact Sound.fail e
  unfold Only
  simp [safe_ask, Watch.only, sound]

theorem only_sleep {t : Duration} :
    (sleep t).Only kind ↔ kind (.slept t) ∧ ∀ b, kind (.woke b) := by
  unfold Only
  rw [safe_sleep]
  simp [Watch.only, Sound.ok]

theorem Only.locked {a : Address} {body : Attempt α} (came : kind (.queued a))
    (took : kind (.locked a)) (left : kind (.unlocked a)) (h : body.Only kind) :
    (Attempt.locked a body).Only kind := by
  unfold Only
  rw [safe_locked]
  simp only [Watch.only, Watch.tracking_step]
  refine ⟨came, took, Safe.mono h fun _ _ sound => ?_⟩
  exact ⟨left, sound⟩

end Attempt
end OrderDesk
