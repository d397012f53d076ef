import OrderDesk.Proofs.Parts
import OrderDesk.Routine.Run

/-!
# `OrderDesk.Proofs.Alone` — operations that run alone

`Routine.run` carries the desk and the outside from step to step. The watch `Environment.alone` lets
every event pass and follows both, so its weakest precondition is the run itself: what is shown with
the rules of `Attempt.Safe` holds of the outcome and of the state after it.

## Contents
- `Environment.alone`, `Routine.safe_alone`: the run as a weakest precondition, with its rules.
- `Environment.noted`: an outside that notes down what it is asked and what it answers.
- `Desk.Same`, `Only.alone_same`: parts that leave orders, nonces, counters and failures alone.
-/

namespace OrderDesk

namespace Environment

variable {ε : Type}

/-- The state after a question and its reply. -/
def answered (env : Environment ε) (s : Desk × ε) (r : Request) : Desk × ε :=
  (s.1.pass (env.reply s.2 r).2.1, (env.reply s.2 r).2.2)

/-- The state after a pause. -/
def rested (env : Environment ε) (s : Desk × ε) (d : Duration) : Desk × ε :=
  (s.1.pass (env.sleep s.2 d).1, (env.sleep s.2 d).2)

/-- Follows an operation that runs alone. -/
def alone (env : Environment ε) : Watch (Desk × ε) where
  may _ _ := True
  next s ev s' := match ev with
    | .did e x => x = (e.apply s.1).1 ∧ s' = ((e.apply s.1).2, s.2)
    | .asked _ | .queued _ | .locked _ | .unlocked _ => s' = s
    | .told r x => x = (env.reply s.2 r).1 ∧ s' = env.answered s r
    | .slept d => s' = env.rested s d
    | .woke b => b = s.1.book.stopping ∧ s' = s

end Environment

/-- **The run is the weakest precondition.** -/
theorem Routine.safe_alone {ε α : Type} {env : Environment ε} {Q : α → Desk × ε → Prop}
    (p : Routine α) (s : Desk × ε) :
    p.Safe env.alone Q s ↔ Q (p.run env s.1 s.2).1 (p.run env s.1 s.2).2 := by
  induction p generalizing s with
  | done a => rfl
  | act e next ih =>
    refine Iff.trans ⟨fun h => ?_, fun h d => ⟨trivial, ?_⟩⟩ (ih (e.apply s.1).1 ((e.apply s.1).2, s.2))
    · exact (h s.1).2 _ ⟨rfl, rfl⟩
    · rintro s' ⟨same, rfl⟩
      exact same ▸ h
  | ask r next ih =>
    refine Iff.trans ⟨fun h => ?_, fun h => ⟨trivial, ?_⟩⟩ (ih (env.reply s.2 r).1 (env.answered s r))
    · exact (h.2 s rfl (env.reply s.2 r).1).2 _ ⟨rfl, rfl⟩
    · rintro _ rfl x
      refine ⟨trivial, ?_⟩
      rintro _ ⟨rfl, rfl⟩
      exact h
  | sleep d next ih =>
    refine Iff.trans ⟨fun h => ?_, fun h => ⟨trivial, ?_⟩⟩
      (ih (env.rested s d).1.book.stopping (env.rested s d))
    · exact (h.2 _ rfl _).2 _ ⟨rfl, rfl⟩
    · rintro _ rfl b
      refine ⟨trivial, ?_⟩
      rintro _ ⟨rfl, rfl⟩
      exact h
  | lock a next ih =>
    refine Iff.trans ⟨fun h => ?_, fun h => ⟨trivial, ?_⟩⟩ (ih s)
    · exact (h.2 s rfl).2 s rfl
    · rintro _ rfl
      refine ⟨trivial, ?_⟩
      rintro _ rfl
      exact h
  | unlock a next ih =>
    refine Iff.trans ⟨fun h => ?_, fun h => ⟨trivial, ?_⟩⟩ (ih s)
    · exact h.2 s rfl
    · rintro _ rfl
      exact h

namespace Attempt

variable {ε α β : Type} {env : Environment ε} {s : Desk × ε}

/-- The outcome of an operation that runs alone, with the state after it. -/
def runAlone (p : Attempt α) (env : Environment ε) (s : Desk × ε) : Except Fault α × (Desk × ε) :=
  (ExceptT.run p).run env s.1 s.2

theorem safe_alone {Q : Except Fault α → Desk × ε → Prop} {p : Attempt α} :
    p.Safe env.alone Q s ↔ Q (p.runAlone env s).1 (p.runAlone env s).2 :=
  Routine.safe_alone _ _

/-- What an operation comes to is one thing: the outcome of its run. -/
theorem safe_eq (p : Attempt α) :
    p.Safe env.alone (fun r s' => (r, s') = p.runAlone env s) s :=
  safe_alone.2 rfl

/-- Of one run both hold. -/
theorem safe_both {Q Q' : Except Fault α → Desk × ε → Prop} {p : Attempt α}
    (h : p.Safe env.alone Q s) (h' : p.Safe env.alone Q' s) :
    p.Safe env.alone (fun r s' => Q r s' ∧ Q' r s') s :=
  safe_alone.2 ⟨safe_alone.1 h, safe_alone.1 h'⟩

theorem alone_act {e : Effect} {Q : Except Fault e.Answer → Desk × ε → Prop} :
    (act e).Safe env.alone Q s ↔ Q (.ok (e.apply s.1).1) ((e.apply s.1).2, s.2) :=
  safe_alone

theorem alone_reply {r : Request} {Q : Except Fault r.Reply → Desk × ε → Prop} :
    (reply r).Safe env.alone Q s ↔ Q (.ok (env.reply s.2 r).1) (env.answered s r) :=
  safe_alone

/-! What follows a step of one of these kinds runs in the state after it. -/

variable {Q : Except Fault β → Desk × ε → Prop}

theorem alone_act_bind {e : Effect} {f : e.Answer → Attempt β} :
    (act e >>= f).Safe env.alone Q s ↔
      (f (e.apply s.1).1).Safe env.alone Q ((e.apply s.1).2, s.2) := by
  rw [safe_bind, alone_act]
  rfl

theorem alone_reply_bind {r : Request} {f : r.Reply → Attempt β} :
    (reply r >>= f).Safe env.alone Q s ↔
      (f (env.reply s.2 r).1).Safe env.alone Q (env.answered s r) := by
  rw [safe_bind, alone_reply]
  rfl

/-- A pause ends early when the desk was told to stop. -/
theorem alone_sleep_bind {d : Duration} {f : Bool → Attempt β} :
    (sleep d >>= f).Safe env.alone Q s ↔
      (f (env.rested s d).1.book.stopping).Safe env.alone Q (env.rested s d) := by
  rw [safe_bind]
  exact safe_alone

/-- The wallet's lock is free. -/
theorem alone_locked {a : Address} {body : Attempt α} {Q : Except Fault α → Desk × ε → Prop}
    (h : body.Safe env.alone Q s) : (locked a body).Safe env.alone Q s := by
  rw [safe_locked]
  refine ⟨trivial, ?_⟩
  rintro _ rfl
  refine ⟨trivial, ?_⟩
  rintro _ rfl
  refine h.mono fun r s' hr => ⟨trivial, ?_⟩
  rintro _ rfl
  exact hr

/-! ### Runs step by step -/

/-- What a run comes to, with the rules for what must hold of it. -/
theorem runAlone_eq {p : Attempt α} {x : Except Fault α × (Desk × ε)}
    (h : p.Safe env.alone (fun r t => (r, t) = x) s) : p.runAlone env s = x := safe_alone.1 h

/-- Of operations that run alike the same holds. -/
theorem alone_congr {p p' : Attempt α} {Q : Except Fault α → Desk × ε → Prop}
    (same : p.runAlone env s = p'.runAlone env s) (h : p'.Safe env.alone Q s) :
    p.Safe env.alone Q s := by
  rw [safe_alone, same]
  exact safe_alone.1 h

/-- What follows an operation that succeeds runs in the state it leaves. -/
theorem runAlone_ok {p : Attempt α} {f : α → Attempt β} {a : α} {s' : Desk × ε}
    (h : p.runAlone env s = (.ok a, s')) : (p >>= f).runAlone env s = (f a).runAlone env s' := by
  have first : p.Safe env.alone (fun r t => (r, t) = (.ok a, s')) s := h ▸ safe_eq p
  refine runAlone_eq (Safe.bind first ?_ fun fault t same => nomatch same)
  rintro _ _ ⟨⟩
  exact safe_eq (f a)

/-- A fault ends the whole. -/
theorem runAlone_error {p : Attempt α} {f : α → Attempt β} {fault : Fault} {s' : Desk × ε}
    (h : p.runAlone env s = (.error fault, s')) : (p >>= f).runAlone env s = (.error fault, s') := by
  have first : p.Safe env.alone (fun r t => (r, t) = (.error fault, s')) s := h ▸ safe_eq p
  refine runAlone_eq (Safe.bind first (fun a t same => nomatch same) ?_)
  rintro _ _ ⟨⟩
  rfl

/-- Two operations that begin alike run alike if what follows does. -/
theorem runAlone_bind_congr {p : Attempt α} {f g : α → Attempt β}
    (h : ∀ a s', p.runAlone env s = (.ok a, s') → (f a).runAlone env s' = (g a).runAlone env s') :
    (p >>= f).runAlone env s = (p >>= g).runAlone env s := by
  rcases run : p.runAlone env s with ⟨a | a, s'⟩
  · rw [runAlone_error run, runAlone_error run]
  · rw [runAlone_ok run, runAlone_ok run]
    exact h a s' run

/-- A section under the wallet's lock runs as if there were none. -/
theorem runAlone_locked (a : Address) (body : Attempt α) :
    (locked a body).runAlone env s = body.runAlone env s :=
  runAlone_eq (alone_locked (safe_eq body))

/-- The outcome of an operation is taken in the state it leaves, whatever it is. -/
theorem runAlone_outcome (p : Attempt α) (f : Except Fault α → Attempt β) :
    (outcome p >>= f).runAlone env s =
      (f (p.runAlone env s).1).runAlone env (p.runAlone env s).2 := by
  have run : (outcome p).runAlone env s = (.ok (p.runAlone env s).1, (p.runAlone env s).2) := by
    refine runAlone_eq ?_
    rw [safe_outcome]
    exact safe_alone.2 rfl
  exact runAlone_ok run

end Attempt

/-! ### Notes -/

/-- A question with its reply. -/
structure Note where
  request : Request
  reply : request.Reply

/-- The same outside, which notes down all that it is asked. -/
def Environment.noted {ε : Type} (env : Environment ε) : Environment (ε × List Note) where
  reply s r := ((env.reply s.1 r).1, (env.reply s.1 r).2.1, (env.reply s.1 r).2.2,
    s.2 ++ [⟨r, (env.reply s.1 r).1⟩])
  sleep s d := ((env.sleep s.1 d).1, (env.sleep s.1 d).2, s.2)

/-! ### Parts that leave the books alone -/

/-- The same orders, nonces, counters and recent failures, at the same time or later. -/
structure Desk.Same (d d' : Desk) : Prop where
  registry : d'.book.registry = d.book.registry
  nonces : d'.common.nonces = d.common.nonces
  stats : d'.book.stats = d.book.stats
  limiter : d'.common.limiter = d.common.limiter
  later : d.common.now ≤ d'.common.now

namespace Desk.Same

theorem refl (d : Desk) : d.Same d := ⟨rfl, rfl, rfl, rfl, Nat.le_refl _⟩

theorem trans {d d' d'' : Desk} (h : d.Same d') (h' : d'.Same d'') : d.Same d'' :=
  ⟨h'.registry.trans h.registry, h'.nonces.trans h.nonces, h'.stats.trans h.stats,
    h'.limiter.trans h.limiter, Nat.le_trans h.later h'.later⟩

/-- Time passes and changes none of them. -/
theorem pass (d : Desk) (lapse : Lapse) : d.Same (d.pass lapse) :=
  ⟨rfl, rfl, rfl, rfl, Nat.le_add_right _ _⟩

end Desk.Same

/-- A step that concerns neither nonces nor orders nor tallies. -/
theorem Effect.same_apply {e : Effect} (d : Desk) (wallet : e.concernsWallet = false)
    (orders : e.concernsOrders = false) (tallies : e.concernsTallies = false) :
    d.Same (e.apply d).2 := by
  cases e with
  | now | stopping | freshPrice _ | keepPrice _ => exact ⟨rfl, rfl, rfl, rfl, Nat.le_refl _⟩
  | allocate _ _ => cases wallet
  | checkLimiter | recordFailure | count _ => cases tallies
  | _ => cases orders

/-- A part that takes no step on them leaves them as they are. -/
theorem Attempt.Only.alone_same {ε α : Type} {env : Environment ε} {p : Attempt α} {s : Desk × ε}
    (h : p.Only Event.OffBooks) : p.Safe env.alone (fun _ s' => s.1.Same s'.1) s := by
  -- Only steps on the desk and lapses of time reach it; the part takes none of the steps that matter.
  refine (h.keeps (I := fun s' : Desk × ε => s.1.Same s'.1) ?_ (.refl _)).mono
    fun _ _ kept => kept.1
  refine fun t ev off ht => ⟨trivial, fun t' next => ?_⟩
  cases ev with
  | did e x =>
    obtain ⟨-, rfl⟩ := next
    exact ht.trans (e.same_apply t.1 off.1 off.2.1 off.2.2)
  | told r x =>
    obtain ⟨-, rfl⟩ := next
    exact ht.trans (.pass _ _)
  | slept d =>
    obtain rfl := next
    exact ht.trans (.pass _ _)
  | woke b =>
    obtain ⟨-, rfl⟩ := next
    exact ht
  | _ =>
    obtain rfl := next
    exact ht

end OrderDesk
