import OrderDesk.Proofs.Log

/-!
# `OrderDesk.Proofs.Journal` — what an operation that runs alone does, and when

`Routine.run` tells what an operation comes to. Its journal tells how: every event in its order, each
with the desk as the event found it, and with that the time.

## Contents
- `Entry`, `Routine.journal`: the events of a run, with the desk.
- `Routine.journal_bind`, `Attempt.journal_ok`, `journal_error`: the journal of one after another.
- `Attempt.Logs.journal`: what holds of every log holds of the journal.
- `Attempt.journal_act_bind`, … and `runAlone_act_bind`, …: journal and run, step by step.
-/

namespace OrderDesk

variable {ε α β : Type}

/-- An event, with the desk as it found it. -/
structure Entry where
  event : Event
  desk : Desk

/-- When the event came. -/
def Entry.time (entry : Entry) : Instant := entry.desk.common.now

namespace Routine

/-- What an operation does that runs alone. Time passes while it is suspended, so an answer finds the
desk later than the question did. -/
def journal (env : Environment ε) : Routine α → Desk × ε → List Entry
  | done _, _ => []
  | act e next, s =>
    ⟨.did e (e.apply s.1).1, s.1⟩ :: (next (e.apply s.1).1).journal env ((e.apply s.1).2, s.2)
  | ask r next, s =>
    let after := env.answered s r
    let x := (env.reply s.2 r).1
    ⟨.asked r, s.1⟩ :: ⟨.told r x, after.1⟩ :: (next x).journal env after
  | sleep d next, s =>
    let after := env.rested s d
    let stopped := after.1.book.stopping
    ⟨.slept d, s.1⟩ :: ⟨.woke stopped, after.1⟩ :: (next stopped).journal env after
  | lock a next, s => ⟨.queued a, s.1⟩ :: ⟨.locked a, s.1⟩ :: next.journal env s
  | unlock a next, s => ⟨.unlocked a, s.1⟩ :: next.journal env s

/-- What comes second is written down second. -/
theorem journal_bind (env : Environment ε) (p : Routine α) (f : α → Routine β) (s : Desk × ε) :
    (p.bind f).journal env s =
      p.journal env s ++ (f (p.run env s.1 s.2).1).journal env (p.run env s.1 s.2).2 := by
  induction p generalizing s with
  | done a => rfl
  | act e next ih => simp only [bind, journal, run, ih, List.cons_append]
  | ask r next ih =>
    simp only [bind, journal, ih, List.cons_append]
    rfl
  | sleep d next ih =>
    simp only [bind, journal, ih, List.cons_append]
    rfl
  | lock a next ih => simp only [bind, journal, run, ih, List.cons_append]
  | unlock a next ih => simp only [bind, journal, run, ih, List.cons_append]

/-- What every log of an operation meets, its journal meets. -/
theorem Safe.journal {Q : α → List Event → Prop} {p : Routine α} {log : List Event}
    (h : p.Safe Watch.log Q log) (env : Environment ε) (s : Desk × ε) :
    Q (p.run env s.1 s.2).1 (log ++ (p.journal env s).map (·.event)) := by
  induction p generalizing log s with
  | done a => exact (List.append_nil log).symm ▸ h
  | act e next ih =>
    have more := ih _ ((Watch.log_step ..).1 (h s.1)) ((e.apply s.1).2, s.2)
    rwa [List.append_assoc] at more
  | ask r next ih =>
    have told := (Watch.log_step ..).1 h (env.reply s.2 r).1
    have more := ih _ ((Watch.log_step ..).1 told) (env.answered s r)
    rwa [List.append_assoc, List.append_assoc] at more
  | sleep d next ih =>
    have woke := (Watch.log_step ..).1 h (env.rested s d).1.book.stopping
    have more := ih _ ((Watch.log_step ..).1 woke) (env.rested s d)
    rwa [List.append_assoc, List.append_assoc] at more
  | lock a next ih =>
    have more := ih ((Watch.log_step ..).1 ((Watch.log_step ..).1 h)) s
    rwa [List.append_assoc, List.append_assoc] at more
  | unlock a next ih =>
    have more := ih ((Watch.log_step ..).1 h) s
    rwa [List.append_assoc] at more

end Routine

namespace Attempt

variable {env : Environment ε} {s : Desk × ε}

/-- What an operation does that runs alone. -/
def journal (p : Attempt α) (env : Environment ε) (s : Desk × ε) : List Entry :=
  (ExceptT.run p).journal env s

theorem journal_bind (p : Attempt α) (f : α → Attempt β) :
    (p >>= f).journal env s = p.journal env s ++
      (ExceptT.bindCont f (p.runAlone env s).1).journal env (p.runAlone env s).2 :=
  Routine.journal_bind env (ExceptT.run p) (ExceptT.bindCont f) s

/-- What follows an operation that succeeds is written down after it. -/
theorem journal_ok {p : Attempt α} {f : α → Attempt β} {a : α} {s' : Desk × ε}
    (h : p.runAlone env s = (.ok a, s')) :
    (p >>= f).journal env s = p.journal env s ++ (f a).journal env s' := by
  rw [journal_bind, h]
  rfl

/-- After a fault comes nothing. -/
theorem journal_error {p : Attempt α} {f : α → Attempt β} {fault : Fault} {s' : Desk × ε}
    (h : p.runAlone env s = (.error fault, s')) : (p >>= f).journal env s = p.journal env s := by
  rw [journal_bind, h]
  exact List.append_nil _

/-- What every log of an operation meets, its journal meets. -/
theorem Logs.journal {Q : Except Fault α → List Event → Prop} {p : Attempt α} (h : p.Logs Q)
    (env : Environment ε) (s : Desk × ε) :
    Q (p.runAlone env s).1 ((p.journal env s).map (·.event)) :=
  Routine.Safe.journal h env s

/-! ### Step by step -/

theorem runAlone_act_bind {e : Effect} {f : e.Answer → Attempt β} :
    (act e >>= f).runAlone env s = (f (e.apply s.1).1).runAlone env ((e.apply s.1).2, s.2) := rfl

theorem runAlone_reply_bind {r : Request} {f : r.Reply → Attempt β} :
    (reply r >>= f).runAlone env s = (f (env.reply s.2 r).1).runAlone env (env.answered s r) := rfl

theorem runAlone_sleep_bind {d : Duration} {f : Bool → Attempt β} :
    (sleep d >>= f).runAlone env s =
      (f (env.rested s d).1.book.stopping).runAlone env (env.rested s d) := rfl

theorem journal_act_bind {e : Effect} {f : e.Answer → Attempt β} :
    (act e >>= f).journal env s = ⟨.did e (e.apply s.1).1, s.1⟩ ::
      (f (e.apply s.1).1).journal env ((e.apply s.1).2, s.2) := rfl

theorem journal_reply_bind {r : Request} {f : r.Reply → Attempt β} :
    (reply r >>= f).journal env s = ⟨.asked r, s.1⟩ ::
      ⟨.told r (env.reply s.2 r).1, (env.answered s r).1⟩ ::
      (f (env.reply s.2 r).1).journal env (env.answered s r) := rfl

theorem journal_sleep_bind {d : Duration} {f : Bool → Attempt β} :
    (sleep d >>= f).journal env s = ⟨.slept d, s.1⟩ ::
      ⟨.woke (env.rested s d).1.book.stopping, (env.rested s d).1⟩ ::
      (f (env.rested s d).1.book.stopping).journal env (env.rested s d) := rfl

theorem runAlone_stopping_bind {f : Bool → Attempt β} :
    (stopping >>= f).runAlone env s = (f s.1.book.stopping).runAlone env s := rfl

theorem journal_stopping_bind {f : Bool → Attempt β} :
    (stopping >>= f).journal env s = ⟨.did .stopping s.1.book.stopping, s.1⟩ ::
      (f s.1.book.stopping).journal env s := rfl

end Attempt
end OrderDesk
