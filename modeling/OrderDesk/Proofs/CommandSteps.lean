import OrderDesk.Cli.Run
import OrderDesk.Proofs.Journal

/-!
# `OrderDesk.Proofs.CommandSteps` — operations that print, running alone

A command is put together of operations of the desk, of questions of its own and of lines that are
printed. What it comes to, the desk and the outside it leaves and the log of what it does follow from
those of its parts.

## Contents
- `CliStep.Meets` with one rule for each way of building an operation.
- `CliStep.meets_of_logs`: what is known of every log of an operation of the desk.
- `CliStep.Quiet` with its rules: no transaction is handed over.
-/

namespace OrderDesk

open Attempt

namespace CliStep

variable {ε α β : Type} {env : Environment ε} {s : Desk × ε}

/-- However much is printed before, outcome, state and log of the step are so. -/
def Meets (env : Environment ε) (s : Desk × ε)
    (Q : Except CliFault α → Desk × ε → List Event → Prop) (p : CliStep α) : Prop :=
  ∀ printed, Q ((p.run.run printed).run env s.1 s.2).1.1 ((p.run.run printed).run env s.1 s.2).2
    (((p.run.run printed).journal env s).map (·.event))

theorem Meets.mono {Q Q' : Except CliFault α → Desk × ε → List Event → Prop} {p : CliStep α}
    (h : p.Meets env s Q) (hQ : ∀ r s' log, Q r s' log → Q' r s' log) : p.Meets env s Q' :=
  fun printed => hQ _ _ _ (h printed)

/-- **Sequencing.** What comes second runs in the state that the first leaves, and its log follows. -/
theorem Meets.bind {R : Except CliFault α → Desk × ε → List Event → Prop}
    {Q : Except CliFault β → Desk × ε → List Event → Prop} {p : CliStep α} {f : α → CliStep β}
    (hp : p.Meets env s R)
    (ok : ∀ a s' log, R (.ok a) s' log → (f a).Meets env s' fun r t more => Q r t (log ++ more))
    (error : ∀ fault s' log, R (.error fault) s' log → Q (.error fault) s' log) :
    (p >>= f).Meets env s Q := by
  intro printed
  let next (x : Except CliFault α × String) : Routine (Except CliFault β × String) :=
    match x with
    | (.ok a, printed) => (f a).run.run printed
    | (.error fault, printed) => .done (.error fault, printed)
  have split : (p >>= f).run.run printed = (p.run.run printed).bind next := by
    show Routine.bind (p.run.run printed) _ = _
    congr 1
    funext x
    obtain ⟨r, printed⟩ := x
    cases r <;> rfl
  have first := hp printed
  rw [split, Routine.run_bind, Routine.journal_bind, List.map_append]
  rcases run : (p.run.run printed).run env s.1 s.2 with ⟨⟨r, printed'⟩, s'⟩
  rw [run] at first
  cases r with
  | ok a => exact ok a s' _ first printed'
  | error fault =>
    show Q _ _ (_ ++ [])
    rw [List.append_nil]
    exact error fault s' _ first

theorem meets_ofExcept {r : Except CliFault α}
    {Q : Except CliFault α → Desk × ε → List Event → Prop} :
    (ofExcept r).Meets env s Q ↔ Q r s [] := by
  cases r <;> exact ⟨fun h => h "", fun h _ => h⟩

theorem meets_print {line : String} {Q : Except CliFault Unit → Desk × ε → List Event → Prop} :
    (print line).Meets env s Q ↔ Q (.ok ()) s [] :=
  ⟨fun h => h "", fun h _ => h⟩

theorem meets_pure {a : α} {Q : Except CliFault α → Desk × ε → List Event → Prop} :
    (pure a : CliStep α).Meets env s Q ↔ Q (.ok a) s [] :=
  ⟨fun h => h "", fun h _ => h⟩

theorem meets_throw {f : CliFault} {Q : Except CliFault α → Desk × ε → List Event → Prop} :
    (throw f : CliStep α).Meets env s Q ↔ Q (.error f) s [] :=
  ⟨fun h => h "", fun h _ => h⟩

theorem meets_reply {r : Request} {Q : Except CliFault r.Reply → Desk × ε → List Event → Prop} :
    (reply r).Meets env s Q ↔
      Q (.ok (env.reply s.2 r).1) (env.answered s r) [.asked r, .told r (env.reply s.2 r).1] :=
  ⟨fun h => h "", fun h _ => h⟩

/-- An operation of the desk is carried out as it is; only its fault is reported as a command's. -/
theorem meets_attempt {p : Attempt α} {Q : Except CliFault α → Desk × ε → List Event → Prop} :
    (attempt p).Meets env s Q ↔
      Q ((p.runAlone env s).1.mapError fault) (p.runAlone env s).2
        ((p.journal env s).map (·.event)) := by
  have same (printed : String) : (attempt p).run.run printed =
      p.run.bind fun r => .done (r.mapError fault, printed) := by
    show Routine.bind (Routine.bind (Routine.bind p.run _) _) _ = _
    rw [Routine.bind_assoc, Routine.bind_assoc]
    congr 1
    funext r
    cases r <;> rfl
  have all (printed : String) : Q ((p.runAlone env s).1.mapError fault) (p.runAlone env s).2
        ((p.journal env s).map (·.event)) ↔
      Q (((attempt p).run.run printed).run env s.1 s.2).1.1
        (((attempt p).run.run printed).run env s.1 s.2).2
        ((((attempt p).run.run printed).journal env s).map (·.event)) := by
    rw [same, Routine.run_bind, Routine.journal_bind]
    show _ ↔ Q _ _ (((p.journal env s) ++ []).map _)
    rw [List.append_nil]
    rfl
  exact ⟨fun h => (all "").2 (h ""), fun h printed => (all printed).1 h⟩

/-- What holds of every log of an operation holds of its log within a command. -/
theorem meets_of_logs {p : Attempt α} {Q : Except Fault α → List Event → Prop} (h : p.Logs Q) :
    (attempt p).Meets env s fun r _ log => ∃ r', r = r'.mapError fault ∧ Q r' log :=
  meets_attempt.2 ⟨_, rfl, h.journal env s⟩

/-! ### Nothing handed over -/

/-- The operation hands nothing over, wherever it runs. -/
def Quiet (p : CliStep α) : Prop :=
  ∀ (ε : Type) (env : Environment ε) (s : Desk × ε),
    p.Meets env s fun _ _ log => ∀ ev ∈ log, ev.Unsent

theorem Quiet.bind {p : CliStep α} {f : α → CliStep β} (hp : p.Quiet) (hf : ∀ a, (f a).Quiet) :
    (p >>= f).Quiet := by
  intro ε env s
  refine Meets.bind (hp ε env s) (fun a s' log unsent => ?_) fun _ _ _ unsent => unsent
  refine (hf a ε env s').mono fun _ _ more unsentMore ev mem => ?_
  exact (List.mem_append.1 mem).elim (unsent ev) (unsentMore ev)

theorem quiet_ofExcept (r : Except CliFault α) : (ofExcept r).Quiet :=
  fun _ _ _ => meets_ofExcept.2 fun _ mem => absurd mem List.not_mem_nil

theorem quiet_pure (a : α) : (pure a : CliStep α).Quiet := quiet_ofExcept (.ok a)

theorem quiet_throw (f : CliFault) : (throw f : CliStep α).Quiet := quiet_ofExcept (.error f)

theorem quiet_print (line : String) : (print line).Quiet :=
  fun _ _ _ => meets_print.2 fun _ mem => absurd mem List.not_mem_nil

theorem quiet_attempt {p : Attempt α} (h : p.Only Event.Unsent) : (attempt p).Quiet :=
  fun _ _ _ => (meets_of_logs h.logs).mono fun _ _ _ ⟨_, _, unsent⟩ => unsent

theorem quiet_forM {xs : List β} {f : β → CliStep Unit} (h : ∀ x, (f x).Quiet) :
    (xs.forM f).Quiet := by
  induction xs with
  | nil => exact quiet_pure ()
  | cons x rest ih => exact Quiet.bind (h x) fun _ => ih

end CliStep

end OrderDesk
