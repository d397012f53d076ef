import OrderDesk.Proofs.CallData
import OrderDesk.Proofs.Justified

/-!
# `OrderDesk.Proofs.CancelRouting` — which channels a cancellation tries

A cancellation that runs alone, whatever the outside answers: by the record's status it answers at
once, waits for the placement first, or goes through the channels. Which channels are tried, and what
it comes to, is said here in terms of the trials alone.

## Contents
- `Trial`, `CancelDesk.Searched`: the shortest beginning of a list of channels that decides.
- `CancelDesk.Waited`, `CancelDesk.Resolved`: what a placement's receipt leaves to cancel.
- `CancelDesk.Routed`: all of it, by the status of the record.
- `Connector.cancel_alone`: a cancellation goes so, and drops just its own order if it succeeds.
-/

namespace OrderDesk

open Attempt

variable {ε : Type}

/-! ### Trials of channels -/

/-- A channel that was tried: the desk, the outside and the notes before and after, and what it came
to. -/
structure Trial (ε : Type) where
  channel : CancelChannel
  before : Desk × ε × List Note
  result : Except Fault CancelAttempt
  after : Desk × ε × List Note

namespace Trial

/-- The channel was tried on this target, and that is what it came to. -/
def Ran (c : CancelDesk) (env : Environment ε) (target : CancelTarget) (t : Trial ε) : Prop :=
  (c.tryChannel target t.channel).runAlone env.noted t.before = (t.result, t.after)

/-- It failed, and not because the desk was told to stop. -/
def Failed (t : Trial ε) : Prop :=
  ∃ e, t.result = .error (.error e) ∧ ∀ hash, e ≠ .shutdown hash

/-- Each trial begins where the one before it ended. -/
def Chain : Desk × ε × List Note → List (Trial ε) → Desk × ε × List Note → Prop
  | s, [], s' => s' = s
  | s, t :: rest, s' => t.before = s ∧ Chain t.after rest s'

/-- What a cancellation comes to with the trial that ends it. -/
def verdict (t : Trial ε) : Except Fault CancelOutcome :=
  match t.result with
  | .ok (.cancelled hash) => .ok (.cancelled hash t.channel.name)
  | .ok .notOnBook => .ok (.localOnly .notOnBook)
  | .error fault => .error fault

end Trial

namespace CancelDesk

variable (c : CancelDesk) (env : Environment ε)

/-- **The channels that are tried** are the shortest beginning of the list that ends with one that
does not fail; if all fail, all are tried. -/
inductive Searched (target : CancelTarget) (channels : List CancelChannel)
    (s : Desk × ε × List Note) : Except Fault CancelOutcome → Desk × ε × List Note → Prop
  | decided (failed : List (Trial ε)) {last : Trial ε} {rest : List CancelChannel}
    (split : channels = failed.map (·.channel) ++ last.channel :: rest)
    (ran : ∀ t ∈ failed ++ [last], t.Ran c env target)
    (chain : Trial.Chain s (failed ++ [last]) last.after)
    (fails : ∀ t ∈ failed, t.Failed) (decides : ¬ last.Failed) :
    Searched target channels s last.verdict last.after
  | exhausted (failed : List (Trial ε)) {s' : Desk × ε × List Note}
    (all : channels = failed.map (·.channel)) (ran : ∀ t ∈ failed, t.Ran c env target)
    (chain : Trial.Chain s failed s') (fails : ∀ t ∈ failed, t.Failed) :
    Searched target channels s (.ok (.localOnly .exhausted)) s'

variable {c env} {target : CancelTarget} {channels : List CancelChannel}
  {s s' : Desk × ε × List Note} {r : Except Fault CancelOutcome}

/-- A channel that decides is the last one tried. -/
theorem Searched.here {t : Trial ε} (ran : t.Ran c env target) (decides : ¬ t.Failed) :
    c.Searched env target (t.channel :: channels) t.before t.verdict t.after :=
  .decided [] rfl (fun _ mem => List.mem_singleton.1 mem ▸ ran) ⟨rfl, rfl⟩
    (fun _ mem => absurd mem List.not_mem_nil) decides

/-- After a channel that fails come the next ones. -/
theorem Searched.cons {t : Trial ε} (ran : t.Ran c env target) (failed : t.Failed)
    (h : c.Searched env target channels t.after r s') :
    c.Searched env target (t.channel :: channels) t.before r s' := by
  have both {P : Trial ε → Prop} {ts : List (Trial ε)} (first : P t) (others : ∀ t' ∈ ts, P t') :
      ∀ t' ∈ t :: ts, P t' := by
    intro t' mem
    rcases List.mem_cons.1 mem with rfl | mem
    · exact first
    · exact others t' mem
  cases h with
  | @decided before last rest split ranOthers chain fails decides =>
    have longer : t.channel :: channels = (t :: before).map (·.channel) ++ last.channel :: rest := by
      rw [split, List.map_cons, List.cons_append]
    exact .decided (t :: before) longer (both ran ranOthers) ⟨rfl, chain⟩ (both failed fails) decides
  | @exhausted before s' all ranOthers chain fails =>
    refine .exhausted (t :: before) ?_ (both ran ranOthers) ⟨rfl, chain⟩
      (both failed fails)
    rw [all, List.map_cons]

/-- **Channels are tried so.** -/
theorem tryChannels_searched (c : CancelDesk) (env : Environment ε) (target : CancelTarget)
    (channels : List CancelChannel) (s : Desk × ε × List Note) :
    (c.tryChannels target channels).Safe env.noted.alone (c.Searched env target channels s) s := by
  induction channels generalizing s with
  | nil =>
    exact .exhausted [] rfl (fun _ mem => absurd mem List.not_mem_nil) rfl
      fun _ mem => absurd mem List.not_mem_nil
  | cons channel rest ih =>
    unfold CancelDesk.tryChannels
    rw [safe_bind, safe_outcome]
    refine (safe_eq (c.tryChannel target channel)).mono fun result t ran => ?_
    -- The trial of the first channel, whose result says whether the search goes on.
    let first : Trial ε := ⟨channel, s, result, t⟩
    have firstRan : first.Ran c env target := ran.symm
    cases result with
    | ok achieved =>
      have decides : ¬ first.Failed := by
        rintro ⟨e, same, -⟩
        cases same
      cases achieved with
      | cancelled hash => exact Searched.here firstRan decides
      | notOnBook => exact Searched.here firstRan decides
    | error fault =>
      cases fault with
      | breakdown b =>
        refine Searched.here firstRan ?_
        rintro ⟨e, same, -⟩
        cases same
      | error e =>
        show Safe _ _ (if e.isShutdown then fail e else c.tryChannels target rest) t
        split
        · next stopped =>
          refine Searched.here firstRan ?_
          rintro ⟨_, same, other⟩
          cases same
          cases e with
          | shutdown hash => exact other hash rfl
          | _ => cases stopped
        · next other =>
          refine (ih t).mono fun r s' searched => ?_
          refine Searched.cons firstRan ⟨e, rfl, ?_⟩ searched
          rintro hash rfl
          exact other rfl

/-! ### Waiting for the placement -/

/-- The desk waited for a transaction: what the wait came to, with what was noted meanwhile. -/
def Waited (c : CancelDesk) (env : Environment ε) (hash : Hash) (s : Desk × ε × List Note)
    (result : Except Fault Confirmation) (t : Desk × ε × List Note) : Prop :=
  (c.sender.poll.confirm hash).runAlone env.noted s = (result, t) ∧
    ∃ own, t.2.2 = s.2.2 ++ own ∧ Lookups hash own result

theorem confirm_waited (c : CancelDesk) (env : Environment ε) (hash : Hash)
    (s : Desk × ε × List Note) :
    (c.sender.poll.confirm hash).Safe env.noted.alone (c.Waited env hash s) s := by
  refine (safe_both (safe_eq _) (confirm_logs c.sender.poll hash).noted).mono ?_
  rintro result t ⟨ran, own, more, looked⟩
  exact ⟨ran.symm, notesOf own, more, looked⟩

/-- **A record without a number** gets it from its placement's receipt; channels are tried only if
there is one. -/
inductive Resolved (c : CancelDesk) (env : Environment ε) (record : OrderRecord) (hash : Hash)
    (s : Desk × ε × List Note) : Except Fault CancelOutcome → Desk × ε × List Note → Prop
  | placed {receipt : Receipt} {number : UInt64} {t s' : Desk × ε × List Note}
    {r : Except Fault CancelOutcome} (waited : c.Waited env hash s (.ok (.confirmed receipt)) t)
    (first : receipt.FirstPlaces c.calls.exchange number)
    (searched : c.Searched env (record.target number) c.channels t r s') :
    Resolved c env record hash s r s'
  | filled {receipt : Receipt} {t : Desk × ε × List Note}
    (waited : c.Waited env hash s (.ok (.confirmed receipt)) t)
    (only : receipt.OnlyMatches c.calls.exchange) :
    Resolved c env record hash s (.ok (.localOnly .immediatelyFilled)) t
  | silent {receipt : Receipt} {t : Desk × ε × List Note}
    (waited : c.Waited env hash s (.ok (.confirmed receipt)) t)
    (silent : receipt.Silent c.calls.exchange) :
    Resolved c env record hash s (.ok (.localOnly .unresolved)) t
  | reverted {receipt : Receipt} {reason : RevertReason} {t : Desk × ε × List Note}
    (waited : c.Waited env hash s (.ok (.reverted receipt reason)) t) :
    Resolved c env record hash s (.ok (.localOnly .nothingOnChain)) t
  | timedOut {timeout : Duration} {t : Desk × ε × List Note}
    (waited : c.Waited env hash s (.ok (.timedOut hash timeout)) t) :
    Resolved c env record hash s (.ok (.localOnly .unresolved)) t
  | stopped {t : Desk × ε × List Note}
    (waited : c.Waited env hash s (.error (.error (.shutdown hash))) t) :
    Resolved c env record hash s (.error (.error (.shutdown hash))) t
  | arithmetic {t : Desk × ε × List Note}
    (waited : c.Waited env hash s (.error (.breakdown .arithmetic)) t) :
    Resolved c env record hash s (.error (.breakdown .arithmetic)) t

/-- What is done once the placement's fate is known. -/
theorem resolvePlacement_resolved (c : CancelDesk) (env : Environment ε) (record : OrderRecord)
    (hash : Hash) (s : Desk × ε × List Note) :
    (c.resolvePlacement hash >>= fun
      | .ok number => c.cancelNumber record number
      | .error reason => pure (.localOnly reason)).Safe env.noted.alone
      (c.Resolved env record hash s) s := by
  unfold CancelDesk.resolvePlacement
  rw [bind_assoc]
  refine Safe.bind (confirm_waited c env hash s) ?_ ?_
  · intro confirmation t waited
    cases confirmation with
    | confirmed receipt =>
      dsimp only
      cases trace : receipt.trace c.calls.exchange with
      | placed number =>
        refine (tryChannels_searched c env (record.target number) c.channels t).mono ?_
        exact fun r s' searched => .placed waited (Receipt.trace_eq_placed.1 trace) searched
      | immediatelyFilled => exact .filled waited (Receipt.trace_eq_immediatelyFilled.1 trace)
      | notFound => exact .silent waited (Receipt.trace_eq_notFound.1 trace)
    | reverted receipt reason => exact .reverted waited
    | timedOut missing timeout =>
      -- It is the awaited transaction that was not found.
      obtain ⟨ran, own, more, looked⟩ := waited
      cases looked with
      | timedOut timeout missed => exact .timedOut ⟨ran, own, more, .timedOut timeout missed⟩
  · intro fault t waited
    obtain ⟨ran, own, more, looked⟩ := waited
    cases looked with
    | stopped missed => exact .stopped ⟨ran, own, more, .stopped missed⟩
    | arithmetic => exact .arithmetic ⟨ran, [], more, .arithmetic⟩

/-! ### Cancellations -/

/-- **A cancellation, by the status of its record.** Without a transaction there is nothing to cancel
yet; a filled or failed order needs no question; a numbered one goes to the channels; any other waits
for its placement first. -/
def Routed (c : CancelDesk) (env : Environment ε) (record : OrderRecord)
    (s : Desk × ε × List Note) (r : Except Fault CancelOutcome) (s' : Desk × ε × List Note) : Prop :=
  match record.status with
  | .pendingSubmit => r = .error (.error (.notBroadcast record.id)) ∧ s' = s
  | .immediatelyFilled => r = .ok (.localOnly .immediatelyFilled) ∧ s' = s
  | .failed _ | .cancelled none => r = .ok (.localOnly .nothingOnChain) ∧ s' = s
  | .resting number | .cancelled (some (.number number)) =>
    c.Searched env (record.target number) c.channels s r s'
  | .awaitingConfirmation => c.Resolved env record record.hash s r s'
  | .cancelled (some (.placement hash)) => c.Resolved env record hash s r s'

theorem route_routed (c : CancelDesk) (env : Environment ε) (record : OrderRecord)
    (sent : record.state ≠ .pendingSubmit) (s : Desk × ε × List Note) :
    (c.route record).Safe env.noted.alone (c.Routed env record s) s := by
  unfold CancelDesk.route Routed OrderRecord.reference?
  unfold OrderRecord.state at sent ⊢
  cases status : record.status with
  | pendingSubmit => exact absurd (by rw [status]; rfl) sent
  | immediatelyFilled => exact ⟨rfl, rfl⟩
  | failed reason => exact ⟨rfl, rfl⟩
  | resting number => exact tryChannels_searched c env (record.target number) c.channels s
  | awaitingConfirmation => exact resolvePlacement_resolved c env record record.hash s
  | cancelled last =>
    match last with
    | none => exact ⟨rfl, rfl⟩
    | some (.number number) => exact tryChannels_searched c env (record.target number) c.channels s
    | some (.placement hash) => exact resolvePlacement_resolved c env record hash s

end CancelDesk

namespace Connector

/-- The orders after a cancellation: without the cancelled one if it succeeded, else as they were. -/
def registryAfter (id : String) (r : Except Fault CancelOutcome) (g : Registry) : Registry :=
  match r with
  | .ok _ => g.erase id
  | .error _ => g

/-- **A cancellation that runs alone.** An order that is not tracked is unknown. For a tracked one the
answer and all that is asked are those of `CancelDesk.Routed`; after that the order is dropped if there
is an answer, and nothing is changed if there is an error. -/
theorem cancel_alone (c : Connector) (env : Environment ε) (d : Desk) (out : ε) (id : String) :
    let (r, after) := (c.cancel id).runAlone env.noted (d, out, [])
    match d.book.registry.get? id with
    | none => r = .error (.error (.unknownOrder id)) ∧ after = (d, out, [])
    | some record => ∃ routed, c.cancelDesk.Routed env record (d, out, []) r routed ∧
      routed.1.book.registry = d.book.registry ∧
      after = (routed.1.withRegistry (registryAfter id r d.book.registry), routed.2) := by
  suffices h : (c.cancel id).Safe env.noted.alone (fun r after =>
      match d.book.registry.get? id with
      | none => r = .error (.error (.unknownOrder id)) ∧ after = (d, out, [])
      | some record => ∃ routed, c.cancelDesk.Routed env record (d, out, []) r routed ∧
        routed.1.book.registry = d.book.registry ∧
        after = (routed.1.withRegistry (registryAfter id r d.book.registry), routed.2))
      (d, out, []) from safe_alone.1 h
  unfold Connector.cancel sentOrder Attempt.order
  rw [bind_assoc]
  refine alone_act_bind.2 ?_
  dsimp only [Effect.apply]
  cases found : d.book.registry.get? id with
  | none => exact ⟨rfl, rfl⟩
  | some record =>
    dsimp only
    by_cases pending : record.state = .pendingSubmit
    · rw [if_pos pending]
      have status : record.status = .pendingSubmit := by
        unfold OrderRecord.state at pending
        cases status : record.status with
        | pendingSubmit => rfl
        | _ =>
          rw [status] at pending
          cases pending
      have routed : c.cancelDesk.Routed env record (d, out, []) (.error (.error (.notBroadcast id)))
          (d, out, []) := by
        unfold CancelDesk.Routed
        rw [status, Registry.id_of_get? found]
        exact ⟨rfl, rfl⟩
      exact ⟨_, routed, rfl, rfl⟩
    · rw [if_neg pending, pure_bind]
      have reads := (c.cancelDesk.route_offRegistry record).mono fun _ off => off.reads
      refine Safe.bind (safe_both (c.cancelDesk.route_routed env record pending _) reads.alone_kept)
        ?_ ?_
      · rintro outcome t ⟨routed, kept, -⟩
        refine alone_act_bind.2 ⟨t, routed, kept.orders, ?_⟩
        -- The record is still there to be cleared.
        show (t.1.withRegistry (t.1.book.registry.clear id).2, t.2) = _
        rw [kept.orders]
        unfold Registry.clear
        rw [found]
        rfl
      · rintro fault t ⟨routed, kept, -⟩
        refine ⟨t, routed, kept.orders, ?_⟩
        show t = (t.1.withRegistry d.book.registry, t.2)
        rw [← kept.orders]
        rfl

end Connector
end OrderDesk
