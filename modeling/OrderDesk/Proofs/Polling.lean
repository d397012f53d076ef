import OrderDesk.Proofs.Journal

/-!
# `OrderDesk.Proofs.Polling` — how often a receipt is looked up, and when a wait ends

A wait looks a receipt up at most as often as its policy says, with one pause between two look-ups and
none after the last. What the outside would answer each look-up, and whether the desk was told to stop
by then, decides how many there are and how the wait ends.

## Contents
- `Beat`, `beats`: the look-ups and pauses in a journal; `Beat.paced`: so many, each with a pause.
- `Environment.afterLookups`, `lookup`, `Misses`: what each look-up would find.
- `pollReceipt_after_misses`: after look-ups in vain the wait goes on as a shorter one.
- `PollPolicy.Finds`, `PollPolicy.confirm_of_finds`: a wait that finds the receipt ends with it.
- `PollPolicy.confirmWithin_polls`: the result, for every outside and every policy.
-/

namespace OrderDesk

open Attempt

/-! ### Look-ups and pauses -/

/-- What a wait is made of. -/
inductive Beat where
  | look (hash : Hash)
  | pause (d : Duration)
deriving DecidableEq

/-- The look-up that is begun with the event, or the pause. -/
def Event.beat? : Event → Option Beat
  | asked (.receipt hash) => some (.look hash)
  | slept d => some (.pause d)
  | _ => none

/-- The look-ups and pauses of a journal, in their order. -/
def beats (journal : List Entry) : List Beat := journal.filterMap (·.event.beat?)

/-- So many look-ups, each followed by a pause. -/
def Beat.paced (hash : Hash) (interval : Duration) (n : Nat) : List Beat :=
  (List.replicate n [look hash, pause interval]).flatten

theorem Beat.paced_succ (hash : Hash) (interval : Duration) (n : Nat) :
    paced hash interval (n + 1) =
      [look hash, pause interval] ++ paced hash interval n := rfl

section Lookups

variable {ε : Type} (env : Environment ε) (hash : Hash) (interval : Duration)

/-! ### What each look-up would find -/

namespace Environment

/-- The desk and the outside after so many look-ups in vain, each followed by a pause. -/
def afterLookups (s : Desk × ε) : Nat → Desk × ε
  | 0 => s
  | i + 1 => afterLookups (env.rested (env.answered s (.receipt hash)) interval) i

/-- What the next look-up is answered after so many in vain. -/
def lookup (s : Desk × ε) (i : Nat) : Request.Reply (.receipt hash) :=
  (env.reply (env.afterLookups hash interval s i).2 (.receipt hash)).1

/-- The desk was told to stop before the next look-up after so many in vain. -/
def stoppedBefore (s : Desk × ε) (i : Nat) : Bool :=
  (env.afterLookups hash interval s i).1.book.stopping

/-- **So many look-ups in vain**: each begins before the desk is told to stop, and is answered with an
error or with no receipt. -/
def Misses (s : Desk × ε) (n : Nat) : Prop :=
  ∀ i < n, env.stoppedBefore hash interval s i = false ∧
    ∀ receipt, env.lookup hash interval s i ≠ .ok (some receipt)

variable {env hash interval}

/-- The first of several look-ups in vain, and the others after the pause. -/
theorem Misses.first {s : Desk × ε} {n : Nat} (h : env.Misses hash interval s (n + 1)) :
    (s.1.book.stopping = false ∧ ∀ receipt, (env.reply s.2 (.receipt hash)).1 ≠ .ok (some receipt)) ∧
      env.Misses hash interval (env.rested (env.answered s (.receipt hash)) interval) n :=
  ⟨h 0 (Nat.succ_pos n), fun i below => h (i + 1) (Nat.succ_lt_succ below)⟩

end Environment

/-! ### One look-up -/

variable {env hash interval} {timeout : Duration} {s : Desk × ε}

/-- A desk that is to stop does not look. -/
theorem pollReceipt_of_stopping (stopping : s.1.book.stopping = true) (rest : Nat) :
    (pollReceipt hash interval timeout (rest + 1)).runAlone env s =
      (.error (.error (.shutdown hash)), s) := by
  refine runAlone_eq ?_
  unfold pollReceipt Attempt.stopping
  refine alone_act_bind.2 ?_
  show Safe _ _ (if s.1.book.stopping = true then _ else _) s
  rw [if_pos stopping]
  rfl

/-- Some reason is always told. -/
theorem revertReasonOf_told (receipt : Receipt) :
    (revertReasonOf receipt).Safe env.alone (fun r _ => ∃ reason, r = .ok reason) s := by
  unfold revertReasonOf
  rw [alone_reply_bind]
  split
  · rw [alone_reply_bind]
    exact ⟨_, rfl⟩
  · exact ⟨_, rfl⟩

/-- A receipt that is there at once is the end of the wait. -/
theorem pollReceipt_of_receipt {receipt : Receipt} (going : s.1.book.stopping = false)
    (there : (env.reply s.2 (.receipt hash)).1 = .ok (some receipt)) (rest : Nat) :
    (pollReceipt hash interval timeout (rest + 1)).Safe env.alone
      (fun r _ => (receipt.success = true → r = .ok (.confirmed receipt)) ∧
        (receipt.success = false → ∃ reason, r = .ok (.reverted receipt reason))) s := by
  unfold pollReceipt Attempt.stopping
  refine alone_act_bind.2 ?_
  show Safe _ _ (if s.1.book.stopping = true then _ else _) s
  rw [if_neg (by simp [going]), alone_reply_bind, there]
  show Safe _ _ (if receipt.success = true then _ else _) _
  split
  · next success =>
    exact ⟨fun _ => rfl, fun failed => absurd (success.symm.trans failed) (by decide)⟩
  · next failed =>
    have ended {reason : RevertReason} : (receipt.success = true →
        (.ok (.reverted receipt reason) : Except Fault Confirmation) = .ok (.confirmed receipt)) ∧
        (receipt.success = false → ∃ reason', (.ok (.reverted receipt reason) :
          Except Fault Confirmation) = .ok (.reverted receipt reason')) :=
      ⟨fun success => absurd success failed, fun _ => ⟨reason, rfl⟩⟩
    refine Safe.bind (revertReasonOf_told receipt) (fun _ _ _ => ended) ?_
    rintro _ _ ⟨_, ⟨⟩⟩

/-- A desk that is to stop neither looks nor pauses. -/
theorem beats_of_stopping (stopping : s.1.book.stopping = true) (rest : Nat) :
    beats ((pollReceipt hash interval timeout (rest + 1)).journal env s) = [] := by
  unfold pollReceipt
  rw [journal_stopping_bind, stopping, if_pos rfl]
  rfl

/-- Why a transaction failed is learnt without look-ups and pauses. -/
theorem beats_revertReasonOf (receipt : Receipt) :
    beats ((revertReasonOf receipt).journal env s) = [] := by
  unfold revertReasonOf
  rw [journal_reply_bind]
  split
  · rfl
  · rfl

/-- A receipt that is found ends the wait. -/
theorem beats_of_receipt {receipt : Receipt} (going : s.1.book.stopping = false)
    (there : (env.reply s.2 (.receipt hash)).1 = .ok (some receipt)) (rest : Nat) :
    beats ((pollReceipt hash interval timeout (rest + 1)).journal env s) = [.look hash] := by
  unfold pollReceipt
  rw [journal_stopping_bind, going, if_neg Bool.false_ne_true, journal_reply_bind, there]
  show beats (_ :: _ :: _ :: (if receipt.success = true then _ else _ :
    Attempt Confirmation).journal env (env.answered s (.receipt hash))) = _
  split
  · rfl
  · obtain ⟨reason, told⟩ :
        ∃ reason, ((revertReasonOf receipt).runAlone env (env.answered s (.receipt hash))).1 =
          .ok reason := safe_alone.1 (revertReasonOf_told receipt)
    rw [journal_ok (Prod.ext told rfl)]
    show .look hash :: beats (_ ++ []) = _
    rw [List.append_nil, beats_revertReasonOf]

/-- The last look-up is in vain. -/
theorem pollReceipt_last (going : s.1.book.stopping = false)
    (missed : ∀ receipt, (env.reply s.2 (.receipt hash)).1 ≠ .ok (some receipt)) :
    ((pollReceipt hash interval timeout 1).runAlone env s).1 = .ok (.timedOut hash timeout) ∧
      beats ((pollReceipt hash interval timeout 1).journal env s) = [.look hash] := by
  unfold pollReceipt
  rw [runAlone_stopping_bind, journal_stopping_bind, going, if_neg Bool.false_ne_true,
    runAlone_reply_bind, journal_reply_bind]
  split
  · next receipt there => exact absurd there (missed receipt)
  · exact ⟨rfl, rfl⟩

/-- **After a look-up in vain** comes a pause, and then the same wait with one look-up less. If the
desk is told to stop meanwhile, neither of the two looks again. -/
theorem pollReceipt_missed (timeout : Duration) (going : s.1.book.stopping = false)
    (missed : ∀ receipt, (env.reply s.2 (.receipt hash)).1 ≠ .ok (some receipt)) (rest : Nat) :
    let after := env.rested (env.answered s (.receipt hash)) interval
    (pollReceipt hash interval timeout (rest + 2)).runAlone env s =
        (pollReceipt hash interval timeout (rest + 1)).runAlone env after ∧
      beats ((pollReceipt hash interval timeout (rest + 2)).journal env s) =
        [.look hash, .pause interval] ++
          beats ((pollReceipt hash interval timeout (rest + 1)).journal env after) := by
  intro after
  rw [pollReceipt, runAlone_stopping_bind, journal_stopping_bind, going,
    if_neg Bool.false_ne_true, runAlone_reply_bind, journal_reply_bind]
  split
  · next receipt there => exact absurd there (missed receipt)
  · rw [if_neg (Nat.succ_ne_zero rest), runAlone_sleep_bind, journal_sleep_bind]
    -- A pause that ends early ends the wait, as the next look at the desk would.
    cases stopping : after.1.book.stopping with
    | true =>
      rw [pollReceipt_of_stopping stopping, beats_of_stopping stopping, if_pos rfl]
      exact ⟨rfl, rfl⟩
    | false =>
      rw [if_neg Bool.false_ne_true]
      exact ⟨rfl, rfl⟩

/-! ### The wait -/

/-- **After look-ups in vain** the wait goes on from there with as many less. -/
theorem pollReceipt_after_misses (timeout : Duration) {i : Nat}
    (missed : env.Misses hash interval s i) (rest : Nat) :
    (pollReceipt hash interval timeout (i + rest + 1)).runAlone env s =
        (pollReceipt hash interval timeout (rest + 1)).runAlone env
          (env.afterLookups hash interval s i) ∧
      beats ((pollReceipt hash interval timeout (i + rest + 1)).journal env s) =
        Beat.paced hash interval i ++
          beats ((pollReceipt hash interval timeout (rest + 1)).journal env
            (env.afterLookups hash interval s i)) := by
  induction i generalizing s with
  | zero =>
    rw [Nat.zero_add]
    exact ⟨rfl, rfl⟩
  | succ i ih =>
    obtain ⟨⟨going, first⟩, others⟩ := missed.first
    obtain ⟨ran, did⟩ := pollReceipt_missed timeout going first (i + rest)
    obtain ⟨ranOn, didOn⟩ := ih others
    rw [show i + 1 + rest + 1 = i + rest + 2 by omega, ran, did, ranOn, didOn, Beat.paced_succ,
      List.append_assoc]
    exact ⟨rfl, rfl⟩

/-- **The wait finds the receipt**: one of the look-ups that the policy gives is answered with it, all
before are in vain, and the desk is not told to stop by then. -/
def PollPolicy.Finds (p : PollPolicy) (env : Environment ε) (s : Desk × ε) (hash : Hash)
    (receipt : Receipt) : Prop :=
  ∃ n i, p.attempts? p.timeout = some n ∧ i < n ∧ env.Misses hash p.interval s i ∧
    env.stoppedBefore hash p.interval s i = false ∧
    env.lookup hash p.interval s i = .ok (some receipt)

/-- A wait that finds the receipt ends with it. -/
theorem PollPolicy.confirm_of_finds {p : PollPolicy} {receipt : Receipt}
    (finds : p.Finds env s hash receipt) :
    (p.confirm hash).Safe env.alone
      (fun r _ => (receipt.success = true → r = .ok (.confirmed receipt)) ∧
        (receipt.success = false → ∃ reason, r = .ok (.reverted receipt reason))) s := by
  obtain ⟨n, i, told, below, missed, going, there⟩ := finds
  obtain ⟨rest, rfl⟩ := Nat.exists_eq_add_of_lt below
  obtain ⟨ran, -⟩ := pollReceipt_after_misses p.timeout missed rest
  unfold confirm confirmWithin
  rw [told, safe_alone, ran]
  exact safe_alone.1 (pollReceipt_of_receipt going there rest)

end Lookups

/-- **How often a receipt is looked up.** The policy gives a wait `n` look-ups. The first that finds a
receipt is the last that is made, and the wait ends with that receipt; if `n` find none, the wait
ends without one. Between two look-ups there is one pause, and after the last there is none. If the
desk is told to stop and all look-ups until then are in vain, the one that would come next is not
made. -/
theorem PollPolicy.confirmWithin_polls {ε : Type} (p : PollPolicy) {timeout : Duration} {n : Nat}
    (told : p.attempts? timeout = some n) (env : Environment ε) (s : Desk × ε) (hash : Hash) :
    let outcome := ((p.confirmWithin hash timeout).runAlone env s).1
    let did := beats ((p.confirmWithin hash timeout).journal env s)
    (∀ i < n, env.Misses hash p.interval s i → env.stoppedBefore hash p.interval s i = false →
      ∀ receipt, env.lookup hash p.interval s i = .ok (some receipt) →
        did = Beat.paced hash p.interval i ++ [.look hash] ∧
        (receipt.success = true → outcome = .ok (.confirmed receipt)) ∧
        (receipt.success = false → ∃ reason, outcome = .ok (.reverted receipt reason))) ∧
    (env.Misses hash p.interval s n →
      did = Beat.paced hash p.interval (n - 1) ++ [.look hash] ∧
      outcome = .ok (.timedOut hash timeout)) ∧
    (∀ i < n, env.Misses hash p.interval s i → env.stoppedBefore hash p.interval s i = true →
      did = Beat.paced hash p.interval i ∧ outcome = .error (.error (.shutdown hash))) := by
  intro outcome did
  -- With look-ups left, the wait after those in vain begins with the next one.
  have after (i : Nat) (below : i < n) (missed : env.Misses hash p.interval s i) :
      ∃ rest, outcome = ((pollReceipt hash p.interval timeout (rest + 1)).runAlone env
          (env.afterLookups hash p.interval s i)).1 ∧
        did = Beat.paced hash p.interval i ++
          beats ((pollReceipt hash p.interval timeout (rest + 1)).journal env
            (env.afterLookups hash p.interval s i)) ∧ n = i + rest + 1 := by
    obtain ⟨rest, rfl⟩ := Nat.exists_eq_add_of_lt below
    have polls : p.confirmWithin hash timeout =
        pollReceipt hash p.interval timeout (i + rest + 1) := by
      unfold confirmWithin
      rw [told]
    obtain ⟨ran, wrote⟩ := pollReceipt_after_misses timeout missed rest
    exact ⟨rest, by rw [← ran, ← polls], by rw [← wrote, ← polls], rfl⟩
  refine ⟨?found, ?missed, ?stopped⟩
  case found =>
    intro i below missed going receipt there
    obtain ⟨rest, ran, wrote, -⟩ := after i below missed
    rw [wrote, ran, beats_of_receipt going there]
    exact ⟨rfl, safe_alone.1 (pollReceipt_of_receipt going there rest)⟩
  case missed =>
    intro missed
    obtain ⟨m, rfl⟩ := attempts?_pos told
    have last := missed m (Nat.lt_succ_self m)
    obtain ⟨rest, ran, wrote, count⟩ := after m (Nat.lt_succ_self m)
      fun i below => missed i (Nat.lt_succ_of_lt below)
    obtain rfl : rest = 0 := by omega
    obtain ⟨timedOut, looked⟩ := pollReceipt_last last.1 last.2
    rw [wrote, ran, looked, Nat.add_sub_cancel]
    exact ⟨rfl, timedOut⟩
  case stopped =>
    intro i below missed stopping
    obtain ⟨rest, ran, wrote, -⟩ := after i below missed
    rw [wrote, ran, beats_of_stopping stopping, List.append_nil, pollReceipt_of_stopping stopping]
    exact ⟨rfl, rfl⟩

namespace SlowReceipt

/-- The first look-up fails, the second finds nothing, and the third finds the receipt. The desk is told
to stop in the pause after so many look-ups. -/
def node (stopAfter : Nat) : Environment Nat where
  reply looked
    | .receipt hash =>
      match looked with
      | 0 => (.error default, {}, 1)
      | 1 => (.ok none, {}, 2)
      | _ => (.ok (some ⟨hash, 9, true, 21000, []⟩), {}, looked + 1)
    | _ => (.error default, {}, looked)
  sleep looked d := ({ elapsed := d, stop := decide (looked = stopAfter) }, looked)

/-- A wait of three seconds, a second between two look-ups. -/
def wait (stopAfter : Nat) : Except Fault Confirmation × List Beat :=
  let look := ({} : PollPolicy).confirmWithin ⟨7⟩ (.ofSeconds 3)
  ((look.runAlone (node stopAfter) ({}, 0)).1, beats (look.journal (node stopAfter) ({}, 0)))

theorem misses (stopAfter : Nat) (later : 2 ≤ stopAfter) :
    (node stopAfter).Misses ⟨7⟩ (.ofSeconds 1) ({}, 0) 2 := by
  intro i below
  match i, below with
  | 0, _ => exact ⟨rfl, nofun⟩
  | 1, _ =>
    refine ⟨?_, nofun⟩
    show decide (1 = stopAfter) = false
    exact decide_eq_false (by omega)

/-- The third and last look-up finds the receipt; if the desk is told to stop before, it is not made. -/
theorem found_at_last :
    ({} : PollPolicy).attempts? (.ofSeconds 3) = some 3 ∧
    wait 4 = (.ok (.confirmed ⟨⟨7⟩, 9, true, 21000, []⟩),
      Beat.paced ⟨7⟩ (.ofSeconds 1) 2 ++ [.look ⟨7⟩]) ∧
    wait 2 = (.error (.error (.shutdown ⟨7⟩)), Beat.paced ⟨7⟩ (.ofSeconds 1) 2) := by
  have told : ({} : PollPolicy).attempts? (.ofSeconds 3) = some 3 := by decide
  refine ⟨told, ?_, ?_⟩
  · obtain ⟨did, confirmed, -⟩ := (PollPolicy.confirmWithin_polls {} told (node 4) ({}, 0) ⟨7⟩).1 2
      (by decide) (misses 4 (by decide)) rfl _ rfl
    exact Prod.ext (confirmed rfl) did
  · obtain ⟨did, stopped⟩ := (PollPolicy.confirmWithin_polls {} told (node 2) ({}, 0) ⟨7⟩).2.2 2
      (by decide) (misses 2 (by decide)) rfl
    exact Prod.ext stopped did

end SlowReceipt
end OrderDesk
