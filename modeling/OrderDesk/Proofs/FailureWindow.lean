import OrderDesk.Desk.Limiter

/-!
# `OrderDesk.Proofs.FailureWindow` — a pruned queue of failures against all of them

The limiter drops old failures only when it is called, and only from the front of its queue. Here it
is set against a plain count over every failure that was ever recorded: whatever calls came before,
and however long ago, each call is answered by the count. Questions leave no trace in the answers.

## Contents
- `LimiterCall`, `Limiter.run`: calls of a limiter at their times, with their answers.
- `LimiterCall.countAt`, `LimiterCall.answer`: the count over all failures, and the answers by it.
- `Limiter.Remembers`: the queue holds just the failures that still count; `remembers_step`.
- `LimiterCall.answers`, `Limiter.run_eq_answers`: a run answers by the count, call by call.
- `Limiter.run_counts`: the result over all sequences of calls.
-/

namespace OrderDesk

/-- A call of a limiter, at its time. -/
inductive LimiterCall where
  | record (now : Instant)
  | errors (now : Instant)
  | check (now : Instant)
deriving DecidableEq

namespace LimiterCall

/-- What a call answers. -/
inductive Answer where
  /-- Whether the limit is still not reached. -/
  | below (yes : Bool)
  | count (n : Nat)
  | verdict (result : Except DeskError Unit)

/-- When the call is made. -/
def time : LimiterCall → Instant
  | record now | errors now | check now => now

/-- The call records nothing. -/
def isQuestion : LimiterCall → Bool
  | record _ => false
  | errors _ | check _ => true

/-! ### The plain count -/

/-- All failures that calls record, in their order. -/
def failures (calls : List LimiterCall) : List Instant :=
  calls.filterMap fun
    | record now => some now
    | _ => none

/-- A failure is younger than the window. -/
def counts (window : Duration) (now failure : Instant) : Bool :=
  decide (now.since failure < window)

/-- How many failures are younger than the window. -/
def countAt (window : Duration) (past : List Instant) (now : Instant) : Nat :=
  past.countP (counts window now)

/-- The answer by the count over all failures before the call. A failure that is recorded counts
already. -/
def answer (maxErrors : Nat) (window : Duration) (past : List Instant) : LimiterCall → Answer
  | record now => .below (decide (countAt window (past ++ [now]) now < maxErrors))
  | errors now => .count (countAt window past now)
  | check now =>
    let n := countAt window past now
    .verdict (if maxErrors ≤ n then .error (.errorRateExceeded n window) else .ok ())

/-- The answers to calls one after another, after failures that are past. -/
def answers (maxErrors : Nat) (window : Duration) : List Instant → List LimiterCall → List Answer
  | _, [] => []
  | past, c :: rest =>
    c.answer maxErrors window past :: answers maxErrors window (past ++ failures [c]) rest

section Answers

variable (maxErrors : Nat) (window : Duration)

theorem failures_cons (c : LimiterCall) (rest : List LimiterCall) :
    failures (c :: rest) = failures [c] ++ failures rest := by
  show ([c] ++ rest).filterMap _ = _
  exact List.filterMap_append ..

theorem failures_question {c : LimiterCall} (question : c.isQuestion = true) :
    failures [c] = [] := by
  cases c with
  | record now => cases question
  | errors now | check now => rfl

/-- Each call is answered by the failures before it. -/
theorem answers_getElem? (past : List Instant) (before : List LimiterCall) (c : LimiterCall)
    (after : List LimiterCall) :
    (answers maxErrors window past (before ++ c :: after))[before.length]? =
      some (c.answer maxErrors window (past ++ failures before)) := by
  induction before generalizing past with
  | nil =>
    show some (c.answer maxErrors window past) = some (c.answer maxErrors window (past ++ []))
    rw [List.append_nil]
  | cons first rest ih =>
    rw [failures_cons, ← List.append_assoc]
    exact ih _

/-- Questions that are left out are missed by no other call. -/
theorem answers_of_left_out (past : List Instant) (marked : List (Bool × LimiterCall))
    (questions : ∀ m ∈ marked, m.1 = false → m.2.isQuestion = true) :
    answers maxErrors window past ((marked.filter (·.1)).map (·.2)) =
      (((marked.map (·.1)).zip (answers maxErrors window past (marked.map (·.2)))).filter
        (·.1)).map (·.2) := by
  induction marked generalizing past with
  | nil => rfl
  | cons m rest ih =>
    obtain ⟨kept, c⟩ := m
    have others := ih (past ++ failures [c]) fun m mem => questions m (List.mem_cons_of_mem _ mem)
    cases kept with
    | true => simpa [answers] using others
    | false =>
      -- What is left out adds nothing to the failures.
      have none_added := failures_question (questions _ List.mem_cons_self rfl)
      rw [none_added, List.append_nil] at others
      simpa [answers, none_added] using others

end Answers

end LimiterCall

namespace Limiter

open LimiterCall (Answer counts countAt)

/-- One call, with the limiter after it. -/
def step (l : Limiter) : LimiterCall → Answer × Limiter
  | .record now => (.below (l.record now).1, (l.record now).2)
  | .errors now => (.count (l.errors now).1, (l.errors now).2)
  | .check now => (.verdict (l.check now).1, (l.check now).2)

/-- Calls one after another, each with its answer. -/
def run (l : Limiter) : List LimiterCall → List Answer × Limiter
  | [] => ([], l)
  | c :: rest => ((l.step c).1 :: ((l.step c).2.run rest).1, ((l.step c).2.run rest).2)

/-! ### What the queue remembers -/

/-- On a queue in order of time, dropping old failures from its front drops all old ones. -/
theorem dropWhile_sorted {queue : List Instant} (sorted : queue.Pairwise (· ≤ ·))
    (window : Duration) (now : Instant) :
    (queue.dropWhile fun failure => decide (window ≤ now.since failure)) =
      queue.filter (counts window now) := by
  induction queue with
  | nil => rfl
  | cons failure rest ih =>
    obtain ⟨first, others⟩ := List.pairwise_cons.1 sorted
    by_cases old : window ≤ now.since failure
    · have expired : ¬ counts window now failure = true :=
        fun young => Nat.not_lt.2 old (of_decide_eq_true young)
      rw [List.dropWhile_cons_of_pos (by simpa using old), List.filter_cons_of_neg expired]
      exact ih others
    · -- A failure that still counts stands before younger ones only.
      rw [List.dropWhile_cons_of_neg (by simpa using old)]
      refine (List.filter_eq_self.2 fun later mem => decide_eq_true ?_).symm
      rcases List.mem_cons.1 mem with rfl | mem
      · exact Nat.not_le.1 old
      · exact Nat.lt_of_le_of_lt (Nat.sub_le_sub_left (first later mem) _) (Nat.not_le.1 old)

/-- **The queue holds just the failures that count**, of all that were recorded up to a time. -/
structure Remembers (l : Limiter) (past : List Instant) (now : Instant) : Prop where
  sorted : past.Pairwise (· ≤ ·)
  until_now : ∀ failure ∈ past, failure ≤ now
  queue : l.failures = past.filter (counts l.window now)

variable {l : Limiter} {past : List Instant} {now later : Instant}

/-- What counts later counted before. -/
theorem Remembers.expire (h : l.Remembers past now) (after : now ≤ later) :
    (l.expire later).Remembers past later := by
  have sorted : l.failures.Pairwise (· ≤ ·) := h.queue ▸ h.sorted.filter _
  refine ⟨h.sorted, fun failure mem => Nat.le_trans (h.until_now failure mem) after, ?_⟩
  show l.failures.dropWhile _ = past.filter (counts l.window later)
  rw [dropWhile_sorted sorted, h.queue, List.filter_filter]
  refine List.filter_congr fun failure _ => ?_
  have counted (young : counts l.window later failure = true) : counts l.window now failure = true :=
    decide_eq_true (Nat.lt_of_le_of_lt (Nat.sub_le_sub_right after _) (of_decide_eq_true young))
  cases young : counts l.window later failure with
  | true => exact counted young
  | false => rfl

/-- The queue is as long as the count. -/
theorem Remembers.count (h : l.Remembers past now) : l.failures.length = countAt l.window past now := by
  rw [h.queue]
  exact List.countP_eq_length_filter.symm

/-- A failure that is recorded now counts. -/
theorem Remembers.record (h : l.Remembers past now) (after : now ≤ later)
    (opened : 0 < l.window.nanos) : (l.record later).2.Remembers (past ++ [later]) later := by
  have kept := h.expire after
  refine ⟨?_, ?_, ?_⟩
  · refine List.pairwise_append.2 ⟨kept.sorted, List.pairwise_singleton _ _, ?_⟩
    intro failure mem last same
    exact List.mem_singleton.1 same ▸ kept.until_now failure mem
  · intro failure mem
    rcases List.mem_append.1 mem with before | same
    · exact kept.until_now failure before
    · exact List.mem_singleton.1 same ▸ Nat.le_refl _
  · have fresh : counts l.window later later = true := by
      refine decide_eq_true ?_
      show later.nanos - later.nanos < l.window.nanos
      omega
    show (l.expire later).failures ++ [later] = (past ++ [later]).filter (counts l.window later)
    rw [List.filter_append, List.filter_cons_of_pos fresh, kept.queue]
    rfl

/-! ### Calls -/

theorem window_step (l : Limiter) (c : LimiterCall) : (l.step c).2.window = l.window := by
  cases c with
  | record now | errors now => rfl
  | check now =>
    show (l.check now).2.window = l.window
    unfold check
    dsimp only
    split <;> rfl

theorem maxErrors_step (l : Limiter) (c : LimiterCall) : (l.step c).2.maxErrors = l.maxErrors := by
  cases c with
  | record now | errors now => rfl
  | check now =>
    show (l.check now).2.maxErrors = l.maxErrors
    unfold check
    dsimp only
    split <;> rfl

/-- **One call** is answered by the count and leaves a queue that holds what counts. -/
theorem remembers_step (h : l.Remembers past now) (opened : 0 < l.window.nanos) (c : LimiterCall)
    (after : now ≤ c.time) :
    (l.step c).1 = c.answer l.maxErrors l.window past ∧
      (l.step c).2.Remembers (past ++ LimiterCall.failures [c]) c.time := by
  cases c with
  | record later =>
    have recorded : (l.record later).2.Remembers (past ++ [later]) later := h.record after opened
    refine ⟨?_, recorded⟩
    show Answer.below (decide ((l.record later).2.failures.length < l.maxErrors)) = _
    rw [recorded.count]
    rfl
  | errors later =>
    have kept : (l.expire later).Remembers past later := h.expire after
    refine ⟨congrArg Answer.count kept.count, ?_⟩
    show (l.expire later).Remembers (past ++ []) later
    rwa [List.append_nil]
  | check later =>
    have kept : (l.expire later).Remembers past later := h.expire after
    have count : (l.expire later).failures.length = countAt l.window past later := kept.count
    show Answer.verdict (l.check later).1 = _ ∧ (l.check later).2.Remembers (past ++ []) later
    rw [List.append_nil]
    unfold check errors LimiterCall.answer
    dsimp only
    rw [← count]
    split
    · exact ⟨rfl, kept⟩
    · exact ⟨rfl, kept⟩

/-- **Calls at times that do not go back** are answered by the count, one after another. -/
theorem run_eq_answers (h : l.Remembers past now) (opened : 0 < l.window.nanos)
    {calls : List LimiterCall} (first : ∀ c ∈ calls, now ≤ c.time)
    (ordered : calls.Pairwise fun c later => c.time ≤ later.time) :
    (l.run calls).1 = LimiterCall.answers l.maxErrors l.window past calls := by
  induction calls generalizing l past now with
  | nil => rfl
  | cons c rest ih =>
    obtain ⟨before, others⟩ := List.pairwise_cons.1 ordered
    obtain ⟨answered, kept⟩ := remembers_step h opened c (first c List.mem_cons_self)
    have rest_answered := ih kept (l.window_step c ▸ opened) before others
    rw [l.window_step, l.maxErrors_step] at rest_answered
    show (l.step c).1 :: ((l.step c).2.run rest).1 = _
    rw [answered, rest_answered]
    rfl

/-- A limiter begins with no failures. -/
theorem ofLimits_eq_ok {maxErrors : Nat} {window : Duration}
    (made : ofLimits maxErrors window = .ok l) : l = { maxErrors, window } := by
  unfold ofLimits at made
  split at made
  · exact (Except.ok.inj made).symm
  · cases made

/-- **The limiter answers by the count over all failures.** It is made for any limit there is room
for and any window but an empty one, and called at times that do not go back. Then each call is
answered by how many of all failures recorded before it are younger than the window: a question for
the count tells it, a check fails with it exactly if the limit is reached, and a failure that is
recorded answers whether with it the limit is still not reached. If questions are left out anywhere,
every other call is answered as before. -/
theorem run_counts {maxErrors : Nat} {window : Duration} (made : ofLimits maxErrors window = .ok l)
    (opened : 0 < window.nanos) {calls : List LimiterCall}
    (ordered : calls.Pairwise fun c later => c.time ≤ later.time) :
    (∀ before c after, calls = before ++ c :: after →
      (l.run calls).1[before.length]? =
        some (c.answer maxErrors window (LimiterCall.failures before))) ∧
    (∀ marked : List (Bool × LimiterCall), marked.map (·.2) = calls →
      (∀ m ∈ marked, m.1 = false → m.2.isQuestion = true) →
      (l.run ((marked.filter (·.1)).map (·.2))).1 =
        (((marked.map (·.1)).zip (l.run calls).1).filter (·.1)).map (·.2)) := by
  obtain rfl := ofLimits_eq_ok made
  have empty : Remembers { maxErrors, window } [] ⟨0⟩ :=
    ⟨List.Pairwise.nil, fun _ mem => absurd mem List.not_mem_nil, rfl⟩
  have counted {calls : List LimiterCall}
      (ordered : calls.Pairwise fun c later => c.time ≤ later.time) :=
    run_eq_answers empty opened (fun c _ => Nat.zero_le c.time.nanos) ordered
  refine ⟨?_, ?_⟩
  · rintro before c after rfl
    rw [counted ordered]
    exact LimiterCall.answers_getElem? maxErrors window [] before c after
  · rintro marked rfl questions
    have fewer : ((marked.filter (·.1)).map (·.2)).Sublist (marked.map (·.2)) :=
      List.filter_sublist.map _
    rw [counted ordered, counted (ordered.sublist fewer)]
    exact LimiterCall.answers_of_left_out maxErrors window [] marked questions

/-- At most one failure within a minute. The first counts no more when it is a minute old, and the check
before that is missed by no other call. -/
theorem run_counts_to_the_minute : ∃ l, ofLimits 2 (.ofSeconds 60) = .ok l ∧
    (l.run [.record ⟨0⟩, .record ⟨30000000000⟩, .check ⟨59999999999⟩,
      .errors ⟨60000000000⟩]).1[3]? = some (.count 1) ∧
    (l.run [.record ⟨0⟩, .record ⟨30000000000⟩, .errors ⟨60000000000⟩]).1 =
      [.below true, .below false, .count 1] := by
  have opened : 0 < (Duration.ofSeconds 60).nanos := by decide
  have ordered : [LimiterCall.record ⟨0⟩, .record ⟨30000000000⟩, .check ⟨59999999999⟩,
      .errors ⟨60000000000⟩].Pairwise fun c later => c.time ≤ later.time := by decide
  have made : ofLimits 2 (.ofSeconds 60) = .ok { maxErrors := 2, window := .ofSeconds 60 } := rfl
  obtain ⟨counted, spared⟩ := run_counts made opened ordered
  refine ⟨_, made, ?_, ?_⟩
  · exact counted [.record ⟨0⟩, .record ⟨30000000000⟩, .check ⟨59999999999⟩] _ [] rfl
  · exact spared [(true, .record ⟨0⟩), (true, .record ⟨30000000000⟩), (false, .check ⟨59999999999⟩),
      (true, .errors ⟨60000000000⟩)] rfl (by decide)

end Limiter
end OrderDesk
