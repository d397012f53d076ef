import Mathlib.Order.Bounds.Basic
import OrderDesk.Proofs.Log

/-!
# `OrderDesk.Proofs.PollCount` — how many look-ups a policy gives a wait

The number of look-ups is the least for which the pauses, one after each, would last the whole time. It
is worked out on whole milliseconds: what both spans have beyond them is left out. So it is right for
spans of whole milliseconds and for few others, and there is none for a pause that has no whole
millisecond at all.

## Contents
- `Lasting`: the numbers of look-ups that last a time; `lasting_eq_Ici`.
- `PollPolicy.attempts?_eq`: the number that a policy gives.
- `timeAsleep`, `pollReceipt_asleep`: how long a wait that ends without a receipt has paused.
- `PollPolicy.attempts_exact_iff`: the result, for every pause that is not zero and every time.
-/

namespace OrderDesk

open Attempt

/-! ### The number of look-ups -/

/-- The numbers of look-ups, at least one, that last a time if there is a pause after each. -/
def Lasting (pause time : Nat) : Set Nat := {n | 1 ≤ n ∧ time ≤ n * pause}

theorem lasting_eq_Ici {pause : Nat} (pauses : 0 < pause) (time : Nat) :
    Lasting pause time = Set.Ici (max 1 ((time + (pause - 1)) / pause)) := by
  ext n
  have rounded : (time + (pause - 1)) / pause ≤ n ↔ time ≤ n * pause := by
    rw [← Nat.lt_succ_iff, Nat.div_lt_iff_lt_mul pauses, Nat.succ_mul]
    omega
  rw [Set.mem_Ici, Nat.max_le, rounded]
  rfl

/-- Cut off at a limit, two numbers are the same if they are below the same numbers under it. -/
theorem min_eq_min_iff_le {a b limit : Nat} :
    min a limit = min b limit ↔ ∀ n < limit, a ≤ n ↔ b ≤ n := by
  constructor
  · intro same n below
    omega
  · intro agree
    rcases Nat.lt_or_ge a limit with left | left <;> rcases Nat.lt_or_ge b limit with right | right
    · have := (agree a left).1 le_rfl
      have := (agree b right).2 le_rfl
      omega
    · have := (agree a left).1 le_rfl
      omega
    · have := (agree b right).2 le_rfl
      omega
    · omega

theorem isLeast_lasting {pause : Nat} (pauses : 0 < pause) (time : Nat) :
    IsLeast (Lasting pause time) (max 1 ((time + (pause - 1)) / pause)) := by
  rw [lasting_eq_Ici pauses]
  exact isLeast_Ici

/-- Pauses between as many look-ups as are needed, or fewer, end before the time does. -/
theorem asleep_lt_of_isLeast {pause time due n : Nat} (least : IsLeast (Lasting pause time) due)
    (below : n ≤ due) (timed : 0 < time) : (n - 1) * pause < time := by
  by_contra whole
  rcases Nat.lt_or_ge 1 n with several | one
  · have enough : n - 1 ∈ Lasting pause time := ⟨by omega, Nat.le_of_not_lt whole⟩
    have := least.2 enough
    omega
  · rw [Nat.sub_eq_zero_of_le one, Nat.zero_mul] at whole
    exact whole timed

namespace PollPolicy

variable {p : PollPolicy} {timeout : Duration}

/-- The largest number of look-ups. -/
def limit : Nat := UInt32.size - 1

theorem attempts?_eq (pauses : 0 < p.interval.nanos) :
    p.attempts? timeout =
      if p.interval.nanos < 1000000 then none
      else some
        (min (max 1 ((timeout.millis + (p.interval.millis - 1)) / p.interval.millis)) limit) := by
  have whole : p.interval.millis = 0 ↔ p.interval.nanos < 1000000 := by
    unfold Duration.millis
    omega
  unfold attempts?
  rw [if_neg pauses.ne']
  dsimp only
  simp only [whole]
  split
  · rfl
  · congr 1
    unfold limit
    have : 1 ≤ UInt32.size - 1 := by decide
    omega

theorem attempts?_eq_none_iff (pauses : 0 < p.interval.nanos) :
    p.attempts? timeout = none ↔ p.interval.nanos < 1000000 := by
  rw [attempts?_eq pauses]
  split
  · next short => simpa using short
  · next long => simpa using long

/-- The number is worked out on whole milliseconds. -/
theorem attempts?_eq_some_iff (pauses : 0 < p.interval.nanos) {n : Nat} :
    p.attempts? timeout = some n ↔
      1000000 ≤ p.interval.nanos ∧
        ∃ least, IsLeast (Lasting p.interval.millis timeout.millis) least ∧ n = min least limit := by
  rw [attempts?_eq pauses]
  split
  · next short =>
    exact iff_of_false nofun fun ⟨long, _⟩ => absurd short (Nat.not_lt_of_le long)
  · next long =>
    have long := Nat.le_of_not_lt long
    have millis : 0 < p.interval.millis := Nat.div_pos long (by decide)
    have least := isLeast_lasting millis timeout.millis
    constructor
    · intro told
      cases told
      exact ⟨long, _, least, rfl⟩
    · rintro ⟨-, other, isLeast, rfl⟩
      rw [isLeast.unique least]

/-- The number is right if it is the same on whole milliseconds as on nanoseconds. -/
theorem attempts?_eq_due_iff (pauses : 0 < p.interval.nanos) {due : Nat}
    (least : IsLeast (Lasting p.interval.nanos timeout.nanos) due) :
    p.attempts? timeout = some (min due limit) ↔
      1000000 ≤ p.interval.nanos ∧
        ∀ n < limit, n ∈ Lasting p.interval.nanos timeout.nanos ↔
          n ∈ Lasting p.interval.millis timeout.millis := by
  rw [attempts?_eq_some_iff pauses]
  refine and_congr_right fun long => ?_
  have millis : 0 < p.interval.millis := Nat.div_pos long (by decide)
  rw [least.unique (isLeast_lasting pauses timeout.nanos), lasting_eq_Ici pauses,
    lasting_eq_Ici millis]
  simp only [Set.mem_Ici, ← min_eq_min_iff_le]
  constructor
  · rintro ⟨other, isLeast, same⟩
    rw [same, isLeast.unique isLeast_Ici]
  · exact fun same => ⟨_, isLeast_Ici, same⟩

/-- Spans of whole milliseconds are counted exactly. -/
theorem attempts?_of_whole (pauses : 0 < p.interval.nanos) (interval : 1000000 ∣ p.interval.nanos)
    (time : 1000000 ∣ timeout.nanos) {due : Nat}
    (least : IsLeast (Lasting p.interval.nanos timeout.nanos) due) :
    p.attempts? timeout = some (min due limit) := by
  refine (attempts?_eq_due_iff pauses least).2 ⟨Nat.le_of_dvd pauses interval, fun n _ => ?_⟩
  have same : timeout.nanos ≤ n * p.interval.nanos ↔ timeout.millis ≤ n * p.interval.millis := by
    unfold Duration.millis
    obtain ⟨a, whole⟩ := interval
    obtain ⟨b, wholeTime⟩ := time
    rw [whole, wholeTime, Nat.mul_div_cancel_left _ (by decide),
      Nat.mul_div_cancel_left _ (by decide), Nat.mul_left_comm]
    omega
  exact and_congr_right fun _ => same

/-! ### The time spent in pauses -/

/-- What a wait leaves out is less than it counts, so its pauses stay below twice its time. -/
theorem asleep_lt_double {n : Nat} (told : p.attempts? timeout = some n)
    (pauses : 0 < p.interval.nanos) (timed : 0 < timeout.nanos) :
    (n - 1) * p.interval.nanos < 2 * timeout.nanos := by
  obtain ⟨long, least, isLeast, rfl⟩ := (attempts?_eq_some_iff pauses).1 told
  have below : min least limit ≤ least := Nat.min_le_left ..
  generalize min least limit = n at below
  rcases Nat.lt_or_ge 1 n with several | one
  · -- With more than one look-up there is a whole millisecond to wait.
    have millis : 0 < timeout.millis := by
      by_contra none
      have : least ≤ 1 := isLeast.2 ⟨le_rfl, by omega⟩
      omega
    have counted := asleep_lt_of_isLeast isLeast below millis
    have interval : p.interval.nanos ≤ 2000000 * p.interval.millis := by
      unfold Duration.millis
      omega
    have time : 2000000 * timeout.millis ≤ 2 * timeout.nanos := by
      unfold Duration.millis
      omega
    calc (n - 1) * p.interval.nanos
        ≤ (n - 1) * (2000000 * p.interval.millis) := Nat.mul_le_mul_left _ interval
      _ = 2000000 * ((n - 1) * p.interval.millis) := Nat.mul_left_comm ..
      _ < 2000000 * timeout.millis := Nat.mul_lt_mul_of_pos_left counted (by decide)
      _ ≤ 2 * timeout.nanos := time
  · rw [Nat.sub_eq_zero_of_le one, Nat.zero_mul]
    omega

end PollPolicy

/-- The nanoseconds of a pause. -/
def Event.asleep : Event → Nat
  | slept d => d.nanos
  | _ => 0

/-- The time that the pauses of a log took, in nanoseconds. -/
def timeAsleep : List Event → Nat
  | [] => 0
  | ev :: log => ev.asleep + timeAsleep log

/-- **A wait that ends without a receipt** has paused between all of its look-ups. -/
theorem pollReceipt_asleep (hash : Hash) (interval timeout : Duration) (n : Nat) :
    (pollReceipt hash interval timeout n).Logs fun r own =>
      r = .ok (.timedOut hash timeout) → timeAsleep own = (n - 1) * interval.nanos := by
  induction n with
  | zero =>
    intro _
    rw [Nat.zero_sub, Nat.zero_mul]
    rfl
  | succ rest ih =>
    unfold pollReceipt
    refine logs_act_bind fun stopping => ?_
    split
    · exact logs_fail.2 fun same => by cases same
    refine logs_reply_bind fun told => ?_
    split
    · -- A receipt ends the wait in another way.
      split
      · exact logs_pure.2 fun same => by cases same
      · refine Logs.bind (logs_trivial _) (fun reason own _ => ?_) fun fault own _ same => ?_
        · exact logs_pure.2 fun same => by cases same
        · cases same
    split
    · next last =>
      refine logs_pure.2 fun _ => ?_
      rw [last, Nat.add_sub_cancel, Nat.zero_mul]
      rfl
    · next more =>
      refine logs_sleep_bind fun stopped => ?_
      split
      · exact logs_fail.2 fun same => by cases same
      refine ih.mono fun r own asleep timedOut => ?_
      obtain ⟨others, rfl⟩ := Nat.exists_eq_succ_of_ne_zero more
      simp only [timeAsleep, Event.asleep, asleep timedOut, Nat.zero_add]
      rw [Nat.add_sub_cancel, Nat.succ_sub_one, Nat.succ_mul, Nat.add_comm]

theorem PollPolicy.confirmWithin_asleep {p : PollPolicy} {timeout : Duration} {n : Nat}
    (told : p.attempts? timeout = some n) (hash : Hash) :
    (p.confirmWithin hash timeout).Logs fun r own =>
      r = .ok (.timedOut hash timeout) →
        timeAsleep own = (n - 1) * p.interval.nanos := by
  unfold confirmWithin
  rw [told]
  exact pollReceipt_asleep hash p.interval timeout n

/-! ### The result -/

/-- **Look-ups are counted on whole milliseconds.** For every pause that is not zero and every time: no
number is told exactly if the pause is below a millisecond; else the number is the least that lasts the
time, both cut down to whole milliseconds, or the limit if that is less. It is the least for the spans
themselves, up to the limit, exactly if the pause is a millisecond or longer and the same numbers below
the limit last the time on whole milliseconds as do on nanoseconds, so always for spans of whole
milliseconds. A wait for so many look-ups that ends without a receipt has slept once less, each time for
the pause; all of the pauses together are shorter than twice a time that is not zero, and shorter than
that time if the number is not above the least. -/
theorem PollPolicy.attempts_exact_iff (p : PollPolicy) (timeout : Duration)
    (pauses : 0 < p.interval.nanos) :
    let exact := Lasting p.interval.nanos timeout.nanos
    let counted := Lasting p.interval.millis timeout.millis
    (p.attempts? timeout = none ↔ p.interval.nanos < 1000000) ∧
    (∀ n, p.attempts? timeout = some n ↔
      1000000 ≤ p.interval.nanos ∧ ∃ least, IsLeast counted least ∧ n = min least limit) ∧
    ∃ due, IsLeast exact due ∧
      (p.attempts? timeout = some (min due limit) ↔
        1000000 ≤ p.interval.nanos ∧ ∀ n < limit, n ∈ exact ↔ n ∈ counted) ∧
      (1000000 ∣ p.interval.nanos → 1000000 ∣ timeout.nanos →
        p.attempts? timeout = some (min due limit)) ∧
      ∀ n, p.attempts? timeout = some n →
        (∀ hash, (p.confirmWithin hash timeout).Logs fun r own =>
          r = .ok (.timedOut hash timeout) →
            timeAsleep own = (n - 1) * p.interval.nanos) ∧
        (0 < timeout.nanos →
          (n - 1) * p.interval.nanos < 2 * timeout.nanos ∧
          (n ≤ due → (n - 1) * p.interval.nanos < timeout.nanos)) := by
  intro exact counted
  refine ⟨attempts?_eq_none_iff pauses, fun n => attempts?_eq_some_iff pauses, ?_⟩
  have least := isLeast_lasting pauses timeout.nanos
  refine ⟨_, least, attempts?_eq_due_iff pauses least,
    fun interval time => attempts?_of_whole pauses interval time least, fun n told => ⟨?_, ?_⟩⟩
  · exact fun hash => confirmWithin_asleep told hash
  · exact fun timed => ⟨asleep_lt_double told pauses timed,
      fun below => asleep_lt_of_isLeast least below timed⟩

namespace PollSample

/-- A wait of half a minute with a second between two look-ups. -/
theorem thirty_looks :
    0 < ({} : PollPolicy).interval.nanos ∧
    IsLeast (Lasting 1000000000 30000000000) 30 ∧
    ({} : PollPolicy).attempts? (.ofSeconds 30) = some (min 30 PollPolicy.limit) := by
  have pauses : 0 < ({} : PollPolicy).interval.nanos := by decide
  obtain ⟨-, -, due, least, -, whole, -⟩ :=
    PollPolicy.attempts_exact_iff {} (.ofSeconds 30) pauses
  have thirty : IsLeast (Lasting 1000000000 30000000000) 30 :=
    isLeast_lasting (by decide) 30000000000
  obtain rfl : due = 30 := least.unique thirty
  exact ⟨pauses, thirty, whole (by decide) (by decide)⟩

/-- Two pauses of half a millisecond last a millisecond, but their number is not told. Two of one and
a half last three, but one more is told, and the wait pauses for all of its time; one of a millisecond
does not last one and a half, but one look-up is all that is told. -/
theorem miscounted :
    IsLeast (Lasting 500000 1000000) 2 ∧
    ({ interval := .ofMicros 500 } : PollPolicy).attempts? (.ofMillis 1) = none ∧
    IsLeast (Lasting 1500000 3000000) 2 ∧
    ({ interval := .ofMicros 1500 } : PollPolicy).attempts? (.ofMillis 3) = some 3 ∧
    ¬ (3 - 1) * 1500000 < 3000000 ∧
    IsLeast (Lasting 1000000 1500000) 2 ∧
    ({ interval := .ofMillis 1 } : PollPolicy).attempts? (.ofMicros 1500) = some 1 := by
  refine ⟨isLeast_lasting (by decide) 1000000, by decide, isLeast_lasting (by decide) 3000000,
    by decide, by decide, isLeast_lasting (by decide) 1500000, by decide⟩

end PollSample
end OrderDesk
