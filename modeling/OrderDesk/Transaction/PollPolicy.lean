import OrderDesk.Time

/-!
# `OrderDesk.Transaction.PollPolicy` — how often a receipt is looked up
-/

namespace OrderDesk

/-- The pause between look-ups and the time after which they end. -/
structure PollPolicy where
  interval : Duration := .ofSeconds 1
  timeout : Duration := .ofSeconds 30
deriving DecidableEq, Repr, Inhabited

/-- The number of look-ups that fit into a time, counted in whole milliseconds and rounded up; at
least one, at most the largest 32-bit number. A pause of less than a millisecond that is not zero has
no result. -/
def PollPolicy.attempts? (p : PollPolicy) (timeout : Duration) : Option Nat :=
  if p.interval.nanos = 0 then some 1
  else
    let step := p.interval.millis
    if step = 0 then none
    else some (max 1 (min (UInt32.size - 1) ((timeout.millis + (step - 1)) / step)))

/-- There is at least one look-up, if their number can be told. -/
theorem PollPolicy.attempts?_pos {p : PollPolicy} {timeout : Duration} {n : Nat}
    (h : p.attempts? timeout = some n) : ∃ rest, n = rest + 1 := by
  refine Nat.exists_eq_add_one.2 ?_
  unfold attempts? at h
  split at h
  · cases h
    exact Nat.one_pos
  · dsimp only at h
    split at h
    · cases h
    · cases h
      exact Nat.lt_of_lt_of_le Nat.one_pos (Nat.le_max_left _ _)

end OrderDesk
