import OrderDesk.DeskError

/-!
# `OrderDesk.Desk.Limiter` — backing off after failures

A sliding window over the instants of recent failures. While it holds as many as allowed, new orders
are refused.

## Contents
- `Limiter.ofLimits`: a limiter whose failures there is room for.
- `Limiter.expire`, `Limiter.record`, `Limiter.errors`, `Limiter.check`.
- `Limiter.record_expire`: what expired before makes no difference to a failure that is added.
-/

namespace OrderDesk

/-- The window and the failures still in it, oldest first. -/
structure Limiter where
  maxErrors : Nat := 10
  window : Duration := .ofSeconds 60
  failures : List Instant := []
deriving DecidableEq, Repr, Inhabited

namespace Limiter

/-- No window has room for as many failures. -/
def roomBound : Nat := 576460752303423488

/-- A limiter with room for one failure more than it allows. The room is set aside at once, so a limit
beyond all room has no limiter. -/
def ofLimits (maxErrors : Nat) (window : Duration) : Except Breakdown Limiter :=
  if maxErrors + 1 < roomBound then .ok { maxErrors, window } else .error .arithmetic

/-- Drops failures from the front while they are as old as the window. -/
def expire (l : Limiter) (now : Instant) : Limiter :=
  { l with failures := l.failures.dropWhile fun failure => decide (l.window ≤ now.since failure) }

/-- A failure that is as old as the window stays so. -/
theorem outdated_mono {window : Duration} {failure now later : Instant} (h : now ≤ later)
    (old : window ≤ now.since failure) : window ≤ later.since failure :=
  Nat.le_trans old (Nat.sub_le_sub_right h _)

/-- Expiry at an earlier instant is made up for by expiry at a later one. -/
theorem expire_expire (l : Limiter) {now later : Instant} (h : now ≤ later) :
    (l.expire now).expire later = l.expire later := by
  unfold expire
  dsimp only
  congr 1
  induction l.failures with
  | nil => rfl
  | cons failure rest ih =>
    by_cases old : l.window ≤ now.since failure
    · have older := outdated_mono h old
      rw [List.dropWhile_cons_of_pos (by simpa using old),
        List.dropWhile_cons_of_pos (by simpa using older)]
      exact ih
    · rw [List.dropWhile_cons_of_neg (by simpa using old)]

/-- Adds a failure. The answer is whether the limit is still not reached. -/
def record (l : Limiter) (now : Instant) : Bool × Limiter :=
  let kept := l.expire now
  let failures := kept.failures ++ [now]
  (decide (failures.length < l.maxErrors), { kept with failures })

theorem record_expire (l : Limiter) {now later : Instant} (h : now ≤ later) :
    (l.expire now).record later = l.record later := by
  unfold record
  rw [l.expire_expire h]
  rfl

/-- The number of failures in the window. -/
def errors (l : Limiter) (now : Instant) : Nat × Limiter :=
  let kept := l.expire now
  (kept.failures.length, kept)

/-- Refuses while the limit is reached. -/
def check (l : Limiter) (now : Instant) : Except DeskError Unit × Limiter :=
  let (count, kept) := l.errors now
  if l.maxErrors ≤ count then (.error (.errorRateExceeded count l.window), kept) else (.ok (), kept)

end Limiter
end OrderDesk
