import OrderDesk.Decimal.Basic

/-!
# `OrderDesk.Decimal.Arithmetic` — sums, differences and products

Results are rounded half up to a 64-bit coefficient. An operation without a result (not-a-number, or
a value beyond the range of scales) is `none`.

## Contents
- `Decimal.shorten`: a coefficient cut to 64 bits.
- `Decimal.mul?`, `Decimal.add?`, `Decimal.sub?`.
-/

namespace OrderDesk.Decimal

/-- Drops last digits until the coefficient is below `2 ^ 64`, together with the number of digits
dropped and the last of them. -/
def shorten (coefficient : Nat) (dropped : Nat) (last : Nat) : Nat × Nat × Nat :=
  if coefficient < coefficientRange then (coefficient, dropped, last)
  else shorten (coefficient / 10) (dropped + 1) (coefficient % 10)
termination_by coefficient
decreasing_by
  have : 0 < coefficientRange := by decide
  omega

/-- The form of an exact value, cut to 64 bits and rounded half up by the last digit dropped. -/
def round? (coefficient : Nat) (scale : Int) : Option Decimal :=
  let (kept, dropped, last) := shorten coefficient 0 0
  let up := if 5 ≤ last then kept + 1 else kept
  let scale := scale - dropped
  if up < coefficientRange then fit? up scale else fit? ((up + 5) / 10) (scale - 1)

/-- The product. -/
def mul? : Decimal → Decimal → Option Decimal
  | nan, _ | _, nan => none
  | infinity, x | x, infinity => if x.isZero then none else some infinity
  | finite a s, finite b t => round? (a.toNat * b.toNat) (s + t)

/-- The most tens, up to `limit`, that a coefficient can be multiplied by and stay below `2 ^ 64`. -/
def tensThatFit (coefficient : Nat) : (limit : Nat) → Nat
  | 0 => 0
  | limit + 1 =>
    if coefficient * 10 < coefficientRange then tensThatFit (coefficient * 10) limit + 1 else 0

/-- Digits kept behind the coefficient while two values are brought to one scale. -/
def guardDigits : Nat := 7

/-- Two coefficients on a common grid of `10^(-scale)`, each with `guardDigits` further digits. -/
structure Aligned where
  left : Nat
  right : Nat
  scale : Int

/-- The value of the smaller scale is extended as far as its coefficient allows; where that does not
reach the larger scale, the other value gives up digits beyond the guard digits. -/
def align (a : Nat) (s : Int) (b : Nat) (t : Int) : Aligned :=
  let guarded := Nat.pow 10 guardDigits
  let extend (c : Nat) (distance : Nat) : Nat × Nat :=
    if c = 0 then (0, 0)
    else
      let tens := tensThatFit c (min distance 20)
      (c * Nat.pow 10 tens * guarded, distance - tens)
  if s ≤ t then
    let (left, excess) := extend a (t - s).toNat
    ⟨left, b * guarded / Nat.pow 10 (min excess 40), t - excess⟩
  else
    let (right, excess) := extend b (s - t).toNat
    ⟨a * guarded / Nat.pow 10 (min excess 40), right, s - excess⟩

/-- A value with guard digits is rounded half up to its grid. -/
def settle? (guarded : Nat) (scale : Int) : Option Decimal :=
  round? ((guarded + Nat.pow 10 guardDigits / 2) / Nat.pow 10 guardDigits) scale

/-- The sum. -/
def add? : Decimal → Decimal → Option Decimal
  | nan, _ | _, nan => none
  | infinity, _ | _, infinity => some infinity
  | finite a s, finite b t =>
    let grid := align a.toNat s b.toNat t
    settle? (grid.left + grid.right) grid.scale

/-- The difference, if it is not negative. -/
def sub? : Decimal → Decimal → Option Decimal
  | nan, _ | _, nan | _, infinity => none
  | infinity, _ => some infinity
  | finite a s, finite b t =>
    let grid := align a.toNat s b.toNat t
    if grid.right ≤ grid.left then settle? (grid.left - grid.right) grid.scale else none

end OrderDesk.Decimal
