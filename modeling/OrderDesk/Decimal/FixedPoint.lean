import OrderDesk.Address
import OrderDesk.Decimal.Basic

/-!
# `OrderDesk.Decimal.FixedPoint` — decimals as whole numbers of the smallest unit

A token of `d` decimals is counted in units of `10^(-d)`. A decimal amount becomes a word of units,
with digits beyond the unit cut off or rounded up.

## Contents
- `Decimal.units`: the exact scaled value, rounded down or up, if it fits a word.
-/

namespace OrderDesk.Decimal

/-- Which way digits beyond the unit go. -/
inductive Rounding where
  | down
  | up
deriving DecidableEq, Repr

/-- `coefficient · 10^shift`, rounded to a whole number. -/
def scaled (rounding : Rounding) (coefficient : Nat) (shift : Int) : Nat :=
  if 0 ≤ shift then coefficient * Nat.pow 10 shift.toNat
  else
    let divisor := Nat.pow 10 (-shift).toNat
    match rounding with
    | .down => coefficient / divisor
    | .up => (coefficient + (divisor - 1)) / divisor

/-- The number of units in an amount, if it fits a word. The factor itself has to fit a word, also
when the amount is zero. -/
def units? (rounding : Rounding) (decimals : UInt8) (amount : Decimal) : Option Word :=
  let shift : Int := decimals.toNat - amount.scale
  if 78 ≤ shift then none
  else Word.ofNat? (scaled rounding amount.coefficient.toNat shift)

end OrderDesk.Decimal
