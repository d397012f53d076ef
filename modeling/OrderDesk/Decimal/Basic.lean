/-!
# `OrderDesk.Decimal.Basic` — amounts and prices

An amount is a 64-bit coefficient with a decimal scale, `coefficient · 10^(-scale)`; equal values of
different scales are different forms and are printed differently. Infinity and not-a-number are
forms of their own.

## Contents
- `Decimal`, its coefficient and scale.
- `Decimal.fit?`: the form kept for an exact coefficient and scale, if there is one.
- `Decimal.atLeastOne`: the comparison with one.
-/

namespace OrderDesk

/-- An unsigned decimal. -/
inductive Decimal where
  | finite (coefficient : UInt64) (scale : Int)
  | infinity
  | nan
deriving DecidableEq, Repr, Inhabited

namespace Decimal

/-- The largest scale: digits further behind the point are lost. -/
def maxScale : Int := 32767

/-- The smallest scale. -/
def minScale : Int := -32768

/-- Coefficients are below this. -/
def coefficientRange : Nat := UInt64.size

/-- The coefficient; infinity has the largest one, not-a-number has zero. -/
def coefficient : Decimal → UInt64
  | finite c _ => c
  | infinity => 0xffffffffffffffff
  | nan => 0

/-- The number of digits behind the point, negative for trailing zeros before it. -/
def scale : Decimal → Int
  | finite _ s => s
  | infinity => minScale
  | nan => 0

/-- A whole number. -/
def ofNat (n : UInt64) : Decimal := finite n 0

/-- Zero of any scale; not-a-number is not zero. -/
def isZero : Decimal → Bool
  | finite c _ => c == 0
  | _ => false

/-- The form kept for `coefficient · 10^(-scale)`: a zero keeps a scale of the range, a value below
the range is zero, and one above it must have room for more zeros in its coefficient. -/
def fit? (coefficient : Nat) (scale : Int) : Option Decimal :=
  if coefficient = 0 then some (finite 0 (max minScale (min maxScale scale)))
  else if maxScale < scale then some (finite 0 0)
  else if minScale ≤ scale then
    if coefficient < coefficientRange then some (finite (UInt64.ofNat coefficient) scale) else none
  else
    let missing := (minScale - scale).toNat
    if 20 ≤ missing then none
    else
      let raised := coefficient * Nat.pow 10 missing
      if raised < coefficientRange then some (finite (UInt64.ofNat raised) minScale) else none

/-- The value is one or more. Not-a-number counts as greater than every number. -/
def atLeastOne : Decimal → Bool
  | finite c s =>
    if 0 ≤ s then decide (Nat.pow 10 (min s.toNat 20) ≤ c.toNat) else c != 0
  | _ => true

end Decimal
end OrderDesk
