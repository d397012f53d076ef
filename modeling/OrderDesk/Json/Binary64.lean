/-!
# `OrderDesk.Json.Binary64` — numbers with a fraction

A number that is no whole number of 64 bits is kept in binary floating point of 64 bits: a sign, a
significand below `2^53` and a power of two. All arithmetic is on whole numbers and rounds once, to the
nearest such number and to the even one of two.

## Contents
- `Binary64.nearest?`: the number nearest to a fraction, unless it is too large.
- `Binary64.ofDecimal?`: a decimal coefficient with an exponent, multiplied out in binary.
- `Binary64.text`: the fewest digits that name the number.
-/

namespace OrderDesk

/-- The number `± significand · 2^power`. -/
structure Binary64 where
  negative : Bool := false
  significand : Nat := 0
  power : Int := -1074
deriving DecidableEq, Repr, Inhabited

namespace Binary64

/-- The power of the smallest numbers. -/
def leastPower : Int := -1074

/-- The power of the largest numbers. -/
def greatestPower : Int := 971

/-- Significands are below this. -/
def significandRange : Nat := 0x20000000000000

/-! ## Rounding -/

/-- The whole number nearest to a fraction, the even one of two. -/
def nearestWhole (n d : Nat) : Nat :=
  let q := n / d
  let r := n % d
  if 2 * r < d then q else if d < 2 * r then q + 1 else q + q % 2

/-- The fraction `n / (d · 2^power)`. -/
def shifted (n d : Nat) (power : Int) : Nat × Nat :=
  if 0 ≤ power then (n, d * Nat.pow 2 power.toNat) else (n * Nat.pow 2 (-power).toNat, d)

/-- The power at which a fraction has a significand of full length, or the least power. -/
def powerOf (n d : Nat) : Int :=
  let low : Int := (n.log2 : Int) - d.log2 - 53
  let (a, b) := shifted n d low
  max leastPower (if a / b < significandRange then low else low + 1)

/-- The number nearest to `n / d`. -/
def nearest? (n d : Nat) : Option Binary64 :=
  if n = 0 then some {}
  else
    let power := powerOf n d
    let (a, b) := shifted n d power
    let q := nearestWhole a b
    let (significand, power) := if q < significandRange then (q, power) else (q / 2, power + 1)
    if greatestPower < power then none else some { significand, power }

/-- The product without its sign. -/
def times? (x y : Binary64) : Option Binary64 :=
  let (n, d) := shifted (x.significand * y.significand) 1 (-(x.power + y.power))
  nearest? n d

/-- The quotient without its sign, by a number that is not zero. -/
def over? (x y : Binary64) : Option Binary64 :=
  let (n, d) := shifted x.significand y.significand (y.power - x.power)
  nearest? n d

/-! ## From decimals -/

/-- The largest power of ten that is a number. -/
def greatestTen : Nat := 308

/-- A power of ten. -/
def ten? (exponent : Nat) : Option Binary64 := nearest? (Nat.pow 10 exponent) 1

/-- A number times a power of ten. Steps of the greatest power make any number zero at the third. -/
def scaled? : (steps : Nat) → Binary64 → Int → Option Binary64
  | 0, _, _ => some {}
  | steps + 1, x, exponent => do
    if exponent.natAbs ≤ greatestTen then
      let ten ← ten? exponent.natAbs
      if 0 ≤ exponent then x.times? ten else x.over? ten
    else if x.significand = 0 then some x
    else if 0 ≤ exponent then none
    else scaled? steps (← x.over? (← ten? greatestTen)) (exponent + greatestTen)

/-- The number for `coefficient · 10^exponent`, if it is not too large. -/
def ofDecimal? (coefficient : Nat) (exponent : Int) : Option Binary64 := do
  scaled? 4 (← nearest? coefficient 1) exponent

/-! ## Written form -/

/-- The decimals with a last digit of the weight `10^exponent` next to a number, as far as the number
is the nearest one to them. Of two the closer is taken, then the even one. -/
def named? (x : Binary64) (exponent : Int) : Option Nat :=
  let (ten, tenths) := if 0 ≤ exponent then (Nat.pow 10 exponent.toNat, 1)
    else (1, Nat.pow 10 (-exponent).toNat)
  let (unit, step) := shifted tenths ten (2 - x.power)
  let value := 4 * x.significand * unit
  let below := if 2 * x.significand = significandRange ∧ leastPower < x.power then unit else 2 * unit
  let closed := x.significand % 2 = 0
  let floor := value / step
  let under := value - floor * step
  let above := (floor + 1) * step - value
  let underFits := if closed then decide (under ≤ below) else decide (under < below)
  let aboveFits := if closed then decide (above ≤ 2 * unit) else decide (above < 2 * unit)
  if underFits ∧ aboveFits then
    some (if under < above ∨ under = above ∧ floor % 2 = 0 then floor else floor + 1)
  else if underFits then some floor
  else if aboveFits then some (floor + 1)
  else none

/-- The fewest digits that name a number, with the weight of the last. -/
def shortest (x : Binary64) : (steps : Nat) → (exponent : Int) → Nat × Int
  | 0, exponent => (0, exponent)
  | steps + 1, exponent =>
    match x.named? exponent with
    | some digits => (digits, exponent)
    | none => x.shortest steps (exponent - 1)

/-- The digits of a number and the weight of the last. Seventeen digits name every number. -/
def decimal (x : Binary64) : Nat × Int :=
  if x.significand = 0 then (0, 0)
  else x.shortest 24 (((x.significand.log2 : Int) + x.power) * 30103 / 100000 + 2)

/-- A number whose first digit has a weight from `10^(-5)` to `10^15` is written out, others with an
exponent. -/
def text (x : Binary64) : String :=
  let (coefficient, exponent) := x.decimal
  let digits := (toString coefficient).toList
  let weight : Int := (digits.length : Int) - 1 + exponent
  let written :=
    if coefficient = 0 then "0.0".toList
    else if weight < -5 ∨ 15 < weight then
      let mantissa := match digits with
        | first :: second :: rest => first :: '.' :: second :: rest
        | short => short
      mantissa ++ 'e' :: (if 0 ≤ weight then "+" else "").toList ++ (toString weight).toList
    else if 0 ≤ exponent then digits ++ List.replicate exponent.toNat '0' ++ ['.', '0']
    else
      let places := (-exponent).toNat
      let padded := List.replicate (places + 1 - digits.length) '0' ++ digits
      padded.take (padded.length - places) ++ '.' :: padded.drop (padded.length - places)
  String.ofList ((if x.negative then ['-'] else []) ++ written)

end Binary64
end OrderDesk
