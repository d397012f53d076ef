/-!
# `OrderDesk.Curve.Secp256k1` — the group of the curve `y² = x³ + 7`

Points are held in projective form `(X / Z², Y / Z³)`, so that only the final conversion divides.

## Contents
- `fieldPrime`, `order`, `generator`.
- `Point.add`, `Point.double`, `Point.scale`: the group operations.
- `Point.affine?`: the coordinates of a point, none for the neutral one.
-/

namespace OrderDesk.Secp256k1

/-- The prime of the coordinate field. -/
def fieldPrime : Nat := 0xfffffffffffffffffffffffffffffffffffffffffffffffffffffffefffffc2f

/-- The number of points. -/
def order : Nat := 0xfffffffffffffffffffffffffffffffebaaedce6af48a03bbfd25e8cd0364141

/-- `base ^ exponent` modulo `modulus`, by squaring. -/
def powMod (modulus base exponent : Nat) : Nat :=
  if exponent = 0 then 1 % modulus
  else
    let half := powMod modulus (base * base % modulus) (exponent / 2)
    if exponent % 2 = 1 then half * base % modulus else half
termination_by exponent
decreasing_by omega

/-- The inverse modulo a prime; zero has the inverse zero. -/
def inverse (prime a : Nat) : Nat := powMod prime a (prime - 2)

/-- A point in projective form; the neutral point has `z = 0`. -/
structure Point where
  x : Nat
  y : Nat
  z : Nat

namespace Point

/-- The neutral point. -/
def neutral : Point := ⟨1, 1, 0⟩

private def sub (a b : Nat) : Nat := (a + (fieldPrime - b % fieldPrime)) % fieldPrime
private def mul (a b : Nat) : Nat := a * b % fieldPrime

/-- Twice a point. -/
def double (p : Point) : Point :=
  if p.z = 0 ∨ p.y = 0 then neutral
  else
    let yy := mul p.y p.y
    let s := mul 4 (mul p.x yy)
    let m := mul 3 (mul p.x p.x)
    let x := sub (mul m m) (2 * s)
    ⟨x, sub (mul m (sub s x)) (mul 8 (mul yy yy)), mul 2 (mul p.y p.z)⟩

/-- The sum of two points. -/
def add (p q : Point) : Point :=
  if p.z = 0 then q
  else if q.z = 0 then p
  else
    let pzz := mul p.z p.z
    let qzz := mul q.z q.z
    let u1 := mul p.x qzz
    let u2 := mul q.x pzz
    let s1 := mul p.y (mul qzz q.z)
    let s2 := mul q.y (mul pzz p.z)
    if u1 = u2 then
      if s1 = s2 then double p else neutral
    else
      let h := sub u2 u1
      let r := sub s2 s1
      let hh := mul h h
      let hhh := mul hh h
      let v := mul u1 hh
      let x := sub (sub (mul r r) hhh) (2 * v)
      ⟨x, sub (mul r (sub v x)) (mul s1 hhh), mul h (mul p.z q.z)⟩

/-- The `n`-fold sum of a point. -/
def scale (n : Nat) (p : Point) : Point :=
  if n = 0 then neutral
  else
    let half := scale (n / 2) p.double
    if n % 2 = 1 then add half p else half
termination_by n
decreasing_by omega

/-- The two coordinates, none for the neutral point. -/
def affine? (p : Point) : Option (Nat × Nat) :=
  if p.z = 0 then none
  else
    let i := inverse fieldPrime p.z
    let ii := mul i i
    some (mul p.x ii, mul p.y (mul ii i))

end Point

/-- The point that all keys are multiples of. -/
def generator : Point :=
  ⟨0x79be667ef9dcbbac55a06295ce870b07029bfcdb2dce28d959f2815b16f81798,
   0x483ada7726a3c4655da4fbfc0e1108a8fd17b448a68554199c47d08ffb10d4b8, 1⟩

end OrderDesk.Secp256k1
