import OrderDesk.Proofs.PlacementData

/-!
# `OrderDesk.Proofs.Worth` — what an order is due to pay, and what it pays

A bid is due to pay what it is worth, an ask its size, in whole units of the token spent. The worth of
a bid goes through a decimal, which has 64 bits: a longer product is rounded half up before its units
are, so that a native bid can be short of a unit although its value was rounded up.

## Contents
- `Side.due`: what an order is to pay.
- `Decimal.taken`: the worth that a bid is taken to have; `Decimal.taken_eq`: when it is exact.
- `Decimal.Rounding.Agrees`: no whole number tells two numbers apart.
- `CallBook.paid_eq_due_iff`: when an order pays what is due.
-/

namespace OrderDesk

/-- The direction in which the worth of a bid is rounded: up where it is attached, so that the order is
never short of funds. -/
def Token.rounding (t : Token) : Decimal.Rounding := if t.native then .up else .down

/-- **What an order is to pay**: the exact worth of a bid or size of an ask, rounded once. -/
def Side.due (side : Side) (base quote : Token) (x y : ℚ) : ℕ :=
  match side with
  | .bid => quote.rounding.whole (x * y * 10 ^ quote.decimals.toNat)
  | .ask => Decimal.Rounding.down.whole (x * 10 ^ base.decimals.toNat)

namespace Decimal

variable {rounding : Rounding} {amount price product : Decimal} {x y z : ℚ}

/-- A decimal is its coefficient and its scale. -/
theorem eq_of_value? (known : amount.value? = some x) :
    x = amount.coefficient.toNat * 10 ^ (-amount.scale) := by
  cases amount with
  | finite c s =>
    cases known
    rfl
  | infinity => cases known
  | nan => cases known

theorem nonneg_of_value? (known : amount.value? = some x) : 0 ≤ x := by
  rw [eq_of_value? known]
  positivity

/-- The coefficient of a product, before it is cut. -/
def productCoefficient (amount price : Decimal) : ℕ :=
  amount.coefficient.toNat * price.coefficient.toNat

/-- The worth that a bid is taken to have: the product with 64 bits. -/
def taken (amount price : Decimal) : ℚ :=
  cut (productCoefficient amount price) (amount.scale + price.scale)

theorem taken_nonneg (amount price : Decimal) : 0 ≤ taken amount price := by
  unfold taken cut
  positivity

theorem mul_eq (size : amount.value? = some x) (rate : price.value? = some y) :
    x * y = productCoefficient amount price * 10 ^ (-(amount.scale + price.scale)) := by
  rw [eq_of_value? size, eq_of_value? rate, productCoefficient, neg_add, zpow_add₀ (by norm_num)]
  push_cast
  ring

/-- A product that has room is taken as it is. -/
theorem taken_eq (size : amount.value? = some x) (rate : price.value? = some y)
    (room : productCoefficient amount price < coefficientRange) : taken amount price = x * y := by
  rw [taken, cut_eq room, mul_eq size rate]

/-- No whole number lies between two numbers, as a bound in the direction of rounding. -/
def Rounding.Agrees (rounding : Rounding) (x z : ℚ) : Prop :=
  match rounding with
  | .down => ∀ n : ℕ, n ≤ x ↔ n ≤ z
  | .up => ∀ n : ℕ, x ≤ n ↔ z ≤ n

/-- Numbers are rounded alike exactly if no whole number tells them apart. -/
theorem Rounding.whole_eq_iff (rounding : Rounding) (hx : 0 ≤ x) (hz : 0 ≤ z) :
    rounding.whole z = rounding.whole x ↔ rounding.Agrees x z := by
  cases rounding with
  | down =>
    constructor
    · intro same n
      rw [← Nat.le_floor_iff hx, ← Nat.le_floor_iff hz]
      exact iff_of_eq (congrArg (n ≤ ·) same.symm)
    · intro agrees
      refine eq_of_forall_le_iff fun n => ?_
      rw [whole, whole, Nat.le_floor_iff hx, Nat.le_floor_iff hz, agrees n]
  | up =>
    constructor
    · intro same n
      rw [← Nat.ceil_le, ← Nat.ceil_le]
      exact iff_of_eq (congrArg (· ≤ n) same.symm)
    · intro agrees
      refine eq_of_forall_ge_iff fun n => ?_
      rw [whole, whole, Nat.ceil_le, Nat.ceil_le, agrees n]

end Decimal

namespace CallBook

variable {b : CallBook} {side : Side} {base quote : Token} {amount price : Decimal} {p : Placement}
  {spent : Word} {x y : ℚ}

/-- What an ask spends. -/
theorem spend_ask (spends : spend (.select .ask base quote) base quote amount price = .ok spent) :
    amount.units? .down base.decimals = some spent := by
  unfold spend EntryPoint.select at spends
  cases native : base.native <;> simp only [native] at spends <;> exact units?_of_units spends

/-- What a bid spends. -/
theorem spend_bid (spends : spend (.select .bid base quote) base quote amount price = .ok spent) :
    ∃ product, amount.mul? price = some product ∧
      product.units? quote.rounding quote.decimals = some spent := by
  unfold spend EntryPoint.select at spends
  unfold Token.rounding
  cases multiplied : amount.mul? price with
  | none => cases native : quote.native <;> simp [native, multiplied] at spends
  | some product =>
    refine ⟨product, rfl, ?_⟩
    cases native : quote.native <;> simp only [native, multiplied] at spends ⊢ <;>
      exact units?_of_units spends

/-- A bid spends the units of the worth that it is taken to have. -/
theorem toNat_of_spend_bid
    (spends : spend (.select .bid base quote) base quote amount price = .ok spent) (paid : spent ≠ 0)
    (size : amount.value? = some x) (rate : price.value? = some y) :
    spent.toNat = quote.rounding.whole (Decimal.taken amount price * 10 ^ quote.decimals.toNat) := by
  obtain ⟨product, multiplied, units⟩ := spend_bid spends
  rcases Decimal.value?_of_mul? size rate multiplied with lost | known
  · -- A product that is lost to zero would have no units.
    refine absurd (BitVec.eq_of_toNat_eq ?_) paid
    rw [Decimal.units?_eq_some lost units, zero_mul, ← Nat.cast_zero, Decimal.Rounding.whole_natCast]
    rfl
  · exact Decimal.units?_eq_some known units

/-- **When an order pays what is due.** An ask always does. A bid does exactly if no whole number of
units lies between its worth and the worth that it is taken to have, which is the same if the product
has 64 bits. -/
theorem paid_eq_due_iff (built : b.placement side base quote amount price = .ok p)
    (size : amount.value? = some x) (rate : price.value? = some y) :
    ∃ w, p.entryPoint.paid? p.call = some w ∧
      (side = .ask → w.toNat = side.due base quote x y) ∧
      (side = .bid → (w.toNat = side.due base quote x y ↔
        quote.rounding.Agrees (x * y * 10 ^ quote.decimals.toNat)
          (Decimal.taken amount price * 10 ^ quote.decimals.toNat))) ∧
      (Decimal.productCoefficient amount price < Decimal.coefficientRange →
        w.toNat = side.due base quote x y) := by
  obtain ⟨unitPrice, spent, -, -, spends, paid, placed⟩ := placement_eq_ok built
  obtain rfl : p.spend = spent := by rw [placed]; rfl
  refine ⟨p.spend, (placed_of_placement built).paid?_eq, ?_⟩
  cases side with
  | ask =>
    have right : p.spend.toNat = Side.ask.due base quote x y :=
      Decimal.units?_eq_some size (spend_ask spends)
    exact ⟨fun _ => right, nofun, fun _ => right⟩
  | bid =>
    have taken := toNat_of_spend_bid spends paid size rate
    have worth : 0 ≤ x * y := mul_nonneg (Decimal.nonneg_of_value? size) (Decimal.nonneg_of_value? rate)
    have takes := Decimal.taken_nonneg amount price
    refine ⟨nofun, fun _ => ?_, fun room => ?_⟩
    · rw [taken]
      exact quote.rounding.whole_eq_iff (by positivity) (by positivity)
    · rw [taken, Decimal.taken_eq size rate room]
      rfl

namespace Sample

/-- A bid of 0.5 at 2.25 pays its worth. -/
theorem paid_of_short_bid : ∃ p w,
    book.placement .bid gold coin (.finite 5 1) (.finite 225 2) = .ok p ∧
    p.entryPoint.paid? p.call = some w ∧ w.toNat = Side.bid.due gold coin (1 / 2) (9 / 4) := by
  have built : book.placement .bid gold coin (.finite 5 1) (.finite 225 2) =
    .ok (book.placed .bid gold coin 225000000 1125000000000000000) := by decide +kernel
  have size : (Decimal.finite 5 1).value? = some (1 / 2) := by
    norm_num [Decimal.value?, show (5 : UInt64).toNat = 5 from rfl]
  have rate : (Decimal.finite 225 2).value? = some (9 / 4) := by
    norm_num [Decimal.value?, show (225 : UInt64).toNat = 225 from rfl]
  obtain ⟨w, pays, -, -, exact⟩ := paid_eq_due_iff built size rate
  exact ⟨_, w, built, pays, exact (by decide)⟩

/-- **A bid that is short of a unit.** Its worth has 21 digits, the last of which is lost before the
rest is rounded up. -/
theorem underfunded_bid : ∃ p w x, 0 < x ∧
    (Decimal.finite 10000000001 10).value? = some x ∧
    book.placement .bid gold coin (.finite 10000000001 10) (.finite 10000000001 10) = .ok p ∧
    p.entryPoint.paid? p.call = some w ∧ w.toNat < Side.bid.due gold coin x x := by
  have built : book.placement .bid gold coin (.finite 10000000001 10) (.finite 10000000001 10) =
    .ok (book.placed .bid gold coin 100000000 1000000000200000000) := by decide +kernel
  have known : (Decimal.finite 10000000001 10).value? = some (10000000001 / 10000000000) := by
    norm_num [Decimal.value?, show (10000000001 : UInt64).toNat = 10000000001 from rfl]
  have short : ((1000000000200000000 : Word).toNat : ℚ) <
      10000000001 / 10000000000 * (10000000001 / 10000000000) * 10 ^ coin.decimals.toNat := by
    have units : coin.decimals.toNat = 18 := rfl
    have value : (1000000000200000000 : Word).toNat = 1000000000200000000 := rfl
    rw [units, value]
    norm_num
  exact ⟨_, _, _, by norm_num, known, built, rfl, Nat.lt_ceil.2 short⟩

end Sample

end CallBook
end OrderDesk
