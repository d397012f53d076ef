import OrderDesk.Market.Order
import OrderDesk.Proofs.Grids
import OrderDesk.Proofs.Worth

/-!
# `OrderDesk.Proofs.Slippage` — the price of a market order moves against the order

The price of a market order is multiplied by one plus or minus the slippage. Factor and product are both
rounded, and the slippage may come with any number of digits. As a number, however, the factor depends
on the number the slippage stands for alone, and all that is done to it keeps the order of numbers; so
does what is done to the product. One exception is left: a product that is too small for a decimal is
lost to zero.

## Contents
- `Decimal.guarded`, `Decimal.align_one`: which digits of a slippage are looked at.
- `Side.factor?`, `Side.exists_factor`: the factor of a price, as a number.
- `Side.Against`, `Side.against_factor`: what it means to move against an order; larger slippages do so.
- `OrderRequest.exists_product`: the price that goes out; `OrderRequest.executionPrice_against`: the
  result; `OrderRequest.Sample.lost_bid`: the exception.
-/

namespace OrderDesk

namespace Decimal

variable {slippage amount price product : Decimal} {x y z : ℚ}

/-- An amount is zero if its value is. -/
theorem isZero_iff : amount.isZero = true ↔ amount.value? = some 0 := by
  cases amount with
  | finite c s =>
    unfold isZero value?
    rw [beq_iff_eq, Option.some_inj, mul_eq_zero_iff_right (by positivity), Nat.cast_eq_zero]
    exact UInt64.toNat_inj.symm
  | infinity => exact ⟨nofun, nofun⟩
  | nan => exact ⟨nofun, nofun⟩

/-- The comparison with one is that of the value. -/
theorem atLeastOne_iff (known : slippage.value? = some x) : slippage.atLeastOne = true ↔ 1 ≤ x := by
  cases slippage with
  | infinity => cases known
  | nan => cases known
  | finite c s =>
    cases known
    show (if 0 ≤ s then decide (10 ^ min s.toNat 20 ≤ c.toNat) else c != 0) = true ↔ _
    split
    · next behind =>
      obtain ⟨k, rfl⟩ := Int.eq_ofNat_of_zero_le behind
      have value : (1 : ℚ) ≤ c.toNat * 10 ^ (-(k : ℤ)) ↔ 10 ^ k ≤ c.toNat := by
        rw [zpow_neg, zpow_natCast, le_mul_inv_iff₀ (by positivity), one_mul]
        exact_mod_cast Iff.rfl
      rw [decide_eq_true_iff, value]
      have position : (k : ℤ).toNat = k := rfl
      rw [position]
      rcases Nat.le_total k 20 with few | many
      · rw [min_eq_left few]
      · have small : c.toNat < 10 ^ 20 := lt_trans c.toNat_lt (by norm_num)
        rw [min_eq_right many]
        refine ⟨fun le => absurd small (Nat.not_lt.2 le), fun le => absurd small (Nat.not_lt.2 ?_)⟩
        exact (Nat.pow_le_pow_right (by decide) many).trans le
    · next before =>
      have power : (1 : ℚ) ≤ 10 ^ (-s) := one_le_zpow₀ (by norm_num) (by omega)
      rw [bne_iff_ne]
      constructor
      · intro nonzero
        have one : (1 : ℚ) ≤ c.toNat := by
          have : c.toNat ≠ 0 := fun zero => nonzero (UInt64.toNat_inj.1 zero)
          exact_mod_cast Nat.one_le_iff_ne_zero.2 this
        calc (1 : ℚ)
          _ = 1 * 1 := (one_mul 1).symm
          _ ≤ c.toNat * 10 ^ (-s) := mul_le_mul one power (by norm_num) (by positivity)
      · rintro le rfl
        norm_num at le

/-! ### The factor -/

/-- Digits of a slippage that are looked at: those of one with the guard digits behind. -/
def guarded (x : ℚ) : ℚ := ⌊x * 10 ^ 26⌋₊ / 10 ^ 26

theorem guarded_mono (le : x ≤ y) : guarded x ≤ guarded y := by
  unfold guarded
  have whole : ⌊x * 10 ^ 26⌋₊ ≤ ⌊y * 10 ^ 26⌋₊ := Nat.floor_mono (by gcongr)
  gcongr

theorem guarded_nonneg (x : ℚ) : 0 ≤ guarded x := by
  unfold guarded
  positivity

theorem guarded_le (nonneg : 0 ≤ x) : guarded x ≤ x := by
  unfold guarded
  rw [div_le_iff₀ (by norm_num)]
  exact Nat.floor_le (by positivity)

/-- One takes nineteen more zeros. -/
theorem tensThatFit_one {limit : ℕ} (le : limit ≤ 20) : tensThatFit 1 limit = min limit 19 := by
  revert limit
  decide

/-- A slippage of few digits is added to one as it is. -/
theorem align_one_of_le (c : ℕ) {k : ℕ} (few : k ≤ 19) :
    align 1 0 c k = ⟨10 ^ k * 10 ^ 7, c * 10 ^ 7, k⟩ := by
  have tens : tensThatFit 1 (min k 20) = k := by
    rw [tensThatFit_one (min_le_right _ _)]
    omega
  have distance : ((k : ℤ) - 0).toNat = k := by omega
  unfold align
  dsimp only
  rw [if_pos (by omega), distance, if_neg one_ne_zero, tens, Nat.sub_self, min_eq_left (by omega)]
  simp [guardDigits]

/-- One of more loses those behind the guard digits. -/
theorem align_one_of_ge {c : ℕ} (small : c < coefficientRange) {k : ℕ} (many : 19 ≤ k) :
    align 1 0 c k = ⟨10 ^ 19 * 10 ^ 7, c * 10 ^ 7 / 10 ^ (k - 19), 19⟩ := by
  have tens : tensThatFit 1 (min k 20) = 19 := by
    rw [tensThatFit_one (min_le_right _ _)]
    omega
  have distance : ((k : ℤ) - 0).toNat = k := by omega
  have position : (k : ℤ) - (k - 19 : ℕ) = 19 := by omega
  have lost : c * 10 ^ 7 / 10 ^ min (k - 19) 40 = c * 10 ^ 7 / 10 ^ (k - 19) := by
    rcases Nat.le_total (k - 19) 40 with near | far
    · rw [min_eq_left near]
    · have range : coefficientRange * 10 ^ 7 ≤ 10 ^ 40 := by decide
      have below : c * 10 ^ 7 < 10 ^ 40 := by omega
      rw [min_eq_right far, Nat.div_eq_of_lt below,
        Nat.div_eq_of_lt (lt_of_lt_of_le below (Nat.pow_le_pow_right (by decide) far))]
  unfold align
  dsimp only
  rw [if_pos (by omega), distance, if_neg one_ne_zero, tens, position, Nat.one_mul]
  exact congrArg (fun right => Aligned.mk (10 ^ 19 * 10 ^ 7) right 19) lost

/-- **One and a slippage on a grid**: with as many digits as the slippage has, but no more than
nineteen and the guard digits. -/
theorem align_one (known : slippage.value? = some x) (below : x < 1) :
    ∃ tens rest : ℕ, tens ≤ 19 ∧
      align 1 0 slippage.coefficient.toNat slippage.scale = ⟨10 ^ tens * 10 ^ 7, rest, tens⟩ ∧
      (rest : ℚ) = guarded x * 10 ^ (tens + 7) ∧ (tens = 19 ∨ 10 ^ 7 ∣ rest) := by
  cases slippage with
  | infinity => cases known
  | nan => cases known
  | finite c s =>
    cases known
    show ∃ tens rest : ℕ, tens ≤ 19 ∧ align 1 0 c.toNat s = _ ∧ _
    by_cases behind : 0 ≤ s
    · obtain ⟨k, rfl⟩ := Int.eq_ofNat_of_zero_le behind
      rcases Nat.le_total k 19 with few | many
      · refine ⟨k, c.toNat * 10 ^ 7, few, align_one_of_le _ few, ?_, .inr (Nat.dvd_mul_left _ _)⟩
        have split : (10 : ℚ) ^ 26 = 10 ^ (26 - k) * 10 ^ k := by
          rw [← pow_add, Nat.sub_add_cancel (by omega)]
        have digits : (c.toNat * 10 ^ (-(k : ℤ)) * 10 ^ 26 : ℚ) = (c.toNat * 10 ^ (26 - k) : ℕ) := by
          rw [zpow_neg, zpow_natCast, split]
          push_cast
          field_simp
        unfold guarded
        rw [digits, Nat.floor_natCast, split, pow_add]
        push_cast
        field_simp
        norm_num
      · refine ⟨19, c.toNat * 10 ^ 7 / 10 ^ (k - 19), le_rfl, align_one_of_ge c.toNat_lt many, ?_,
          .inl rfl⟩
        have digits : (c.toNat * 10 ^ (-(k : ℤ)) * 10 ^ 26 : ℚ) =
            (c.toNat * 10 ^ 7 : ℕ) / (10 ^ (k - 19) : ℕ) := by
          have split : (10 : ℚ) ^ k = 10 ^ 19 * 10 ^ (k - 19) := by
            rw [← pow_add, Nat.add_sub_cancel' many]
          rw [zpow_neg, zpow_natCast, split]
          push_cast
          field_simp
          norm_num
        unfold guarded
        rw [digits, Nat.floor_div_eq_div]
        field_simp
    · -- A slippage without digits behind the point is zero if it is below one.
      have zero : c.toNat = 0 := by
        by_contra nonzero
        have one : (1 : ℚ) ≤ c.toNat := by exact_mod_cast Nat.one_le_iff_ne_zero.2 nonzero
        have power : (1 : ℚ) ≤ 10 ^ (-s) := one_le_zpow₀ (by norm_num) (by omega)
        exact absurd below (not_lt.2 (one_le_mul_of_one_le_of_one_le one power))
      refine ⟨0, 0, by omega, ?_, ?_, .inr (dvd_zero _)⟩
      · rw [zero]
        unfold align
        rw [if_neg behind]
        simp [guardDigits]
      · rw [zero]
        simp [guarded]

/-- With room for coefficient and scale, that is the form. -/
theorem fit?_of_room {n : ℕ} {scale : ℤ} (positive : 0 < n) (room : n < coefficientRange)
    (least : minScale ≤ scale) (most : scale ≤ maxScale) :
    fit? n scale = some (finite (UInt64.ofNat n) scale) := by
  unfold fit?
  rw [if_neg positive.ne', if_neg (not_lt.2 most), if_pos least, if_pos room]

/-- What is not too small for the range of scales is not lost to zero. -/
theorem isZero_of_fit? {n : ℕ} {scale : ℤ} (positive : 0 < n) (most : scale ≤ maxScale)
    (h : fit? n scale = some amount) : amount.isZero = false := by
  have nonzero {k : ℕ} (positive : 0 < k) (room : k < coefficientRange) (scale : ℤ) :
      (finite (UInt64.ofNat k) scale).isZero = false := by
    refine beq_eq_false_iff_ne.2 fun zero => positive.ne' ?_
    have := UInt64.toNat_ofNat_of_lt' room
    rw [← this, zero]
    rfl
  unfold fit? at h
  rw [if_neg positive.ne', if_neg (not_lt.2 most)] at h
  split at h
  · split at h
    · next room =>
      cases h
      exact nonzero positive room _
    · cases h
  · dsimp only at h
    split at h
    · cases h
    · split at h
      · next room =>
        cases h
        exact nonzero (Nat.mul_pos positive (Nat.pow_pos (by decide))) room _
      · cases h

end Decimal

namespace Side

open Decimal

variable {slippage : Decimal} {x y : ℚ}

/-- The factor of a market order's price. -/
def factor? (side : Side) (slippage : Decimal) : Option Decimal :=
  match side with
  | .bid => (Decimal.ofNat 1).add? slippage
  | .ask => (Decimal.ofNat 1).sub? slippage

/-- One, moved against the order. -/
def moved (side : Side) (x : ℚ) : ℚ :=
  match side with
  | .bid => 1 + x
  | .ask => 1 - x

theorem moved_le_two (side : Side) (nonneg : 0 ≤ x) (le : x ≤ 1) : side.moved x ≤ 2 := by
  cases side <;> simp only [moved] <;> linarith

/-- What is settled has the guard digits behind; they are all zero on a coarser grid. -/
theorem factor?_settles (side : Side) (known : slippage.value? = some x) (below : x < 1) :
    ∃ sum tens : ℕ, side.factor? slippage = settle? sum tens ∧ tens ≤ 19 ∧
      (sum : ℚ) = side.moved (guarded x) * 10 ^ (tens + 7) ∧ (tens = 19 ∨ 10 ^ 7 ∣ sum) := by
  obtain ⟨tens, rest, few, aligned, digits, whole⟩ := align_one known below
  have less : rest ≤ 10 ^ tens * 10 ^ 7 := by
    have less : (rest : ℚ) ≤ 1 * 10 ^ (tens + 7) := by
      rw [digits]
      have := (guarded_le (nonneg_of_value? known)).trans below.le
      gcongr
    rw [one_mul, pow_add] at less
    exact_mod_cast less
  have one : ((10 ^ tens * 10 ^ 7 : ℕ) : ℚ) = 10 ^ (tens + 7) := by
    rw [pow_add]
    push_cast
    rfl
  cases slippage with
  | infinity => cases known
  | nan => cases known
  | finite c s =>
    change align 1 0 c.toNat s = _ at aligned
    cases side with
    | bid =>
      refine ⟨10 ^ tens * 10 ^ 7 + rest, tens, ?_, few, ?_, whole.imp_right fun dvd => ?_⟩
      · show settle? ((align 1 0 c.toNat s).left + (align 1 0 c.toNat s).right)
          (align 1 0 c.toNat s).scale = _
        rw [aligned]
      · rw [Nat.cast_add, one, digits, moved, add_mul, one_mul]
      · exact dvd_add (Nat.dvd_mul_left _ _) dvd
    | ask =>
      refine ⟨10 ^ tens * 10 ^ 7 - rest, tens, ?_, few, ?_, whole.imp_right fun dvd => ?_⟩
      · show (if (align 1 0 c.toNat s).right ≤ (align 1 0 c.toNat s).left then
          settle? ((align 1 0 c.toNat s).left - (align 1 0 c.toNat s).right)
            (align 1 0 c.toNat s).scale else none) = _
        rw [aligned, if_pos less]
      · rw [Nat.cast_sub less, one, digits, moved, sub_mul, one_mul]
      · exact Nat.dvd_sub (Nat.dvd_mul_left _ _) dvd

/-- Before it is cut, the factor is one moved by the guarded digits, on the grid of nineteen digits. -/
theorem factor?_eq (side : Side) (known : slippage.value? = some x) (below : x < 1) :
    ∃ n tens : ℕ, side.factor? slippage = round? n tens ∧ tens ≤ 19 ∧
      (n * 10 ^ (-tens : ℤ) : ℚ) = onGrid 19 (side.moved (guarded x)) := by
  obtain ⟨sum, tens, settled, few, value, zeros⟩ := side.factor?_settles known below
  refine ⟨halfUp sum 7, tens, settled, few, ?_⟩
  have number : (sum * 10 ^ (-(tens + 7 : ℤ)) : ℚ) = side.moved (guarded x) := by
    rw [value, mul_assoc, ← zpow_natCast, ← zpow_add₀ (by norm_num)]
    simp
  have position : (tens + 7 : ℤ) - (7 : ℕ) = tens := by omega
  have grid : (halfUp sum 7 * 10 ^ (-tens : ℤ) : ℚ) = onGrid tens (side.moved (guarded x)) := by
    rw [halfUp_eq_near_grid sum 7 (tens + 7), number, position]
    rfl
  rw [grid]
  rcases zeros with rfl | ⟨steps, rfl⟩
  · rfl
  · have on : IsOn tens (side.moved (guarded x)) := by
      refine ⟨steps, ?_⟩
      rw [pow_add] at value
      push_cast at value
      have cancel : (10 ^ 7 : ℚ) ≠ 0 := by norm_num
      rw [zpow_natCast]
      exact mul_left_cancel₀ cancel (by linarith)
    rw [on.onGrid_eq, (on.mono (by omega)).onGrid_eq]

/-- A slippage below one leaves something of the price. -/
theorem value_le_of_lt_one (known : slippage.value? = some x) (below : x < 1) :
    x ≤ 1 - 10 ^ (-19 : ℤ) := by
  cases slippage with
  | infinity => cases known
  | nan => cases known
  | finite c s =>
    cases known
    by_cases short : s ≤ 19
    · -- One is on the grid, so what is below it is at least a step away.
      have step : (c.toNat * 10 ^ (-s) * 10 ^ (19 : ℤ) : ℚ) = (c.toNat * 10 ^ (19 - s).toNat : ℕ) := by
        have position : ((19 - s).toNat : ℤ) = 19 - s := by omega
        rw [mul_assoc, ← zpow_add₀ (by norm_num), Nat.cast_mul, Nat.cast_pow, Nat.cast_ofNat,
          ← zpow_natCast, position, sub_eq_neg_add]
      have less : c.toNat * 10 ^ (19 - s).toNat < 10 ^ 19 := by
        have : ((c.toNat * 10 ^ (19 - s).toNat : ℕ) : ℚ) < 1 * 10 ^ (19 : ℤ) := by
          rw [← step]
          gcongr
        rw [one_mul] at this
        exact_mod_cast this
      have le : (c.toNat * 10 ^ (-s) * 10 ^ (19 : ℤ) : ℚ) ≤ 10 ^ 19 - 1 := by
        rw [step, le_sub_iff_add_le]
        exact_mod_cast less
      norm_num at le ⊢
      linarith
    · have power : (10 : ℚ) ^ (-s) ≤ 10 ^ (-20 : ℤ) := zpow_le_zpow_right₀ (by norm_num) (by omega)
      have coefficient : (c.toNat : ℚ) ≤ 2 ^ 64 := by exact_mod_cast c.toNat_lt.le
      calc (c.toNat * 10 ^ (-s) : ℚ)
        _ ≤ 2 ^ 64 * 10 ^ (-20 : ℤ) := by gcongr
        _ ≤ 1 - 10 ^ (-19 : ℤ) := by norm_num

/-- One moved by less than one is at least a step of the grid, and two at most. -/
theorem onGrid_moved (side : Side) (known : slippage.value? = some x) (below : x < 1) :
    (10 : ℚ) ^ (-19 : ℤ) ≤ onGrid 19 (side.moved (guarded x)) ∧
      onGrid 19 (side.moved (guarded x)) ≤ 2 := by
  have nonneg := guarded_nonneg x
  have le := guarded_le (nonneg_of_value? known)
  have step : IsOn 19 ((10 : ℚ) ^ (-19 : ℤ)) := ⟨1, by norm_num⟩
  have two : IsOn 19 (2 : ℚ) := ⟨2 * 10 ^ 19, by norm_num⟩
  constructor
  · rw [← step.onGrid_eq]
    refine onGrid_mono 19 ?_
    cases side with
    | bid =>
      simp only [moved]
      norm_num
      linarith
    | ask =>
      have := value_le_of_lt_one known below
      simp only [moved]
      linarith
  · rw [← two.onGrid_eq]
    exact onGrid_mono 19 (side.moved_le_two nonneg (le.trans below.le))

/-- **The factor of a market order** is one moved by the guarded slippage, rounded to nineteen digits
and then cut to 64 bits. -/
theorem exists_factor (side : Side) (known : slippage.value? = some x) (below : x < 1) :
    ∃ (n tens : ℕ) (factor : Decimal), side.factor? slippage = some factor ∧
      (n * 10 ^ (-tens : ℤ) : ℚ) = onGrid 19 (side.moved (guarded x)) ∧
      factor.value? = some (cut n tens) ∧ 0 < cut n tens ∧ factor.scale ≤ 19 := by
  obtain ⟨n, tens, rounded, few, number⟩ := side.factor?_eq known below
  obtain ⟨least, most⟩ := side.onGrid_moved known below
  rw [← number] at least most
  have small : n ≤ 2 * 10 ^ 19 := by
    have bounded : (n : ℚ) ≤ (2 * 10 ^ tens : ℕ) := by
      rw [zpow_neg, zpow_natCast, mul_inv_le_iff₀ (by positivity)] at most
      exact_mod_cast most
    exact (Nat.cast_le.1 bounded).trans (Nat.mul_le_mul_left 2 (Nat.pow_le_pow_right (by decide) few))
  have positive : 0 < n := by
    refine Nat.pos_of_ne_zero fun zero => ?_
    rw [zero, Nat.cast_zero, zero_mul] at least
    exact absurd least (by norm_num)
  have short : dropped n ≤ 1 := by
    refine Nat.find_min' _ ?_
    have range : coefficientRange = 18446744073709551616 := rfl
    rw [halfUp_succ]
    omega
  have room : halfUp n (dropped n) < coefficientRange := Nat.find_spec (exists_halfUp_lt n)
  have form : fit? (halfUp n (dropped n)) (tens - dropped n) = some (finite _ _) :=
    fit?_of_room (halfUp_dropped_pos positive) room (by unfold minScale; omega)
      (by unfold maxScale; omega)
  refine ⟨n, tens, _, by rw [rounded, round?_eq, form], number, ?_, cut_pos positive _, ?_⟩
  · show some (_ * _) = some (_ * _)
    rw [UInt64.toNat_ofNat_of_lt' room, neg_sub]
  · show (tens - dropped n : ℤ) ≤ 19
    omega

/-- The second number is as far against an order as the first, or farther. -/
def Against (side : Side) (x y : ℚ) : Prop :=
  match side with
  | .bid => x ≤ y
  | .ask => y ≤ x

theorem against_moved (side : Side) (le : x ≤ y) : side.Against (side.moved x) (side.moved y) := by
  cases side <;> simp only [Against, moved] <;> linarith

/-- The order of two numbers is kept by what keeps the order of all. -/
theorem Against.map {side : Side} {f : ℚ → ℚ} (mono : ∀ {x y : ℚ}, x ≤ y → f x ≤ f y)
    (h : side.Against x y) : side.Against (f x) (f y) := by
  cases side with
  | bid => exact mono (show x ≤ y from h)
  | ask => exact mono (show y ≤ x from h)

/-- Coefficients that are cut are as far against an order as they were. -/
theorem Against.cut {side : Side} {n m : ℕ} {scale scale' : ℤ}
    (h : side.Against (n * 10 ^ (-scale) : ℚ) (m * 10 ^ (-scale'))) :
    side.Against (cut n scale) (cut m scale') := by
  cases side with
  | bid => exact cut_le_cut h
  | ask => exact cut_le_cut h

/-- **A larger slippage moves the factor further.** -/
theorem against_factor {side : Side} {n n' : ℕ} {tens tens' : ℤ} (le : x ≤ y)
    (number : (n * 10 ^ (-tens) : ℚ) = onGrid 19 (side.moved x))
    (number' : (n' * 10 ^ (-tens') : ℚ) = onGrid 19 (side.moved y)) :
    side.Against (Decimal.cut n tens) (Decimal.cut n' tens') := by
  refine Against.cut ?_
  rw [number, number']
  exact (side.against_moved le).map (onGrid_mono 19)

/-- Every factor is against the order, or one. -/
theorem one_against_factor {side : Side} {n : ℕ} {tens : ℤ} (nonneg : 0 ≤ x)
    (number : (n * 10 ^ (-tens) : ℚ) = onGrid 19 (side.moved x)) :
    side.Against 1 (Decimal.cut n tens) := by
  have on : IsOn 19 (1 : ℚ) := ⟨10 ^ 19, by norm_num⟩
  have unmoved : side.moved 0 = 1 := by cases side <;> simp [moved]
  have written : (((1 : ℕ) : ℚ) * 10 ^ (-(0 : ℤ))) = onGrid 19 (side.moved 0) := by
    rw [unmoved, on.onGrid_eq]
    norm_num
  have one : Decimal.cut 1 0 = 1 := by
    rw [cut_eq (by decide)]
    norm_num
  rw [← one]
  exact against_factor nonneg written number

end Side

/-! ### The price -/

namespace OrderRequest

open Decimal

variable {order : OrderRequest} {slippage slippage' p p' : Decimal} {x x' y : ℚ}

/-- What a market order with such a slippage comes to. -/
theorem executionPrice_market (market : order.kind = .market) (below : slippage.atLeastOne = false) :
    order.executionPrice slippage =
      match (order.side.factor? slippage).bind order.price.mul? with
      | some price => .ok price
      | none => .error (.breakdown .arithmetic) := by
  unfold executionPrice
  rw [market, below]
  rfl

/-- **The price of a market order** is its own times the factor, cut to 64 bits. A price of few digits
is never lost to zero. -/
theorem exists_product (reference : order.price.value? = some y) (positive : 0 < y)
    (market : order.kind = .market) (known : slippage.value? = some x)
    (executed : order.executionPrice slippage = .ok p) :
    ∃ (n tens m : ℕ) (scale : ℤ),
      (n * 10 ^ (-tens : ℤ) : ℚ) = onGrid 19 (order.side.moved (guarded x)) ∧
      (m * 10 ^ (-scale) : ℚ) = y * cut n tens ∧
      (p.value? = some 0 ∨ p.value? = some (cut m scale)) ∧
      (order.price.scale ≤ maxScale - 19 → p.isZero = false) := by
  have below : slippage.atLeastOne = false := by
    refine eq_false_of_ne_true fun one => ?_
    unfold executionPrice at executed
    rw [market, one] at executed
    cases executed
  have less : x < 1 := by
    by_contra one
    rw [(atLeastOne_iff known).2 (not_lt.1 one)] at below
    cases below
  rw [executionPrice_market market below] at executed
  obtain ⟨n, tens, factor, found, number, value, factor_pos, digits⟩ :=
    order.side.exists_factor known less
  rw [found, Option.bind_some] at executed
  have product : order.price.mul? factor = some p := by
    split at executed
    · next multiplied =>
      cases executed
      exact multiplied
    · cases executed
  refine ⟨n, tens, productCoefficient order.price factor, order.price.scale + factor.scale, number,
    (mul_eq reference value).symm, value?_of_mul? reference value product, fun few => ?_⟩
  have coefficient : 0 < productCoefficient order.price factor := by
    refine Nat.pos_of_ne_zero fun zero => (mul_pos positive factor_pos).ne' ?_
    rw [mul_eq reference value, zero, Nat.cast_zero, zero_mul]
  cases price : order.price with
  | infinity => rw [price] at reference; cases reference
  | nan => rw [price] at reference; cases reference
  | finite c s =>
    cases factor with
    | infinity => cases value
    | nan => cases value
    | finite a u =>
      rw [price] at product coefficient few
      rw [mul?, round?_eq] at product
      refine isZero_of_fit? (halfUp_dropped_pos coefficient) ?_ product
      have : (finite c s).scale = s := rfl
      have : (finite a u).scale = u := rfl
      unfold maxScale at few ⊢
      omega

/-- The order is refused just if it is a market order and the slippage is one or more. -/
theorem refused_iff (known : slippage.value? = some x)
    (within : ∀ b, order.executionPrice slippage ≠ .error (.breakdown b)) :
    (∃ fault, order.executionPrice slippage = .error fault) ↔ order.kind = .market ∧ 1 ≤ x := by
  constructor
  · rintro ⟨fault, failed⟩
    cases kind : order.kind with
    | limit =>
      unfold executionPrice at failed
      rw [kind] at failed
      cases failed
    | market =>
      refine ⟨rfl, not_lt.1 fun below => ?_⟩
      have small : slippage.atLeastOne = false :=
        eq_false_of_ne_true fun one => absurd ((atLeastOne_iff known).1 one) (not_le.2 below)
      rw [executionPrice_market kind small] at failed within
      obtain ⟨_, _, factor, found, -⟩ := order.side.exists_factor known below
      rw [found, Option.bind_some] at failed within
      cases multiplied : order.price.mul? factor with
      | some price =>
        rw [multiplied] at failed
        cases failed
      | none =>
        rw [multiplied] at within
        exact absurd rfl (within .arithmetic)
  · rintro ⟨market, one⟩
    refine ⟨.error (slippageRefusal slippage), ?_⟩
    unfold executionPrice
    rw [market, (atLeastOne_iff known).2 one]
    rfl

/-- A price that is not zero is the product that is kept. -/
theorem value?_of_nonzero {z : ℚ} (nonzero : p.isZero = false)
    (value : p.value? = some 0 ∨ p.value? = some z) : p.value? = some z := by
  refine value.resolve_left fun zero => ?_
  rw [isZero_iff.2 zero] at nonzero
  cases nonzero

/-- **A market order's price moves against the order.** Let the order's own price be a positive number.
With a slippage that is a number and a result in range, the order is refused exactly if it is a market
order and the slippage is one or more. A limit order goes out at its own price. A market ask goes out at
no more than its price; a market bid goes out at no less, unless the result is too small for a decimal,
which is zero then, and that takes a price of more than 32748 digits behind the point. A larger slippage
moves the result no less far, unless the larger of the two results is lost so. -/
theorem executionPrice_against (reference : order.price.value? = some y) (positive : 0 < y) :
    (∀ slippage x, slippage.value? = some x →
      (∀ b, order.executionPrice slippage ≠ .error (.breakdown b)) →
      ((∃ fault, order.executionPrice slippage = .error fault) ↔ order.kind = .market ∧ 1 ≤ x)) ∧
    (order.kind = .limit → ∀ slippage, order.executionPrice slippage = .ok order.price) ∧
    (order.kind = .market → ∀ slippage x p, slippage.value? = some x →
      order.executionPrice slippage = .ok p →
      (order.price.scale ≤ maxScale - 19 → p.isZero = false) ∧
      (order.side = .ask ∨ p.isZero = false → ∃ z, p.value? = some z ∧ order.side.Against y z)) ∧
    (order.kind = .market → ∀ slippage slippage' x x' p p', slippage.value? = some x →
      slippage'.value? = some x' → x ≤ x' → order.executionPrice slippage = .ok p →
      order.executionPrice slippage' = .ok p' →
      (match order.side with
        | .bid => p'.isZero = false
        | .ask => p.isZero = false) →
      ∃ z z', p.value? = some z ∧ p'.value? = some z' ∧ order.side.Against z z') := by
  have grows {side : Side} {u v : ℚ} (h : side.Against u v) : side.Against (y * u) (y * v) :=
    h.map fun le => mul_le_mul_of_nonneg_left le positive.le
  refine ⟨fun _ _ => refused_iff, fun limit slippage => ?_, fun market slippage x p known executed => ?_,
    fun market slippage slippage' x x' p p' known known' le executed executed' kept => ?_⟩
  · unfold executionPrice
    rw [limit]
  · obtain ⟨n, tens, m, scale, number, product, value, few⟩ :=
      exists_product reference positive market known executed
    have own : order.price.value? = some (cut order.price.coefficient.toNat order.price.scale) := by
      rw [cut_eq order.price.coefficient.toNat_lt, reference, eq_of_value? reference]
    have bound : order.side.Against y (cut m scale) := by
      obtain rfl : y = cut order.price.coefficient.toNat order.price.scale :=
        Option.some.inj (reference.symm.trans own)
      refine Side.Against.cut ?_
      rw [product, ← eq_of_value? reference]
      have factor := order.side.one_against_factor (guarded_nonneg x) number
      simpa only [mul_one] using grows factor
    refine ⟨few, fun side => ?_⟩
    rcases value with zero | value
    · rcases side with ask | nonzero
      · refine ⟨0, zero, ?_⟩
        rw [ask]
        exact positive.le
      · rw [isZero_iff.2 zero] at nonzero
        cases nonzero
    · exact ⟨_, value, bound⟩
  · obtain ⟨n, tens, m, scale, number, product, value, -⟩ :=
      exists_product reference positive market known executed
    obtain ⟨n', tens', m', scale', number', product', value', -⟩ :=
      exists_product reference positive market known' executed'
    have further : order.side.Against (cut m scale) (cut m' scale') := by
      refine Side.Against.cut ?_
      rw [product, product']
      exact grows (Side.against_factor (guarded_mono le) number number')
    have nonneg (n : ℕ) (scale : ℤ) : 0 ≤ cut n scale := by
      unfold cut
      positivity
    generalize order.side = side at kept further
    -- Of the two results, the larger one is kept, and the other is no larger even if it is lost.
    cases side with
    | bid =>
      refine value.elim (fun lost => ?_) fun value => ?_
      · exact ⟨0, _, lost, value?_of_nonzero kept value', nonneg _ _⟩
      · exact ⟨_, _, value, value?_of_nonzero kept value', further⟩
    | ask =>
      refine value'.elim (fun lost => ?_) fun value' => ?_
      · exact ⟨_, 0, value?_of_nonzero kept value, lost, nonneg _ _⟩
      · exact ⟨_, _, value?_of_nonzero kept value, value', further⟩

namespace Sample

/-- A bid at the market for whatever a hundred brings. -/
def bid : OrderRequest := ⟨⟨"STT", "USDC"⟩, .bid, .market, .ofNat 1, .ofNat 100⟩

/-- With the usual slippage the price of a bid goes up. -/
theorem price_of_bid : bid.price.value? = some 100 ∧ (0 : ℚ) < 100 ∧
    ∃ p z, bid.executionPrice defaultSlippage = .ok p ∧ p.value? = some z ∧ 100 ≤ z := by
  have reference : bid.price.value? = some 100 := by
    norm_num [bid, Decimal.ofNat, value?, show (100 : UInt64).toNat = 100 from rfl]
  have executed : bid.executionPrice defaultSlippage = .ok (.finite 100300 3) := by decide +kernel
  obtain ⟨-, -, moves, -⟩ := executionPrice_against reference (by norm_num)
  obtain ⟨z, value, le⟩ := (moves rfl _ _ _ rfl executed).2 (.inr rfl)
  exact ⟨reference, by norm_num, _, z, executed, value, le⟩

/-- A bid at the smallest price there is. -/
def leastBid : OrderRequest := { bid with price := .finite 1 32767 }

/-- **A bid whose price is lost.** What the usual slippage adds has no place behind the last digit, and
what goes out is zero. -/
theorem lost_bid : ∃ y x p z, leastBid.price.value? = some y ∧ 0 < y ∧
    defaultSlippage.value? = some x ∧ leastBid.executionPrice defaultSlippage = .ok p ∧
    p.value? = some z ∧ z < y := by
  have executed : leastBid.executionPrice defaultSlippage = .ok (.finite 0 0) := by decide +kernel
  have positive : (0 : ℚ) < (1 : UInt64).toNat * 10 ^ (-(32767 : ℤ)) :=
    mul_pos (Nat.cast_pos.2 (by decide)) (zpow_pos (by norm_num) _)
  exact ⟨_, _, _, 0, rfl, positive, rfl, executed, isZero_iff.1 rfl, positive⟩

end Sample

end OrderRequest
end OrderDesk
