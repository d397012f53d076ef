import OrderDesk.Proofs.Units

/-!
# `OrderDesk.Proofs.Grids` — a coefficient cut to 64 bits keeps the order of numbers

A number with too many digits is rounded half up on the finest grid of tenths on which its coefficient
has room. Larger numbers may be rounded on coarser grids, and numbers that have room stay on the grid
they came on, so the order of two rounded numbers needs an argument. It comes to three cases: on one
grid rounding keeps the order; a number that is on its grid stays where it is on every finer one; and
what has no room on the finer grid lies above all that has.

## Contents
- `Decimal.near`, `Decimal.onGrid`: the nearest whole number, the nearest number on a grid.
- `Decimal.KeptOn`: the grid on which a number is kept; `KeptOn.onGrid_le`: the order is kept.
- `Decimal.cut_eq_onGrid`, `Decimal.cut_le_cut`: a coefficient that is cut is rounded so.
-/

namespace OrderDesk.Decimal

variable {x y : ℚ} {g h : ℤ}

/-! ### Grids -/

/-- The nearest whole number; a half goes up. -/
def near (x : ℚ) : ℕ := ⌊x + 1 / 2⌋₊

theorem near_mono (le : x ≤ y) : near x ≤ near y := Nat.floor_mono (by linarith)

@[simp] theorem near_natCast (n : ℕ) : near n = n := by
  unfold near
  rw [add_comm, Nat.floor_add_natCast (by norm_num)]
  norm_num

/-- The nearest number with `g` digits behind the point. -/
def onGrid (g : ℤ) (x : ℚ) : ℚ := near (x * 10 ^ g) * 10 ^ (-g)

theorem onGrid_mono (g : ℤ) (le : x ≤ y) : onGrid g x ≤ onGrid g y := by
  unfold onGrid
  have whole : near (x * 10 ^ g) ≤ near (y * 10 ^ g) := near_mono (by gcongr)
  gcongr

/-- The number is a whole number of steps of the grid. -/
def IsOn (g : ℤ) (x : ℚ) : Prop := ∃ n : ℕ, x * 10 ^ g = n

/-- A number on a grid stays where it is. -/
theorem IsOn.onGrid_eq (on : IsOn g x) : onGrid g x = x := by
  obtain ⟨n, steps⟩ := on
  unfold onGrid
  rw [steps, near_natCast, ← steps, mul_assoc, ← zpow_add₀ (by norm_num), add_neg_cancel, zpow_zero,
    mul_one]

/-- A number on a grid is on all finer ones. -/
theorem IsOn.mono (on : IsOn g x) (finer : g ≤ h) : IsOn h x := by
  obtain ⟨n, steps⟩ := on
  obtain ⟨k, rfl⟩ : ∃ k : ℕ, h = g + k := ⟨(h - g).toNat, by omega⟩
  refine ⟨n * 10 ^ k, ?_⟩
  rw [zpow_add₀ (by norm_num), ← mul_assoc, steps, zpow_natCast]
  push_cast
  rfl

/-- **The grid on which a number is kept**: its coefficient has room there, and it is on that grid or
has no room on the next finer one. -/
structure KeptOn (g : ℤ) (x : ℚ) : Prop where
  room : near (x * 10 ^ g) < coefficientRange
  finest : IsOn g x ∨ coefficientRange ≤ near (x * 10 ^ (g + 1))

/-- What has no room on a grid is, on the next coarser one, not below all that has. -/
theorem le_onGrid_of_full (full : coefficientRange ≤ near (y * 10 ^ (h + 1))) :
    ((coefficientRange - 1 : ℕ) : ℚ) * 10 ^ (-(h + 1)) ≤ onGrid h y := by
  have large : (coefficientRange : ℚ) - 1 / 2 ≤ y * 10 ^ (h + 1) := by
    have floor : (coefficientRange : ℚ) ≤ y * 10 ^ (h + 1) + 1 / 2 := by
      refine le_trans (by exact_mod_cast full) (Nat.floor_le (le_of_not_gt fun negative => ?_))
      have zero : near (y * 10 ^ (h + 1)) = 0 := Nat.floor_of_nonpos negative.le
      rw [zero] at full
      exact absurd full (by decide)
    linarith
  have range : (coefficientRange : ℚ) = 18446744073709551616 := by
    exact_mod_cast rfl
  have step : y * 10 ^ (h + 1) = y * 10 ^ h * 10 := by
    rw [zpow_add₀ (by norm_num), zpow_one, mul_assoc]
  -- A tenth of the range, rounded: the half that may be missing does not matter.
  have tenth : 1844674407370955162 ≤ near (y * 10 ^ h) := by
    refine Nat.le_floor ?_
    rw [step, range] at large
    push_cast
    linarith
  have coarser : (10 : ℚ) ^ (-h) = 10 * 10 ^ (-(h + 1)) := by
    rw [neg_add, zpow_add₀ (by norm_num), zpow_neg_one]
    ring
  have last : ((coefficientRange - 1 : ℕ) : ℚ) ≤ near (y * 10 ^ h) * 10 := by
    have : coefficientRange - 1 ≤ near (y * 10 ^ h) * 10 := by
      have value : coefficientRange = 18446744073709551616 := rfl
      omega
    exact_mod_cast this
  unfold onGrid
  rw [coarser, ← mul_assoc]
  gcongr

/-- **The order of numbers is kept**, whichever grids they are kept on. -/
theorem KeptOn.onGrid_le (left : KeptOn g x) (right : KeptOn h y) (nonneg : 0 ≤ x) (le : x ≤ y) :
    onGrid g x ≤ onGrid h y := by
  rcases lt_trichotomy g h with coarser | rfl | finer
  · rcases left.finest with on | full
    · calc onGrid g x
        _ = x := on.onGrid_eq
        _ = onGrid h x := (on.mono coarser.le).onGrid_eq.symm
        _ ≤ onGrid h y := onGrid_mono h le
    · -- The larger number has room on a grid on which the smaller one has none.
      have powers : (10 : ℚ) ^ (g + 1) ≤ 10 ^ h := zpow_le_zpow_right₀ (by norm_num) (by omega)
      have inside : near (x * 10 ^ (g + 1)) ≤ near (y * 10 ^ h) :=
        near_mono (mul_le_mul le powers (by positivity) (nonneg.trans le))
      exact absurd (full.trans inside) (Nat.not_le.2 right.room)
  · exact onGrid_mono g le
  · rcases right.finest with on | full
    · calc onGrid g x
        _ ≤ onGrid g y := onGrid_mono g le
        _ = y := (on.mono finer.le).onGrid_eq
        _ = onGrid h y := on.onGrid_eq.symm
    · refine le_trans ?_ (le_onGrid_of_full full)
      have coefficient : ((near (x * 10 ^ g) : ℕ) : ℚ) ≤ (coefficientRange - 1 : ℕ) := by
        exact_mod_cast Nat.le_sub_one_of_lt left.room
      have powers : (10 : ℚ) ^ (-g) ≤ 10 ^ (-(h + 1)) := zpow_le_zpow_right₀ (by norm_num) (by omega)
      exact mul_le_mul coefficient powers (by positivity) (by positivity)

/-! ### Coefficients -/

/-- A coefficient without its last digits is the nearest one. -/
theorem halfUp_eq_near (n k : ℕ) : halfUp n k = near (n * 10 ^ (-k : ℤ)) := by
  cases k with
  | zero => simp
  | succ k =>
    have quotient : ((n : ℚ) * 10 ^ (-(k + 1 : ℕ) : ℤ) + 1 / 2) =
        ((n + 5 * 10 ^ k : ℕ) : ℚ) / ((10 ^ (k + 1) : ℕ) : ℚ) := by
      rw [zpow_neg, zpow_natCast]
      push_cast
      field_simp
      ring
    have half : 10 ^ (k + 1) / 2 = 5 * 10 ^ k := by
      rw [pow_succ]
      omega
    unfold near
    rw [quotient, Nat.floor_div_eq_div, halfUp, half]

/-- A shorter coefficient, on its grid. -/
theorem halfUp_eq_near_grid (n k : ℕ) (scale : ℤ) :
    halfUp n k = near (n * 10 ^ (-scale) * 10 ^ (scale - k)) := by
  rw [halfUp_eq_near, mul_assoc, ← zpow_add₀ (by norm_num)]
  congr 3
  omega

/-- A coefficient is cut on the grid on which its number is kept. -/
theorem keptOn_dropped (n : ℕ) (scale : ℤ) : KeptOn (scale - dropped n) (n * 10 ^ (-scale)) := by
  refine ⟨?_, ?_⟩
  · rw [← halfUp_eq_near_grid]
    exact Nat.find_spec (exists_halfUp_lt n)
  · cases count : dropped n with
    | zero =>
      refine .inl ⟨n, ?_⟩
      rw [mul_assoc, ← zpow_add₀ (by norm_num)]
      simp
    | succ k =>
      have full : ¬ halfUp n k < coefficientRange :=
        Nat.find_min (exists_halfUp_lt n) (by unfold dropped at count; omega)
      have next : scale - ((k + 1 : ℕ) : ℤ) + 1 = scale - k := by omega
      rw [next, ← halfUp_eq_near_grid]
      exact .inr (Nat.not_lt.1 full)

/-- What is kept of a coefficient is its number on that grid. -/
theorem cut_eq_onGrid (n : ℕ) (scale : ℤ) :
    cut n scale = onGrid (scale - dropped n) (n * 10 ^ (-scale)) := by
  unfold cut onGrid
  rw [← halfUp_eq_near_grid, neg_sub]

/-- **Cutting keeps the order of numbers**, whichever way they are written. -/
theorem cut_le_cut {n m : ℕ} {scale scale' : ℤ}
    (le : (n * 10 ^ (-scale) : ℚ) ≤ m * 10 ^ (-scale')) : cut n scale ≤ cut m scale' := by
  rw [cut_eq_onGrid, cut_eq_onGrid]
  exact (keptOn_dropped n scale).onGrid_le (keptOn_dropped m scale') (by positivity) le

/-- Cutting leaves something of a coefficient. -/
theorem cut_pos {n : ℕ} (positive : 0 < n) (scale : ℤ) : 0 < cut n scale := by
  have one : (0 : ℚ) < cut 1 scale := by
    rw [cut_eq (by decide), Nat.cast_one, one_mul]
    positivity
  refine lt_of_lt_of_le one (cut_le_cut ?_)
  have : ((1 : ℕ) : ℚ) ≤ n := by exact_mod_cast positive
  gcongr

/-- So the coefficient that is kept is not zero. -/
theorem halfUp_dropped_pos {n : ℕ} (positive : 0 < n) : 0 < halfUp n (dropped n) := by
  refine Nat.pos_of_ne_zero fun zero => (cut_pos positive 0).ne' ?_
  rw [cut, zero, Nat.cast_zero, zero_mul]

end OrderDesk.Decimal
