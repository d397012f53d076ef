import Mathlib.Algebra.Order.Field.Power
import Mathlib.Algebra.Order.Floor.Semifield
import Mathlib.Data.Rat.Floor
import OrderDesk.Decimal.Arithmetic
import OrderDesk.Decimal.FixedPoint

/-!
# `OrderDesk.Proofs.Units` — decimals as rational numbers

A decimal of a finite form is a rational number. Its units are that number times a power of ten, cut
off or rounded up; a product is the exact one where it has room, and else the nearest number that has.

## Contents
- `Decimal.value?`: the number a decimal stands for; `Decimal.Rounding.whole`: a number as a whole one.
- `Decimal.units?_eq_some`: units are the exact number of them, rounded once.
- `Decimal.halfUp`, `Decimal.Dropped`: a coefficient without its last digits, and how many go.
- `Decimal.value_of_mul?`: the value of a product.
-/

namespace OrderDesk

/-- A word that was made of a number is that number. -/
theorem Word.toNat_of_ofNat? {n : Nat} {w : Word} (h : Word.ofNat? n = some w) : w.toNat = n := by
  unfold Word.ofNat? at h
  dsimp only at h
  split at h
  · next fits =>
    cases h
    exact fits
  · cases h

namespace Decimal

/-- The number a decimal stands for. -/
def value? : Decimal → Option ℚ
  | finite c s => some (c.toNat * 10 ^ (-s))
  | infinity | nan => none

/-- A number that is not negative as a whole one. -/
def Rounding.whole : Rounding → ℚ → ℕ
  | .down, x => ⌊x⌋₊
  | .up, x => ⌈x⌉₊

variable {rounding : Rounding} {decimals : UInt8} {amount price product : Decimal} {w : Word} {x y : ℚ}

@[simp] theorem Rounding.whole_natCast (rounding : Rounding) (n : ℕ) : rounding.whole n = n := by
  cases rounding with
  | down => exact Nat.floor_natCast n
  | up => exact Nat.ceil_natCast n

/-- A whole number divided by another, as division of natural numbers has it. -/
theorem ceil_div (n : ℕ) {d : ℕ} (pos : 0 < d) : ⌈(n / d : ℚ)⌉₊ = (n + (d - 1)) / d := by
  have pos' : (0 : ℚ) < d := by exact_mod_cast pos
  refine eq_of_forall_ge_iff fun m => ?_
  rw [Nat.ceil_le, div_le_iff₀ pos', Nat.div_le_iff_le_mul pos]
  norm_cast
  omega

/-- A coefficient is scaled to the exact number, rounded once. -/
theorem scaled_eq (rounding : Rounding) (n : ℕ) (shift : ℤ) :
    scaled rounding n shift = rounding.whole (n * 10 ^ shift) := by
  unfold scaled
  split
  · next up =>
    obtain ⟨k, rfl⟩ := Int.eq_ofNat_of_zero_le up
    have exact : ((n : ℚ) * 10 ^ (k : ℤ)) = ((n * 10 ^ k : ℕ) : ℚ) := by
      rw [zpow_natCast]
      push_cast
      rfl
    rw [exact, Rounding.whole_natCast]
    rfl
  · next down =>
    obtain ⟨k, rfl⟩ : ∃ k : ℕ, shift = -k := ⟨(-shift).toNat, by omega⟩
    have exact : ((n : ℚ) * 10 ^ (-k : ℤ)) = (n : ℚ) / ((10 ^ k : ℕ) : ℚ) := by
      rw [zpow_neg, zpow_natCast, div_eq_mul_inv]
      push_cast
      rfl
    have position : (- -(k : ℤ)).toNat = k := by omega
    rw [exact, position]
    cases rounding with
    | down => exact (Nat.floor_div_eq_div n (10 ^ k)).symm
    | up => exact (ceil_div n (Nat.pow_pos (by omega))).symm

/-- **Units are the exact number of them, rounded once.** -/
theorem units?_eq_some (known : amount.value? = some x)
    (h : amount.units? rounding decimals = some w) :
    w.toNat = rounding.whole (x * 10 ^ decimals.toNat) := by
  cases amount with
  | finite c s =>
    cases known
    unfold units? at h
    dsimp only at h
    split at h
    · cases h
    · have sum : (10 : ℚ) ^ (decimals.toNat - s : ℤ) = 10 ^ (-s) * 10 ^ decimals.toNat := by
        rw [sub_eq_neg_add, zpow_add₀ (by norm_num), zpow_natCast]
      rw [Word.toNat_of_ofNat? h, scaled_eq, mul_assoc, ← sum]
      rfl
  | infinity => cases known
  | nan => cases known

/-- Only a number has units other than none: infinity has no place in a word, and what is not a
number has no digits. -/
theorem value?_of_units? (h : amount.units? rounding decimals = some w) (some_ne : w ≠ 0) :
    ∃ x, amount.value? = some x := by
  cases amount with
  | finite c s => exact ⟨_, rfl⟩
  | infinity =>
    unfold units? at h
    have far : (78 : ℤ) ≤ decimals.toNat - Decimal.infinity.scale := by
      have : Decimal.infinity.scale = -32768 := rfl
      omega
    rw [if_pos far] at h
    cases h
  | nan =>
    unfold units? at h
    dsimp only at h
    split at h
    · cases h
    · refine absurd (BitVec.eq_of_toNat_eq ?_) some_ne
      rw [Word.toNat_of_ofNat? h, scaled_eq]
      have none : Decimal.nan.coefficient.toNat = 0 := rfl
      rw [none, Nat.cast_zero, zero_mul, ← Nat.cast_zero, Rounding.whole_natCast]
      rfl

/-! ### Products -/

/-- A coefficient without its last `k` digits, rounded half up. -/
def halfUp (n k : ℕ) : ℕ := (n + 10 ^ k / 2) / 10 ^ k

@[simp] theorem halfUp_zero (n : ℕ) : halfUp n 0 = n := by
  simp [halfUp]

/-- The last digit that goes decides. -/
theorem halfUp_succ (n k : ℕ) : halfUp n (k + 1) = (n / 10 ^ k + 5) / 10 := by
  have half : 10 ^ (k + 1) / 2 = 5 * 10 ^ k := by
    rw [pow_succ]
    omega
  rw [halfUp, half, pow_succ, ← Nat.div_div_eq_div_mul, Nat.add_mul_div_right _ _ (by positivity)]

theorem div_le_halfUp (n k : ℕ) : n / 10 ^ k ≤ halfUp n k :=
  Nat.div_le_div_right (Nat.le_add_right n _)

/-- Some number of digits can go so that the rest has room. -/
theorem exists_halfUp_lt (n : ℕ) : ∃ k, halfUp n k < coefficientRange := by
  refine ⟨n + 1, ?_⟩
  have small : n / 10 ^ n = 0 := Nat.div_eq_of_lt (Nat.lt_pow_self (by omega))
  rw [halfUp_succ, small]
  decide

/-- So many digits go that the rest has room, and no more. -/
def dropped (n : ℕ) : ℕ := Nat.find (exists_halfUp_lt n)

theorem dropped_eq {n k : ℕ} (room : halfUp n k < coefficientRange)
    (least : ∀ j < k, coefficientRange ≤ halfUp n j) : dropped n = k :=
  (Nat.find_eq_iff _).2 ⟨room, fun j before => Nat.not_lt.2 (least j before)⟩

/-- A coefficient that has room stays as it is. -/
theorem dropped_eq_zero {n : ℕ} (room : n < coefficientRange) : dropped n = 0 :=
  dropped_eq (by rwa [halfUp_zero]) nofun

/-- What is left of `n` when it is shortened digit by digit, with the last digit that went. -/
structure Shortened (n kept k last : ℕ) : Prop where
  kept_eq : kept = n / 10 ^ k
  rounded : (if 5 ≤ last then kept + 1 else kept) = halfUp n k
  long : ∀ j < k, coefficientRange ≤ n / 10 ^ j

theorem Shortened.of_shorten {n c k last : ℕ} (h : Shortened n c k last) :
    Shortened n (shorten c k last).1 (shorten c k last).2.1 (shorten c k last).2.2 ∧
      (shorten c k last).1 < coefficientRange := by
  fun_induction shorten c k last with
  | case1 c k last room => exact ⟨h, room⟩
  | case2 c k last full ih =>
    refine ih ⟨?_, ?_, ?_⟩
    · rw [h.kept_eq, Nat.div_div_eq_div_mul, pow_succ]
    · rw [halfUp_succ, ← h.kept_eq]
      split <;> omega
    · intro j before
      rcases Nat.lt_succ_iff_lt_or_eq.1 before with earlier | rfl
      · exact h.long j earlier
      · rw [← h.kept_eq]
        exact Nat.not_lt.1 full

/-- **Digits go until the rest, rounded half up, has room.** -/
theorem round?_eq (n : ℕ) (scale : ℤ) :
    round? n scale = fit? (halfUp n (dropped n)) (scale - dropped n) := by
  have start : Shortened n n 0 0 := ⟨by simp, by simp, nofun⟩
  obtain ⟨short, room⟩ := start.of_shorten
  unfold round?
  generalize shorten n 0 0 = result at short room
  obtain ⟨kept, k, last⟩ := result
  dsimp only at short room ⊢
  have long : ∀ j < k, coefficientRange ≤ halfUp n j :=
    fun j before => (short.long j before).trans (div_le_halfUp n j)
  rw [short.rounded]
  split
  · next fits => rw [dropped_eq fits long]
  · next full =>
    -- The rest was rounded up to the range itself, so one more digit goes.
    have atRange : halfUp n k = coefficientRange := by
      have := short.rounded
      split at this <;> omega
    have keptLast : kept + 1 = coefficientRange := by
      have := short.rounded
      split at this <;> omega
    have next : halfUp n (k + 1) = (halfUp n k + 5) / 10 := by
      rw [halfUp_succ, ← short.kept_eq, atRange]
      have : coefficientRange = 18446744073709551616 := rfl
      omega
    have least : ∀ j < k + 1, coefficientRange ≤ halfUp n j := by
      intro j before
      rcases Nat.lt_succ_iff_lt_or_eq.1 before with earlier | rfl
      · exact long j earlier
      · exact Nat.not_lt.1 full
    have fits : halfUp n (k + 1) < coefficientRange := by
      rw [next, atRange]
      decide
    rw [dropped_eq fits least, next]
    congr 1
    push_cast
    ring

/-- The number that is kept for `n · 10^(-scale)`. -/
def cut (n : ℕ) (scale : ℤ) : ℚ := halfUp n (dropped n) * 10 ^ (dropped n - scale)

theorem cut_eq {n : ℕ} (room : n < coefficientRange) (scale : ℤ) : cut n scale = n * 10 ^ (-scale) := by
  unfold cut
  rw [dropped_eq_zero room, halfUp_zero, Nat.cast_zero, zero_sub]

/-- A form that is kept has the value of its coefficient and scale, unless that is lost to zero. -/
theorem value?_of_fit? {n : ℕ} {scale : ℤ} {d : Decimal} (h : fit? n scale = some d) :
    d.value? = some 0 ∨ d.value? = some ((n : ℚ) * 10 ^ (-scale)) := by
  unfold fit? at h
  split at h
  · next none =>
    cases h
    left
    simp [value?]
  · split at h
    · cases h
      left
      simp [value?]
    · split at h
      · split at h
        · next fits =>
          cases h
          right
          rw [value?, UInt64.toNat_ofNat_of_lt' fits]
        · cases h
      · dsimp only at h
        split at h
        · cases h
        · split at h
          · next fits =>
            cases h
            right
            -- The zeros that the coefficient takes up are those that the scale gives up.
            have shift : (10 : ℚ) ^ (-scale) = 10 ^ (minScale - scale).toNat * 10 ^ (-minScale) := by
              rw [← zpow_natCast, ← zpow_add₀ (by norm_num)]
              congr 1
              omega
            have power (k : ℕ) : ((Nat.pow 10 k : ℕ) : ℚ) = 10 ^ k := by exact_mod_cast rfl
            rw [value?, UInt64.toNat_ofNat_of_lt' fits, Nat.cast_mul, mul_assoc, shift, power]
          · cases h

/-- **A product is the exact one cut to 64 bits**, unless that is lost to zero. -/
theorem value?_of_mul? (size : amount.value? = some x) (rate : price.value? = some y)
    (h : amount.mul? price = some product) :
    product.value? = some 0 ∨ product.value? =
      some (cut (amount.coefficient.toNat * price.coefficient.toNat) (amount.scale + price.scale)) := by
  cases amount with
  | finite a s =>
    cases price with
    | finite b t =>
      rw [mul?, round?_eq] at h
      have value := value?_of_fit? h
      rwa [neg_sub] at value
    | infinity => cases rate
    | nan => cases rate
  | infinity => cases size
  | nan => cases size

end Decimal
end OrderDesk
