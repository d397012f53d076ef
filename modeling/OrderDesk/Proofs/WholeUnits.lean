import OrderDesk.Exchange.Calls
import OrderDesk.Proofs.Units

/-!
# `OrderDesk.Proofs.WholeUnits` — an amount has its exact units, or none at all

An amount that is not zero is converted to units exactly: the number of them is its value scaled and
rounded once, and it is refused just if that number has no place in a word. The conversion is also told
step by step, on words, where a sum without room or a division by zero would be a breakdown; it is the
same conversion, so neither happens.

## Contents
- `Word.tens?`, `Word.times?`, `Word.plus`, `Word.divide`: the steps; `Decimal.convert`: the conversion
  in steps, and `Decimal.convert_eq`: it is the one without.
- `Decimal.units?_eq`: the units of an amount, in one formula.
- `Decimal.digitsBeyond`: the digits that have no unit.
- `Decimal.units_exact`: the result.
-/

namespace OrderDesk

/-! ### Steps on words -/

namespace Word

/-- A number has a word just if it has room in one. -/
theorem ofNat?_eq (n : ℕ) : ofNat? n = if n < 2 ^ 256 then some (BitVec.ofNat 256 n) else none := by
  unfold ofNat?
  dsimp only
  rw [BitVec.toNat_ofNat]
  split
  · next same =>
    have room : n < 2 ^ 256 := same ▸ Nat.mod_lt n (by positivity)
    rw [if_pos room]
  · next other =>
    have long : ¬ n < 2 ^ 256 := fun room => other (Nat.mod_eq_of_lt room)
    rw [if_neg long]

theorem ofNat?_of_lt {n : ℕ} (room : n < 2 ^ 256) : ofNat? n = some (BitVec.ofNat 256 n) := by
  rw [ofNat?_eq, if_pos room]

theorem ofNat?_of_le {n : ℕ} (long : 2 ^ 256 ≤ n) : ofNat? n = none := by
  rw [ofNat?_eq, if_neg (Nat.not_lt.2 long)]

/-- A power of ten, if it has room. -/
def tens? (k : ℕ) : Option Word := ofNat? (10 ^ k)

/-- The product, if it has room. -/
def times? (a b : Word) : Option Word := ofNat? (a.toNat * b.toNat)

/-- The sum; without room for it there is no verdict. -/
def plus (a b : Word) : Except Fault Word :=
  match ofNat? (a.toNat + b.toNat) with
  | some w => .ok w
  | none => .error (.breakdown .arithmetic)

/-- Quotient and remainder; by zero there is no verdict. -/
def divide (a b : Word) : Except Fault (Word × Word) :=
  if b = 0 then .error (.breakdown .arithmetic) else .ok (a / b, a % b)

/-- Seventy-seven zeros have room, and no more. -/
theorem tens?_of_lt {k : ℕ} (few : k < 78) : tens? k = some (BitVec.ofNat 256 (10 ^ k)) := by
  refine ofNat?_of_lt ?_
  refine Nat.lt_of_le_of_lt (Nat.pow_le_pow_right (by decide) (Nat.le_of_lt_succ few)) ?_
  norm_num

theorem tens?_of_le {k : ℕ} (many : 78 ≤ k) : tens? k = none := by
  refine ofNat?_of_le (le_trans ?_ (Nat.pow_le_pow_right (by decide) many))
  norm_num

theorem toNat_tens {k : ℕ} (few : k < 78) : (BitVec.ofNat 256 (10 ^ k)).toNat = 10 ^ k :=
  toNat_of_ofNat? (tens?_of_lt few)

end Word

namespace Decimal

variable {rounding : Rounding} {decimals : UInt8} {amount larger : Decimal} {w w' : Word} {x y : ℚ}

/-- **The conversion in steps.** A shift to the left multiplies and is refused without room for the
factor or the product; one to the right divides, and by a power without room there is nothing left but
the rest. A rest is rounded up by one more unit. -/
def convert (rounding : Rounding) (decimals : UInt8) (amount : Decimal) : Except Fault Word :=
  let coefficient : Word := BitVec.ofNat 256 amount.coefficient.toNat
  let shift : Int := decimals.toNat - amount.scale
  if 0 ≤ shift then
    match (Word.tens? shift.toNat).bind coefficient.times? with
    | some w => .ok w
    | none => .error (.error (.invalidArgument s!"{amount.text} overflows"))
  else do
    let (kept, rest) ← match Word.tens? (-shift).toNat with
      | some divisor => coefficient.divide divisor
      | none => .ok (0, coefficient)
    if rounding = .up ∧ rest ≠ 0 then kept.plus 1 else .ok kept

theorem toNat_coefficient (amount : Decimal) :
    (BitVec.ofNat 256 amount.coefficient.toNat).toNat = amount.coefficient.toNat := by
  rw [BitVec.toNat_ofNat]
  exact Nat.mod_eq_of_lt (lt_trans amount.coefficient.toNat_lt (by norm_num))

/-- A quotient rounded up counts a rest as one. -/
theorem ceil_quotient (c : ℕ) {d : ℕ} (positive : 0 < d) :
    (c + (d - 1)) / d = if c % d = 0 then c / d else c / d + 1 := by
  have parts : d * (c / d) + c % d = c := Nat.div_add_mod c d
  have small : c % d < d := Nat.mod_lt c positive
  have whole : (c + (d - 1)) / d = c / d + (c % d + (d - 1)) / d := by
    conv_lhs => rw [← parts, Nat.add_assoc, Nat.mul_add_div positive]
  rw [whole]
  split
  · next none =>
    rw [none, Nat.zero_add, Nat.div_eq_of_lt (Nat.sub_lt positive Nat.one_pos)]
    rfl
  · next rest =>
    have one : (c % d + (d - 1)) / d = 1 := by
      rw [Nat.div_eq_iff positive]
      omega
    rw [one]

/-- To the right, what is kept is the quotient, with one unit more for a rest if that is rounded up. -/
theorem scaled_of_neg (rounding : Rounding) (c : ℕ) {shift : ℤ} (right : ¬ 0 ≤ shift) :
    scaled rounding c shift = if rounding = .up ∧ c % 10 ^ (-shift).toNat ≠ 0
      then c / 10 ^ (-shift).toNat + 1 else c / 10 ^ (-shift).toNat := by
  unfold scaled
  rw [if_neg right]
  cases rounding with
  | down => exact (if_neg nofun).symm
  | up =>
    refine (ceil_quotient c (Nat.pow_pos (by decide))).trans ?_
    change (if c % 10 ^ (-shift).toNat = 0 then _ else _) = _
    by_cases none : c % 10 ^ (-shift).toNat = 0
    · rw [if_pos none, if_neg fun rest => rest.2 none]
    · rw [if_neg none, if_pos ⟨rfl, none⟩]

/-- What is kept, with one unit more for a rest, has room as long as there is some left. -/
theorem topped_up (rounding : Rounding) (kept rest : Word) (room : kept.toNat + 1 < 2 ^ 256) :
    (if rounding = .up ∧ rest ≠ 0 then kept.plus 1 else .ok kept) =
      .ok (BitVec.ofNat 256
        (if rounding = .up ∧ rest.toNat ≠ 0 then kept.toNat + 1 else kept.toNat)) := by
  have same : rest ≠ 0 ↔ rest.toNat ≠ 0 := not_congr BitVec.toNat_inj.symm
  by_cases more : rounding = .up ∧ rest ≠ 0
  · have one : (1 : Word).toNat = 1 := rfl
    rw [if_pos more, if_pos ⟨more.1, same.1 more.2⟩, Word.plus, one, Word.ofNat?_of_lt room]
  · rw [if_neg more, if_neg fun h => more ⟨h.1, same.2 h.2⟩, BitVec.ofNat_toNat, BitVec.setWidth_eq]

/-- **No step of a conversion breaks down**: the conversion in steps is the one without. -/
theorem convert_eq (rounding : Rounding) (decimals : UInt8) (amount : Decimal) :
    amount.convert rounding decimals = (CallBook.units rounding decimals amount).mapError .error := by
  have room : amount.coefficient.toNat < 10 ^ 20 := lt_trans amount.coefficient.toNat_lt (by norm_num)
  have coefficient := amount.toNat_coefficient
  unfold convert CallBook.units units?
  dsimp only
  generalize (decimals.toNat - amount.scale : ℤ) = shift
  split
  · next left =>
    by_cases far : 78 ≤ shift
    · rw [if_pos far, Word.tens?_of_le (by omega)]
      rfl
    · -- The factor has room, so all depends on the product.
      have product : Word.times? (BitVec.ofNat 256 amount.coefficient.toNat)
          (BitVec.ofNat 256 (10 ^ shift.toNat)) =
            Word.ofNat? (scaled rounding amount.coefficient.toNat shift) := by
        unfold Word.times? scaled
        rw [if_pos left, coefficient, Word.toNat_tens (by omega)]
        rfl
      rw [if_neg far, Word.tens?_of_lt (by omega), Option.bind_some, product]
      cases Word.ofNat? (scaled rounding amount.coefficient.toNat shift) <;> rfl
  · next right =>
    rw [if_neg (by omega), scaled_of_neg rounding _ right]
    generalize (-shift).toNat = k
    have quotient : amount.coefficient.toNat / 10 ^ k + 1 < 2 ^ 256 := by
      have less := Nat.div_le_self amount.coefficient.toNat (10 ^ k)
      omega
    have fits : (if rounding = .up ∧ amount.coefficient.toNat % 10 ^ k ≠ 0
        then amount.coefficient.toNat / 10 ^ k + 1 else amount.coefficient.toNat / 10 ^ k) < 2 ^ 256 := by
      split <;> omega
    rw [Word.ofNat?_of_lt fits]
    by_cases few : k < 78
    · have divisor := Word.toNat_tens few
      have nonzero : BitVec.ofNat 256 (10 ^ k) ≠ 0 := by
        intro zero
        rw [zero] at divisor
        exact absurd divisor.symm (by positivity)
      rw [Word.tens?_of_lt few]
      dsimp only
      unfold Word.divide
      rw [if_neg nonzero]
      refine (topped_up rounding _ _ ?_).trans ?_
      · rwa [BitVec.toNat_udiv, coefficient, divisor]
      · rw [BitVec.toNat_udiv, BitVec.toNat_umod, coefficient, divisor]
        rfl
    · -- A power without room is more than the coefficient, which all goes into the rest.
      have small : amount.coefficient.toNat < 10 ^ k :=
        lt_of_lt_of_le room (Nat.pow_le_pow_right (by decide) (by omega))
      rw [Word.tens?_of_le (Nat.not_lt.1 few), Nat.div_eq_of_lt small, Nat.mod_eq_of_lt small]
      have zero : (0 : Word).toNat + 1 < 2 ^ 256 := by decide
      refine (topped_up rounding 0 _ zero).trans ?_
      rw [coefficient]
      rfl

/-! ### The units of an amount -/

theorem Rounding.whole_mono (rounding : Rounding) (le : x ≤ y) :
    rounding.whole x ≤ rounding.whole y := by
  cases rounding with
  | down => exact Nat.floor_mono le
  | up => exact Nat.ceil_mono le

/-- Scaling by a token's decimals, as one shift of the coefficient. -/
theorem mul_tens (c : UInt64) (s : ℤ) (decimals : UInt8) :
    (c.toNat * 10 ^ (-s) : ℚ) * 10 ^ decimals.toNat = c.toNat * 10 ^ (decimals.toNat - s : ℤ) := by
  rw [sub_eq_neg_add, zpow_add₀ (by norm_num), zpow_natCast, mul_assoc]

/-- **The units of an amount** that is not zero are its value scaled and rounded once. There are none
just if the word has no room: a factor without room leaves none for the product either. -/
theorem units?_eq (known : amount.value? = some x) (positive : 0 < x) :
    amount.units? rounding decimals = Word.ofNat? (rounding.whole (x * 10 ^ decimals.toNat)) := by
  cases amount with
  | infinity => cases known
  | nan => cases known
  | finite c s =>
    cases known
    unfold units?
    dsimp only
    rw [show (finite c s).scale = s from rfl, show (finite c s).coefficient = c from rfl]
    split
    · next far =>
      have one : 1 ≤ c.toNat := by
        refine Nat.one_le_iff_ne_zero.2 fun zero => ?_
        rw [zero, Nat.cast_zero, zero_mul] at positive
        exact lt_irrefl _ positive
      have exponent : decimals.toNat - s = ((decimals.toNat - s).toNat : ℤ) := by omega
      have exact_value : (c.toNat * 10 ^ (decimals.toNat - s : ℤ) : ℚ) =
          ((c.toNat * 10 ^ (decimals.toNat - s : ℤ).toNat : ℕ) : ℚ) := by
        rw [exponent, zpow_natCast]
        push_cast
        rfl
      rw [mul_tens, exact_value, Rounding.whole_natCast]
      refine (Word.ofNat?_of_le ?_).symm
      calc 2 ^ 256
        _ ≤ 1 * 10 ^ 78 := by norm_num
        _ ≤ c.toNat * 10 ^ (decimals.toNat - s : ℤ).toNat :=
          Nat.mul_le_mul one (Nat.pow_le_pow_right (by decide) (by omega))
    · rw [scaled_eq, mul_tens]

/-- The last digits of an amount, those that stand for less than a unit. -/
def digitsBeyond (decimals : UInt8) (amount : Decimal) : ℕ :=
  amount.coefficient.toNat % 10 ^ (amount.scale - decimals.toNat).toNat

/-- Rounding up and down differ by one, and do so just if there are digits to be rounded. -/
theorem whole_up_eq (known : amount.value? = some x) (decimals : UInt8) :
    Rounding.up.whole (x * 10 ^ decimals.toNat) =
      if amount.digitsBeyond decimals = 0 then Rounding.down.whole (x * 10 ^ decimals.toNat)
      else Rounding.down.whole (x * 10 ^ decimals.toNat) + 1 := by
  cases amount with
  | infinity => cases known
  | nan => cases known
  | finite c s =>
    cases known
    rw [mul_tens, ← scaled_eq, ← scaled_eq]
    unfold digitsBeyond
    rw [show (finite c s).scale = s from rfl, show (finite c s).coefficient = c from rfl]
    by_cases left : 0 ≤ (decimals.toNat - s : ℤ)
    · have none : (s - decimals.toNat).toNat = 0 := by omega
      rw [none, pow_zero, Nat.mod_one, if_pos rfl]
      unfold scaled
      rw [if_pos left, if_pos left]
    · have same : (s - decimals.toNat).toNat = (-(decimals.toNat - s)).toNat := by omega
      have plain (c : ℕ) : scaled .down c (decimals.toNat - s) =
          c / 10 ^ (-(decimals.toNat - s : ℤ)).toNat := by
        rw [scaled_of_neg .down _ left]
        exact if_neg fun up => nomatch up.1
      rw [scaled_of_neg .up _ left, plain, same]
      by_cases none : c.toNat % 10 ^ (-(decimals.toNat - s : ℤ)).toNat = 0
      · rw [if_pos none, if_neg fun rest => rest.2 none]
      · rw [if_neg none, if_pos ⟨rfl, none⟩]

/-- What has digits to be rounded is far from the range of words. -/
theorem whole_lt_of_digitsBeyond (known : amount.value? = some x)
    (digits : amount.digitsBeyond decimals ≠ 0) :
    Rounding.down.whole (x * 10 ^ decimals.toNat) < 2 ^ 64 := by
  cases amount with
  | infinity => cases known
  | nan => cases known
  | finite c s =>
    cases known
    have right : ¬ 0 ≤ (decimals.toNat - s : ℤ) := by
      intro left
      have none : (s - decimals.toNat).toNat = 0 := by omega
      refine digits ?_
      show c.toNat % 10 ^ (s - decimals.toNat).toNat = 0
      rw [none, pow_zero, Nat.mod_one]
    rw [mul_tens, ← scaled_eq, scaled_of_neg .down _ right, if_neg fun up => nomatch up.1]
    exact lt_of_le_of_lt (Nat.div_le_self _ _) c.toNat_lt

/-- No digit that is rounded up pushes a number out of a word. -/
theorem whole_up_lt_iff (known : amount.value? = some x) (decimals : UInt8) :
    Rounding.up.whole (x * 10 ^ decimals.toNat) < 2 ^ 256 ↔
      Rounding.down.whole (x * 10 ^ decimals.toNat) < 2 ^ 256 := by
  rw [whole_up_eq known]
  split
  · rfl
  · next digits =>
    have small := whole_lt_of_digitsBeyond known digits
    constructor <;> intro <;> omega

/-- What the units of an amount come to, in any direction. -/
theorem units_eq (known : amount.value? = some x) (positive : 0 < x) (rounding : Rounding)
    (decimals : UInt8) : CallBook.units rounding decimals amount =
      if rounding.whole (x * 10 ^ decimals.toNat) < 2 ^ 256
        then .ok (BitVec.ofNat 256 (rounding.whole (x * 10 ^ decimals.toNat)))
        else .error (.invalidArgument s!"{amount.text} overflows") := by
  unfold CallBook.units
  rw [units?_eq known positive]
  by_cases room : rounding.whole (x * 10 ^ decimals.toNat) < 2 ^ 256
  · rw [if_pos room, Word.ofNat?_of_lt room]
  · rw [if_neg room, Word.ofNat?_of_le (Nat.not_lt.1 room)]

/-- An amount has units just if their number has a word, and they are that number. -/
theorem units_eq_ok_iff (known : amount.value? = some x) (positive : 0 < x) :
    CallBook.units rounding decimals amount = .ok w ↔
      w.toNat = rounding.whole (x * 10 ^ decimals.toNat) := by
  rw [units_eq known positive]
  split
  · next room =>
    have number := Nat.mod_eq_of_lt room
    constructor
    · rintro ⟨⟩
      rwa [BitVec.toNat_ofNat]
    · intro same
      refine congrArg Except.ok (BitVec.eq_of_toNat_eq ?_)
      rw [BitVec.toNat_ofNat, number, same]
  · next long => exact ⟨nofun, fun same => absurd (same ▸ w.isLt) long⟩

/-- **The units of an amount are exact.** Let the amount be a number other than zero, of any length and
with any number of decimals. Its units are its value times the power of ten, rounded down or up, whenever
that number is below `2^256`, and it is refused otherwise; no step of the conversion has no verdict. There
are units rounded down just if there are units rounded up, and then there is one more of them exactly if
the amount has digits beyond the decimals. What has units has no fewer than a smaller amount has. -/
theorem units_exact (known : amount.value? = some x) (positive : 0 < x) (decimals : UInt8) :
    (∀ rounding,
      amount.convert rounding decimals = (CallBook.units rounding decimals amount).mapError .error ∧
      CallBook.units rounding decimals amount =
        if rounding.whole (x * 10 ^ decimals.toNat) < 2 ^ 256
          then .ok (BitVec.ofNat 256 (rounding.whole (x * 10 ^ decimals.toNat)))
          else .error (.invalidArgument s!"{amount.text} overflows")) ∧
    ((∃ w, CallBook.units .down decimals amount = .ok w) ↔
      ∃ w, CallBook.units .up decimals amount = .ok w) ∧
    (∀ w w', CallBook.units .down decimals amount = .ok w → CallBook.units .up decimals amount = .ok w' →
      w'.toNat = if amount.digitsBeyond decimals = 0 then w.toNat else w.toNat + 1) ∧
    (∀ rounding larger y w', larger.value? = some y → x ≤ y →
      CallBook.units rounding decimals larger = .ok w' →
      ∃ w, CallBook.units rounding decimals amount = .ok w ∧ w.toNat ≤ w'.toNat) := by
  refine ⟨fun rounding => ⟨amount.convert_eq rounding decimals, units_eq known positive rounding decimals⟩,
    ?_, ?_, ?_⟩
  · have has (rounding : Rounding) : (∃ w, CallBook.units rounding decimals amount = .ok w) ↔
        rounding.whole (x * 10 ^ decimals.toNat) < 2 ^ 256 := by
      refine ⟨fun ⟨w, units⟩ => (units_eq_ok_iff known positive).1 units ▸ w.isLt, fun room => ?_⟩
      rw [units_eq known positive, if_pos room]
      exact ⟨_, rfl⟩
    rw [has, has, whole_up_lt_iff known]
  · intro w w' down up
    rw [(units_eq_ok_iff known positive).1 down, (units_eq_ok_iff known positive).1 up, whole_up_eq known]
  · intro rounding larger y w' value le units
    have more : rounding.whole (x * 10 ^ decimals.toNat) ≤ rounding.whole (y * 10 ^ decimals.toNat) :=
      rounding.whole_mono (by gcongr)
    have whole := (units_eq_ok_iff value (lt_of_lt_of_le positive le)).1 units
    have room : rounding.whole (x * 10 ^ decimals.toNat) < 2 ^ 256 :=
      lt_of_le_of_lt more (whole ▸ w'.isLt)
    rw [units_eq known positive, if_pos room]
    refine ⟨_, rfl, ?_⟩
    rwa [BitVec.toNat_ofNat, Nat.mod_eq_of_lt room, whole]

/-- An amount with a digit behind the last unit has one unit rounded down and two rounded up. -/
theorem units_of_nineteen_tenths : (finite 19 7).value? = some (19 / 10000000) ∧
    (0 : ℚ) < 19 / 10000000 ∧ CallBook.units .down 6 (finite 19 7) = .ok 1 ∧
    CallBook.units .up 6 (finite 19 7) = .ok 2 := by
  have known : (finite 19 7).value? = some (19 / 10000000) := by
    norm_num [value?, show (19 : UInt64).toNat = 19 from rfl]
  have positive : (0 : ℚ) < 19 / 10000000 := by norm_num
  obtain ⟨converts, either, differ, -⟩ := units_exact known positive 6
  have down : CallBook.units .down 6 (finite 19 7) = .ok 1 := by
    have floor : Rounding.down.whole (19 / 10000000 * 10 ^ (6 : UInt8).toNat) = 1 := by
      rw [show (6 : UInt8).toNat = 6 from rfl]
      exact (Nat.floor_eq_iff (by norm_num)).2 (by norm_num)
    rw [(converts .down).2, floor]
    rfl
  obtain ⟨w, up⟩ := either.1 ⟨1, down⟩
  have two : w = 2 := BitVec.eq_of_toNat_eq (differ 1 w down up)
  exact ⟨known, positive, down, two ▸ up⟩

end Decimal
end OrderDesk
