import OrderDesk.Hex

/-!
# `OrderDesk.Text.Numeral` — whole numbers written in digits

## Contents
- `Numeral.digit?`: one digit of a base up to sixteen, of either case.
- `Numeral.read?`: the number that digits write.
-/

namespace OrderDesk.Numeral

/-- The value of a digit of a base up to sixteen. -/
def digit? (base : Nat) (c : Char) : Option Nat := (Hex.value? c).filter (· < base)

/-- The number that digits of a base write; no digits are zero. -/
def read? (base : Nat) (digits : List Char) : Option Nat :=
  digits.foldlM (fun n c => (digit? base c).map (n * base + ·)) 0

theorem read?_nil (base : Nat) : read? base [] = some 0 := rfl

/-- A further digit weighs what was read before by the base. -/
theorem read?_concat (base : Nat) (digits : List Char) (c : Char) :
    read? base (digits ++ [c]) =
      (read? base digits).bind fun n => (digit? base c).map (n * base + ·) := by
  simp [read?, List.foldlM_append, bind]

end OrderDesk.Numeral
