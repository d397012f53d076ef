/-!
# `OrderDesk.Text.Codepoint` — characters by their codes

## Contents
- `Codepoint.char?`: the character of a code; `Codepoint.char?_toNat`: every character has one.
-/

namespace OrderDesk.Codepoint

/-- The character of a code, unless the code is a half of a pair or beyond the last. -/
def char? (code : Nat) : Option Char :=
  if code.isValidChar then some (Char.ofNat code) else none

theorem char?_toNat (c : Char) : char? c.toNat = some c := by
  have h : c.toNat.isValidChar := c.valid
  rw [char?, if_pos h, Char.ofNat_toNat]

end OrderDesk.Codepoint
