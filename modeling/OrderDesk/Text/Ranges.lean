/-!
# `OrderDesk.Text.Ranges` — classes of characters

A class is given by the codes of its characters, as stretches from a first to a last code in rising
order.

## Contents
- `CharRanges`, `CharRanges.contains`.
-/

namespace OrderDesk

/-- Stretches of codes, in rising order. -/
abbrev CharRanges := List (Nat × Nat)

/-- Whether a code stands in one of the stretches. They are sorted, so the search ends early. -/
def CharRanges.contains (ranges : CharRanges) (code : Nat) : Bool :=
  match ranges.dropWhile fun (_, last) => last < code with
  | (first, _) :: _ => first ≤ code
  | [] => false

end OrderDesk
