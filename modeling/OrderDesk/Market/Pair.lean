import OrderDesk.DeskError
import OrderDesk.Text.AsciiCase
import OrderDesk.Text.UpperCase

/-!
# `OrderDesk.Market.Pair` — trading pairs

A pair names the base token, whose amount an order gives, and the quote token, in which it is priced.

## Contents
- `Pair.text`: the two symbols joined by a dash.
- `Pair.ofText?`: reads a pair; the first dash divides it and both symbols become upper case.
-/

namespace OrderDesk

/-- A base and a quote symbol. -/
structure Pair where
  base : String
  quote : String
deriving DecidableEq, Repr, Inhabited

namespace Pair

/-- The symbols joined by a dash. -/
def text (p : Pair) : String := p.base ++ "-" ++ p.quote

/-- What stands before and after the first dash. -/
def split? (text : String) : Option (String × String) :=
  match text.toList.dropWhile (· != '-') with
  | [] => none
  | _ :: after => some (String.ofList (text.toList.takeWhile (· != '-')), String.ofList after)

/-- Both sides must be there and differ by more than ASCII case. -/
def ofText? (text : String) : Option Pair :=
  match split? text with
  | none => none
  | some (base, quote) =>
    if base.isEmpty || quote.isEmpty || AsciiCase.same base quote then none
    else some ⟨UpperCase.ofString base, UpperCase.ofString quote⟩

/-- The refusal of a text that is no pair. -/
def refusal (text : String) : DeskError := .invalidArgument ("invalid trading pair: " ++ text)

end Pair
end OrderDesk
