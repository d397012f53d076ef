/-!
# `OrderDesk.Text.Paint` — coloured text

A colour is switched on before a text and off behind it, if colours are wanted at all.
-/

namespace OrderDesk

/-- The colours in use. -/
inductive Colour where
  | red
  | green
  | yellow
  | cyan
  | brightRed
  | brightGreen
  | brightBlue
  | brightCyan
deriving DecidableEq, Repr, Inhabited

/-- The terminal's number of a colour. -/
def Colour.code : Colour → String
  | red => "31"
  | green => "32"
  | yellow => "33"
  | cyan => "36"
  | brightRed => "91"
  | brightGreen => "92"
  | brightBlue => "94"
  | brightCyan => "96"

/-- A text in a colour. -/
def paint (wanted : Bool) (colour : Colour) (text : String) : String :=
  if wanted then "\x1b[" ++ colour.code ++ "m" ++ text ++ "\x1b[0m" else text

end OrderDesk
