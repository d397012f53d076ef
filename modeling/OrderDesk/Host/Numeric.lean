import OrderDesk.Text.Numeral

/-!
# `OrderDesk.Host.Numeric` — hosts given by number

An address of the fourth version of the protocol has four bytes, one of the sixth has eight pieces of
two bytes. Both may be written shorter: the last number of the one may stand for several bytes, and one
run of zeros in the other may be left out.

## Contents
- `Ipv4.read?`: labels that are the numbers of an address; `Ipv4.acceptsQuad`: exactly four bytes.
- `Ipv6.accepts`: the text of an address.
-/

namespace OrderDesk

namespace Ipv4

/-- The number that a label writes: in hexadecimal behind `0x`, in octal behind `0`, or in decimal. -/
def readNumber? : List Char → Option Nat
  | [] => none
  | '0' :: 'x' :: digits | '0' :: 'X' :: digits => Numeral.read? 16 digits
  | '0' :: digit :: digits => Numeral.read? 8 (digit :: digits)
  | digits => Numeral.read? 10 digits

/-- The bytes of an address: the last of up to four numbers stands for all bytes that are left. -/
def ofNumbers? (numbers : List Nat) : Option Nat := do
  let last ← numbers.getLast?
  let before := numbers.dropLast
  let left := Nat.pow 256 (4 - before.length)
  if 3 < before.length ∨ before.any (255 < ·) ∨ left ≤ last then none
  else some (before.foldl (fun n byte => n * 256 + byte) 0 * left + last)

/-- The address of labels, of which one behind the last dot may be empty. -/
def read? (labels : List (List Char)) : Option Nat := do
  let labels := if labels.getLast? = some [] then labels.dropLast else labels
  ofNumbers? (← labels.mapM readNumber?)

/-- A byte in decimal, without leading zeros. -/
def acceptsByte (digits : List Char) : Bool :=
  (digits.length == 1 || 1 < digits.length && digits.length ≤ 3 && digits.head? != some '0') &&
    (Numeral.read? 10 digits).any (· < 256)

/-- Four bytes in decimal, with dots between them; `left` is how many there are yet. -/
def acceptsQuad (left : Nat) (text : List Char) : Bool :=
  match left, text.span (· != '.') with
  | 0, _ => false
  | 1, (byte, rest) => rest.isEmpty && acceptsByte byte
  | left + 1, (byte, '.' :: rest) => acceptsByte byte && acceptsQuad left rest
  | _, _ => false

end Ipv4

namespace Ipv6

/-- The number of pieces. -/
def pieces : Nat := 8

/-- The rest of an address behind `count` pieces; `shortened` says whether the pieces left out are among
them. The last two pieces may be written as four bytes. -/
def acceptsRest : (fuel count : Nat) → (shortened : Bool) → List Char → Bool
  | _, count, shortened, [] => shortened || count == pieces
  | 0, _, _, _ => false
  | fuel + 1, count, shortened, text =>
    if count = pieces then false
    else match text with
      | ':' :: rest => !shortened && acceptsRest fuel (count + 1) true rest
      | text =>
        let digits := (text.take 4).takeWhile fun c => (Hex.value? c).isSome
        match text.drop digits.length with
        | [] => acceptsRest fuel (count + 1) shortened []
        | ':' :: rest => !rest.isEmpty && acceptsRest fuel (count + 1) shortened rest
        | '.' :: _ =>
          !digits.isEmpty && count ≤ pieces - 2 && (shortened || count == pieces - 2) &&
            Ipv4.acceptsQuad 4 text
        | _ => false

/-- The text of an address. Every piece takes at least one character. -/
def accepts (text : List Char) : Bool :=
  match text with
  | ':' :: ':' :: rest => acceptsRest rest.length 1 true rest
  | ':' :: _ | [] | [_] => false
  | text => acceptsRest text.length 0 false text

end Ipv6
end OrderDesk
