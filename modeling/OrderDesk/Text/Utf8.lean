import OrderDesk.Bytes

/-!
# `OrderDesk.Text.Utf8` — text in bytes

## Contents
- `Utf8.next`: the first character of a byte string, or how many bytes of it are no character.
- `Utf8.decode?`: strict reading; `Utf8.decodeLossy`: every unreadable stretch becomes `U+FFFD`.
-/

namespace OrderDesk.Utf8

/-- What a byte string begins with. -/
inductive Piece where
  | char (c : Char) (size : Nat)
  | invalid (size : Nat)

/-- A continuation byte of the given range. -/
def continues (bytes : Bytes) (index low high : Nat) : Option Nat :=
  match bytes[index]? with
  | some b => if low ≤ b.toNat ∧ b.toNat ≤ high then some (b.toNat % 64) else none
  | none => none

/-- The bounds of the second byte, and how many bytes follow the first; none for a first byte that
begins no character. -/
def lead (first : Nat) : Option (Nat × Nat × Nat) :=
  if 0xc2 ≤ first ∧ first ≤ 0xdf then some (0x80, 0xbf, 1)
  else if first = 0xe0 then some (0xa0, 0xbf, 2)
  else if first = 0xed then some (0x80, 0x9f, 2)
  else if 0xe1 ≤ first ∧ first ≤ 0xef then some (0x80, 0xbf, 2)
  else if first = 0xf0 then some (0x90, 0xbf, 3)
  else if 0xf1 ≤ first ∧ first ≤ 0xf3 then some (0x80, 0xbf, 3)
  else if first = 0xf4 then some (0x80, 0x8f, 3)
  else none

/-- The first character of bytes that begin with `first`. An unreadable stretch ends where no
character could have gone on. -/
def next (first : UInt8) (rest : Bytes) : Piece :=
  let n := first.toNat
  if n < 0x80 then .char (Char.ofNat n) 1
  else match lead n with
    | none => .invalid 1
    | some (low, high, count) =>
      match continues rest 0 low high with
      | none => .invalid 1
      | some second =>
        if count = 1 then .char (Char.ofNat (n % 32 * 64 + second)) 2
        else match continues rest 1 0x80 0xbf with
          | none => .invalid 2
          | some third =>
            if count = 2 then .char (Char.ofNat (n % 16 * 4096 + second * 64 + third)) 3
            else match continues rest 2 0x80 0xbf with
              | none => .invalid 3
              | some fourth =>
                .char (Char.ofNat (n % 8 * 262144 + second * 4096 + third * 64 + fourth)) 4

/-- The characters of a byte string; the flag of each says whether it was readable. -/
def pieces : (fuel : Nat) → Bytes → List (Char × Bool)
  | 0, _ | _, [] => []
  | fuel + 1, first :: rest =>
    match next first rest with
    | .char c size => (c, true) :: pieces fuel (rest.drop (size - 1))
    | .invalid size => ('\uFFFD', false) :: pieces fuel (rest.drop (size - 1))

/-- The text of a byte string, if all of it is readable. -/
def decode? (bytes : Bytes) : Option String :=
  let all := pieces bytes.length bytes
  if all.all (·.2) then some (String.ofList (all.map (·.1))) else none

/-- The text of a byte string with a replacement for every unreadable stretch. -/
def decodeLossy (bytes : Bytes) : String :=
  String.ofList ((pieces bytes.length bytes).map (·.1))

/-- The bytes of a text. -/
def encode (text : String) : Bytes := text.toUTF8.toList

end OrderDesk.Utf8
