import OrderDesk.Bytes

/-!
# `OrderDesk.Digest.Keccak` — the Keccak-256 digest

The sponge with rate 136 bytes and the padding byte `0x01`, as the exchange's chain uses it for
hashes, addresses and selectors.

## Contents
- `Keccak.permute`: the 24 rounds on 25 lanes, lane `x + 5 * y`.
- `Keccak.digest`: the 32 digest bytes of a message.
-/

namespace OrderDesk.Keccak

/-- Twenty-five 64-bit lanes; lane `(x, y)` stands at `x + 5 * y`. -/
abbrev Lanes := Vector UInt64 25

/-- The constants added to lane 0, one a round. -/
def roundConstants : List UInt64 :=
  [0x0000000000000001, 0x0000000000008082, 0x800000000000808a, 0x8000000080008000,
   0x000000000000808b, 0x0000000080000001, 0x8000000080008081, 0x8000000000008009,
   0x000000000000008a, 0x0000000000000088, 0x0000000080008009, 0x000000008000000a,
   0x000000008000808b, 0x800000000000008b, 0x8000000000008089, 0x8000000000008003,
   0x8000000000008002, 0x8000000000000080, 0x000000000000800a, 0x800000008000000a,
   0x8000000080008081, 0x8000000000008080, 0x0000000080000001, 0x8000000080008008]

/-- How far each lane is rotated. -/
def rotations : Vector UInt64 25 :=
  #v[0, 1, 62, 28, 27, 36, 44, 6, 55, 20, 3, 10, 43, 25, 39, 41, 45, 15, 21, 8, 18, 2, 61, 56, 14]

/-- Rotation to the left; an amount of zero keeps the lane. -/
def rotateLeft (lane amount : UInt64) : UInt64 :=
  if amount = 0 then lane else (lane <<< amount) ||| (lane >>> (64 - amount))

/-- The parity of column `x`. -/
def parity (a : Lanes) (x : Fin 5) : UInt64 :=
  a.get ⟨x, by omega⟩ ^^^ a.get ⟨x + 5, by omega⟩ ^^^ a.get ⟨x + 10, by omega⟩
    ^^^ a.get ⟨x + 15, by omega⟩ ^^^ a.get ⟨x + 20, by omega⟩

/-- Every lane takes in the parities of the two columns beside it. -/
def diffuse (a : Lanes) : Lanes :=
  let c : Vector UInt64 5 := Vector.ofFn (parity a)
  let d : Vector UInt64 5 := Vector.ofFn fun x =>
    c.get ⟨(x + 4) % 5, by omega⟩ ^^^ rotateLeft (c.get ⟨(x + 1) % 5, by omega⟩) 1
  Vector.ofFn fun i => a.get i ^^^ d.get ⟨i % 5, by omega⟩

/-- Lanes are rotated and moved: target `(x, y)` takes lane `(x + 3 y, x)`. -/
def scatter (a : Lanes) : Lanes :=
  Vector.ofFn fun i =>
    let source : Fin 25 := ⟨(i % 5 + 3 * (i / 5)) % 5 + 5 * (i % 5), by omega⟩
    rotateLeft (a.get source) (rotations.get source)

/-- The only nonlinear step: rows are mixed lane by lane. -/
def mixRows (b : Lanes) : Lanes :=
  Vector.ofFn fun i =>
    let row := i / 5 * 5
    b.get i ^^^ (~~~ b.get ⟨row + (i + 1) % 5, by omega⟩ &&& b.get ⟨row + (i + 2) % 5, by omega⟩)

/-- One round. -/
def round (a : Lanes) (constant : UInt64) : Lanes :=
  let mixed := mixRows (scatter (diffuse a))
  mixed.set 0 (mixed.get 0 ^^^ constant)

/-- All rounds in order. -/
def permute (a : Lanes) : Lanes := roundConstants.foldl round a

/-- Bytes absorbed at a time. -/
def rate : Nat := 136

/-- Up to eight bytes as a lane, least significant first. -/
def laneOf (bytes : Bytes) : UInt64 := UInt64.ofNat (Bytes.toNat bytes.reverse)

/-- A block is added to the lanes it covers. -/
def absorb (a : Lanes) (block : Bytes) : Lanes :=
  permute (Vector.ofFn fun i => a.get i ^^^ laneOf (Bytes.slice block (8 * i) 8))

/-- A message is followed by `0x01`, zeros and `0x80` to a multiple of the rate; the two marks
share a byte when only one is left. -/
def pad (message : Bytes) : Bytes :=
  let gap := rate - message.length % rate
  if gap = 1 then message ++ [0x81] else message ++ 0x01 :: List.replicate (gap - 2) 0 ++ [0x80]

/-- The blocks of a padded message. -/
def blocks (message : Bytes) : List Bytes :=
  let padded := pad message
  (List.range (padded.length / rate)).map fun i => Bytes.slice padded (rate * i) rate

/-- A lane's bytes, least significant first. -/
def laneBytes (lane : UInt64) : Bytes := (Bytes.ofNat 8 lane.toNat).reverse

/-- The Keccak-256 digest of a message. -/
def digest (message : Bytes) : Bytes :=
  let final := (blocks message).foldl absorb (Vector.replicate 25 0)
  (final.toList.take 4).flatMap laneBytes

end OrderDesk.Keccak
