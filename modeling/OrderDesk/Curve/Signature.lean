import OrderDesk.Address
import OrderDesk.Curve.Secp256k1
import OrderDesk.Digest.Sha256

/-!
# `OrderDesk.Curve.Signature` — keys and deterministic signatures

A signature's one-time scalar is drawn from the key and the signed hash by a keyed digest, so the
same hash always gets the same signature; of the two valid forms the one with the low `s` is taken.

## Contents
- `SigningKey.ofBytes?`, `SigningKey.address`.
- `SigningKey.sign`: `r`, `s` and the parity of the one-time point.
-/

namespace OrderDesk

open Secp256k1

/-- A secret scalar between 1 and the group's order. -/
structure SigningKey where
  scalar : Nat
deriving DecidableEq, Inhabited

/-- A recoverable signature. -/
structure Signature where
  r : Nat
  s : Nat
  parity : Bool
deriving DecidableEq, Repr, Inhabited

namespace SigningKey

/-- Thirty-two bytes that denote a scalar of the allowed range. -/
def ofBytes? (bytes : Bytes) : Option SigningKey :=
  let n := Bytes.toNat bytes
  if bytes.length = 32 ∧ 0 < n ∧ n < order then some ⟨n⟩ else none

/-- The account of a key: the last twenty bytes of the hash of its public point. -/
def address (key : SigningKey) : Address :=
  match (Point.scale key.scalar generator).affine? with
  | some (x, y) => Address.ofBytes ((Keccak.digest (Bytes.ofNat 32 x ++ Bytes.ofNat 32 y)).drop 12)
  | none => Address.zero

/-- The state of the scalar generator. -/
structure Draw where
  key : Bytes
  value : Bytes

/-- Mixes a separator byte and a seed into the state. -/
def Draw.mix (d : Draw) (separator : UInt8) (seed : Bytes) : Draw :=
  let key := Sha256.keyed d.key (d.value ++ separator :: seed)
  ⟨key, Sha256.keyed key d.value⟩

/-- The state seeded with the secret scalar and the hash to sign, both reduced to the order. -/
def Draw.start (key : SigningKey) (hash : Hash) : Draw :=
  let seed := Bytes.ofNat 32 key.scalar ++ Bytes.ofNat 32 (hash.bits.toNat % order)
  let zeroed : Draw := ⟨List.replicate 32 0x00, List.replicate 32 0x01⟩
  (zeroed.mix 0 seed).mix 1 seed

/-- The signature with one-time scalar `k`, unless a component would be zero. -/
def signWith? (key : SigningKey) (hash : Hash) (k : Nat) : Option Signature := do
  let (x, y) ← (Point.scale k generator).affine?
  let r := x % order
  let s := inverse order k * (hash.bits.toNat + r * key.scalar) % order
  if r = 0 ∨ s = 0 then none
  else if order / 2 < s then some ⟨r, order - s, y % 2 = 0⟩
  else some ⟨r, s, y % 2 = 1⟩

/-- Draws scalars until one is in range and signs. -/
def signFrom (key : SigningKey) (hash : Hash) : Nat → Draw → Signature
  | 0, _ => ⟨0, 0, false⟩
  | tries + 1, d =>
    let value := Sha256.keyed d.key d.value
    let k := Bytes.toNat value
    match if 0 < k ∧ k < order then signWith? key hash k else none with
    | some signature => signature
    | none => signFrom key hash tries (Draw.mix ⟨d.key, value⟩ 0 [])

/-- The signature of a hash. A draw is refused about once in `2 ^ 127`, so few are ever needed. -/
def sign (key : SigningKey) (hash : Hash) : Signature := signFrom key hash 64 (Draw.start key hash)

end SigningKey
end OrderDesk
