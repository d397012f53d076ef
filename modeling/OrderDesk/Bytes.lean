/-!
# `OrderDesk.Bytes` — byte strings and big-endian integers

Every wire format here (words, digests, transactions) is a list of bytes, most significant first.

## Contents
- `Bytes.ofNat w n`: the `w` low bytes of `n`; `Bytes.toNat`: the number a byte string denotes;
  `toNat_ofNat` ties the two.
- `Bytes.minimal n`: the form without leading zero bytes, empty for zero.
-/

namespace OrderDesk

/-- A byte string. -/
abbrev Bytes := List UInt8

namespace Bytes

/-- The number a byte string denotes, most significant byte first. -/
def toNat (bytes : Bytes) : Nat := bytes.foldl (fun acc b => acc * 256 + b.toNat) 0

/-- The `width` low bytes of `n`, most significant first. -/
def ofNat : (width n : Nat) → Bytes
  | 0, _ => []
  | width + 1, n => ofNat width (n / 256) ++ [UInt8.ofNat n]

/-- The bytes of `n` without leading zeros; zero has none. -/
def minimal (n : Nat) : Bytes :=
  if n = 0 then [] else minimal (n / 256) ++ [UInt8.ofNat n]
termination_by n
decreasing_by omega

@[simp] theorem length_ofNat (width n : Nat) : (ofNat width n).length = width := by
  induction width generalizing n with
  | zero => rfl
  | succ w ih => simp [ofNat, ih]

@[simp] theorem toNat_nil : toNat [] = 0 := rfl

/-- A last byte is the lowest digit. -/
@[simp] theorem toNat_concat (bytes : Bytes) (b : UInt8) :
    toNat (bytes ++ [b]) = toNat bytes * 256 + b.toNat := by
  simp [toNat]

/-- Reading the low bytes back gives the number modulo their range. -/
theorem toNat_ofNat (width n : Nat) : toNat (ofNat width n) = n % Nat.pow 256 width := by
  induction width generalizing n with
  | zero => simp [ofNat, Nat.mod_one]
  | succ w ih =>
    have hb : (UInt8.ofNat n).toNat = n % 256 := by simp
    have hp : Nat.pow 256 (w + 1) = 256 * Nat.pow 256 w := Nat.mul_comm (Nat.pow 256 w) 256
    rw [ofNat, toNat_concat, ih, hb, hp, Nat.mod_mul]
    omega

/-- The minimal form denotes its number. -/
@[simp] theorem toNat_minimal (n : Nat) : toNat (minimal n) = n := by
  induction n using Nat.strongRecOn with
  | ind n ih =>
    rw [minimal]
    split
    · simp [*]
    · next h =>
      have hb : (UInt8.ofNat n).toNat = n % 256 := by simp
      rw [toNat_concat, ih (n / 256) (by omega), hb]
      omega

/-- The bytes `start, start + 1, …` of a byte string, `count` of them if there are that many. -/
def slice (bytes : Bytes) (start count : Nat) : Bytes := (bytes.drop start).take count

/-- Byte strings end in a zero byte until their length is a multiple of 32. -/
def padded (bytes : Bytes) : Bytes := bytes ++ List.replicate ((32 - bytes.length % 32) % 32) 0

end Bytes
end OrderDesk
