import OrderDesk.Bytes

/-!
# `OrderDesk.Digest.Sha256` — SHA-256 and its keyed form

Signing nonces are drawn from HMAC over SHA-256.

## Contents
- `Sha256.digest`: the 32 digest bytes of a message.
- `Sha256.keyed key message`: the HMAC of a message under a key.
-/

namespace OrderDesk.Sha256

/-- The constants of the 64 steps. -/
def stepConstants : List UInt32 :=
  [0x428a2f98, 0x71374491, 0xb5c0fbcf, 0xe9b5dba5, 0x3956c25b, 0x59f111f1, 0x923f82a4, 0xab1c5ed5,
   0xd807aa98, 0x12835b01, 0x243185be, 0x550c7dc3, 0x72be5d74, 0x80deb1fe, 0x9bdc06a7, 0xc19bf174,
   0xe49b69c1, 0xefbe4786, 0x0fc19dc6, 0x240ca1cc, 0x2de92c6f, 0x4a7484aa, 0x5cb0a9dc, 0x76f988da,
   0x983e5152, 0xa831c66d, 0xb00327c8, 0xbf597fc7, 0xc6e00bf3, 0xd5a79147, 0x06ca6351, 0x14292967,
   0x27b70a85, 0x2e1b2138, 0x4d2c6dfc, 0x53380d13, 0x650a7354, 0x766a0abb, 0x81c2c92e, 0x92722c85,
   0xa2bfe8a1, 0xa81a664b, 0xc24b8b70, 0xc76c51a3, 0xd192e819, 0xd6990624, 0xf40e3585, 0x106aa070,
   0x19a4c116, 0x1e376c08, 0x2748774c, 0x34b0bcb5, 0x391c0cb3, 0x4ed8aa4a, 0x5b9cca4f, 0x682e6ff3,
   0x748f82ee, 0x78a5636f, 0x84c87814, 0x8cc70208, 0x90befffa, 0xa4506ceb, 0xbef9a3f7, 0xc67178f2]

/-- The eight chaining words. -/
structure Chain where
  a : UInt32
  b : UInt32
  c : UInt32
  d : UInt32
  e : UInt32
  f : UInt32
  g : UInt32
  h : UInt32

/-- The chaining words before the first block. -/
def Chain.start : Chain :=
  ⟨0x6a09e667, 0xbb67ae85, 0x3c6ef372, 0xa54ff53a, 0x510e527f, 0x9b05688c, 0x1f83d9ab, 0x5be0cd19⟩

/-- Rotation to the right by less than 32 and more than 0. -/
def rotateRight (word amount : UInt32) : UInt32 := (word >>> amount) ||| (word <<< (32 - amount))

/-- One step with its schedule word and constant. -/
def step (s : Chain) (word constant : UInt32) : Chain :=
  let upper := rotateRight s.e 6 ^^^ rotateRight s.e 11 ^^^ rotateRight s.e 25
  let choice := (s.e &&& s.f) ^^^ (~~~ s.e &&& s.g)
  let first := s.h + upper + choice + constant + word
  let lower := rotateRight s.a 2 ^^^ rotateRight s.a 13 ^^^ rotateRight s.a 22
  let majority := (s.a &&& s.b) ^^^ (s.a &&& s.c) ^^^ (s.b &&& s.c)
  ⟨first + (lower + majority), s.a, s.b, s.c, s.d + first, s.e, s.f, s.g⟩

/-- The next schedule word from the sixteen before it, oldest first. -/
def nextWord (window : List UInt32) : UInt32 :=
  let at' (i : Nat) := window.getD i 0
  let small0 := rotateRight (at' 1) 7 ^^^ rotateRight (at' 1) 18 ^^^ (at' 1 >>> 3)
  let small1 := rotateRight (at' 14) 17 ^^^ rotateRight (at' 14) 19 ^^^ (at' 14 >>> 10)
  at' 0 + small0 + at' 9 + small1

/-- The steps from some constant on; the window holds the next sixteen schedule words. -/
def steps : List UInt32 → List UInt32 → Chain → Chain
  | [], _, s => s
  | constant :: constants, window, s =>
    steps constants (window.tail ++ [nextWord window]) (step s (window.headD 0) constant)

/-- One block of 64 bytes is taken into the chaining words. -/
def compress (s : Chain) (block : Bytes) : Chain :=
  let words := (List.range 16).map fun i => UInt32.ofNat (Bytes.toNat (Bytes.slice block (4 * i) 4))
  let r := steps stepConstants words s
  ⟨s.a + r.a, s.b + r.b, s.c + r.c, s.d + r.d, s.e + r.e, s.f + r.f, s.g + r.g, s.h + r.h⟩

/-- A message is followed by `0x80`, zeros and its length in bits, to a multiple of 64 bytes. -/
def pad (message : Bytes) : Bytes :=
  let zeros := (119 - message.length % 64) % 64
  message ++ 0x80 :: List.replicate zeros 0 ++ Bytes.ofNat 8 (8 * message.length)

/-- The SHA-256 digest of a message. -/
def digest (message : Bytes) : Bytes :=
  let padded := pad message
  let blocks := (List.range (padded.length / 64)).map fun i => Bytes.slice padded (64 * i) 64
  let s := blocks.foldl compress Chain.start
  [s.a, s.b, s.c, s.d, s.e, s.f, s.g, s.h].flatMap fun w => Bytes.ofNat 4 w.toNat

/-- The HMAC of a message under a key; keys longer than a block are replaced by their digest. -/
def keyed (key message : Bytes) : Bytes :=
  let short := if 64 < key.length then digest key else key
  let block := short ++ List.replicate (64 - short.length) 0
  digest (block.map (· ^^^ 0x5c) ++ digest (block.map (· ^^^ 0x36) ++ message))

end OrderDesk.Sha256
