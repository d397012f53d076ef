import OrderDesk.Hex
import OrderDesk.Digest.Keccak

/-!
# `OrderDesk.Address` — words, addresses and digests

The identifiers of the chain: 256-bit words, 160-bit account addresses, 256-bit hashes.

## Contents
- `Address.text`: lower-case form; `Address.checksummed`: the mixed-case form whose letter cases
  check the address.
- `Hash.ofMessage`: the Keccak-256 hash of a message.
-/

namespace OrderDesk

/-- An unsigned 256-bit quantity. -/
abbrev Word := BitVec 256

/-- The word for a number, if it fits. -/
def Word.ofNat? (n : Nat) : Option Word :=
  let word := BitVec.ofNat 256 n
  if word.toNat = n then some word else none

/-- An account address. -/
structure Address where
  bits : BitVec 160
deriving DecidableEq, Repr, Inhabited

/-- A transaction hash, an event topic or another 32-byte identifier. -/
structure Hash where
  bits : BitVec 256
deriving DecidableEq, Repr, Inhabited

namespace Address

/-- The zero address: no account. -/
def zero : Address := ⟨0⟩

def ofBytes (bytes : Bytes) : Address := ⟨BitVec.ofNat 160 (Bytes.toNat bytes)⟩

def toBytes (a : Address) : Bytes := Bytes.ofNat 20 a.bits.toNat

/-- Reads exactly twenty bytes of hexadecimal text, marked `0x` or not. -/
def ofText? (text : String) : Option Address := do
  let bytes ← Hex.decode? text
  if bytes.length = 20 then some (ofBytes bytes) else none

/-- Lower-case hexadecimal. -/
def text (a : Address) : String := Hex.encode a.toBytes

/-- A letter is a capital where the hash of the lower-case digits has a digit of eight or more. -/
def checksummed (a : Address) : String :=
  let digits := Hex.digits a.toBytes
  let hash := Hex.digits (Keccak.digest (digits.map fun c => UInt8.ofNat c.toNat))
  let cased := digits.zipWith (fun c h => if '8' ≤ h then c.toUpper else c) hash
  String.ofList ('0' :: 'x' :: cased)

end Address

namespace Hash

def zero : Hash := ⟨0⟩

def ofBytes (bytes : Bytes) : Hash := ⟨BitVec.ofNat 256 (Bytes.toNat bytes)⟩

def toBytes (h : Hash) : Bytes := Bytes.ofNat 32 h.bits.toNat

/-- Reads exactly thirty-two bytes of hexadecimal text, marked `0x` or not. -/
def ofText? (text : String) : Option Hash := do
  let bytes ← Hex.decode? text
  if bytes.length = 32 then some (ofBytes bytes) else none

def text (h : Hash) : String := Hex.encode h.toBytes

/-- The Keccak-256 hash of a message. -/
def ofMessage (message : Bytes) : Hash := ofBytes (Keccak.digest message)

end Hash
end OrderDesk
