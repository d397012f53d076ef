import Mathlib.Algebra.GroupWithZero.Nat
import Mathlib.Data.List.Basic
import OrderDesk.Transaction.Rlp

/-!
# `OrderDesk.Proofs.RlpReading` — length-prefixed encoding read back

A reader takes one item from the front of a byte string and gives back what follows. It takes no
detours: a byte that is its own encoding has no mark, a short length no length bytes, a number no
leading zero. What was written is read back, whatever follows it, as long as its length has room in
the eight bytes that a mark can announce.

## Contents
- `Rlp.take?`, `Rlp.readLength?`, `Rlp.readPayload?`: a payload behind its mark.
- `Rlp.readString?`, `Rlp.readNumber?`, `Rlp.readBits?`, `Rlp.readList?`: the readers.
- `Bytes.length_minimal_le`, `Bytes.head_minimal`: the form without leading zeros.
- `Rlp.readPayload?_mark`: the mark of a payload; `Rlp.readString?_string`, `Rlp.readNumber?_number`,
  `Rlp.readBits?_number`, `Rlp.readList?_list`: one result for each reader.
-/

namespace OrderDesk

/-! ### Numbers without leading zeros -/

namespace Bytes

theorem minimal_zero : minimal 0 = [] := by
  rw [minimal, if_pos rfl]

theorem minimal_of_pos {n : Nat} (pos : 0 < n) :
    minimal n = minimal (n / 256) ++ [UInt8.ofNat n] := by
  rw [minimal, if_neg (by omega)]

theorem minimal_ne_nil {n : Nat} (pos : 0 < n) : minimal n ≠ [] := by
  rw [minimal_of_pos pos]
  simp

/-- A number below `256 ^ width` takes up at most `width` bytes. -/
theorem length_minimal_le {width n : Nat} (fits : n < 256 ^ width) : (minimal n).length ≤ width := by
  induction width generalizing n with
  | zero =>
    obtain rfl : n = 0 := by simpa using fits
    simp [minimal_zero]
  | succ width ih =>
    rcases Nat.eq_zero_or_pos n with rfl | pos
    next => simp [minimal_zero]
    next =>
      have shorter := ih (Nat.div_lt_of_lt_mul (by rwa [Nat.pow_succ, Nat.mul_comm] at fits))
      rw [minimal_of_pos pos, List.length_append, List.length_singleton]
      omega

/-- The first byte is no zero. -/
theorem head_minimal (n : Nat) : (minimal n).head? ≠ some 0 := by
  induction n using Nat.strongRecOn with
  | ind n ih =>
    rcases Nat.eq_zero_or_pos n with rfl | pos
    next => simp [minimal_zero]
    next =>
      rw [minimal_of_pos pos]
      rcases Nat.eq_zero_or_pos (n / 256) with last | more
      next =>
        rw [last, minimal_zero]
        have low : n < 256 := by omega
        simp only [List.nil_append, List.head?_cons, ne_eq, Option.some.injEq]
        intro zero
        have : (UInt8.ofNat n).toNat = 0 := by rw [zero]; rfl
        rw [UInt8.toNat_ofNat_of_lt' low] at this
        omega
      next =>
        rw [List.head?_append_of_ne_nil _ (minimal_ne_nil more)]
        exact ih (n / 256) (by omega)

end Bytes

namespace Rlp

/-! ### How long an encoding is -/

/-- A mark takes up one byte and those of the length. -/
theorem length_mark_le {base length width : Nat} (fits : length < 256 ^ width) :
    (mark base length).length ≤ width + 1 := by
  unfold mark
  split
  next => simp
  next => simpa using Bytes.length_minimal_le fits

theorem length_string_le {width : Nat} {bytes : Bytes} (fits : bytes.length < 256 ^ width) :
    (string bytes).length ≤ bytes.length + width + 1 := by
  have marked : (mark 0x80 bytes.length).length ≤ width + 1 := length_mark_le fits
  unfold string
  split
  next =>
    split <;> simp
  next =>
    rw [List.length_append]
    omega

theorem length_number_le {n : Nat} (fits : n < 2 ^ 256) : (number n).length ≤ 34 := by
  have digits : (Bytes.minimal n).length ≤ 32 := Bytes.length_minimal_le (by simpa using fits)
  have whole : (number n).length ≤ (Bytes.minimal n).length + 1 + 1 := length_string_le (by omega)
  omega

/-! ### Readers -/

/-- As many bytes in front, if there are so many, and what follows. -/
def take? (count : Nat) (bytes : Bytes) : Option (Bytes × Bytes) :=
  if count ≤ bytes.length then some (bytes.take count, bytes.drop count) else none

/-- A length that is written in bytes of its own, of 56 or more and without leading zeros. -/
def readLength? (count : Nat) (bytes : Bytes) : Option (Nat × Bytes) := do
  let (digits, rest) ← take? count bytes
  if digits.head? = some 0 ∨ Bytes.toNat digits < 56 then none else some (Bytes.toNat digits, rest)

/-- A payload behind its mark. -/
def readPayload? (base : Nat) : Bytes → Option (Bytes × Bytes)
  | [] => none
  | first :: rest =>
    if first.toNat < base then none
    else if first.toNat < base + 56 then take? (first.toNat - base) rest
    else if first.toNat < base + 64 then do
      let (length, rest) ← readLength? (first.toNat - (base + 55)) rest
      take? length rest
    else none

/-- A byte string. -/
def readString? : Bytes → Option (Bytes × Bytes)
  | [] => none
  | first :: rest =>
    if first < 0x80 then some ([first], rest)
    else match readPayload? 0x80 (first :: rest) with
      | some ([b], rest) => if b < 0x80 then none else some ([b], rest)
      | read => read

/-- A number without leading zeros. -/
def readNumber? (bytes : Bytes) : Option (Nat × Bytes) := do
  let (digits, rest) ← readString? bytes
  if digits.head? = some 0 then none else some (Bytes.toNat digits, rest)

/-- A number of so many bits. -/
def readBits? (bits : Nat) (bytes : Bytes) : Option (Nat × Bytes) :=
  (readNumber? bytes).filter fun (n, _) => n < 2 ^ bits

/-- The encoded items of a list. -/
def readList? (bytes : Bytes) : Option (Bytes × Bytes) := readPayload? 0xc0 bytes

/-! ### What was written -/

variable {payload rest : Bytes}

theorem take?_append {count : Nat} (length : payload.length = count) :
    take? count (payload ++ rest) = some (payload, rest) := by
  subst length
  simp [take?]

theorem readLength?_minimal {length : Nat} (long : 56 ≤ length) :
    readLength? (Bytes.minimal length).length (Bytes.minimal length ++ rest) =
      some (length, rest) := by
  simp only [readLength?, take?_append, Option.bind_eq_bind, Option.bind_some, Bytes.toNat_minimal]
  rw [if_neg]
  rintro (zero | short)
  next => exact Bytes.head_minimal length zero
  next => omega

/-- **A payload is found behind its mark.** -/
theorem readPayload?_mark {base : Nat} (room : base + 64 ≤ 256) (short : payload.length < 2 ^ 64) :
    readPayload? base (mark base payload.length ++ payload ++ rest) = some (payload, rest) := by
  unfold mark
  split
  next few =>
    have first : (UInt8.ofNat (base + payload.length)).toNat = base + payload.length :=
      UInt8.toNat_ofNat_of_lt' (by simp [UInt8.size]; omega)
    rw [List.singleton_append, List.cons_append, readPayload?, first, if_neg (by omega),
      if_pos (by omega), take?_append (by omega)]
  next many =>
    -- A length of at most eight bytes keeps the first byte among the marks of its kind.
    have digits : (Bytes.minimal payload.length).length ≤ 8 :=
      Bytes.length_minimal_le (by simpa using short)
    have some_digits : 0 < (Bytes.minimal payload.length).length :=
      List.length_pos_iff.2 (Bytes.minimal_ne_nil (by omega))
    have first : (UInt8.ofNat (base + 55 + (Bytes.minimal payload.length).length)).toNat =
        base + 55 + (Bytes.minimal payload.length).length :=
      UInt8.toNat_ofNat_of_lt' (by simp [UInt8.size]; omega)
    dsimp only
    rw [List.cons_append, List.cons_append, readPayload?, first, if_neg (by omega),
      if_neg (by omega), if_pos (by omega), Nat.add_sub_cancel_left, List.append_assoc,
      readLength?_minimal (by omega)]
    exact take?_append rfl

/-- A payload behind its mark is a byte string, unless it is a byte that needs no mark. -/
theorem readString?_of_payload {bytes : Bytes} (read : readPayload? 0x80 bytes = some (payload, rest))
    (marked : ∀ b, payload = [b] → ¬ b < 0x80) : readString? bytes = some (payload, rest) := by
  cases bytes with
  | nil => cases read
  | cons first more =>
    have mark_first : ¬ first < 0x80 := by
      intro plain
      have low : first.toNat < 0x80 := UInt8.lt_iff_toNat_lt.1 plain
      rw [readPayload?, if_pos low] at read
      cases read
    rw [readString?, if_neg mark_first, read]
    match payload, marked with
    | [], _ => rfl
    | [b], marked => simp only [if_neg (marked b rfl)]
    | _ :: _ :: _, _ => rfl

/-- **A byte string is read back.** -/
theorem readString?_string (short : payload.length < 2 ^ 64) :
    readString? (string payload ++ rest) = some (payload, rest) := by
  have read : readPayload? 0x80 (mark 0x80 payload.length ++ payload ++ rest) =
      some (payload, rest) := readPayload?_mark (by decide) short
  rcases payload with - | ⟨b, - | ⟨c, more⟩⟩
  next => exact readString?_of_payload read (by simp)
  next =>
    rcases Classical.em (b < 0x80) with plain | marked
    next => rw [string, if_pos plain, List.singleton_append, readString?, if_pos plain]
    next =>
      rw [string, if_neg marked]
      refine readString?_of_payload read fun c same => ?_
      rwa [← (List.cons.inj same).1]
  next => exact readString?_of_payload read (by simp)

/-- **A number is read back.** -/
theorem readNumber?_number {n : Nat} (fits : n < 2 ^ 256) :
    readNumber? (number n ++ rest) = some (n, rest) := by
  have short : (Bytes.minimal n).length ≤ 32 := Bytes.length_minimal_le (by simpa using fits)
  rw [readNumber?, number, readString?_string (by omega)]
  simp [Bytes.head_minimal]

theorem readBits?_number {bits n : Nat} (fits : n < 2 ^ bits) (word : bits ≤ 256) :
    readBits? bits (number n ++ rest) = some (n, rest) := by
  have in_word : n < 2 ^ 256 := Nat.lt_of_lt_of_le fits (Nat.pow_le_pow_right (by decide) word)
  rw [readBits?, readNumber?_number in_word]
  simp [fits]

/-- The items of a list are read back. -/
theorem readList?_list {items : List Bytes} (short : items.flatten.length < 2 ^ 64) :
    readList? (list items ++ rest) = some (items.flatten, rest) :=
  readPayload?_mark (by decide) short

end Rlp
end OrderDesk
