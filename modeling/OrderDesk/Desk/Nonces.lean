import OrderDesk.Address

/-!
# `OrderDesk.Desk.Nonces` — the next nonce of every wallet

A wallet's next nonce is the greater of the node's pending count and the one after the last given
out, so nonces of a wallet only grow.

## Contents
- `Nonces.next?`: the view of a wallet's sequence.
- `Nonces.allocate?`, with what it does to `next?`: the wallet's own sequence goes on behind the
  nonce given out, other wallets' stay.
- The nonce given out is behind neither the wallet's sequence nor the pending count.
-/

namespace OrderDesk

/-- The next nonce of every wallet that has had one. -/
structure Nonces where
  entries : List (Address × UInt64) := []
deriving DecidableEq, Repr, Inhabited

namespace Nonces

/-- The nonce after the last one given to a wallet. -/
def next? (n : Nonces) (wallet : Address) : Option UInt64 :=
  (n.entries.find? (·.1 == wallet)).map (·.2)

/-- Sets the next nonce of a wallet. -/
def put (n : Nonces) (wallet : Address) (next : UInt64) : Nonces :=
  ⟨(wallet, next) :: n.entries.filter (·.1 != wallet)⟩

/-- Only the one wallet's next nonce is set. -/
theorem next?_put (n : Nonces) (wallet : Address) (next : UInt64) (other : Address) :
    (n.put wallet next).next? other = if wallet = other then some next else n.next? other := by
  simp only [next?, put, List.find?_cons, List.find?_filter]
  by_cases h : wallet = other
  · simp [h]
  · have hne : (wallet == other) = false := by simpa using h
    simp only [hne, h, if_false]
    congr 2
    funext entry
    by_cases he : entry.1 = other
    · simp [he, Ne.symm h]
    · simp [he]

/-- The nonce that a wallet gets next; without a pending count its own sequence goes on, from zero at
first. -/
def candidate (n : Nonces) (wallet : Address) (pending : Option UInt64) : UInt64 :=
  let own := (n.next? wallet).getD 0
  match pending with
  | some count => max count own
  | none => own

/-- Gives out a nonce. The last of all nonces is never given, since none could follow it. -/
def allocate? (n : Nonces) (wallet : Address) (pending : Option UInt64) :
    Option (UInt64 × Nonces) :=
  let nonce := n.candidate wallet pending
  if nonce.toNat + 1 < UInt64.size then some (nonce, n.put wallet (nonce + 1)) else none

/-- A nonce given out is the candidate, and the wallet's sequence goes on behind it. -/
theorem allocate?_eq_some {n after : Nonces} {wallet : Address} {pending : Option UInt64}
    {nonce : UInt64} (h : n.allocate? wallet pending = some (nonce, after)) :
    nonce = n.candidate wallet pending ∧ nonce.toNat + 1 < UInt64.size ∧
      after = n.put wallet (nonce + 1) := by
  simp only [allocate?] at h
  split at h
  · next room =>
    obtain ⟨rfl, rfl⟩ := Prod.mk.injEq .. ▸ Option.some.inj h
    exact ⟨rfl, room, rfl⟩
  · cases h

/-- The candidate is no less than the wallet's own sequence. -/
theorem own_le_candidate (n : Nonces) (wallet : Address) (pending : Option UInt64) :
    (n.next? wallet).getD 0 ≤ n.candidate wallet pending := by
  unfold candidate
  cases pending with
  | none => exact UInt64.le_refl _
  | some count =>
    show _ ≤ max count _
    rw [UInt64.le_iff_toNat_le]
    simp only [max]
    split
    · exact Nat.le_refl _
    · next h =>
      rw [UInt64.le_iff_toNat_le] at h
      omega

/-- The candidate is no less than the pending count. -/
theorem pending_le_candidate (n : Nonces) (wallet : Address) (count : UInt64) :
    count ≤ n.candidate wallet (some count) := by
  show count ≤ max count _
  simp only [max]
  split
  · assumption
  · exact UInt64.le_refl _

/-- The wallet's sequence goes on behind a nonce given out. -/
theorem lt_next_of_allocate? {n after : Nonces} {wallet : Address} {pending : Option UInt64}
    {nonce : UInt64} (h : n.allocate? wallet pending = some (nonce, after)) :
    nonce < (after.next? wallet).getD 0 := by
  obtain ⟨-, room, rfl⟩ := allocate?_eq_some h
  rw [next?_put, if_pos rfl]
  show nonce < nonce + 1
  have size : UInt64.size = 2 ^ 64 := rfl
  have one : (1 : UInt64).toNat = 1 := rfl
  rw [UInt64.lt_iff_toNat_lt, UInt64.toNat_add]
  omega

end Nonces
end OrderDesk
