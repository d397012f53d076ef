import Mathlib.Algebra.BigOperators.Group.Finset.Basic
import Mathlib.Algebra.GroupWithZero.Nat
import Mathlib.Data.Finset.Card
import Mathlib.Data.List.Nodup
import OrderDesk.Proofs.Evidence

/-!
# `OrderDesk.Proofs.Account` — what was sent and what was seen of it

The counters of a desk are to tell of the placements that were mined. An account is kept beside the
desk for that, from the notes of each call alone: which placements were sent, and which receipts of
them the calls were shown. A desk looks for a receipt again as long as it has not learnt an order's
fate, so one receipt may be seen several times.

## Contents
- `Note.taken?`, `Note.receipt?`: the two kinds of notes that go into an account.
- `Account`, `Account.turn`: the account after one more call.
- `Account.Counted`: the counters tell what was seen as often as it was seen.
- `Account.Tallied`: the counters tell of each mined placement once.
- `Account.Counted.tallied`, `Account.Counted.not_tallied_again`: when the first is the second.
-/

namespace OrderDesk

/-! ### Notes of a call -/

namespace Note

/-- The transaction that the node took. -/
def taken? : Note → Option SignedTx
  | ⟨.send tx, .ok _⟩ => some tx
  | _ => none

/-- The receipt that the node had of a transaction. -/
def receipt? (hash : Hash) : Note → Option Receipt
  | ⟨.receipt other, .ok (some receipt)⟩ => if other = hash then some receipt else none
  | _ => none

theorem taken?_eq_some {note : Note} {tx : SignedTx} :
    note.taken? = some tx ↔ ∃ answer, note = ⟨.send tx, .ok answer⟩ := by
  unfold taken?
  split
  · next tx' answer =>
    constructor
    · rintro ⟨⟩
      exact ⟨answer, rfl⟩
    · rintro ⟨_, ⟨⟩⟩
      rfl
  · next other =>
    refine ⟨nofun, ?_⟩
    rintro ⟨answer, rfl⟩
    exact absurd rfl (other tx answer)

theorem receipt?_eq_some {hash : Hash} {note : Note} {receipt : Receipt} :
    note.receipt? hash = some receipt ↔ note = .ofReceipt hash receipt := by
  unfold receipt? ofReceipt
  split
  · next other found =>
    constructor
    · intro same
      split at same
      · next here =>
        cases here
        cases same
        rfl
      · cases same
    · rintro ⟨⟩
      exact if_pos rfl
  · next other =>
    refine ⟨nofun, ?_⟩
    rintro rfl
    exact absurd rfl (other hash receipt)

end Note

/-- The first transaction that the node took. -/
def taken? (notes : List Note) : Option SignedTx := notes.findSome? Note.taken?

/-- The first receipt of a transaction that was noted. -/
def seen? (hash : Hash) (notes : List Note) : Option Receipt := notes.findSome? (Note.receipt? hash)

section Notes

variable {notes more : List Note} {hash : Hash}

theorem taken?_append : taken? (notes ++ more) = (taken? notes).or (taken? more) :=
  List.findSome?_append

theorem seen?_append : seen? hash (notes ++ more) = (seen? hash notes).or (seen? hash more) :=
  List.findSome?_append

theorem taken?_eq_none : taken? notes = none ↔ ∀ tx answer, ⟨.send tx, .ok answer⟩ ∉ notes := by
  unfold taken?
  rw [List.findSome?_eq_none_iff]
  constructor
  · intro none tx answer mem
    cases none _ mem
  · intro none note mem
    refine Option.eq_none_iff_forall_not_mem.2 fun tx found => ?_
    obtain ⟨answer, rfl⟩ := Note.taken?_eq_some.1 found
    exact none tx answer mem

theorem seen?_eq_none : seen? hash notes = none ↔ ∀ receipt, .ofReceipt hash receipt ∉ notes := by
  unfold seen?
  rw [List.findSome?_eq_none_iff]
  constructor
  · intro none receipt mem
    have found : (Note.ofReceipt hash receipt).receipt? hash = some receipt :=
      Note.receipt?_eq_some.2 rfl
    rw [none _ mem] at found
    cases found
  · intro none note mem
    refine Option.eq_none_iff_forall_not_mem.2 fun receipt found => ?_
    exact none receipt (Note.receipt?_eq_some.1 found ▸ mem)

end Notes

/-- The receipt that ended a wait. -/
def Confirmation.receipt? : Confirmation → Option Receipt
  | confirmed receipt | reverted receipt _ => some receipt
  | timedOut _ _ => none

/-- A wait is shown the receipt that ends it, and no other. -/
theorem Lookups.seen? {hash : Hash} {notes : List Note} {r : Except Fault Confirmation}
    (h : Lookups hash notes r) : seen? hash notes = r.toOption.bind Confirmation.receipt? := by
  have missed {misses : List Note} (h : ∀ note ∈ misses, note.Misses hash) :
      OrderDesk.seen? hash misses = none := by
    refine seen?_eq_none.2 fun receipt mem => ?_
    obtain ⟨answer, none, same⟩ := h _ mem
    cases same
    exact none receipt rfl
  have first (receipt : Receipt) (learnt : List Note) :
      OrderDesk.seen? hash (.ofReceipt hash receipt :: learnt) = some receipt := by
    refine List.findSome?_cons_of_isSome ?_ |>.trans ?_
    · rw [Note.receipt?_eq_some.2 rfl]
      rfl
    · exact Note.receipt?_eq_some.2 rfl
  cases h with
  | confirmed misses success =>
    rw [seen?_append, missed misses, first]
    rfl
  | reverted misses failed explains =>
    rw [seen?_append, missed misses, first]
    rfl
  | timedOut timeout misses => exact missed misses
  | stopped misses => exact missed misses
  | arithmetic => rfl

/-! ### Accounts -/

/-- A placement that was sent; placements are numbered in the order of their sending. -/
structure Sent where
  number : Nat
  id : String
  hash : Hash
deriving DecidableEq

/-- A receipt of a placement that a call was shown. -/
structure Sighting where
  placement : Sent
  receipt : Receipt
deriving DecidableEq

/-- What was sent by the calls of a desk, and what they were shown of it. -/
structure Account where
  /-- All placements, the last one first. -/
  placements : List Sent := []
  sightings : List Sighting := []

namespace Account

/-- The last placement under an identifier. -/
def last? (a : Account) (id : String) : Option Sent := a.placements.find? (·.id == id)

/-- The placement that is sent next. -/
def next (a : Account) (id : String) (hash : Hash) : Sent := ⟨a.placements.length, id, hash⟩

/-- One more placement is sent. -/
def send (a : Account) (id : String) (hash : Hash) : Account :=
  { a with placements := a.next id hash :: a.placements }

/-- A receipt of a placement is seen, if there is one. -/
def see (a : Account) (p : Sent) : Option Receipt → Account
  | some receipt => { a with sightings := a.sightings ++ [⟨p, receipt⟩] }
  | none => a

/-- The account after a call that left these notes. A placement counts as sent if the node took its
transaction; placing and confirming look for the receipt, cancelling is no business of the counters. -/
def turn (a : Account) : Operation → List Note → Account
  | .place id _, notes =>
    match taken? notes with
    | some tx => (a.send id tx.hash).see (a.next id tx.hash) (seen? tx.hash notes)
    | none => a
  | .confirm id, notes =>
    match a.last? id with
    | some p => a.see p (seen? p.hash notes)
    | none => a
  | .cancel _, _ | .adopt .., _ => a

/-- The placements of which a receipt was seen that tells of success, or one that tells of failure. -/
def mined (a : Account) (success : Bool) : Finset Sent :=
  ((a.sightings.filter (·.receipt.success == success)).map (·.placement)).toFinset

/-- The gas that is told by all sightings. -/
def gas (a : Account) : Nat := (a.sightings.map (·.receipt.gasUsed.toNat)).sum

/-- **The counters tell of each mined placement once.** -/
structure Tallied (a : Account) (stats : Stats) : Prop where
  confirmed : stats.confirmed.toNat = (a.mined true).card
  reverted : stats.reverted.toNat = (a.mined false).card
  gasUsed : stats.gasUsed.toNat = ∑ t ∈ a.sightings.toFinset, t.receipt.gasUsed.toNat
  within : stats.confirmed.toNat + stats.reverted.toNat ≤ stats.submitted.toNat

/-- **The counters tell of each sighting**, of one receipt as often as it was seen. -/
structure Counted (a : Account) (stats : Stats) : Prop where
  submitted : stats.submitted = .ofNat a.placements.length
  confirmed : stats.confirmed = .ofNat (a.sightings.countP (·.receipt.success))
  reverted : stats.reverted = .ofNat (a.sightings.countP (!·.receipt.success))
  gasUsed : stats.gasUsed = .ofNat a.gas

variable {a : Account} {stats : Stats} {id : String} {hash : Hash} {p : Sent} {receipt : Receipt}

/-- With nothing in its notes a call adds nothing. -/
theorem turn_of_quiet {notes : List Note} (untaken : taken? notes = none)
    (unseen : ∀ hash, seen? hash notes = none) (op : Operation) : a.turn op notes = a := by
  cases op with
  | place id order =>
    unfold turn
    dsimp only
    rw [untaken]
  | confirm id =>
    unfold turn
    dsimp only
    split
    · rw [unseen]
      rfl
    · rfl
  | cancel id => rfl
  | adopt id pair side hash orderId => rfl

/-- One call shows one receipt at most. -/
theorem turn_sightings_le (a : Account) (op : Operation) (notes : List Note) :
    (a.turn op notes).sightings.length ≤ a.sightings.length + 1 := by
  have see (b : Account) (p : Sent) (r : Option Receipt) (same : b.sightings = a.sightings) :
      (b.see p r).sightings.length ≤ a.sightings.length + 1 := by
    cases r <;> simp [Account.see, same]
  cases op with
  | place id order =>
    unfold turn
    dsimp only
    split
    · exact see _ _ _ rfl
    · exact Nat.le_succ _
  | confirm id =>
    unfold turn
    dsimp only
    split
    · exact see _ _ _ rfl
    · exact Nat.le_succ _
  | cancel | adopt => exact Nat.le_succ _

theorem last?_send (other : String) :
    (a.send id hash).last? other = if id = other then some (a.next id hash) else a.last? other := by
  unfold last? send next
  by_cases same : id = other
  · rw [if_pos same, List.find?_cons_of_pos (by simpa using same)]
  · rw [if_neg same, List.find?_cons_of_neg (by simpa using same)]

@[simp] theorem last?_send_self : (a.send id hash).last? id = some (a.next id hash) :=
  (last?_send id).trans (if_pos rfl)

theorem mem_of_last? (h : a.last? id = some p) : p ∈ a.placements := List.mem_of_find?_eq_some h

theorem id_of_last? (h : a.last? id = some p) : p.id = id := by
  simpa using List.find?_some h

/-! #### Counting -/

/-- One more placement. -/
theorem Counted.send (h : a.Counted stats) : (a.send id hash).Counted (stats.add .submitted) where
  submitted := by
    show stats.submitted + 1 = .ofNat (a.placements.length + 1)
    rw [h.submitted, UInt64.ofNat_add]
    rfl
  confirmed := h.confirmed
  reverted := h.reverted
  gasUsed := h.gasUsed

theorem gas_see : (a.see p (some receipt)).gas = a.gas + receipt.gasUsed.toNat := by
  simp [gas, see]

/-- A success is one more, and its gas is added. -/
theorem Counted.confirm (h : a.Counted stats) (success : receipt.success = true) :
    (a.see p (some receipt)).Counted (stats.add (.confirmed receipt.gasUsed)) where
  submitted := h.submitted
  confirmed := by
    show stats.confirmed + 1 = _
    rw [h.confirmed]
    simp [see, success, UInt64.ofNat_add]
  reverted := by
    show stats.reverted = _
    rw [h.reverted]
    simp [see, success]
  gasUsed := by
    show stats.gasUsed + receipt.gasUsed = _
    rw [gas_see, h.gasUsed, UInt64.ofNat_add, UInt64.ofNat_toNat]

/-- A failure is one more, and its gas is added. -/
theorem Counted.revert (h : a.Counted stats) (failed : receipt.success = false) :
    (a.see p (some receipt)).Counted (stats.add (.reverted receipt.gasUsed)) where
  submitted := h.submitted
  confirmed := by
    show stats.confirmed = _
    rw [h.confirmed]
    simp [see, failed]
  reverted := by
    show stats.reverted + 1 = _
    rw [h.reverted]
    simp [see, failed, UInt64.ofNat_add]
  gasUsed := by
    show stats.gasUsed + receipt.gasUsed = _
    rw [gas_see, h.gasUsed, UInt64.ofNat_add, UInt64.ofNat_toNat]

/-! #### Once or again -/

/-- Of sightings of different placements, each placement has one. -/
theorem card_mined (once : (a.sightings.map (·.placement)).Nodup) (success : Bool) :
    (a.mined success).card = a.sightings.countP (·.receipt.success == success) := by
  have part : ((a.sightings.filter (·.receipt.success == success)).map (·.placement)).Nodup :=
    once.sublist (List.filter_sublist.map _)
  unfold mined
  rw [List.toFinset_card_of_nodup part, List.length_map, List.countP_eq_length_filter]

/-- Their gas is that of all sightings. -/
theorem sum_gas (once : (a.sightings.map (·.placement)).Nodup) :
    ∑ t ∈ a.sightings.toFinset, t.receipt.gasUsed.toNat = a.gas :=
  List.sum_toFinset _ (List.Nodup.of_map _ once)

/-- Placements that were each seen once are no more than were sent. -/
theorem sightings_le (once : (a.sightings.map (·.placement)).Nodup)
    (sent : ∀ t ∈ a.sightings, t.placement ∈ a.placements) :
    a.sightings.length ≤ a.placements.length := by
  have within : a.sightings.map (·.placement) ⊆ a.placements := by
    intro p mem
    obtain ⟨t, here, rfl⟩ := List.mem_map.1 mem
    exact sent t here
  simpa using (once.subperm within).length_le

/-- One receipt is not seen again, and its gas fits. -/
theorem once_of_length_le {a : Account} (h : a.sightings.length ≤ 1) :
    (a.sightings.map (·.placement)).Nodup ∧ a.gas < UInt64.size := by
  unfold gas
  match a.sightings, h with
  | [], _ => exact ⟨List.nodup_nil, by decide⟩
  | [t], _ =>
    refine ⟨List.nodup_singleton _, ?_⟩
    simpa using t.receipt.gasUsed.toNat_lt

/-- **Seen once, told once.** -/
theorem Counted.tallied (h : a.Counted stats) (once : (a.sightings.map (·.placement)).Nodup)
    (sent : ∀ t ∈ a.sightings, t.placement ∈ a.placements)
    (room : a.placements.length < UInt64.size) (fits : a.gas < UInt64.size) : a.Tallied stats := by
  have le := sightings_le once sent
  have split := List.length_eq_countP_add_countP (·.receipt.success) (l := a.sightings)
  have confirmed : stats.confirmed.toNat = a.sightings.countP (·.receipt.success) := by
    rw [h.confirmed, UInt64.toNat_ofNat_of_lt' (by omega)]
  have reverted : stats.reverted.toNat = a.sightings.countP (!·.receipt.success) := by
    have other : a.sightings.countP (!·.receipt.success) ≤ a.sightings.length := List.countP_le_length
    rw [h.reverted, UInt64.toNat_ofNat_of_lt' (by omega)]
  refine ⟨?_, ?_, ?_, ?_⟩
  · rw [confirmed, card_mined once]
    simp
  · rw [reverted, card_mined once]
    simp
  · rw [sum_gas once, h.gasUsed, UInt64.toNat_ofNat_of_lt' fits]
  · rw [confirmed, reverted, h.submitted, UInt64.toNat_ofNat_of_lt' room]
    simp only [Bool.not_eq_true, Bool.decide_eq_false] at split
    omega

/-- **Seen again, not told once.** When a success is seen that was seen before, the counters change and
what they should tell does not. -/
theorem Counted.not_tallied_again {stats' : Stats} (h : a.Counted stats)
    (h' : (a.see p (some receipt)).Counted stats') (before : ⟨p, receipt⟩ ∈ a.sightings)
    (success : receipt.success = true) (tallied : a.Tallied stats) :
    ¬ (a.see p (some receipt)).Tallied stats' := by
  intro again
  have same : (a.see p (some receipt)).mined true = a.mined true := by
    have present : p ∈ (a.sightings.filter (·.receipt.success == true)).map (·.placement) := by
      refine List.mem_map.2 ⟨⟨p, receipt⟩, List.mem_filter.2 ⟨before, ?_⟩, rfl⟩
      simpa using success
    unfold mined see
    rw [List.filter_append, List.map_append, List.toFinset_append, List.filter_cons_of_pos (by
      simpa using success), List.filter_nil, Finset.union_eq_left]
    intro q mem
    obtain rfl : q = p := by simpa using mem
    exact List.mem_toFinset.2 present
  have counts : stats'.confirmed = stats.confirmed + 1 := by
    rw [h'.confirmed, h.confirmed]
    simp [see, success, UInt64.ofNat_add]
  have equal : stats'.confirmed = stats.confirmed := by
    rw [← UInt64.toNat_inj, again.confirmed, tallied.confirmed, same]
  rw [counts] at equal
  have := congrArg UInt64.toNat equal
  rw [UInt64.toNat_add] at this
  have one : (1 : UInt64).toNat = 1 := rfl
  have bound := stats.confirmed.toNat_lt
  omega

end Account
end OrderDesk
