import OrderDesk.Proofs.Evidence
import OrderDesk.Proofs.NonceOrder
import OrderDesk.Proofs.OrderSteps

/-!
# `OrderDesk.Proofs.PartialCalls` — parts of a call that keep orders and counters

Between the few steps that track, send and settle an order, a call only asks, waits and looks. Such a
part leaves the tracked orders and the counters of placements as they are, and its notes are those of
its log. A partial call puts parts and single steps together, from the beginning of a call on.

## Contents
- `Desk.Steady`, `Event.Steady`: no placement is counted, and no nonce is taken back.
- `PartialCall`, `PartialCall.act`, `PartialCall.part`: a call up to some point, with its notes.
-/

namespace OrderDesk

open Attempt

variable {ε α : Type}

/-! ### Parts that keep orders and counters -/

/-- The step counts a placement that was sent or mined. -/
def Effect.tells : Effect → Bool
  | count .submitted | count (.confirmed _) | count (.reverted _) => true
  | _ => false

/-- The counters of placements that were sent and mined are the same. -/
structure Stats.Agrees (s s' : Stats) : Prop where
  submitted : s'.submitted = s.submitted
  confirmed : s'.confirmed = s.confirmed
  reverted : s'.reverted = s.reverted
  gasUsed : s'.gasUsed = s.gasUsed

theorem Stats.Agrees.refl (s : Stats) : s.Agrees s := ⟨rfl, rfl, rfl, rfl⟩

theorem Stats.Agrees.trans {s s' s'' : Stats} (h : s.Agrees s') (h' : s'.Agrees s'') : s.Agrees s'' :=
  ⟨h'.submitted.trans h.submitted, h'.confirmed.trans h.confirmed, h'.reverted.trans h.reverted,
    h'.gasUsed.trans h.gasUsed⟩

/-- The nonce that the wallet gets next without a pending count. -/
def Desk.nextNonce (d : Desk) (wallet : Address) : UInt64 := (d.common.nonces.next? wallet).getD 0

/-- The counters are the same, and the wallet's nonces have not gone back. -/
structure Desk.Steady (wallet : Address) (d d' : Desk) : Prop where
  stats : d.book.stats.Agrees d'.book.stats
  next : d.nextNonce wallet ≤ d'.nextNonce wallet

namespace Desk.Steady

variable {wallet : Address} {d d' d'' : Desk}

theorem refl (d : Desk) : d.Steady wallet d := ⟨.refl _, UInt64.le_refl _⟩

theorem trans (h : d.Steady wallet d') (h' : d'.Steady wallet d'') : d.Steady wallet d'' :=
  ⟨h.stats.trans h'.stats, UInt64.le_trans h.next h'.next⟩

theorem pass (d : Desk) (lapse : Lapse) : d.Steady wallet (d.pass lapse) :=
  ⟨.refl _, UInt64.le_refl _⟩

end Desk.Steady

/-- The wallet's next nonce is behind a nonce that is taken. -/
theorem Nonces.lt_next_of_taken {n after : Nonces} {wallet : Address} {pending : Option UInt64}
    {nonce : UInt64} (h : n.allocate? wallet pending = some (nonce, after)) :
    (n.next? wallet).getD 0 < (after.next? wallet).getD 0 := by
  refine UInt64.lt_of_le_of_lt ?_ (lt_next_of_allocate? h)
  rw [(allocate?_eq_some h).1]
  exact own_le_candidate _ _ _

/-- No step takes a nonce back. -/
theorem Effect.nextNonce_le (e : Effect) (d : Desk) (wallet : Address) :
    d.nextNonce wallet ≤ (e.apply d).2.nextNonce wallet := by
  unfold Desk.nextNonce
  cases wallets : e.concernsWallet with
  | false =>
    rw [Effect.nonces_apply e d wallets]
    exact UInt64.le_refl _
  | true =>
    cases e with
    | allocate other pending =>
      unfold apply
      dsimp only
      split
      · next nonce after taken =>
        by_cases same : other = wallet
        · subst same
          exact UInt64.le_of_lt (Nonces.lt_next_of_taken taken)
        · show _ ≤ (after.next? wallet).getD 0
          rw [(Nonces.allocate?_eq_some taken).2.2, Nonces.next?_put, if_neg same]
          exact UInt64.le_refl _
      · exact UInt64.le_refl _
    | _ => cases wallets

theorem Effect.steady_apply {wallet : Address} {e : Effect} (h : e.tells = false) (d : Desk) :
    d.Steady wallet (e.apply d).2 := by
  refine ⟨?_, e.nextNonce_le d wallet⟩
  cases e with
  | count tally =>
    cases tally with
    | submissionFailed | timedOut => exact ⟨rfl, rfl, rfl, rfl⟩
    | _ => cases h
  | reserve record =>
    simp only [apply, Desk.track]
    split <;> exact .refl _
  | adopt record =>
    simp only [apply, Desk.track]
    split <;> exact .refl _
  | broadcast id hash | resolve id resolution | allocate wallet pending =>
    simp only [apply]
    split <;> exact .refl _
  | _ => exact .refl _

namespace Event

/-- The event changes neither tracked orders nor the counters of placements. -/
def Steady : Event → Prop
  | did e _ => e.changesOrders = false ∧ e.tells = false
  | _ => True

theorem OffLedger.steady {ev : Event} (h : ev.OffLedger) : ev.Steady := by
  cases ev with
  | did e x =>
    cases e with
    | count tally => cases h.2
    | now | stopping | allocate _ _ | freshPrice _ | keepPrice _ => exact ⟨rfl, rfl⟩
    | checkLimiter | recordFailure => exact ⟨rfl, rfl⟩
    | _ => cases h.1
  | _ => trivial

end Event

/-- **A call up to some point**, from `s` to `s'`: the tracked orders are as in the view, and the
counters as they were; so much was noted. -/
structure PartialCall (wallet : Address) (s : Desk × ε × List Note) (view : String → Option OrderRecord)
    (own : List Note) (s' : Desk × ε × List Note) : Prop where
  orders : ∀ id, s'.1.book.registry.get? id = view id
  steady : s.1.Steady wallet s'.1
  notes : s'.2.2 = s.2.2 ++ own

variable {env : Environment ε} {wallet : Address} {s s₁ s' : Desk × ε × List Note}
  {view : String → Option OrderRecord} {own : List Note}

theorem PartialCall.start (wallet : Address) (s : Desk × ε × List Note) :
    PartialCall wallet s s.1.book.registry.get? [] s :=
  ⟨fun _ => rfl, .refl _, (List.append_nil _).symm⟩

/-- A step that tells nothing goes on with the orders that it makes. -/
theorem PartialCall.act (h : PartialCall wallet s view own s₁) {e : Effect} (tells : e.tells = false)
    {view' : String → Option OrderRecord}
    (orders : ∀ id, (e.apply s₁.1).2.book.registry.get? id = view' id) :
    PartialCall wallet s view' own ((e.apply s₁.1).2, s₁.2) :=
  ⟨orders, h.steady.trans (Effect.steady_apply tells _), h.notes⟩

/-- A part that changes neither orders nor counters goes on with the orders as they are. -/
theorem PartialCall.part {p : Attempt α} {Q : Except Fault α → List Event → Prop}
    (h : PartialCall wallet s view own s₁) (env : Environment ε) (steady : p.Only Event.Steady)
    (logs : p.Logs Q) :
    p.Safe env.noted.alone
      (fun r s' => ∃ did, PartialCall wallet s view (own ++ notesOf did) s' ∧ Q r did) s₁ := by
  have kept : p.Safe env.noted.alone
      (fun _ s' => s'.1.book.registry = s₁.1.book.registry ∧ s₁.1.Steady wallet s'.1) s₁ := by
    refine (steady.keeps (I := fun t : Desk × ε × List Note =>
      t.1.book.registry = s₁.1.book.registry ∧ s₁.1.Steady wallet t.1)
      ?_ ⟨rfl, .refl _⟩).mono fun _ _ kept => kept.1
    rintro t ev off ⟨orders, counters⟩
    refine ⟨trivial, fun t' next => ?_⟩
    cases ev with
    | did e x =>
      obtain ⟨-, rfl⟩ := next
      exact ⟨(e.registry_apply t.1 off.1).trans orders, counters.trans (Effect.steady_apply off.2 _)⟩
    | told r x =>
      obtain ⟨-, rfl⟩ := next
      exact ⟨orders, counters.trans (.pass _ _)⟩
    | slept d =>
      obtain rfl := next
      exact ⟨orders, counters.trans (.pass _ _)⟩
    | woke b =>
      obtain ⟨-, rfl⟩ := next
      exact ⟨orders, counters⟩
    | _ =>
      obtain rfl := next
      exact ⟨orders, counters⟩
  refine (safe_both kept logs.noted).mono ?_
  rintro r s' ⟨⟨orders, counters⟩, did, notes, hQ⟩
  refine ⟨did, ⟨fun id => ?_, h.steady.trans counters, ?_⟩, hQ⟩
  · rw [orders]
    exact h.orders id
  · rw [notes, h.notes, List.append_assoc]

end OrderDesk
