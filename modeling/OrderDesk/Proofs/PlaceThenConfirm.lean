import OrderDesk.Proofs.FailedPlacement
import OrderDesk.Proofs.Justified

/-!
# `OrderDesk.Proofs.PlaceThenConfirm` — confirming under the lock or after it

A desk may wait for the receipt of a placement before it gives the wallet's lock back, or leave that
to a later confirmation. For a desk that is used by one caller both come to the same: the same
questions to the node, the same transaction, the same orders and counters, the same outcome.

## Contents
- `Connector.confirming`: the same desk with the setting given.
- `Connector.sendPlacement`: what a placement does until it is sent; `sendPlacement_awaited`.
- `Connector.awaitOutcome`: what is done about an order that waits; `confirm_of_awaited`.
- `Connector.place_together`: placing with the confirmation in it, and placing and confirming.
-/

namespace OrderDesk

open Attempt

variable {ε α : Type}

namespace Connector

/-- The same desk, which keeps the wallet's lock for confirmations or not. -/
def confirming (c : Connector) (inLock : Bool) : Connector := { c with confirmInLock := inLock }

/-- What a placement does until it is sent, with or without the wait for its receipt. -/
def sendPlacement (c : Connector) (id : String) (order : OrderRequest) : Attempt OrderHandle := do
  let (base, quote, placement) ← c.prepare id order
  let created ← Attempt.now
  let reserved ← Attempt.act (.reserve
    { id, pair := order.pair, base := base.address, quote := quote.address, side := order.side,
      created })
  Attempt.ofExcept reserved
  let spent := if order.side.isBid then quote else base
  orRelease id (c.funds.check c.sender.wallet spent placement.spend c.calls.exchange)
  let submitted ← c.broadcast id placement
  pure { id, hash := submitted.hash, nonce := submitted.request.nonce,
         entryPoint := placement.entryPoint }

/-- Waits for a placement and settles its order. -/
def awaitOutcome (c : Connector) (id : String) (hash : Hash) : Attempt ConfirmOutcome := do
  let confirmation ← c.sender.poll.confirm hash
  c.settle id confirmation

variable (c : Connector) {env : Environment ε} {s : Desk × ε × List Note} {id : String}
  {hash : Hash}

/-! ### The placement -/

/-- A check that leaves the books alone leaves the reservation it was made under. -/
theorem orRelease_same {body : Attempt α} (offBooks : body.Only Event.OffBooks) :
    (orRelease id body).Safe env.noted.alone (fun r s' => ∀ a, r = .ok a → s.1.Same s'.1) s := by
  unfold orRelease
  rw [safe_bind, safe_outcome]
  refine offBooks.alone_same.mono fun r s' same => ?_
  cases r with
  | ok a => exact fun _ _ => same
  | error fault =>
    show Safe _ _ (act (.release id) >>= fun _ => throw fault) s'
    exact alone_act_bind.2 fun a same => nomatch same

/-- **A placement that is sent is tracked under its transaction**, and nothing is known of it yet. -/
theorem sendPlacement_awaited (order : OrderRequest) :
    (c.sendPlacement id order).Safe env.noted.alone
      (fun r s' => ∀ handle, r = .ok handle → handle.outcome = none ∧ Awaited id handle.hash s') s := by
  have failed {fault : Fault} {s' : Desk × ε × List Note} : ∀ handle,
      (.error fault : Except Fault OrderHandle) = .ok handle →
        handle.outcome = none ∧ Awaited id handle.hash s' := fun _ same => nomatch same
  unfold sendPlacement
  refine Safe.bind (prepare_looks c id order) ?_ fun _ _ _ => failed
  rintro ⟨base, quote, placement⟩ _ ⟨rfl, -, free⟩
  replace free := free _ rfl
  refine alone_act_bind.2 ?_
  -- From here on it only matters that the record is new and pending.
  generalize hrecord : OrderRecord.mk id order.pair base.address quote.address order.side
    Hash.zero .pendingSubmit _ = record
  obtain rfl : record.id = id := by rw [← hrecord]
  have pending : record.state = .pendingSubmit := by rw [← hrecord]; rfl
  have looked : Made s.1 s.1.book.registry s.1.common.nonces s.1.book.stats
      (s.1.withLimiter (s.1.common.limiter.expire s.1.common.now)) :=
    ⟨rfl, rfl, rfl, rfl, Nat.le_refl _⟩
  refine Safe.bind (reserve_made looked free) ?_ fun _ _ h => nomatch h.1
  rintro _ s₁ ⟨⟨⟩, reserved, -⟩
  have offBooks := (check_aside c.funds c.sender.wallet (if order.side.isBid then quote else base)
    placement.spend c.calls.exchange).mono fun _ hev => hev.offBooks
  show Safe _ _ (orRelease record.id _ >>= _) _
  refine Safe.bind (orRelease_same offBooks) ?_ fun _ _ _ => failed
  intro _ s₂ same
  refine Safe.bind (broadcast_made c placement pending (reserved.same (same () rfl))) ?_
    fun _ _ _ => failed
  rintro submitted s₃ ⟨tracked, after, -, entries, made⟩ handle ⟨⟩
  refine ⟨rfl, record.broadcast submitted.hash, ?_, rfl, rfl⟩
  rw [made.registry]
  exact Registry.get?_of_mem (entries ▸ List.mem_append_right _ (List.mem_singleton_self _))

/-- Without the wait, a placement is what it does until it is sent. -/
theorem place_unconfirmed (order : OrderRequest) :
    ((c.confirming false).place id order).runAlone env.noted s =
      (c.sendPlacement id order).runAlone env.noted s := by
  unfold place sendPlacement
  refine runAlone_bind_congr fun ⟨base, quote, placement⟩ s _ => ?_
  refine runAlone_bind_congr fun created s _ => ?_
  refine runAlone_bind_congr fun reserved s _ => ?_
  refine runAlone_bind_congr fun _ s _ => ?_
  refine runAlone_bind_congr fun _ s _ => ?_
  rcases sent : (c.broadcast id placement).runAlone env.noted s with ⟨fault | submitted, s'⟩
  · rw [runAlone_error sent]
    exact runAlone_error ((runAlone_locked _ _).trans (runAlone_error sent))
  · rw [runAlone_ok sent]
    refine runAlone_ok (a := (submitted, none)) ((runAlone_locked _ _).trans ?_)
    exact runAlone_ok sent

/-- With the wait, a placement is what it does until it is sent, and then the wait. -/
theorem place_confirmed (order : OrderRequest) :
    ((c.confirming true).place id order).runAlone env.noted s =
      (do
        let handle ← c.sendPlacement id order
        let outcome ← c.awaitOutcome id handle.hash
        pure { handle with outcome := some outcome } : Attempt OrderHandle).runAlone env.noted s := by
  unfold place sendPlacement
  simp only [bind_assoc]
  refine runAlone_bind_congr fun ⟨base, quote, placement⟩ s _ => ?_
  simp only [pure_bind]
  refine runAlone_bind_congr fun created s _ => ?_
  refine runAlone_bind_congr fun reserved s _ => ?_
  refine runAlone_bind_congr fun _ s _ => ?_
  refine runAlone_bind_congr fun _ s _ => ?_
  rcases sent : (c.broadcast id placement).runAlone env.noted s with ⟨fault | submitted, s'⟩
  · rw [runAlone_error sent]
    exact runAlone_error ((runAlone_locked _ _).trans (runAlone_error sent))
  · rw [runAlone_ok sent]
    rcases waited : (c.sender.poll.confirm submitted.hash).runAlone env.noted s' with ⟨result, s''⟩
    have underLock : ((locked c.sender.wallet do
        let submitted ← c.broadcast id placement
        let result ← outcome (c.sender.poll.confirm submitted.hash)
        pure (submitted, some result)) : Attempt _).runAlone env.noted s =
          (.ok (submitted, some result), s'') := by
      rw [runAlone_locked, runAlone_ok sent, runAlone_outcome, waited]
      rfl
    refine (runAlone_ok underLock).trans ?_
    unfold awaitOutcome
    rw [bind_assoc]
    cases result with
    | error fault =>
      rw [runAlone_error waited]
      rfl
    | ok confirmation =>
      rw [runAlone_ok waited]
      rfl

/-! ### The confirmation -/

/-- An order whose placement was sent is found, and nothing is changed. -/
theorem sentOrder_of_present {env : Environment ε} {s : Desk × ε} {r : OrderRecord}
    (present : s.1.book.registry.get? id = some r) (sent : r.state ≠ .pendingSubmit) :
    (sentOrder id).runAlone env s = (.ok r, s) := by
  refine runAlone_eq ?_
  unfold sentOrder Attempt.order
  refine alone_act_bind.2 ?_
  have read : ((Effect.order id).apply s.1).1 = some r := present
  rw [read]
  show Safe _ _ (if r.state = .pendingSubmit then _ else _) s
  rw [if_neg sent]
  rfl

/-- A record that waits is confirmed by the wait for its placement. -/
theorem confirm_of_waiting {env : Environment ε} {s : Desk × ε} {id : String} {r : OrderRecord}
    (present : s.1.book.registry.get? id = some r) (waits : r.status = .awaitingConfirmation) :
    (c.confirm id).runAlone env s = (c.awaitOutcome id r.hash).runAlone env s := by
  have sent : r.state ≠ .pendingSubmit := by
    unfold OrderRecord.state
    rw [waits]
    nofun
  have unsettled : r.outcome? = none := by
    unfold OrderRecord.outcome?
    rw [waits]
  unfold confirm
  rw [runAlone_ok (sentOrder_of_present present sent), unsettled]
  rfl

/-- An order that waits is confirmed so. -/
theorem confirm_of_awaited (awaited : Awaited id hash s) :
    (c.confirm id).runAlone env.noted s = (c.awaitOutcome id hash).runAlone env.noted s := by
  obtain ⟨r, present, rfl, waits⟩ := awaited
  exact c.confirm_of_waiting present waits

/-- A wait that ends with an error was stopped, and the order still waits. -/
theorem awaitOutcome_stopped (awaited : Awaited id hash s) :
    (c.awaitOutcome id hash).Safe env.noted.alone
      (Verdict (fun _ _ => True) fun e s' => e = .shutdown hash ∧ Awaited id hash s') s := by
  unfold awaitOutcome
  refine Safe.bind (confirm_kept c.sender.poll hash) ?_ ?_
  · intro confirmation s' _
    exact Verdict.mono (settle_verdict c id confirmation) (fun _ _ _ => trivial) nofun
  · rintro fault s' ⟨⟨kept, -⟩, stopped⟩
    cases fault with
    | breakdown b => trivial
    | error e => exact ⟨stopped, awaited.kept kept⟩

/-- **Placing with the confirmation under the lock is placing and then confirming.** What fails
before the placement is sent fails alike, with the same questions asked and the same desk left.
A placement that is sent leaves its order waiting; confirming it then comes to the outcome that the
other desk has put into its handle, with the same questions asked and the same desk left. The only
error of either is that it was told to stop, and the order then still waits. -/
theorem place_together (env : Environment ε) (s : Desk × ε × List Note) (id : String)
    (order : OrderRequest) :
    let together := ((c.confirming true).place id order).runAlone env.noted s
    let first := ((c.confirming false).place id order).runAlone env.noted s
    (∀ fault, first.1 = .error fault → together = (.error fault, first.2)) ∧
      ∀ handle, first.1 = .ok handle →
        let second := ((c.confirming false).confirm id).runAlone env.noted first.2
        handle.outcome = none ∧ Awaited id handle.hash first.2 ∧
        together = (second.1.map fun outcome => { handle with outcome := some outcome }, second.2) ∧
        ∀ e, second.1 = .error (.error e) →
          e = .shutdown handle.hash ∧ Awaited id handle.hash second.2 := by
  intro together first
  have split : together = _ := c.place_confirmed order
  have sent : first = _ := c.place_unconfirmed order
  rcases run : (c.sendPlacement id order).runAlone env.noted s with ⟨result, between⟩
  rw [sent, run]
  cases result with
  | error fault =>
    refine ⟨?_, nofun⟩
    rintro _ ⟨⟩
    rw [split, runAlone_error run]
  | ok handle =>
    refine ⟨nofun, ?_⟩
    rintro _ ⟨⟩
    obtain ⟨unset, awaited⟩ : handle.outcome = none ∧ Awaited id handle.hash between := by
      have tracked : (c.sendPlacement id order).Safe env.noted.alone _ s :=
        c.sendPlacement_awaited order
      rw [safe_alone, run] at tracked
      exact tracked handle rfl
    have second : ((c.confirming false).confirm id).runAlone env.noted between =
        (c.awaitOutcome id handle.hash).runAlone env.noted between :=
      (c.confirming false).confirm_of_awaited awaited
    refine ⟨unset, awaited, ?_, fun e stopped => ?_⟩
    · rw [split, runAlone_ok run, second]
      rcases waited : (c.awaitOutcome id handle.hash).runAlone env.noted between with
        ⟨fault | outcome, after⟩
      · exact runAlone_error waited
      · exact runAlone_ok waited
    · have ended : (c.awaitOutcome id handle.hash).Safe env.noted.alone _ between :=
        c.awaitOutcome_stopped awaited
      rw [second] at stopped ⊢
      rw [safe_alone, stopped] at ended
      exact ended

end Connector
end OrderDesk
