import OrderDesk.Proofs.Parts

/-!
# `OrderDesk.Proofs.Returning` — operations that leave a watch where they found it

Outside the sections under the wallet's lock a call leaves the wallet alone. A watch that passes over
what leaves the wallet alone, and is after each such section where it was before, is therefore after
the whole call where it was before.

## Contents
- `Watch.RestsAt`, and `Attempt.Returns` with the rules for building operations.
- `orRelease_either`, `countRefusal_either`: failures that leave the watch at rest.
- `Connector.handOver`: what a placement does under the lock.
- `Connector.place_returns`, `Connector.cancel_returns`: calls, from their sections under the lock.
-/

namespace OrderDesk

variable {S α β : Type} {w : Watch S} {base : S}

/-- The watch passes over all that leaves the wallet alone. -/
def Watch.RestsAt (w : Watch S) (base : S) : Prop := ∀ ev : Event, ev.OffWallet → w.Ignores base ev

namespace Attempt

/-- However the operation goes, the watch is in the end where it was. -/
def Returns (w : Watch S) (base : S) (p : Attempt α) : Prop := p.Safe w (fun _ s => s = base) base

theorem Only.returns {p : Attempt α} (h : p.Only Event.OffWallet) (rests : w.RestsAt base) :
    p.Returns w base :=
  h.safe rests fun _ => rfl

theorem returns_pure (a : α) : (pure a : Attempt α).Returns w base := rfl

theorem returns_fail (e : DeskError) : (fail e : Attempt α).Returns w base := rfl

theorem returns_breakdown (b : Breakdown) : (breakdown b : Attempt α).Returns w base := rfl

variable {p : Attempt α}

theorem Returns.bind {f : α → Attempt β} (hp : p.Returns w base) (hf : ∀ a, (f a).Returns w base) :
    (p >>= f).Returns w base := by
  refine Safe.bind hp ?_ fun _ _ h => h
  rintro a _ rfl
  exact hf a

/-- A failure that is caught leaves the watch where it was, too. -/
theorem Returns.caught {f : Except Fault α → Attempt β} (hp : p.Returns w base)
    (hf : ∀ r, (f r).Returns w base) : (outcome p >>= f).Returns w base := by
  unfold Returns
  rw [safe_bind, safe_outcome]
  refine hp.mono ?_
  rintro r _ rfl
  exact hf r

/-- After a part that leaves the wallet alone, an operation goes on where it was. -/
theorem Only.returns_bind {f : α → Attempt β} (h : p.Only Event.OffWallet) (rests : w.RestsAt base)
    (hf : ∀ a, (f a).Returns w base) : (p >>= f).Returns w base :=
  (h.returns rests).bind hf

end Attempt

open Attempt

/-! ### Cancellations -/

namespace CancelDesk

variable {c : CancelDesk}

theorem execute_returns {call : Call} (sent : (c.sender.execute call).Returns w base) :
    (c.execute call).Returns w base := by
  unfold CancelDesk.execute
  refine sent.bind ?_
  rintro ⟨submitted, confirmation⟩
  cases confirmation with
  | confirmed receipt => exact returns_pure _
  | reverted receipt reason => exact returns_fail _
  | timedOut hash timeout => exact returns_fail _

variable (rests : w.RestsAt base) (sent : ∀ call, (c.sender.execute call).Returns w base)
include rests sent

theorem tryChannel_returns (target : CancelTarget) (channel : CancelChannel) :
    (c.tryChannel target channel).Returns w base := by
  have sending (call : Except DeskError Call) : (ofExcept call >>= c.execute).Returns w base :=
    (only_ofExcept _).returns_bind rests fun call => execute_returns (sent call)
  cases channel with
  | batch => exact sending _
  | direct probe =>
    cases probe with
    | true =>
      have looked : ((· == some false) <$> c.onBook? target : Attempt Bool).Only Event.OffWallet :=
        Only.bind ((onBook_aside c target).mono fun _ h => h.offWallet) fun _ => only_pure _
      refine looked.returns_bind rests fun gone => ?_
      cases gone with
      | true => exact returns_pure _
      | false => exact sending _
    | false => exact sending _
  | other name channel =>
    have asked := ask_aside (r := .cancelVerdict channel target) rfl rfl
    exact (asked.mono fun _ h => h.offWallet).returns rests

theorem tryChannels_returns (target : CancelTarget) (channels : List CancelChannel) :
    (c.tryChannels target channels).Returns w base := by
  induction channels with
  | nil => exact returns_pure _
  | cons channel rest ih =>
    unfold CancelDesk.tryChannels
    refine (tryChannel_returns rests sent target channel).caught fun result => ?_
    split
    · exact returns_pure _
    · exact returns_pure _
    · exact returns_breakdown _
    · split
      · exact returns_fail _
      · exact ih

theorem route_returns (record : OrderRecord) : (c.route record).Returns w base := by
  unfold CancelDesk.route
  split
  · exact returns_pure _
  · split
    · exact returns_pure _
    · exact tryChannels_returns rests sent _ _
    · refine (resolvePlacement_only (confirm_offWallet _ _)).returns_bind rests fun result => ?_
      cases result with
      | ok id => exact tryChannels_returns rests sent _ _
      | error reason => exact returns_pure _

end CancelDesk

namespace Connector

/-- What a placement does under the wallet's lock. -/
def handOver (c : Connector) (id : String) (placement : Placement) :
    Attempt (Submitted × Option (Except Fault Confirmation)) := do
  let submitted ← c.broadcast id placement
  if c.confirmInLock then
    let result ← Attempt.outcome (c.sender.poll.confirm submitted.hash)
    pure (submitted, some result)
  else pure (submitted, none)

variable {c : Connector} (rests : w.RestsAt base)
include rests

/-- A failure that leaves the watch at rest still does when a reservation is given up for it. -/
theorem orRelease_either {id : String} {body : Attempt α} {P : α → S → Prop} {s : S}
    (h : body.Safe w (Either P (· = base)) s) :
    (orRelease id body).Safe w (Either P (· = base)) s := by
  unfold orRelease
  rw [safe_bind, safe_outcome]
  refine h.mono fun result s' ended => ?_
  cases result with
  | ok a => exact ended
  | error fault =>
    obtain rfl : s' = base := ended
    show Safe _ _ (act (.release id) >>= fun _ => throw fault) s'
    have released : (act (.release id)).Only Event.OffWallet := only_act.2 fun _ => rfl
    exact released.followed rests (fun _ => rfl) fun _ => rfl

/-- And when it is counted. -/
theorem countRefusal_either {body : Attempt α} {P : α → S → Prop} {s : S}
    (h : body.Safe w (Either P (· = base)) s) : (countRefusal body).Safe w (Either P (· = base)) s := by
  unfold countRefusal
  rw [safe_bind, safe_outcome]
  refine h.mono fun result s' ended => ?_
  cases result with
  | ok a => exact ended
  | error fault =>
    obtain rfl : s' = base := ended
    cases fault with
    | breakdown b => exact rfl
    | error e =>
      have counted : (act (.count .submissionFailed)).Only Event.OffWallet := only_act.2 fun _ => rfl
      have recorded : (act .recordFailure).Only Event.OffWallet := only_act.2 fun _ => rfl
      refine counted.followed rests (fun _ => rfl) fun _ => ?_
      exact recorded.followed rests (fun _ => rfl) fun _ => rfl

theorem cancel_returns (sent : ∀ call, (c.sender.execute call).Returns w base) (id : String) :
    (c.cancel id).Returns w base := by
  unfold Connector.cancel
  refine (sentOrder_offWallet id).returns_bind rests fun record => ?_
  refine (CancelDesk.route_returns (c := c.cancelDesk) rests sent record).bind fun outcome => ?_
  exact (only_act.2 fun _ => rfl).returns_bind rests fun _ => returns_pure _

theorem place_returns {id : String}
    (sent : ∀ placement, (locked c.sender.wallet (c.handOver id placement)).Returns w base)
    (order : OrderRequest) : (c.place id order).Returns w base := by
  unfold Connector.place
  refine (c.prepare_offWallet id order).returns_bind rests ?_
  rintro ⟨base, quote, placement⟩
  refine (only_act.2 fun _ => rfl).returns_bind rests fun created => ?_
  refine (only_act.2 fun _ => rfl).returns_bind rests fun reserved => ?_
  refine (only_ofExcept _).returns_bind rests fun _ => ?_
  have checked := (check_aside c.funds c.sender.wallet (if order.side.isBid then quote else base)
    placement.spend c.calls.exchange).mono fun _ h => h.offWallet
  refine (orRelease_only checked fun _ => rfl).returns_bind rests fun _ => ?_
  refine (sent placement).bind ?_
  rintro ⟨submitted, confirmation⟩
  cases confirmation with
  | none => exact returns_pure _
  | some result =>
    refine (only_ofFault.2 (.offWallet _)).returns_bind rests fun confirmation => ?_
    exact (settle_offWallet c id confirmation).returns_bind rests fun _ => returns_pure _

end Connector
end OrderDesk
