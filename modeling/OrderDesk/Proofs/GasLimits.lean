import Mathlib.Data.List.Basic
import OrderDesk.Proofs.Journal
import OrderDesk.Proofs.Log

/-!
# `OrderDesk.Proofs.GasLimits` — the gas limit of a transaction against the one that is due

An estimate gets a margin on top and is never taken for less than the minimum. What is due is that
number, computed exactly and cut off at the largest 64-bit one. The policy cuts the product off before
it divides by a hundred, so from a hundredth of the range on its limit stands still, below what is due
and in the end below the estimate itself.

## Contents
- `GasPolicy.limitBy`: the limit by the node's answer; `GasPolicy.dueLimit`: the limit that is due.
- `GasPolicy.limitBy_eq_due_iff`, `le_limitBy_iff`: when the two agree, when the estimate is covered.
- `Event.estimate?`, `Event.handedOver?`: what a log tells of estimates and transactions.
- `Sender.submit_asks_and_sends`: a submission sends one transaction, under the limit by the answer.
- `Sender.limit_due_iff`: the result, for every policy, call and answer.
-/

namespace OrderDesk

open Attempt

/-! ### Limits -/

namespace GasPolicy

variable (p : GasPolicy)

/-- The limit by the node's answer, whether that is an estimate or an error. -/
def limitBy : Except DeskError UInt64 → UInt64
  | .ok estimate => (p.limitFor? estimate).getD 0
  | .error _ => p.limitWithoutEstimate

/-- An estimate with its margin, rounded down but not bounded. -/
def padded (estimate : UInt64) : Nat := estimate.toNat * (100 + p.marginPercent.toNat) / 100

/-- **The limit that is due** for an estimate: with the margin, within 64 bits, at least the
minimum. -/
def dueLimit (estimate : UInt64) : Nat :=
  max (min (p.padded estimate) (UInt64.size - 1)) p.minLimit.toNat

/-- With a percentage within 64 bits there is a limit. The product is cut off before it is divided. -/
theorem limitFor?_eq (margin : 100 + p.marginPercent.toNat < UInt64.size) (estimate : UInt64) :
    p.limitFor? estimate = some (max (UInt64.ofNat
      (min (estimate.toNat * (100 + p.marginPercent.toNat)) (UInt64.size - 1) / 100)) p.minLimit) :=
  if_pos margin

theorem limitFor?_eq_limitBy (margin : 100 + p.marginPercent.toNat < UInt64.size)
    (estimate : UInt64) : p.limitFor? estimate = some (p.limitBy (.ok estimate)) := by
  unfold limitBy
  dsimp only
  rw [p.limitFor?_eq margin]
  rfl

theorem toNat_limitBy (margin : 100 + p.marginPercent.toNat < UInt64.size) (estimate : UInt64) :
    (p.limitBy (.ok estimate)).toNat =
      max (min (estimate.toNat * (100 + p.marginPercent.toNat)) (UInt64.size - 1) / 100)
        p.minLimit.toNat := by
  unfold limitBy
  dsimp only
  rw [p.limitFor?_eq margin, Option.getD_some, UInt64.toNat_max, UInt64.toNat_ofNat_of_lt']
  refine Nat.lt_of_le_of_lt (Nat.div_le_self _ _) ?_
  exact Nat.lt_of_le_of_lt (Nat.min_le_right _ _) (by decide)

/-- No limit is lower than the minimum. -/
theorem minLimit_le_limitBy (margin : 100 + p.marginPercent.toNat < UInt64.size)
    (answer : Except DeskError UInt64) : p.minLimit ≤ p.limitBy answer := by
  cases answer with
  | ok estimate =>
    refine UInt64.le_iff_toNat_le.2 ?_
    rw [p.toNat_limitBy margin]
    exact Nat.le_max_right _ _
  | error e =>
    refine UInt64.le_iff_toNat_le.2 ?_
    show p.minLimit.toNat ≤ (max p.fallbackLimit p.minLimit).toNat
    rw [UInt64.toNat_max]
    exact Nat.le_max_right _ _

/-- A larger estimate has no lower limit. -/
theorem limitBy_mono (margin : 100 + p.marginPercent.toNat < UInt64.size) {estimate larger : UInt64}
    (le : estimate ≤ larger) : p.limitBy (.ok estimate) ≤ p.limitBy (.ok larger) := by
  refine UInt64.le_iff_toNat_le.2 ?_
  rw [p.toNat_limitBy margin, p.toNat_limitBy margin]
  have products : estimate.toNat * (100 + p.marginPercent.toNat) ≤
      larger.toNat * (100 + p.marginPercent.toNat) :=
    Nat.mul_le_mul_right _ (UInt64.le_iff_toNat_le.1 le)
  omega

/-- **The limit is the one due** just while the estimate with its margin is within a hundredth of the
range, or what is due is no more than the minimum. -/
theorem limitBy_eq_due_iff (margin : 100 + p.marginPercent.toNat < UInt64.size) (estimate : UInt64) :
    (p.limitBy (.ok estimate)).toNat = p.dueLimit estimate ↔
      p.padded estimate ≤ (UInt64.size - 1) / 100 ∨
        min (p.padded estimate) (UInt64.size - 1) ≤ p.minLimit.toNat := by
  rw [p.toNat_limitBy margin]
  unfold dueLimit padded
  generalize estimate.toNat * (100 + p.marginPercent.toNat) = product
  have size : UInt64.size = 18446744073709551616 := rfl
  omega

/-- The limit covers the estimate just while the estimate is within a hundredth of the range or no
more than the minimum. -/
theorem le_limitBy_iff (margin : 100 + p.marginPercent.toNat < UInt64.size) (estimate : UInt64) :
    estimate ≤ p.limitBy (.ok estimate) ↔
      estimate.toNat ≤ (UInt64.size - 1) / 100 ∨ estimate ≤ p.minLimit := by
  rw [UInt64.le_iff_toNat_le, UInt64.le_iff_toNat_le, p.toNat_limitBy margin]
  have whole : estimate.toNat * 100 ≤ estimate.toNat * (100 + p.marginPercent.toNat) :=
    Nat.mul_le_mul_left _ (Nat.le_add_right _ _)
  generalize estimate.toNat * (100 + p.marginPercent.toNat) = product at whole
  have size : UInt64.size = 18446744073709551616 := rfl
  omega

end GasPolicy

/-! ### Submissions -/

/-- The answer about an estimate that the event tells. -/
def Event.estimate? : Event → Option (Except DeskError UInt64)
  | told (.estimateGas _ _) answer => some answer
  | _ => none

/-- The transaction that is handed over with the event. -/
def Event.handedOver? : Event → Option SignedTx
  | asked (.send tx) => some tx
  | _ => none

namespace Sender

variable (s : Sender) (call : Call)

/-- One estimate is asked for, and the limit is the one by the answer. -/
theorem gasLimit_logs (margin : 100 + s.gas.marginPercent.toNat < UInt64.size) :
    (s.gasLimit call).Logs fun r own => ∃ answer, r = .ok (s.gas.limitBy answer) ∧
      own.filterMap Event.estimate? = [answer] ∧ own.filterMap Event.handedOver? = [] := by
  unfold gasLimit
  refine logs_reply_bind fun answer => ?_
  cases answer with
  | ok estimate =>
    dsimp only
    rw [s.gas.limitFor?_eq_limitBy margin]
    exact ⟨.ok estimate, rfl, rfl, rfl⟩
  | error e => exact ⟨.error e, rfl, rfl, rfl⟩

/-- A price is always found, without estimates and transactions. -/
theorem gasPrice_logs :
    s.gasPrice.Logs fun r own => ∃ price, r = .ok price ∧ own.filterMap Event.estimate? = [] ∧
      own.filterMap Event.handedOver? = [] := by
  unfold gasPrice
  refine logs_act_bind fun fresh => ?_
  cases fresh with
  | some price => exact ⟨price, rfl, rfl, rfl⟩
  | none =>
    refine logs_reply_bind fun answer => ?_
    cases answer with
    | ok price => exact logs_act_bind fun _ => ⟨price, rfl, rfl, rfl⟩
    | error e => exact ⟨s.gas.fallbackPrice, rfl, rfl, rfl⟩

/-- **A submission** asks for one estimate and, whatever the answer, hands over one transaction: the
call under its nonce, signed, with the limit by the answer. -/
theorem submit_asks_and_sends (margin : 100 + s.gas.marginPercent.toNat < UInt64.size)
    (nonce : UInt64) :
    (s.submit call nonce).Logs fun _ own => ∃ answer price,
      own.filterMap Event.estimate? = [answer] ∧
      own.filterMap Event.handedOver? =
        [(s.request call nonce (s.gas.limitBy answer) price).sign s.key] := by
  unfold submit
  refine Logs.bind (s.gasLimit_logs call margin) ?_ ?_
  · rintro _ first ⟨answer, ⟨⟩, estimated, none_yet⟩
    refine Logs.bind s.gasPrice_logs ?_ ?_
    · rintro price second ⟨_, ⟨⟩, no_more, none_still⟩
      refine logs_reply_bind fun accepted => ?_
      have told (more : List Event) (silent : more.filterMap Event.estimate? = []) :
          (first ++ (second ++ more)).filterMap Event.estimate? = [answer] := by
        simp [estimated, no_more, silent]
      have sent (more : List Event) (tx : SignedTx)
          (only : more.filterMap Event.handedOver? = [tx]) :
          (first ++ (second ++ more)).filterMap Event.handedOver? = [tx] := by
        simp [none_yet, none_still, only]
      cases accepted with
      | ok hash => exact ⟨answer, price, told _ rfl, sent _ _ rfl⟩
      | error e => exact ⟨answer, price, told _ rfl, sent _ _ rfl⟩
    · rintro _ _ ⟨_, same, _⟩
      cases same
  · rintro _ _ ⟨_, same, _⟩
    cases same

/-- **When the gas limit is the one due.** Let the percentage of the policy stay within 64 bits. A
submission of any call asks for one estimate and, whatever the answer, hands over one transaction that
carries the call, under the limit by the answer. That limit is never below the minimum; without an
estimate it is the larger of fallback and minimum; and it never falls when the estimate rises. With an
estimate it is the one due exactly if the estimate with its margin is within a hundredth of the 64-bit
range or what is due is no more than the minimum, and it covers the estimate exactly if the estimate
is one or the other. -/
theorem limit_due_iff (margin : 100 + s.gas.marginPercent.toNat < UInt64.size) :
    (∀ call nonce, (s.submit call nonce).Logs fun _ own => ∃ answer tx,
      own.filterMap Event.estimate? = [answer] ∧ own.filterMap Event.handedOver? = [tx] ∧
      tx.request.gasLimit = s.gas.limitBy answer ∧
      tx = tx.request.sign s.key ∧ tx.request.call = call ∧ tx.request.nonce = nonce) ∧
    (∀ answer, s.gas.minLimit ≤ s.gas.limitBy answer) ∧
    (∀ e, s.gas.limitBy (.error e) = max s.gas.fallbackLimit s.gas.minLimit) ∧
    (∀ estimate larger, estimate ≤ larger →
      s.gas.limitBy (.ok estimate) ≤ s.gas.limitBy (.ok larger)) ∧
    (∀ estimate, (s.gas.limitBy (.ok estimate)).toNat = s.gas.dueLimit estimate ↔
      s.gas.padded estimate ≤ (UInt64.size - 1) / 100 ∨
        min (s.gas.padded estimate) (UInt64.size - 1) ≤ s.gas.minLimit.toNat) ∧
    (∀ estimate, estimate ≤ s.gas.limitBy (.ok estimate) ↔
      estimate.toNat ≤ (UInt64.size - 1) / 100 ∨ estimate ≤ s.gas.minLimit) := by
  refine ⟨fun call nonce => ?_, s.gas.minLimit_le_limitBy margin, fun _ => rfl,
    fun _ _ le => s.gas.limitBy_mono margin le, s.gas.limitBy_eq_due_iff margin,
    s.gas.le_limitBy_iff margin⟩
  refine (s.submit_asks_and_sends call margin nonce).mono ?_
  rintro _ own ⟨answer, price, estimated, sent⟩
  exact ⟨answer, _, estimated, sent, rfl, rfl, rfl, rfl⟩

end Sender

namespace GasSample

/-- Answers with the same estimate and with a price of seven. -/
def node (estimate : UInt64) : Environment Unit where
  reply _
    | .estimateGas _ _ => (.ok estimate, {}, ())
    | .gasPrice => (.ok 7, {}, ())
    | .send tx => (.ok tx.hash, {}, ())
    | _ => (.error default, {}, ())
  sleep _ d := ({ elapsed := d }, ())

/-- A wallet with the usual policy. -/
def sender : Sender := { key := default, wallet := default, chainId := 50312 }

/-- What a submission does at such a node. -/
def events (estimate : UInt64) : List Event :=
  ((sender.submit default 12).journal (node estimate) ({}, ())).map (·.event)

/-- A fifth is added to an estimate of five million. -/
theorem limit_of_five_million :
    100 + sender.gas.marginPercent.toNat < UInt64.size ∧
    ((events 5000000).filterMap Event.handedOver?).map (·.request.gasLimit) = [6000000] := by
  have margin : 100 + sender.gas.marginPercent.toNat < UInt64.size := by decide
  obtain ⟨submits, -, -, -, due, -⟩ := sender.limit_due_iff margin
  obtain ⟨answer, tx, estimated, sent, limit, -⟩ :=
    (submits default 12).journal (node 5000000) ({}, ())
  obtain rfl : answer = .ok 5000000 := (List.cons.inj estimated).1.symm
  have exact_limit := (due 5000000).2 (.inl (by decide))
  refine ⟨margin, ?_⟩
  rw [events, sent, List.map_singleton, limit]
  exact congrArg (fun n => [n]) (UInt64.toNat_inj.1 (exact_limit.trans (by decide)))

/-- An estimate above a hundredth of the range is sent with a limit below it, though what is due is
well within 64 bits. -/
theorem limit_below_estimate :
    (events 200000000000000000).filterMap Event.estimate? = [.ok 200000000000000000] ∧
    ((events 200000000000000000).filterMap Event.handedOver?).map (·.request.gasLimit) =
      [184467440737095516] ∧
    (184467440737095516 : UInt64) < 200000000000000000 ∧
    sender.gas.dueLimit 200000000000000000 = 240000000000000000 :=
  ⟨rfl, rfl, by decide, by decide⟩

end GasSample
end OrderDesk
