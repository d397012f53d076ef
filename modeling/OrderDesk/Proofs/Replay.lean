import OrderDesk.Proofs.CancelLog
import OrderDesk.Proofs.Journal

/-!
# `OrderDesk.Proofs.Replay` — a failed transaction is repeated once, to learn why

A receipt that tells of a failure ends the wait with that receipt, whatever else the node does. For the
reason the transaction is looked up once, and if it is there, it is repeated once on the state before its
block. Whatever is not learnt is left open.

## Contents
- `RevertReason.outOfGas_iff`: when a failure counts as lack of gas.
- `ReplayTells`: what a repeated call says of the failure.
- `Receipt.Replayed`: how a failed receipt is explained; `ReplaysFailures`, `Lookups.replayed`: every
  wait does so.
- `Event.Arranges`: what is asked before a transaction is sent; `Sender.Repeats`: the transaction that is
  repeated is the one that was sent.
- `Sender.failures_replayed`: the result, for every wait and for every sending with its wait.
-/

namespace OrderDesk

open Attempt

/-! ### What there is to learn -/

/-- **A failure counts as lack of gas** if the limit is known and 95 percent of it were used. -/
theorem RevertReason.outOfGas_iff (reason : RevertReason) : reason.outOfGas = true ↔
    ∃ limit, reason.gasLimit = some limit ∧ 95 * limit.toNat ≤ 100 * reason.gasUsed.toNat := by
  have percent (limit : UInt64) : limit.toNat * outOfGasPercent ≤ reason.gasUsed.toNat * 100 ↔
      95 * limit.toNat ≤ 100 * reason.gasUsed.toNat := by
    rw [Nat.mul_comm, Nat.mul_comm _ 100]
    rfl
  unfold outOfGas
  cases known : reason.gasLimit with
  | none => exact ⟨nofun, nofun⟩
  | some limit =>
    dsimp only
    rw [decide_eq_true_iff, percent]
    constructor
    · exact fun enough => ⟨limit, rfl, enough⟩
    · rintro ⟨_, ⟨⟩, enough⟩
      exact enough

/-- **What a repeated call says of the failure**: something just if it reverted, and then what its data
say rather than the node's own words. -/
inductive ReplayTells : Except DeskError Bytes → Option String → Prop
  | decoded {message why : String} {data : Bytes} (read : RevertData.read? data = some why) :
    ReplayTells (.error (.executionReverted message (some data))) (some ("execution reverted: " ++ why))
  | worded {message : String} {data : Option Bytes}
    (unread : ∀ bytes, data = some bytes → RevertData.read? bytes = none) :
    ReplayTells (.error (.executionReverted message data)) (some message)
  | silent {result : Except DeskError Bytes}
    (other : ∀ message data, result ≠ .error (.executionReverted message data)) :
    ReplayTells result none

theorem replayTells_replayMessage? (result : Except DeskError Bytes) :
    ReplayTells result (replayMessage? result) := by
  unfold replayMessage?
  split
  · next message data =>
    split
    · next why read =>
      obtain ⟨bytes, rfl, read⟩ := Option.bind_eq_some_iff.1 read
      exact .decoded read
    · next unread =>
      refine .worded fun bytes known => ?_
      rw [known] at unread
      exact unread
  · next other => exact .silent other

namespace Receipt

/-- **How a failed receipt is explained** in a wait for the transaction of `hash`: which questions the
wait asks from its beginning to its end, and what is learnt from their answers. -/
structure Replayed (receipt : Receipt) (hash : Hash) (own : List Event) (reason : RevertReason) :
    Prop where
  gasUsed : reason.gasUsed = receipt.gasUsed
  outOfGas : reason.outOfGas = true ↔
    ∃ limit, reason.gasLimit = some limit ∧ 95 * limit.toNat ≤ 100 * receipt.gasUsed.toNat
  found : ∀ tx, .told (.transaction receipt.hash) (.ok (some tx)) ∈ own → ∃ looks block result,
    block.toNat = receipt.block.toNat - 1 ∧
    questionsOf own = List.replicate looks (.receipt hash) ++
      [.transaction receipt.hash, .call tx (some block)] ∧
    .told (.call tx (some block)) result ∈ own ∧ ReplayTells result reason.message ∧
    reason.gasLimit = some tx.gasLimit
  missing : (∀ tx, .told (.transaction receipt.hash) (.ok (some tx)) ∉ own) → ∃ looks,
    questionsOf own = List.replicate looks (.receipt hash) ++ [.transaction receipt.hash] ∧
    reason.message = none ∧ reason.gasLimit = none

/-- The block before, and for the first block that block itself. -/
theorem toNat_blockBefore (receipt : Receipt) :
    (if receipt.block = 0 then 0 else receipt.block - 1).toNat = receipt.block.toNat - 1 := by
  split
  · next first =>
    rw [first]
    rfl
  · next later =>
    have one : (1 : UInt64) ≤ receipt.block := by
      have positive : receipt.block.toNat ≠ 0 := fun zero => later (UInt64.toNat_inj.1 zero)
      exact UInt64.le_iff_toNat_le.2 (Nat.one_le_iff_ne_zero.2 positive)
    exact UInt64.toNat_sub_of_le _ _ one

end Receipt

/-! ### The wait -/

namespace Lookups

variable {hash asked : Hash} {r : Except Fault Confirmation} {receipt : Receipt}

/-- All that was asked before the explanation is the receipt. -/
theorem requests_eq {misses learnt : List Note} (missed : ∀ note ∈ misses, note.Misses hash) :
    (misses ++ .ofReceipt hash receipt :: learnt).map Note.request =
      List.replicate (misses.length + 1) (.receipt hash) ++ learnt.map Note.request := by
  have looked : misses.map Note.request = List.replicate misses.length (.receipt hash) := by
    refine List.map_eq_replicate_iff.2 fun note mem => ?_
    obtain ⟨answer, -, rfl⟩ := missed note mem
    rfl
  rw [List.map_append, looked, List.map_cons, List.replicate_succ', List.append_assoc]
  rfl

/-- A transaction is told of only where a failure is explained. -/
theorem transaction_mem {misses learnt : List Note} (missed : ∀ note ∈ misses, note.Misses hash)
    {answer : Except DeskError (Option TxRequest)}
    (mem : ⟨.transaction asked, answer⟩ ∈ misses ++ .ofReceipt hash receipt :: learnt) :
    ⟨.transaction asked, answer⟩ ∈ learnt := by
  rcases List.mem_append.1 mem with before | after
  · obtain ⟨_, -, same⟩ := missed _ before
    cases same
  · rcases List.mem_cons.1 after with same | later
    · cases same
    · exact later

/-- **Every failed receipt is explained so.** -/
theorem replayed {own : List Event} (h : Lookups hash (notesOf own) r)
    (answered : questionsOf own = (notesOf own).map Note.request)
    (told : .reported asked receipt ∈ own) (failed : receipt.success = false) :
    asked = hash ∧ ∃ reason, r = .ok (.reverted receipt reason) ∧
      receipt.Replayed hash own reason := by
  obtain ⟨same, ⟨-, success⟩ | ⟨misses, learnt, reason, notes, missed, -, explains, ended⟩⟩ :=
    h.of_reported (mem_notesOf.2 told)
  · rw [failed] at success
    cases success
  have questions : questionsOf own =
      List.replicate (misses.length + 1) (.receipt hash) ++ learnt.map Note.request := by
    rw [answered, notes, requests_eq missed]
  have learntOf {tx : TxRequest} (mem : .told (.transaction receipt.hash) (.ok (some tx)) ∈ own) :
      ⟨.transaction receipt.hash, .ok (some tx)⟩ ∈ learnt :=
    transaction_mem missed (notes ▸ mem_notesOf.2 mem)
  have toldOf {note : Note} (mem : note ∈ learnt) : .told note.request note.reply ∈ own := by
    refine mem_notesOf.1 ?_
    rw [notes]
    exact List.mem_append_right _ (List.mem_cons_of_mem _ mem)
  refine ⟨same, reason, ended, ?_⟩
  cases explains with
  | repeated tx result =>
    refine ⟨rfl, RevertReason.outOfGas_iff _, fun other mem => ?_, fun none => ?_⟩
    · obtain rfl : other = tx := by
        rcases List.mem_cons.1 (learntOf mem) with first | last
        · cases first
          rfl
        · cases List.mem_singleton.1 last
      exact ⟨_, _, result, receipt.toNat_blockBefore, questions,
        toldOf (List.mem_cons_of_mem _ (List.mem_singleton_self _)),
        replayTells_replayMessage? result, rfl⟩
    · exact absurd (toldOf (List.mem_cons_self ..)) (none tx)
  | unknown answer missing =>
    refine ⟨rfl, RevertReason.outOfGas_iff _, fun tx mem => ?_, fun _ => ⟨_, questions, rfl, rfl⟩⟩
    cases List.mem_singleton.1 (learntOf mem)
    exact absurd rfl (missing tx)

end Lookups

/-- **A failed receipt ends a wait for the transaction of `hash`** with itself and an explanation, and not
with an error. -/
def ReplaysFailures (hash : Hash) (r : Except Fault Confirmation) (own : List Event) : Prop :=
  ∀ asked receipt, .reported asked receipt ∈ own → receipt.success = false →
    asked = hash ∧ ∃ reason, r = .ok (.reverted receipt reason) ∧ receipt.Replayed hash own reason

theorem confirmWithin_replays (p : PollPolicy) (hash : Hash) (timeout : Duration) :
    (p.confirmWithin hash timeout).Logs (ReplaysFailures hash) :=
  ((confirmWithin_logs p hash timeout).and (logs_questions _)).mono
    fun _ _ ⟨looked, answered⟩ _ _ told failed => looked.replayed answered told failed

/-! ### Sending and waiting -/

/-- The question is for the terms of a transaction, or hands one over. -/
def Request.arranges : Request → Bool
  | pendingNonce _ | estimateGas _ _ | gasPrice | send _ => true
  | _ => false

/-- Nothing else is asked with the event. -/
def Event.Arranges : Event → Prop
  | asked r | told r _ => r.arranges = true
  | _ => True

namespace Sender

variable (s : Sender) (call : Call)

/-- Before a transaction is sent, only its terms are asked for. -/
theorem sendNext_arranges : (s.sendNext call).Only Event.Arranges := by
  unfold sendNext
  refine Only.bind (acquire_only rfl (fun _ => rfl) fun _ _ => trivial) fun nonce => ?_
  have limit : (s.gasLimit call).Only Event.Arranges := gasLimit_only rfl fun _ => rfl
  have price : s.gasPrice.Only Event.Arranges :=
    gasPrice_only (fun _ => trivial) rfl (fun _ => rfl) fun _ _ => trivial
  exact submit_only limit price (fun _ _ _ => rfl) (fun _ _ => rfl) nonce

/-- **The transaction that is repeated is the one that was sent.** A failed receipt that is told while a
call is sent and waited for is that of the transaction which carries the call, and ends the wait. If the
node has this transaction as it was sent, then it is what is repeated, on the state before its block. -/
def Repeats (r : Except Fault (Submitted × Confirmation)) (own : List Event) (asked : Hash)
    (receipt : Receipt) : Prop :=
  ∃ tx answer reason, .accepted tx answer ∈ own ∧ tx = tx.request.sign s.key ∧
    tx.request.call = call ∧ asked = tx.hash ∧
    r = .ok (⟨tx.hash, tx.request⟩, .reverted receipt reason) ∧
    (.told (.transaction receipt.hash) (.ok (some tx.request)) ∈ own → ∃ before looks block,
      (∀ question ∈ before, question.arranges = true) ∧ block.toNat = receipt.block.toNat - 1 ∧
      questionsOf own = before ++ .send tx :: (List.replicate looks (.receipt tx.hash) ++
        [.transaction receipt.hash, .call tx.request (some block)]))

/-- Taking the lock and giving it back asks nothing. -/
theorem questionsOf_section (wallet : Address) (log : List Event) :
    questionsOf (.queued wallet :: .locked wallet :: log ++ [.unlocked wallet]) = questionsOf log := by
  show questionsOf (log ++ [.unlocked wallet]) = _
  rw [questionsOf_append]
  exact List.append_nil _

/-- What is no question for terms is answered in the wait. -/
theorem told_waited {sent waited : List Event} {r : Request} {x : r.Reply} {wallet : Address}
    (other : r.arranges = false) (arranges : ∀ ev ∈ sent, ev.Arranges)
    (mem : .told r x ∈ .queued wallet :: .locked wallet :: (sent ++ waited) ++ [.unlocked wallet]) :
    .told r x ∈ waited := by
  have either : Event.told r x ∈ sent ∨ Event.told r x ∈ waited := by simpa using mem
  refine either.resolve_left fun early => ?_
  have yes : r.arranges = true := arranges _ early
  rw [other] at yes
  cases yes

theorem execute_repeats : (s.execute call).Logs fun r own => ∀ asked receipt,
    .reported asked receipt ∈ own → receipt.success = false → s.Repeats call r own asked receipt := by
  unfold Sender.execute
  refine Logs.locked ?_
  refine Logs.bind ((s.sendNext_logs call).and (s.sendNext_arranges call).logs) ?_ ?_
  · rintro submitted sent ⟨sending, arranges⟩
    cases sending with
    | @accepted before tx answer unsent signed carries =>
      refine Logs.bind (confirmWithin_replays s.poll tx.hash s.poll.timeout) ?_ ?_
      · intro confirmation waited replays
        rw [logs_pure, List.append_nil]
        intro asked receipt told failed
        obtain ⟨rfl, reason, ended, replayed⟩ :=
          replays asked receipt (told_waited rfl arranges told) failed
        cases ended
        refine ⟨tx, answer, reason, by simp, signed, carries, rfl, rfl, fun known => ?_⟩
        obtain ⟨looks, block, result, number, questions, -⟩ :=
          replayed.found _ (told_waited rfl arranges known)
        refine ⟨questionsOf before, looks, block, fun question mem => ?_, number, ?_⟩
        · obtain ⟨ev, early, asks⟩ := List.mem_filterMap.1 mem
          have arranged := arranges ev (List.mem_append_left _ early)
          cases ev with
          | asked r =>
            cases asks
            exact arranged
          | _ => cases asks
        · rw [questionsOf_section, questionsOf_append, questionsOf_append, questions, List.append_assoc]
          rfl
      · intro fault waited replays asked receipt told failed
        obtain ⟨-, reason, ended, -⟩ := replays asked receipt (told_waited rfl arranges told) failed
        cases ended
  · rintro fault sent ⟨-, arranges⟩ asked receipt told failed
    rw [← List.append_nil sent] at told
    exact absurd (told_waited rfl arranges told) List.not_mem_nil

/-- **A failed transaction is repeated once, to learn why.** A wait that is told of a failed receipt ends
with it and never with an error; it asks for the transaction once, and if it is told of it, repeats it
once. What the wallet has sent is repeated as it was sent. -/
theorem failures_replayed (s : Sender) :
    (∀ hash timeout, (s.poll.confirmWithin hash timeout).Logs (ReplaysFailures hash)) ∧
    ∀ call, (s.execute call).Logs fun r own => ∀ asked receipt,
      .reported asked receipt ∈ own → receipt.success = false → s.Repeats call r own asked receipt :=
  ⟨confirmWithin_replays s.poll, s.execute_repeats⟩

end Sender

namespace RevertSample

/-- A node that takes every transaction, has it fail in the first block and has it when it is asked. -/
def node : Environment (Option TxRequest) where
  reply sent
    | .pendingNonce _ => (.ok 12, {}, sent)
    | .estimateGas _ _ => (.ok 2500000, {}, sent)
    | .gasPrice => (.ok 7, {}, sent)
    | .send tx => (.ok tx.hash, {}, some tx.request)
    | .receipt hash => (.ok (some ⟨hash, 0, false, 2850000, []⟩), {}, sent)
    | .transaction _ => (.ok sent, {}, sent)
    | .call _ _ => (.error (.executionReverted "paused" none), {}, sent)
    | _ => (.error default, {}, sent)
  sleep sent d := ({ elapsed := d }, sent)

/-- A wallet with the usual policies. -/
def sender : Sender := { key := default, wallet := default, chainId := 50312 }

/-- What sending a call and waiting for it does at the node. -/
def events : List Event :=
  ((sender.execute default).journal node ({}, none)).map (·.event)

/-- The transaction that the wallet sends. -/
def sent : SignedTx := (sender.request default 12 3000000 7).sign sender.key

/-- It is repeated as it was sent, on the first block. -/
theorem repeated_as_sent :
    .reported sent.hash ⟨sent.hash, 0, false, 2850000, []⟩ ∈ events ∧ ∃ before looks,
      questionsOf events = before ++ .send sent :: (List.replicate looks (.receipt sent.hash) ++
        [.transaction sent.hash, .call sent.request (some 0)]) := by
  have told : .reported sent.hash ⟨sent.hash, 0, false, 2850000, []⟩ ∈ events :=
    List.mem_of_getElem? (i := 15) rfl
  obtain ⟨tx, answer, reason, -, signed, -, -, ended, repeats⟩ :=
    ((Sender.failures_replayed sender).2 default).journal node ({}, none) _ _ told rfl
  have came : ((sender.execute default).runAlone node ({}, none)).1 =
      .ok (⟨sent.hash, sent.request⟩, .reverted ⟨sent.hash, 0, false, 2850000, []⟩
        ⟨some "paused", 2850000, some 3000000⟩) := rfl
  obtain rfl : tx = sent := by
    have request : tx.request = sent.request := by
      rw [came] at ended
      injection ended with same
      exact (congrArg (·.1.request) same).symm
    rw [signed, request]
    rfl
  obtain ⟨before, looks, block, -, number, questions⟩ :=
    repeats (List.mem_of_getElem? (i := 17) rfl)
  obtain rfl : block = 0 := UInt64.toNat_inj.1 number
  exact ⟨told, before, looks, questions⟩

end RevertSample
end OrderDesk
