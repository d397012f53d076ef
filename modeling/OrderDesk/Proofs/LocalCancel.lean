import OrderDesk.Proofs.CancelEvidence

/-!
# `OrderDesk.Proofs.LocalCancel` — cancellations that name no transaction

A cancellation that only drops the desk's record says that nothing was cancelled on the chain. Its own
log bears that out as far as it goes: every receipt of a transaction that it sent was one of a failure.
What it cannot know is the fate of a transaction whose receipt did not come in time. Such a one may be
mined while the next channel looks at the book, finds the order gone, and reports that.

## Contents
- `LeftOpen`: a transaction that was sent and whose receipt did not come.
- `Connector.local_cancel_iff`: only such a one can have been mined with success.
- `CancelRun.mined_without_receipt`: a run in which one was.
-/

namespace OrderDesk

/-- The receipts that were told are those of what was `mined` with success and of nothing else. -/
def Consistent (mined : Hash → Prop) (log : List Event) : Prop :=
  ∀ hash receipt, .reported hash receipt ∈ log → (mined hash ↔ receipt.success = true)

/-- The transaction was handed to the node, and no receipt of it was told after that. -/
def LeftOpen (log : List Event) (tx : SignedTx) : Prop :=
  .asked (.send tx) ∈ log ∧
    ∀ receipt, ¬ [.asked (.send tx), .reported tx.hash receipt].Sublist log

/-- Of two events in this order, the second comes after a part that has not the first. -/
theorem mem_of_pair_sublist {first second : Event} {before after : List Event}
    (both : [first, second].Sublist (before ++ after)) (absent : first ∉ before) :
    second ∈ after := by
  obtain ⟨left, right, split, inBefore, inAfter⟩ := List.sublist_append_iff.1 both
  cases left with
  | nil =>
    obtain rfl : [first, second] = right := split
    exact inAfter.subset (by simp)
  | cons ev rest =>
    obtain ⟨rfl, -⟩ := List.cons.inj split
    exact absurd (inBefore.subset (List.mem_cons_self ..)) absent

namespace CancelRuns

variable {c : Connector} {id : String} {log : List Event} {reason : LocalCancelReason}

/-- What is sent comes after all that the placement was waited for, and every receipt after that is
one of a failure. -/
theorem parts_of_local (h : CancelRuns c id log (.ok (.localOnly reason))) :
    ∃ before after, log = before ++ after ∧ (∀ tx, .asked (.send tx) ∉ before) ∧ NoSuccess after ∧
      ((∃ tx, .asked (.send tx) ∈ after) → reason = .notOnBook ∨ reason = .exhausted) := by
  cases h with
  | @settled record between outcome cleared sent routes =>
    obtain ⟨waited, searched, rfl, unsent, quiet, why⟩ := routes.tells
    have clears : NoSuccess [.did (.clear id) cleared] := by
      intro hash receipt mem
      cases List.mem_singleton.1 mem
    refine ⟨.did (.order id) (some record) :: waited, searched ++ [.did (.clear id) cleared],
      by simp, ?_, quiet.append clears, ?_⟩
    · intro tx mem
      rcases List.mem_cons.1 mem with same | mem
      · cases same
      · exact unsent _ mem
    · rintro ⟨tx, mem⟩
      rcases why with gone | tried | none
      · exact .inl gone
      · exact .inr tried
      · rw [none] at mem
        cases List.mem_singleton.1 mem

/-- A receipt that came was one of a failure. -/
theorem failed_of_local (h : CancelRuns c id log (.ok (.localOnly reason))) {tx : SignedTx}
    {receipt : Receipt} (told : [.asked (.send tx), .reported tx.hash receipt].Sublist log) :
    receipt.success = false := by
  obtain ⟨before, after, rfl, unsent, quiet, -⟩ := h.parts_of_local
  exact quiet tx.hash receipt (mem_of_pair_sublist told (unsent tx))

/-- Only an order that was looked for on the book, or one that nothing could be done about, may have
had a transaction sent for it. -/
theorem reason_of_sent (h : CancelRuns c id log (.ok (.localOnly reason))) {tx : SignedTx}
    (sent : .asked (.send tx) ∈ log) : reason = .notOnBook ∨ reason = .exhausted := by
  obtain ⟨before, after, rfl, unsent, -, why⟩ := h.parts_of_local
  rcases List.mem_append.1 sent with early | late
  · exact absurd early (unsent tx)
  · exact why ⟨tx, late⟩

end CancelRuns

/-- **When nothing was cancelled on the chain.** The calls of a desk with the usual channels take
turns in any way, and the node answers in any way that is consistent with what was mined. A
cancellation that names no transaction and was not given up for want of a channel is right that none
of its own was mined with success, exactly if none was whose receipt it was not told. It can have sent
one only if it says that the order was not on the book. -/
theorem Connector.local_cancel_iff (c : Connector) (usual : c.channels = CancelChannel.standard)
    (common : Common) (choices : List (Choice Operation)) (mined : Hash → Prop) {me : Nat}
    {job : Job Answered} {id : String} {reason : LocalCancelReason}
    (here : ((Scene.opening common [{}]).play c.answering choices).jobs[me]? = some job)
    (finished : job.progress = .finished ⟨.cancel id, .ok (.cancelled (.localOnly reason))⟩)
    (settled : reason ≠ .exhausted)
    (consistent : Consistent mined (((Scene.opening common [{}]).play c.answering choices).log me)) :
    let log := ((Scene.opening common [{}]).play c.answering choices).log me
    ((∀ tx, .asked (.send tx) ∈ log → ¬ mined tx.hash) ↔
      ∀ tx, LeftOpen log tx → ¬ mined tx.hash) ∧
    ((∃ tx, .asked (.send tx) ∈ log) → reason = .notOnBook) := by
  have own : ∀ channel ∈ c.channels, channel.isOwn = true := by
    rw [usual]
    decide
  obtain ⟨r, same, runs⟩ := c.cancelRuns_of_finished own common choices here finished
  obtain rfl : r = .ok (.localOnly reason) := by
    cases r with
    | ok outcome =>
      cases same
      rfl
    | error fault => cases same
  refine ⟨⟨fun none tx left => none tx left.1, fun none tx sent wasMined => ?_⟩, ?_⟩
  · by_cases told : ∃ receipt, [.asked (.send tx), .reported tx.hash receipt].Sublist
        (((Scene.opening common [{}]).play c.answering choices).log me)
    · -- A receipt came: it was one of a failure.
      obtain ⟨receipt, both⟩ := told
      have success := (consistent tx.hash receipt (both.subset (by simp))).1 wasMined
      rw [runs.failed_of_local both] at success
      cases success
    · exact none tx ⟨sent, fun receipt both => told ⟨receipt, both⟩⟩ wasMined
  · rintro ⟨tx, sent⟩
    exact (runs.reason_of_sent sent).resolve_right settled

/-! ### A receipt that comes too late -/

namespace CancelRun

/-- What `getOrder` returns of an order that is gone. -/
def gone : Bytes := List.replicate 96 0

/-- The cancellation says that the order was not on the book. -/
def missesOrder (job : Job Answered) : Bool :=
  match job.progress with
  | .finished ⟨.cancel id, .ok (.cancelled (.localOnly .notOnBook))⟩ => id == "a"
  | _ => false

theorem finished_of_missesOrder {jobs : List (Job Answered)}
    (misses : (jobs[1]?).any missesOrder = true) : ∃ job, jobs[1]? = some job ∧
      job.progress = .finished ⟨.cancel "a", .ok (.cancelled (.localOnly .notOnBook))⟩ := by
  obtain ⟨job, here, missing⟩ := (Option.any_eq_true missesOrder _).1 misses
  unfold missesOrder at missing
  split at missing
  · next id finished =>
    obtain rfl : id = "a" := by simpa using missing
    exact ⟨job, here, finished⟩
  · cases missing

/-- The node takes every transaction and reports its failure at once; the order is gone. -/
def failing : (r : Request) → r.Reply
  | .pendingNonce _ => .ok 0
  | .send tx => .ok tx.hash
  | .receipt hash => .ok (some ⟨hash, 1, false, 0, []⟩)
  | .call _ _ => .ok gone
  | _ => .error default

/-- A cancellation that is told that its transaction failed is right that nothing was cancelled. -/
theorem nothing_mined_of_failing :
    ((∀ tx, .asked (.send tx) ∈ (scene failing).log 1 → ¬ (fun _ => False : Hash → Prop) tx.hash) ↔
      ∀ tx, LeftOpen ((scene failing).log 1) tx → ¬ (fun _ => False : Hash → Prop) tx.hash) ∧
    ((∃ tx, .asked (.send tx) ∈ (scene failing).log 1) →
      LocalCancelReason.notOnBook = .notOnBook) := by
  have misses : ((scene failing).jobs[1]?).any missesOrder = true := by decide +kernel
  obtain ⟨job, here, finished⟩ := finished_of_missesOrder misses
  refine desk.local_cancel_iff rfl {} (choices failing) (fun _ => False) here finished nofun ?_
  intro hash receipt told
  cases told_by told
  exact ⟨False.elim, nofun⟩

/-- The node takes every transaction and has no receipt yet; the order is gone. -/
def late : (r : Request) → r.Reply
  | .pendingNonce _ => .ok 0
  | .send tx => .ok tx.hash
  | .receipt _ => .ok none
  | .call _ _ => .ok gone
  | _ => .error default

/-- The event is that the node took a transaction. -/
def takes : Event → Bool
  | .told (.send _) (.ok _) => true
  | _ => false

/-- **A transaction of the cancellation was mined**, and its receipt came too late: the next channel
found the order gone, and the cancellation says that nothing was cancelled on the chain. -/
theorem mined_without_receipt : ∃ job,
    (scene late).jobs[1]? = some job ∧
    job.progress = .finished ⟨.cancel "a", .ok (.cancelled (.localOnly .notOnBook))⟩ ∧
    ∃ mined, Consistent mined ((scene late).log 1) ∧
      ∃ tx answer, .accepted tx answer ∈ (scene late).log 1 ∧ mined tx.hash := by
  have misses : ((scene late).jobs[1]?).any missesOrder = true := by decide +kernel
  obtain ⟨job, here, finished⟩ := finished_of_missesOrder misses
  have taken : ((scene late).log 1).any takes = true := by decide +kernel
  obtain ⟨ev, mem, isTaken⟩ := List.any_eq_true.1 taken
  unfold takes at isTaken
  split at isTaken
  · next tx answer =>
    refine ⟨job, here, finished, fun hash => hash = tx.hash, ?_, tx, answer, mem, rfl⟩
    -- No receipt was told, so all that may have been mined is consistent with what was.
    intro hash receipt told
    cases told_by told
  · cases isTaken

end CancelRun
end OrderDesk
