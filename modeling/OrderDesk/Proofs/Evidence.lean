import OrderDesk.Proofs.Log

/-!
# `OrderDesk.Proofs.Evidence` — what the node's answers say of an order

The status of a tracked order is a conclusion from answers of the node. Here it is said, log by log
and note by note, which answers bear it out, without the functions that draw the conclusion.

## Contents
- `Receipt.FirstPlaces`, `Receipt.OnlyMatches`: an order's fate read off a receipt's logs, and
  `Receipt.trace_eq_placed`, `trace_eq_immediatelyFilled`: the trace is that fate.
- `Receipt.Explains`: the questions from which the reason of a failure was learnt.
- `OrderRecord.Justified`: the notes bear out the record's status.
- `Lookups`, `confirmWithin_logs`: a wait for a transaction, by what is noted meanwhile and how it ends;
  `confirm_noted`: so it ends with what the notes bear out.
-/

namespace OrderDesk

/-! ### Receipts log by log -/

namespace Log

/-- The exchange itself logged that the order of this number was placed. -/
def Places (exchange : Address) (number : UInt64) (log : Log) : Prop :=
  log.address = exchange ∧ ∃ book id owner bid price withoutFee rested,
    EngineEvent.ofLog? log = some (.placed book id owner bid price withoutFee rested) ∧
      id.toUInt64 = number

/-- The exchange itself logged a match. -/
def Matches (exchange : Address) (log : Log) : Prop :=
  log.address = exchange ∧ ∃ book id bid sender owner price amount clear,
    EngineEvent.ofLog? log = some (.matched book id bid sender owner price amount clear)

/-- What the log tells about a placed order. -/
def event? (exchange : Address) (log : Log) : Option OrderEvent :=
  if log.address == exchange then (EngineEvent.ofLog? log).bind OrderEvent.ofEngine? else none

variable {exchange : Address} {log : Log}

theorem places_iff {number : UInt64} :
    log.Places exchange number ↔ log.event? exchange = some (.placed number) := by
  unfold Places event?
  constructor
  · rintro ⟨rfl, book, id, owner, bid, price, withoutFee, rested, read, rfl⟩
    rw [if_pos (beq_self_eq_true _), read]
    rfl
  · intro h
    split at h
    · next own =>
      refine ⟨by simpa using own, ?_⟩
      obtain ⟨e, read, part⟩ := Option.bind_eq_some_iff.1 h
      cases e with
      | placed book id owner bid price withoutFee rested =>
        cases part
        exact ⟨book, id, owner, bid, price, withoutFee, rested, read, rfl⟩
      | matched | canceled => cases part
    · cases h

theorem matches_iff : log.Matches exchange ↔ log.event? exchange = some .matched := by
  unfold Matches event?
  constructor
  · rintro ⟨rfl, book, id, bid, sender, owner, price, amount, clear, read⟩
    rw [if_pos (beq_self_eq_true _), read]
    rfl
  · intro h
    split at h
    · next own =>
      refine ⟨by simpa using own, ?_⟩
      obtain ⟨e, read, part⟩ := Option.bind_eq_some_iff.1 h
      cases e with
      | matched book id bid sender owner price amount clear =>
        exact ⟨book, id, bid, sender, owner, price, amount, clear, read⟩
      | placed | canceled => cases part
    · cases h

end Log

namespace Receipt

/-- The first placement that the exchange logged in the receipt is that of the numbered order. -/
def FirstPlaces (r : Receipt) (exchange : Address) (number : UInt64) : Prop :=
  ∃ before log after, r.logs = before ++ log :: after ∧ log.Places exchange number ∧
    ∀ earlier ∈ before, ∀ other, ¬ earlier.Places exchange other

/-- The exchange logged a match in the receipt, and no placement. -/
def OnlyMatches (r : Receipt) (exchange : Address) : Prop :=
  (∃ log ∈ r.logs, log.Matches exchange) ∧ ∀ log ∈ r.logs, ∀ number, ¬ log.Places exchange number

/-- The exchange logged neither a placement nor a match in the receipt. -/
def Silent (r : Receipt) (exchange : Address) : Prop :=
  ∀ log ∈ r.logs, ¬ log.Matches exchange ∧ ∀ number, ¬ log.Places exchange number

variable {exchange : Address}

theorem orderEvents_eq (r : Receipt) (exchange : Address) :
    r.orderEvents exchange = r.logs.filterMap (·.event? exchange) := by
  unfold orderEvents Log.event?
  rw [List.filterMap_filter]

/-- The first placement among the events of logs is that of the first log of a placement. -/
theorem firstPlaced?_filterMap {logs : List Log} {number : UInt64} :
    firstPlaced? (logs.filterMap (·.event? exchange)) = some number ↔
      ∃ before log after, logs = before ++ log :: after ∧ log.Places exchange number ∧
        ∀ earlier ∈ before, ∀ other, ¬ earlier.Places exchange other := by
  induction logs with
  | nil =>
    refine ⟨nofun, ?_⟩
    rintro ⟨before, log, after, split, -⟩
    cases before <;> cases split
  | cons first rest ih =>
    by_cases places : ∃ other, first.Places exchange other
    · -- The first log decides.
      obtain ⟨other, here⟩ := places
      rw [List.filterMap_cons_some (Log.places_iff.1 here)]
      constructor
      · rintro ⟨⟩
        exact ⟨[], first, rest, rfl, here, nofun⟩
      · rintro ⟨before, log, after, split, there, none⟩
        cases before with
        | nil =>
          cases split
          have same := (Log.places_iff.1 here).symm.trans (Log.places_iff.1 there)
          cases same
          rfl
        | cons _ _ =>
          cases split
          exact absurd here (none first (List.mem_cons_self ..) other)
    · -- The first log is passed over.
      -- It tells of a match or of nothing, and neither is looked at.
      have skipped : firstPlaced? ((first :: rest).filterMap (·.event? exchange)) =
          firstPlaced? (rest.filterMap (·.event? exchange)) := by
        cases h : first.event? exchange with
        | none => rw [List.filterMap_cons_none h]
        | some e =>
          rw [List.filterMap_cons_some h]
          cases e with
          | matched => rfl
          | placed number => exact absurd ⟨number, Log.places_iff.2 h⟩ places
      rw [skipped, ih]
      constructor
      · rintro ⟨before, log, after, rfl, there, none⟩
        refine ⟨first :: before, log, after, rfl, there, fun earlier mem => ?_⟩
        rcases List.mem_cons.1 mem with rfl | mem
        · exact fun other here => places ⟨other, here⟩
        · exact none earlier mem
      · rintro ⟨before, log, after, split, there, none⟩
        cases before with
        | nil =>
          cases split
          exact absurd ⟨number, there⟩ places
        | cons _ before =>
          cases split
          exact ⟨before, log, after, rfl, there,
            fun earlier mem => none earlier (List.mem_cons_of_mem _ mem)⟩

/-- **The trace is a number** just if that is the number of the first placement. -/
theorem trace_eq_placed {r : Receipt} {number : UInt64} :
    r.trace exchange = .placed number ↔ r.FirstPlaces exchange number := by
  unfold FirstPlaces
  rw [← firstPlaced?_filterMap, ← orderEvents_eq]
  unfold trace
  dsimp only
  split
  · next id first => rw [first, OrderTrace.placed.injEq, Option.some.injEq]
  · next none =>
    rw [none]
    split <;> exact ⟨nofun, nofun⟩

theorem firstPlaced?_eq_none {logs : List Log} :
    firstPlaced? (logs.filterMap (·.event? exchange)) = none ↔
      ∀ log ∈ logs, ∀ number, ¬ log.Places exchange number := by
  constructor
  · intro none log mem number places
    induction logs with
    | nil => cases mem
    | cons first rest ih =>
      cases h : first.event? exchange with
      | none =>
        rw [List.filterMap_cons_none h] at none
        rcases List.mem_cons.1 mem with rfl | mem
        · rw [Log.places_iff.1 places] at h
          cases h
        · exact ih none mem
      | some e =>
        rw [List.filterMap_cons_some h] at none
        cases e with
        | placed id => cases none
        | matched =>
          rcases List.mem_cons.1 mem with rfl | mem
          · rw [Log.places_iff.1 places] at h
            cases h
          · exact ih none mem
  · intro none
    cases first : firstPlaced? (logs.filterMap (·.event? exchange)) with
    | none => rfl
    | some number =>
      obtain ⟨before, log, after, rfl, places, -⟩ := firstPlaced?_filterMap.1 first
      exact absurd places (none log (List.mem_append_right _ (List.mem_cons_self ..)) number)

theorem contains_matched (r : Receipt) (exchange : Address) :
    (r.orderEvents exchange).contains .matched = true ↔ ∃ log ∈ r.logs, log.Matches exchange := by
  rw [List.contains_iff_mem, orderEvents_eq, List.mem_filterMap]
  simp only [Log.matches_iff]

/-- **The trace is a fill** just if there are matches and no placement. -/
theorem trace_eq_immediatelyFilled {r : Receipt} :
    r.trace exchange = .immediatelyFilled ↔ r.OnlyMatches exchange := by
  -- Matches decide only where no log places an order.
  unfold OnlyMatches
  rw [← contains_matched, ← firstPlaced?_eq_none, ← orderEvents_eq]
  unfold trace
  dsimp only
  split
  · next id first =>
    rw [first]
    exact ⟨nofun, nofun⟩
  · next none =>
    rw [none]
    split
    · next found => exact ⟨fun _ => ⟨found, rfl⟩, fun _ => rfl⟩
    · next missing => exact ⟨nofun, fun h => absurd h.1 missing⟩

/-- **The trace is lost** just if the exchange logged nothing of an order. -/
theorem trace_eq_notFound {r : Receipt} :
    r.trace exchange = .notFound ↔ r.Silent exchange := by
  constructor
  · intro lost log mem
    refine ⟨fun matched => ?_, fun number places => ?_⟩
    · -- A match would make it a fill, unless a log places an order.
      by_cases placed : ∃ number, r.FirstPlaces exchange number
      · obtain ⟨number, first⟩ := placed
        rw [trace_eq_placed.2 first] at lost
        cases lost
      · have none : ∀ log ∈ r.logs, ∀ number, ¬ log.Places exchange number := by
          refine firstPlaced?_eq_none.1 (Option.eq_none_iff_forall_not_mem.2 fun number first => ?_)
          exact placed ⟨number, firstPlaced?_filterMap.1 first⟩
        rw [trace_eq_immediatelyFilled.2 ⟨⟨log, mem, matched⟩, none⟩] at lost
        cases lost
    · cases first : firstPlaced? (r.logs.filterMap (·.event? exchange)) with
      | none => exact firstPlaced?_eq_none.1 first log mem number places
      | some number =>
        rw [trace_eq_placed.2 (firstPlaced?_filterMap.1 first)] at lost
        cases lost
  · intro silent
    cases trace : r.trace exchange with
    | notFound => rfl
    | placed number =>
      obtain ⟨before, log, after, split, places, -⟩ := trace_eq_placed.1 trace
      have mem : log ∈ r.logs := split ▸ List.mem_append_right _ (List.mem_cons_self ..)
      exact absurd places ((silent log mem).2 number)
    | immediatelyFilled =>
      obtain ⟨⟨log, mem, matched⟩, -⟩ := trace_eq_immediatelyFilled.1 trace
      exact absurd matched (silent log mem).1

/-- **Why a transaction failed**: the notes of asking for it and of repeating it, and what is learnt
from them. -/
inductive Explains (r : Receipt) : List Note → RevertReason → Prop
  | repeated (tx : TxRequest) (result : Except DeskError Bytes) :
    Explains r
      [⟨.transaction r.hash, .ok (some tx)⟩,
        ⟨.call tx (some (if r.block = 0 then 0 else r.block - 1)), result⟩]
      ⟨replayMessage? result, r.gasUsed, some tx.gasLimit⟩
  | unknown (answer : Except DeskError (Option TxRequest)) (missing : ∀ tx, answer ≠ .ok (some tx)) :
    Explains r [⟨.transaction r.hash, answer⟩] ⟨none, r.gasUsed, none⟩

end Receipt

/-! ### What is noted -/

/-- The node answered with the receipt when it was asked for that of the transaction. -/
def Note.ofReceipt (hash : Hash) (receipt : Receipt) : Note :=
  ⟨.receipt hash, .ok (some receipt)⟩

/-- The transaction is noted to have failed, and right after why. -/
def FailureNoted (notes : List Note) (hash : Hash) (receipt : Receipt) (reason : RevertReason) :
    Prop :=
  receipt.success = false ∧
    ∃ learnt, .ofReceipt hash receipt :: learnt <:+: notes ∧ receipt.Explains learnt reason

/-- The notes bear out the end of a wait for a transaction. -/
def Confirmation.Noted (notes : List Note) (hash : Hash) : Confirmation → Prop
  | confirmed receipt => .ofReceipt hash receipt ∈ notes ∧ receipt.success = true
  | reverted receipt reason => FailureNoted notes hash receipt reason
  | timedOut _ _ => True

/-- A call with the result that it came to. -/
structure Answered where
  call : Operation
  result : Except Fault Achieved

/-- Each call of a desk as an operation on the floor that ends with the call and its result. -/
def Connector.answering (c : Connector) (op : Operation) : Nat × Routine Answered :=
  (0, (c.perform op).run.bind fun result => .done ⟨op, result⟩)

/-- What every call of a desk meets under the log, each finished call of a scene has met. -/
theorem Connector.logs_of_finished {c : Connector} {Q : Answered → List Event → Prop}
    (logs : ∀ op, (c.perform op).Logs fun result own => Q ⟨op, result⟩ own) (common : Common)
    (books : List Book) (choices : List (Choice Operation)) {me : Nat} {job : Job Answered}
    {answered : Answered}
    (here : ((Scene.opening common books).play c.answering choices).jobs[me]? = some job)
    (finished : job.progress = .finished answered) :
    Q answered (((Scene.opening common books).play c.answering choices).log me) := by
  refine Scene.logs_of_finished (fun op => ?_) common books choices here finished
  exact (Routine.safe_bind _ _ _).2 (logs op)

/-- **The status of a record is borne out**: by the receipt of its own placement, or by the number
that it was adopted with. Only a placement that was sent is tracked. -/
def OrderRecord.Justified (exchange : Address) (notes : List Note) (calls : List Answered)
    (r : OrderRecord) : Prop :=
  match r.status with
  | .awaitingConfirmation => True
  | .resting number =>
    (∃ receipt, .ofReceipt r.hash receipt ∈ notes ∧ receipt.success = true ∧
      receipt.FirstPlaces exchange number) ∨
    ∃ pair side record,
      ⟨.adopt r.id pair side r.hash (some number), .ok (.adopted record)⟩ ∈ calls
  | .immediatelyFilled =>
    ∃ receipt, .ofReceipt r.hash receipt ∈ notes ∧ receipt.success = true ∧
      receipt.OnlyMatches exchange
  | .failed reason => ∃ receipt, FailureNoted notes r.hash receipt reason
  | .pendingSubmit | .cancelled _ => False

section Longer

variable {notes notes' : List Note} {calls calls' : List Answered}

theorem FailureNoted.mono {hash : Hash} {receipt : Receipt} {reason : RevertReason}
    (h : FailureNoted notes hash receipt reason) (longer : notes <+: notes') :
    FailureNoted notes' hash receipt reason := by
  obtain ⟨failed, learnt, noted, explains⟩ := h
  exact ⟨failed, learnt, noted.trans longer.isInfix, explains⟩

theorem Confirmation.Noted.mono {hash : Hash} {confirmation : Confirmation}
    (h : confirmation.Noted notes hash) (longer : notes <+: notes') :
    confirmation.Noted notes' hash := by
  cases confirmation with
  | confirmed receipt => exact ⟨longer.subset h.1, h.2⟩
  | reverted receipt reason => exact FailureNoted.mono h longer
  | timedOut hash timeout => trivial

/-- More notes and more calls bear out as much. -/
theorem OrderRecord.Justified.mono {exchange : Address} {r : OrderRecord}
    (h : r.Justified exchange notes calls) (longer : notes <+: notes') (more : calls <+: calls') :
    r.Justified exchange notes' calls' := by
  unfold Justified at *
  split
  · trivial
  · next status =>
    rw [status] at h
    refine Or.imp ?_ ?_ h
    · rintro ⟨receipt, noted, placed⟩
      exact ⟨receipt, longer.subset noted, placed⟩
    · rintro ⟨pair, side, record, adopted⟩
      exact ⟨pair, side, record, more.subset adopted⟩
  · next status =>
    rw [status] at h
    obtain ⟨receipt, noted, filled⟩ := h
    exact ⟨receipt, longer.subset noted, filled⟩
  · next status =>
    rw [status] at h
    obtain ⟨receipt, failed⟩ := h
    exact ⟨receipt, failed.mono longer⟩
  · next status =>
    rw [status] at h
    exact h
  · next status =>
    rw [status] at h
    exact h

end Longer

/-- What a confirmation settles is borne out by the notes that bear out the confirmation. -/
theorem OrderRecord.justified_apply {exchange : Address} {notes : List Note}
    {calls : List Answered} {r : OrderRecord} {receipt : Receipt}
    (noted : .ofReceipt r.hash receipt ∈ notes) (success : receipt.success = true) :
    (r.apply (.ofTrace (receipt.trace exchange))).Justified exchange notes calls := by
  cases h : receipt.trace exchange with
  | placed number => exact .inl ⟨receipt, noted, success, Receipt.trace_eq_placed.1 h⟩
  | immediatelyFilled => exact ⟨receipt, noted, success, Receipt.trace_eq_immediatelyFilled.1 h⟩
  | notFound => trivial

/-! ### Waiting for a receipt -/

/-- The node was asked for the receipt of the transaction and had none to give. -/
def Note.Misses (hash : Hash) (note : Note) : Prop :=
  ∃ answer : Except DeskError (Option Receipt),
    (∀ receipt, answer ≠ .ok (some receipt)) ∧ note = ⟨.receipt hash, answer⟩

/-- **A wait for a transaction**, by its notes and its end: the receipt is looked up until it is
there, and after it comes only what explains a failure. -/
inductive Lookups (hash : Hash) : List Note → Except Fault Confirmation → Prop
  | confirmed {misses : List Note} {receipt : Receipt} (missed : ∀ note ∈ misses, note.Misses hash)
    (success : receipt.success = true) :
    Lookups hash (misses ++ [.ofReceipt hash receipt]) (.ok (.confirmed receipt))
  | reverted {misses learnt : List Note} {receipt : Receipt} {reason : RevertReason}
    (missed : ∀ note ∈ misses, note.Misses hash) (failed : receipt.success = false)
    (explains : receipt.Explains learnt reason) :
    Lookups hash (misses ++ .ofReceipt hash receipt :: learnt) (.ok (.reverted receipt reason))
  | timedOut {misses : List Note} (timeout : Duration) (missed : ∀ note ∈ misses, note.Misses hash) :
    Lookups hash misses (.ok (.timedOut hash timeout))
  | stopped {misses : List Note} (missed : ∀ note ∈ misses, note.Misses hash) :
    Lookups hash misses (.error (.error (.shutdown hash)))
  /-- The number of attempts left its range; nothing was looked up. -/
  | arithmetic : Lookups hash [] (.error (.breakdown .arithmetic))

section Waiting

open Attempt

/-- The reason of a failure is learnt from what is noted meanwhile, without errors. -/
theorem revertReasonOf_logs (receipt : Receipt) :
    (revertReasonOf receipt).Logs fun r own =>
      ∃ reason, r = .ok reason ∧ receipt.Explains (notesOf own) reason := by
  unfold revertReasonOf
  refine logs_reply_bind fun answer => ?_
  split
  · next tx => exact logs_reply_bind fun result => ⟨_, rfl, .repeated tx result⟩
  · next missing => exact ⟨_, rfl, .unknown answer missing⟩

/-- The receipt was missed in all attempts so far. -/
theorem pollReceipt_logs (hash : Hash) (interval timeout : Duration) (attempts : Nat)
    (misses : List Note) (missed : ∀ note ∈ misses, note.Misses hash) :
    (pollReceipt hash interval timeout attempts).Logs fun r own =>
      Lookups hash (misses ++ notesOf own) r := by
  induction attempts generalizing misses with
  | zero =>
    show Lookups hash (misses ++ []) _
    rw [List.append_nil]
    exact .timedOut timeout missed
  | succ rest ih =>
    unfold pollReceipt Attempt.stopping
    refine logs_act_bind fun stopping => ?_
    show Logs _ (if stopping then _ else _)
    split
    · show Lookups hash (misses ++ []) _
      rw [List.append_nil]
      exact .stopped missed
    · refine logs_reply_bind fun answer => ?_
      split
      · next receipt =>
        split
        · next success => exact .confirmed missed success
        · next failure =>
          refine Logs.bind (revertReasonOf_logs receipt) ?_ ?_
          · rintro reason own ⟨_, same, explains⟩
            cases same
            show Lookups hash (misses ++ .ofReceipt hash receipt :: notesOf (own ++ [])) _
            rw [List.append_nil]
            exact .reverted missed (by simpa using failure) explains
          · rintro _ _ ⟨_, same, _⟩
            cases same
      · next missing =>
        -- One more miss is noted, and the wait goes on or ends with it.
        have more : ∀ note ∈ misses ++ [⟨.receipt hash, answer⟩], note.Misses hash := by
          intro note mem
          rcases List.mem_append.1 mem with before | now
          · exact missed note before
          · exact ⟨answer, missing, List.mem_singleton.1 now⟩
        split
        · exact .timedOut timeout more
        · refine logs_sleep_bind fun stopped => ?_
          split
          · exact .stopped more
          · refine (ih _ more).mono fun r own looked => ?_
            rw [List.append_assoc] at looked
            exact looked

/-- **Every wait for a transaction** goes so, for whatever time. -/
theorem confirmWithin_logs (p : PollPolicy) (hash : Hash) (timeout : Duration) :
    (p.confirmWithin hash timeout).Logs fun r own => Lookups hash (notesOf own) r := by
  unfold PollPolicy.confirmWithin
  split
  · exact pollReceipt_logs _ _ _ _ [] fun _ mem => absurd mem List.not_mem_nil
  · exact .arithmetic

theorem confirm_logs (p : PollPolicy) (hash : Hash) :
    (p.confirm hash).Logs fun r own => Lookups hash (notesOf own) r :=
  confirmWithin_logs p hash p.timeout

/-- A wait for a transaction ends with what the notes bear out, and has no error but that it was
stopped. -/
theorem confirm_noted {ε : Type} {env : Environment ε} {s : Desk × ε × List Note} (p : PollPolicy)
    (hash : Hash) :
    (p.confirm hash).Safe env.noted.alone
      (Verdict (fun confirmation s' => confirmation.Noted s'.2.2 hash)
        fun e _ => e = .shutdown hash) s := by
  refine (confirm_logs p hash).noted.mono ?_
  rintro r s' ⟨own, more, looked⟩
  generalize notesOf own = notes at looked more
  cases looked with
  | @confirmed misses receipt missed success =>
    refine ⟨?_, success⟩
    rw [more]
    exact List.mem_append_right _ (List.mem_append_right _ (List.mem_singleton_self _))
  | @reverted misses learnt receipt reason missed failed explains =>
    refine ⟨failed, learnt, ⟨s.2.2 ++ misses, [], ?_⟩, explains⟩
    rw [more, List.append_nil, List.append_assoc]
  | timedOut timeout missed => trivial
  | stopped missed => rfl
  | arithmetic => trivial

end Waiting
end OrderDesk
