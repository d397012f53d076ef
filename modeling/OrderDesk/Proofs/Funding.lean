import OrderDesk.Proofs.CallLogs
import OrderDesk.Proofs.PlacementData

/-!
# `OrderDesk.Proofs.Funding` — what is checked is what is spent

A placement asks for the figures of one token and spends an amount of one token. Both follow from the
side of the order and from which of its tokens is the native one, each on a path of its own. Here the
figures that were told are set against the transaction that is sent, over every run of the floor.

## Contents
- `Event.TellsBalance`, `Event.TellsAllowance`: the node reported a figure.
- `Checks`, `checkOnChain_logs`: how a check of funds goes.
- `Event.Carrying`: sending, waiting and settling ask for no figures, and send one call only.
- `Connector.Prepares`: the tokens of an order and its placement.
- `PlaceTells`, `Connector.place_logs`: the log of a placement.
- `Connector.placement_funded`: the result for every run.
-/

namespace OrderDesk

open Attempt

/-! ### Figures -/

namespace FundsCall

/-- The question for a balance. -/
def balanceRequest (owner : Address) (token : Token) : Request :=
  if token.native then .balance owner
  else .call (TxRequest.view owner (balanceOf token.address owner)) none

/-- The question for an allowance. -/
def allowanceRequest (owner : Address) (token : Token) (spender : Address) : Request :=
  .call (TxRequest.view owner (allowance token.address owner spender)) none

/-- The two are different questions: their selectors are. -/
theorem balanceRequest_ne (owner : Address) (token : Token) (spender : Address) :
    balanceRequest owner token ≠ allowanceRequest owner token spender := by
  unfold balanceRequest allowanceRequest
  split
  · nofun
  · intro same
    injection same with views
    have data : (balanceOf token.address owner).data =
      (allowance token.address owner spender).data := congrArg TxRequest.data views
    exact absurd (List.cons.inj data).1 (by decide)

theorem asksFunds_balanceRequest (owner : Address) (token : Token) :
    (balanceRequest owner token).asksFunds = true := by
  unfold balanceRequest
  split <;> rfl

end FundsCall

namespace Event

/-- The node reported a word that a call of a contract returned. -/
def TellsWord (owner : Address) (call : Call) (w : Word) (ev : Event) : Prop :=
  ∃ returned, ev = .told (.call (TxRequest.view owner call) none) (.ok returned) ∧
    Abi.wordAt? returned 0 = some w

/-- The node reported the owner's balance of a token: of the native one as such, of another by what
its contract returned. -/
def TellsBalance (owner : Address) (token : Token) (w : Word) (ev : Event) : Prop :=
  if token.native then ev = .told (.balance owner) (.ok w)
  else ev.TellsWord owner (FundsCall.balanceOf token.address owner) w

/-- A token's contract reported what the spender may take from the owner. -/
def TellsAllowance (owner : Address) (token : Token) (spender : Address) (w : Word) (ev : Event) :
    Prop :=
  ev.TellsWord owner (FundsCall.allowance token.address owner spender) w

/-- The event is the reply to a question. -/
def Answers (r : Request) (ev : Event) : Prop := ∃ x : r.Reply, ev = .told r x

variable {owner spender : Address} {token : Token} {w : Word} {ev : Event}

theorem TellsBalance.answers (h : ev.TellsBalance owner token w) :
    ev.Answers (FundsCall.balanceRequest owner token) := by
  unfold TellsBalance at h
  unfold FundsCall.balanceRequest
  split at h
  · next native =>
    rw [if_pos native]
    exact ⟨_, h⟩
  · next other =>
    rw [if_neg other]
    obtain ⟨returned, rfl, -⟩ := h
    exact ⟨_, rfl⟩

theorem TellsAllowance.answers (h : ev.TellsAllowance owner token spender w) :
    ev.Answers (FundsCall.allowanceRequest owner token spender) := by
  obtain ⟨returned, rfl, -⟩ := h
  exact ⟨_, rfl⟩

/-- A reply answers one question only. -/
theorem Answers.unique {r r' : Request} (h : ev.Answers r) (h' : ev.Answers r') : r = r' := by
  obtain ⟨x, rfl⟩ := h
  obtain ⟨x', same⟩ := h'
  cases same
  rfl

/-- The event leaves the wallet alone and tells no figure. -/
def Idle (ev : Event) : Prop := ev.OffWallet ∧ ev.OffFunds

theorem OffFunds.not_balance (h : ev.OffFunds) : ¬ ev.TellsBalance owner token w := by
  intro tells
  obtain ⟨x, rfl⟩ := tells.answers
  have asks := FundsCall.asksFunds_balanceRequest owner token
  rw [show (FundsCall.balanceRequest owner token).asksFunds = false from h] at asks
  cases asks

theorem OffFunds.not_allowance (h : ev.OffFunds) : ¬ ev.TellsAllowance owner token spender w := by
  intro tells
  obtain ⟨x, rfl⟩ := tells.answers
  cases h

end Event

/-! ### The check -/

/-- A question and its reply, whose error is the operation's. -/
theorem logs_ask {r : Request} {Q : Except Fault r.Answer → List Event → Prop} :
    (ask r).Logs Q ↔ ∀ x : r.Reply, Q (x.mapError .error) [.asked r, .told r x] := by
  unfold Logs
  rw [safe_ask]
  simp

/-- A word is told exactly if the reading has it. -/
theorem readWord_logs (owner : Address) (call : Call) :
    (readWord owner call).Logs fun r own => ∃ ev,
      own = [.asked (.call (TxRequest.view owner call) none), ev] ∧
      ev.Answers (.call (TxRequest.view owner call) none) ∧
      ∀ w, ev.TellsWord owner call w ↔ r = .ok w := by
  unfold readWord
  refine Logs.bind (R := fun r own => ∃ x : Except DeskError Bytes,
    own = [.asked (.call (TxRequest.view owner call) none),
      .told (.call (TxRequest.view owner call) none) x] ∧ r = x.mapError .error)
    (logs_ask.2 fun x => ⟨x, rfl, rfl⟩) ?_ ?_
  · rintro returned own ⟨x, rfl, same⟩
    obtain rfl : x = .ok returned := by
      cases x with
      | ok y =>
        cases same
        rfl
      | error e => cases same
    have tells (w : Word) :
        (Event.told (.call (TxRequest.view owner call) none) (.ok returned)).TellsWord owner call w ↔
          Abi.wordAt? returned 0 = some w := by
      constructor
      · rintro ⟨returned', same, word⟩
        cases same
        exact word
      · exact fun word => ⟨returned, rfl, word⟩
    split
    · next w' found =>
      refine ⟨_, rfl, ⟨_, rfl⟩, fun w => ?_⟩
      rw [tells, found, Option.some.injEq, Except.ok.injEq]
    · next none =>
      refine ⟨_, rfl, ⟨_, rfl⟩, fun w => ?_⟩
      rw [tells, none]
      exact ⟨nofun, nofun⟩
  · rintro fault own ⟨x, rfl, same⟩
    refine ⟨_, rfl, ⟨x, rfl⟩, fun w => ⟨?_, nofun⟩⟩
    rintro ⟨returned, told, -⟩
    cases told
    cases same

/-- A balance is told exactly if the reading has it. -/
theorem balanceOf_logs (owner : Address) (token : Token) :
    (balanceOf owner token).Logs fun r own => ∃ ev,
      own = [.asked (FundsCall.balanceRequest owner token), ev] ∧
      ev.Answers (FundsCall.balanceRequest owner token) ∧
      ∀ w, ev.TellsBalance owner token w ↔ r = .ok w := by
  unfold balanceOf FundsCall.balanceRequest Event.TellsBalance
  split
  · refine logs_ask.2 fun x => ⟨_, rfl, ⟨x, rfl⟩, fun w => ?_⟩
    cases x with
    | ok w' =>
      constructor
      · intro same
        cases same
        rfl
      · intro same
        cases same
        rfl
    | error e => exact ⟨nofun, nofun⟩
  · exact readWord_logs _ _

/-- **How a check of funds goes.** It passes only with figures that cover what is required, and ends
at the first figure that does not. -/
structure Checks (owner : Address) (token : Token) (required : Word) (spender : Address)
    (own : List Event) (r : Except Fault Unit) : Prop where
  balance : r = .ok () → ∃ ev ∈ own, ∃ w, ev.TellsBalance owner token w ∧ required ≤ w
  allowance : r = .ok () → token.native = false →
    ∃ ev ∈ own, ∃ w, ev.TellsAllowance owner token spender w ∧ required ≤ w
  lowBalance : ∀ ev ∈ own, ∀ w, ev.TellsBalance owner token w → w < required →
    r = .error (.error (.insufficientBalance token.symbol required w))
  lowAllowance : ∀ ev ∈ own, ∀ w, ev.TellsAllowance owner token spender w → w < required →
    r = .error (.error (.insufficientAllowance token.symbol required w))

/-- What is asked and replied for a figure tells that figure, if any, and no other. -/
theorem tells_of_pair {r q : Request} {told ev : Event} (answers : told.Answers q)
    (mem : ev ∈ [.asked r, told]) {q' : Request} (tells : ev.Answers q') : ev = told ∧ q' = q := by
  rcases List.mem_cons.1 mem with rfl | mem
  · obtain ⟨x, same⟩ := tells
    cases same
  · obtain rfl := List.mem_singleton.1 mem
    exact ⟨rfl, tells.unique answers⟩

/-- The second half of a check, in which no balance is told. -/
theorem checkAllowance_logs (owner : Address) (token : Token) (required : Word) (spender : Address) :
    (do
      let approved ← readWord owner (FundsCall.allowance token.address owner spender)
      if approved < required then fail (.insufficientAllowance token.symbol required approved)
      else pure () : Attempt Unit).Logs fun r own =>
        (∀ ev ∈ own, ∀ w, ¬ ev.TellsBalance owner token w) ∧
        (r = .ok () → ∃ ev ∈ own, ∃ w, ev.TellsAllowance owner token spender w ∧ required ≤ w) ∧
        (∀ ev ∈ own, ∀ w, ev.TellsAllowance owner token spender w → w < required →
          r = .error (.error (.insufficientAllowance token.symbol required w))) := by
  have differ := FundsCall.balanceRequest_ne owner token spender
  refine Logs.bind (readWord_logs owner _) ?_ ?_
  · rintro approved own ⟨told, rfl, answers, tells⟩
    have noBalance : ∀ ev ∈ [.asked (FundsCall.allowanceRequest owner token spender), told], ∀ w,
        ¬ ev.TellsBalance owner token w := by
      intro ev mem w tell
      exact differ (tells_of_pair answers mem tell.answers).2
    have allowance : ∀ ev ∈ [.asked (FundsCall.allowanceRequest owner token spender), told], ∀ w,
        ev.TellsAllowance owner token spender w → w = approved := by
      intro ev mem w tell
      obtain ⟨rfl, -⟩ := tells_of_pair answers mem tell.answers
      exact (Except.ok.inj ((tells w).1 tell)).symm
    split
    · next low =>
      rw [logs_fail, List.append_nil]
      refine ⟨noBalance, nofun, fun ev mem w tell _ => ?_⟩
      rw [allowance ev mem w tell]
    · next covered =>
      rw [logs_pure, List.append_nil]
      refine ⟨noBalance, fun _ => ?_, fun ev mem w tell low => ?_⟩
      · exact ⟨told, by simp, approved, (tells approved).2 rfl, BitVec.not_lt.1 covered⟩
      · rw [allowance ev mem w tell] at low
        exact absurd low covered
  · rintro fault own ⟨told, rfl, answers, tells⟩
    refine ⟨fun ev mem w tell => ?_, nofun, fun ev mem w tell => ?_⟩
    · exact differ (tells_of_pair answers mem tell.answers).2
    · obtain ⟨rfl, -⟩ := tells_of_pair answers mem tell.answers
      cases (tells w).1 tell

theorem checkOnChain_logs (owner : Address) (token : Token) (required : Word) (spender : Address) :
    (checkOnChain owner token required spender).Logs fun r own =>
      Checks owner token required spender own r := by
  have differ := FundsCall.balanceRequest_ne owner token spender
  unfold checkOnChain
  refine Logs.bind (balanceOf_logs owner token) ?_ ?_
  · rintro available first ⟨told, rfl, answers, tells⟩
    have balance : ∀ ev ∈ [.asked (FundsCall.balanceRequest owner token), told], ∀ w,
        ev.TellsBalance owner token w → w = available := by
      intro ev mem w tell
      obtain ⟨rfl, -⟩ := tells_of_pair answers mem tell.answers
      exact (Except.ok.inj ((tells w).1 tell)).symm
    have noAllowance : ∀ ev ∈ [.asked (FundsCall.balanceRequest owner token), told], ∀ w,
        ¬ ev.TellsAllowance owner token spender w := by
      intro ev mem w tell
      obtain ⟨-, same⟩ := tells_of_pair answers mem tell.answers
      exact differ same.symm
    split
    · next low =>
      rw [logs_fail, List.append_nil]
      refine ⟨nofun, nofun, fun ev mem w tell _ => ?_, fun ev mem w tell => ?_⟩
      · rw [balance ev mem w tell]
      · exact absurd tell (noAllowance ev mem w)
    · next covered =>
      have enough : ∃ ev ∈ [.asked (FundsCall.balanceRequest owner token), told], ∃ w,
          ev.TellsBalance owner token w ∧ required ≤ w :=
        ⟨told, by simp, available, (tells available).2 rfl, BitVec.not_lt.1 covered⟩
      have notLow : ∀ ev ∈ [.asked (FundsCall.balanceRequest owner token), told], ∀ w,
          ev.TellsBalance owner token w → ¬ w < required := by
        intro ev mem w tell
        rw [balance ev mem w tell]
        exact covered
      split
      · next native =>
        rw [logs_pure, List.append_nil]
        refine ⟨fun _ => enough, fun _ other => ?_, fun ev mem w tell low => ?_,
          fun ev mem w tell => ?_⟩
        · rw [native] at other
          cases other
        · exact absurd low (notLow ev mem w tell)
        · exact absurd tell (noAllowance ev mem w)
      · refine (checkAllowance_logs owner token required spender).mono ?_
        rintro r second ⟨noBalance, passed, lowAllowance⟩
        refine ⟨fun _ => ?_, fun same _ => ?_, fun ev mem w tell low => ?_, fun ev mem w tell low => ?_⟩
        · obtain ⟨ev, mem, covers⟩ := enough
          exact ⟨ev, List.mem_append_left _ mem, covers⟩
        · obtain ⟨ev, mem, covers⟩ := passed same
          exact ⟨ev, List.mem_append_right _ mem, covers⟩
        · rcases List.mem_append.1 mem with mem | mem
          · exact absurd low (notLow ev mem w tell)
          · exact absurd tell (noBalance ev mem w)
        · rcases List.mem_append.1 mem with mem | mem
          · exact absurd tell (noAllowance ev mem w)
          · exact lowAllowance ev mem w tell low
  · rintro fault first ⟨told, rfl, answers, tells⟩
    refine ⟨nofun, nofun, fun ev mem w tell => ?_, fun ev mem w tell => ?_⟩
    · obtain ⟨rfl, -⟩ := tells_of_pair answers mem tell.answers
      cases (tells w).1 tell
    · obtain ⟨-, same⟩ := tells_of_pair answers mem tell.answers
      exact absurd same.symm differ

/-! ### Sending -/

/-- The event tells no figure, and a transaction that is sent by it makes the call for the wallet. -/
def Event.Carrying (s : Sender) (call : Call) : Event → Prop
  | asked (.send tx) => tx.request.sender = s.wallet ∧ tx.request.call = call
  | told r _ => r.asksFunds = false
  | _ => True

theorem Event.Carrying.offFunds {s : Sender} {call : Call} {ev : Event} (h : ev.Carrying s call) :
    ev.OffFunds := by
  cases ev with
  | told r x => exact h
  | _ => trivial

theorem Event.Minor.carrying {s : Sender} {call : Call} {ev : Event} (h : ev.Minor) :
    ev.Carrying s call := by
  cases ev with
  | asked r =>
    cases r with
    | send tx => cases h.aside.1
    | _ => trivial
  | told r x => exact h.offFunds
  | _ => trivial

namespace Carrying

variable {s : Sender} {call : Call}

/-- No contradiction is ruled out. -/
theorem sound {α : Type} (r : Except Fault α) : Sound (Event.Carrying s call) r :=
  fun _ _ => ⟨.did (.resolve "" .unresolved) (.error .arithmetic), trivial, trivial⟩

theorem step (e : Effect) : (act e).Only (Event.Carrying s call) := only_act.2 fun _ => trivial

theorem sendNext : (s.sendNext call).Only (Event.Carrying s call) := by
  unfold Sender.sendNext
  refine Only.bind (acquire_only trivial (fun _ => rfl) fun _ _ => trivial) fun nonce => ?_
  exact submit_only ((gasLimit_minor s call).mono fun _ h => h.carrying)
    ((gasPrice_minor s).mono fun _ h => h.carrying) (fun _ sender carries => ⟨sender, carries⟩)
    (fun _ _ => rfl) nonce

theorem confirm (p : PollPolicy) (hash : Hash) : (p.confirm hash).Only (Event.Carrying s call) :=
  confirm_only (fun _ h => h.carrying) trivial (fun _ => rfl) p

theorem resolveOrder (id : String) (resolution : Resolution) :
    (Connector.resolveOrder id resolution).Only (Event.Carrying s call) := by
  unfold Connector.resolveOrder
  refine Only.bind (step _) fun result => ?_
  exact Only.bind (only_ofOutcome.2 (sound _)) fun _ => only_pure _

theorem settle (c : Connector) (id : String) (confirmation : Confirmation) :
    (c.settle id confirmation).Only (Event.Carrying s call) := by
  unfold Connector.settle
  cases confirmation with
  | confirmed receipt =>
    exact Only.bind (step _) fun _ => Only.bind (resolveOrder _ _) fun _ => only_pure _
  | reverted receipt reason =>
    refine Only.bind (step _) fun _ => Only.bind (step _) fun _ => ?_
    exact Only.bind (resolveOrder _ _) fun _ => only_pure _
  | timedOut hash timeout => exact Only.bind (step _) fun _ => only_pure _

theorem broadcast (c : Connector) (id : String) (placement : Placement) :
    (c.broadcast id placement).Only (Event.Carrying c.sender placement.call) := by
  unfold Connector.broadcast
  have sending : (Connector.countRefusal (c.sender.sendNext placement.call)).Only
      (Event.Carrying c.sender placement.call) :=
    Connector.countRefusal_only sendNext (fun _ => trivial) fun _ => trivial
  refine Only.bind (Connector.orRelease_only sending fun _ => trivial) fun submitted => ?_
  refine Only.bind (step _) fun result => ?_
  refine Only.bind (only_ofOutcome.2 (sound _)) fun _ => ?_
  exact Only.bind (step _) fun _ => only_pure _

end Carrying

/-! ### Placements -/

namespace Connector

variable {c : Connector} {order : OrderRequest}

/-- The order is one of these tokens, and this is its placement. -/
structure Prepares (c : Connector) (order : OrderRequest) (base quote : Token) (p : Placement) :
    Prop where
  ofBase : c.deployment.resolve? order.pair.base = some base
  ofQuote : c.deployment.resolve? order.pair.quote = some quote
  built : ∃ price, order.executionPrice c.slippage = .ok price ∧
    c.calls.placement order.side base quote order.amount price = .ok p

/-- There is only one way to prepare an order. -/
theorem Prepares.unique {base quote base' quote' : Token} {p p' : Placement}
    (h : c.Prepares order base quote p) (h' : c.Prepares order base' quote' p') :
    base' = base ∧ quote' = quote ∧ p' = p := by
  obtain rfl := Option.some.inj (h'.ofBase.symm.trans h.ofBase)
  obtain rfl := Option.some.inj (h'.ofQuote.symm.trans h.ofQuote)
  obtain ⟨price, executes, built⟩ := h.built
  obtain ⟨price', executes', built'⟩ := h'.built
  obtain rfl := Except.ok.inj (executes'.symm.trans executes)
  exact ⟨rfl, rfl, Except.ok.inj (built'.symm.trans built)⟩

theorem resolve_logs (c : Connector) (symbol : String) :
    (c.resolve symbol).Logs fun r _ =>
      ∀ token, r = .ok token → c.deployment.resolve? symbol = some token := by
  unfold resolve
  split
  · next token found =>
    rintro _ ⟨⟩
    exact found
  · exact nofun

theorem prepare_logs (c : Connector) (id : String) (order : OrderRequest) :
    (c.prepare id order).Logs fun r own => (∀ ev ∈ own, ev.Idle) ∧
      ∀ terms, r = .ok terms → c.Prepares order terms.1 terms.2.1 terms.2.2 := by
  have idle : (c.prepare id order).Only Event.Idle :=
    c.prepare_only order (fun _ => ⟨rfl, trivial⟩) fun _ => ⟨rfl, trivial⟩
  refine idle.logs.and ?_
  unfold prepare
  refine logs_act_bind fun verdict => ?_
  refine Logs.bind (logs_trivial _) (fun _ _ _ => ?_) fun _ _ _ => nofun
  refine logs_act_bind fun present => ?_
  split
  · exact nofun
  · refine Logs.bind (c.resolve_logs _) (fun base _ ofBase => ?_) fun _ _ _ => nofun
    refine Logs.bind (c.resolve_logs _) (fun quote _ ofQuote => ?_) fun _ _ _ => nofun
    refine Logs.bind (R := fun r _ => r = order.executionPrice c.slippage) (logs_ofFault.2 rfl)
      (fun price _ executes => ?_) fun _ _ _ => nofun
    refine Logs.bind
      (R := fun r _ => r = c.calls.placement order.side base quote order.amount price)
      (logs_ofFault.2 rfl) (fun p _ built => ?_) fun _ _ _ => nofun
    rintro _ ⟨⟩
    exact ⟨ofBase _ rfl, ofQuote _ rfl, price, executes.symm, built.symm⟩

/-- Figures were told of a token before something happened, and they cover an amount. -/
structure Covered (owner : Address) (token : Token) (amount : Word) (spender : Address)
    (before : List Event) : Prop where
  balance : ∃ ev ∈ before, ∃ w, ev.TellsBalance owner token w ∧ amount ≤ w
  allowance : token.native = false →
    ∃ ev ∈ before, ∃ w, ev.TellsAllowance owner token spender w ∧ amount ≤ w

end Connector

open Connector

/-- **What the log of a placement says of its funds.** A transaction is sent only after figures that
cover what it spends; after one that does not nothing is done about the wallet, and the first such
figure is the answer. -/
structure PlaceTells (c : Connector) (order : OrderRequest) (log : List Event)
    (r : Except Fault OrderHandle) : Prop where
  sends : ∀ before tx after, log = before ++ .asked (.send tx) :: after →
    ∃ base quote p, c.Prepares order base quote p ∧ tx.request.sender = c.sender.wallet ∧
      tx.request.call = p.call ∧
      Covered c.sender.wallet (order.side.spent base quote) p.spend c.calls.exchange before
  lowBalance : ∀ base quote p, c.Prepares order base quote p → ∀ ev ∈ log, ∀ w,
    ev.TellsBalance c.sender.wallet (order.side.spent base quote) w → w < p.spend →
    (∀ ev ∈ log, ev.OffWallet) ∧
      r = .error (.error (.insufficientBalance (order.side.spent base quote).symbol p.spend w))
  lowAllowance : ∀ base quote p, c.Prepares order base quote p → ∀ ev ∈ log, ∀ w,
    ev.TellsAllowance c.sender.wallet (order.side.spent base quote) c.calls.exchange w →
    w < p.spend → (∀ ev ∈ log, ev.OffWallet) ∧
      r = .error (.error (.insufficientAllowance (order.side.spent base quote).symbol p.spend w))

namespace PlaceTells

variable {c : Connector} {order : OrderRequest} {log : List Event} {r : Except Fault OrderHandle}
  {base quote : Token} {p : Placement}

/-- Without a figure there is nothing to say. -/
theorem idle (h : ∀ ev ∈ log, ev.Idle) : PlaceTells c order log r where
  sends before tx after split := by
    have sent : .asked (.send tx) ∈ log := by simp [split]
    cases (h _ sent).1
  lowBalance base quote p _ ev mem w tells _ := absurd tells (h ev mem).2.not_balance
  lowAllowance base quote p _ ev mem w tells _ := absurd tells (h ev mem).2.not_allowance

/-- The check ended the placement. -/
theorem refused {own : List Event} {fault : Fault} {before after : List Event}
    (prepares : c.Prepares order base quote p)
    (checks : Checks c.sender.wallet (order.side.spent base quote) p.spend c.calls.exchange own
      (.error fault))
    (off : ∀ ev ∈ own, ev.OffWallet) (first : ∀ ev ∈ before, ev.Idle) (last : ∀ ev ∈ after, ev.Idle) :
    PlaceTells c order (before ++ (own ++ after)) (.error fault) := by
  have offAll : ∀ ev ∈ before ++ (own ++ after), ev.OffWallet := by
    intro ev mem
    simp only [List.mem_append] at mem
    rcases mem with mem | mem | mem
    · exact (first ev mem).1
    · exact off ev mem
    · exact (last ev mem).1
  -- Only the check tells figures.
  have told {ev : Event} (mem : ev ∈ before ++ (own ++ after)) (tells : ¬ ev.OffFunds) : ev ∈ own := by
    simp only [List.mem_append] at mem
    rcases mem with mem | mem | mem
    · exact absurd (first ev mem).2 tells
    · exact mem
    · exact absurd (last ev mem).2 tells
  refine ⟨fun start tx rest split => ?_, ?_, ?_⟩
  · have sent : .asked (.send tx) ∈ before ++ (own ++ after) := by simp [split]
    cases offAll _ sent
  · intro base' quote' p' prepares' ev mem w tells low
    obtain ⟨rfl, rfl, rfl⟩ := prepares.unique prepares'
    have same := checks.lowBalance ev (told mem fun off => off.not_balance tells) w tells low
    cases same
    exact ⟨offAll, rfl⟩
  · intro base' quote' p' prepares' ev mem w tells low
    obtain ⟨rfl, rfl, rfl⟩ := prepares.unique prepares'
    have same := checks.lowAllowance ev (told mem fun off => off.not_allowance tells) w tells low
    cases same
    exact ⟨offAll, rfl⟩

/-- The check passed, and the placement went on. -/
theorem passed {own before after : List Event} (prepares : c.Prepares order base quote p)
    (checks : Checks c.sender.wallet (order.side.spent base quote) p.spend c.calls.exchange own
      (.ok ()))
    (off : ∀ ev ∈ own, ev.OffWallet) (first : ∀ ev ∈ before, ev.Idle)
    (last : ∀ ev ∈ after, ev.Carrying c.sender p.call) :
    PlaceTells c order (before ++ (own ++ after)) r := by
  have told {ev : Event} (mem : ev ∈ before ++ (own ++ after)) (tells : ¬ ev.OffFunds) : ev ∈ own := by
    simp only [List.mem_append] at mem
    rcases mem with mem | mem | mem
    · exact absurd (first ev mem).2 tells
    · exact mem
    · exact absurd (last ev mem).offFunds tells
  refine ⟨fun start tx rest split => ?_, ?_, ?_⟩
  · -- What is sent is sent after the check.
    have late : .asked (.send tx) ∉ before ++ own := by
      intro mem
      rcases List.mem_append.1 mem with mem | mem
      · cases (first _ mem).1
      · cases off _ mem
    have sent : .asked (.send tx) ∈ after ∧ ∀ ev ∈ own, ev ∈ start := by
      rw [← List.append_assoc] at split
      rcases List.append_eq_append_iff.1 split with ⟨between, rfl, rfl⟩ | ⟨extra, early, same⟩
      · exact ⟨by simp, fun ev mem => by simp [mem]⟩
      · cases extra with
        | nil =>
          rw [List.append_nil] at early
          rw [List.nil_append] at same
          rw [← early, ← same]
          exact ⟨by simp, fun ev mem => by simp [mem]⟩
        | cons ev extra =>
          cases same
          exact absurd (by simp [early]) late
    obtain ⟨sender, carries⟩ := last _ sent.1
    refine ⟨base, quote, p, prepares, sender, carries, ?_, fun other => ?_⟩
    · obtain ⟨ev, mem, covers⟩ := checks.balance rfl
      exact ⟨ev, sent.2 ev mem, covers⟩
    · obtain ⟨ev, mem, covers⟩ := checks.allowance rfl other
      exact ⟨ev, sent.2 ev mem, covers⟩
  · intro base' quote' p' prepares' ev mem w tells low
    obtain ⟨rfl, rfl, rfl⟩ := prepares.unique prepares'
    cases checks.lowBalance ev (told mem fun off => off.not_balance tells) w tells low
  · intro base' quote' p' prepares' ev mem w tells low
    obtain ⟨rfl, rfl, rfl⟩ := prepares.unique prepares'
    cases checks.lowAllowance ev (told mem fun off => off.not_allowance tells) w tells low

end PlaceTells

namespace Connector

variable {c : Connector} {order : OrderRequest}

/-- A check that fails is followed by the release of the identifier. -/
theorem orRelease_logs (id : String) {body : Attempt Unit}
    {Q : List Event → Except Fault Unit → Prop} (h : body.Logs fun r own => Q own r) :
    (orRelease id body).Logs fun r log => ∃ own after, log = own ++ after ∧ Q own r ∧
      (r = .ok () → after = []) ∧ ∀ ev ∈ after, ev.Idle := by
  unfold orRelease
  refine Logs.caught h fun r own hQ => ?_
  cases r with
  | ok _ => exact ⟨own, [], rfl, hQ, fun _ => rfl, fun _ mem => absurd mem List.not_mem_nil⟩
  | error fault =>
    refine logs_act_bind fun released => ?_
    refine ⟨own, [.did (.release id) released], rfl, hQ, nofun, fun ev mem => ?_⟩
    obtain rfl := List.mem_singleton.1 mem
    exact ⟨rfl, trivial⟩

/-- The check of a placement's funds, and what follows if it passes. -/
theorem funded_logs {base quote : Token} {p : Placement} {id : String} {before : List Event}
    {rest : Unit → Attempt OrderHandle} (prepares : c.Prepares order base quote p)
    (first : ∀ ev ∈ before, ev.Idle) (last : (rest ()).Only (Event.Carrying c.sender p.call)) :
    (orRelease id (checkOnChain c.sender.wallet (order.side.spent base quote) p.spend
      c.calls.exchange) >>= rest).Logs fun r more => PlaceTells c order (before ++ more) r := by
  have check := (checkOnChain_logs c.sender.wallet (order.side.spent base quote) p.spend
    c.calls.exchange).and (check_aside .onChain _ _ _ _).logs
  refine Logs.bind (orRelease_logs id check) ?_ ?_
  · rintro _ _ ⟨own, after, rfl, ⟨checks, aside⟩, ended, -⟩
    obtain rfl := ended rfl
    refine last.logs.mono fun r more carries => ?_
    rw [List.append_nil]
    exact .passed prepares checks (fun ev mem => (aside ev mem).offWallet) first carries
  · rintro fault _ ⟨own, after, rfl, ⟨checks, aside⟩, -, idle⟩
    exact .refused prepares checks (fun ev mem => (aside ev mem).offWallet) first idle

/-- **Every placement with checked funds** goes so. -/
theorem place_logs (c : Connector) (checked : c.funds = .onChain) (id : String)
    (order : OrderRequest) :
    (c.place id order).Logs fun r log => PlaceTells c order log r := by
  unfold place
  rw [checked]
  refine Logs.bind (c.prepare_logs id order) ?_ fun fault own looked => .idle looked.1
  rintro ⟨base, quote, p⟩ looked ⟨idle, prepares⟩
  have prepares : c.Prepares order base quote p := prepares _ rfl
  refine logs_act_bind fun created => logs_act_bind fun reserved => ?_
  have steps {e e' : Effect} (off : e.concernsWallet = false) (off' : e'.concernsWallet = false)
      (x : e.Answer) (x' : e'.Answer) : ∀ ev ∈ looked ++ [.did e x, .did e' x'], ev.Idle := by
    intro ev mem
    simp only [List.mem_append, List.mem_cons, List.not_mem_nil, or_false] at mem
    rcases mem with mem | rfl | rfl
    · exact idle ev mem
    · exact ⟨off, trivial⟩
    · exact ⟨off', trivial⟩
  refine Logs.bind (R := fun _ own => own = []) (logs_ofExcept.2 rfl) ?_ ?_
  · rintro _ _ rfl
    refine (funded_logs prepares (steps rfl rfl created reserved) ?_).mono fun r more tells => ?_
    · refine Only.bind (Only.locked trivial trivial trivial ?_) fun sent => ?_
      · refine Only.bind (Carrying.broadcast c id p) fun submitted => ?_
        split
        · exact Only.caught (Carrying.confirm _ _) fun _ _ => only_pure _
        · exact only_pure _
      · obtain ⟨submitted, confirmation⟩ := sent
        cases confirmation with
        | none => exact only_pure _
        | some result =>
          refine Only.bind (only_ofFault.2 (Carrying.sound _)) fun confirmation => ?_
          exact Only.bind (Carrying.settle _ _ _) fun _ => only_pure _
    · rwa [List.append_assoc] at tells
  · rintro fault _ rfl
    exact .idle (steps rfl rfl created reserved)

/-! ### Runs of the floor -/

/-- What was told before a transaction was sent covers what it spends: the value that is attached, or
the amount that its data say, to be taken by whom it is sent to. -/
structure Funded (side : Side) (base quote : Token) (before : List Event) (tx : SignedTx) : Prop where
  native : (side.spent base quote).native = true → ∃ ev ∈ before, ∃ w,
    ev.TellsBalance tx.request.sender (side.spent base quote) w ∧ tx.request.value ≤ w
  token : (side.spent base quote).native = false → ∃ amount,
    (EntryPoint.select side base quote).amount? tx.request.data = some amount ∧
    (∃ ev ∈ before, ∃ w,
      ev.TellsBalance tx.request.sender (side.spent base quote) w ∧ amount ≤ w) ∧
    ∃ ev ∈ before, ∃ w,
      ev.TellsAllowance tx.request.sender (side.spent base quote) tx.request.target w ∧ amount ≤ w

/-- The call took no nonce, sent nothing and did not come for the wallet's lock; once it is finished,
the error is its answer. -/
structure Denied (s : Scene (Except Fault Achieved)) (me : Nat) (e : DeskError) : Prop where
  off : ∀ ev ∈ s.log me, ev.OffWallet
  answer : ∀ job result, s.jobs[me]? = some job → job.progress = .finished result →
    result = .error (.error e)

theorem funded_of_covered {base quote : Token} {p : Placement} {before : List Event} {tx : SignedTx}
    (prepares : c.Prepares order base quote p) (sender : tx.request.sender = c.sender.wallet)
    (carries : tx.request.call = p.call)
    (covered : Covered c.sender.wallet (order.side.spent base quote) p.spend c.calls.exchange before) :
    Funded order.side base quote before tx := by
  obtain ⟨price, -, built⟩ := prepares.built
  have placed := CallBook.placed_of_placement built
  have value : tx.request.value = p.call.value := congrArg Call.value carries
  have data : tx.request.data = p.call.data := congrArg Call.data carries
  have target : tx.request.target = c.calls.exchange :=
    (congrArg Call.target carries).trans placed.target
  refine ⟨fun native => ?_, fun other => ⟨p.spend, ?_, ?_, ?_⟩⟩
  · rw [sender, value, placed.value, if_pos native]
    exact covered.balance
  · rw [data, ← placed.entryPoint]
    exact placed.amount?_eq (placed.attaches_eq.trans other)
  · rw [sender]
    exact covered.balance
  · rw [sender, target]
    exact covered.allowance other

/-- What every call of a desk leaves in its log; here only placements matter. -/
def Tells (c : Connector) : Operation → Except Fault Achieved → List Event → Prop
  | .place _ order, r, log => ∃ r', r = .placed <$> r' ∧ PlaceTells c order log r'
  | _, _, _ => True

theorem perform_tells (c : Connector) (checked : c.funds = .onChain) (op : Operation) :
    (c.onFloor op).2.Safe Watch.log (c.Tells op) [] := by
  cases op with
  | place id order =>
    exact logs_map.2 ((c.place_logs checked id order).mono fun r log tells => ⟨r, rfl, tells⟩)
  | confirm id => exact logs_trivial (c.perform (.confirm id))
  | cancel id => exact logs_trivial (c.perform (.cancel id))
  | adopt id pair side hash orderId => exact logs_trivial (c.perform (.adopt id pair side hash orderId))

/-- **What is checked is what is spent.** The calls of a desk that checks funds on the chain take turns
in any way, any of them may be given up, and the node answers in any way. A placement that sends a
transaction was told figures before that cover what the transaction spends. A placement that is told a
figure below what it would spend is denied: for its balance first, for its allowance otherwise. -/
theorem placement_funded (c : Connector) (checked : c.funds = .onChain) (common : Common)
    (books : List Book) (choices : List (Choice Operation)) {me : Nat} {id : String}
    {order : OrderRequest} (placing : (Scene.called choices)[me]? = some (.place id order)) :
    let s := (Scene.opening common books).play c.onFloor choices
    (∀ before tx after, s.log me = before ++ .asked (.send tx) :: after →
      ∃ base quote p, c.Prepares order base quote p ∧ tx.request.sender = c.sender.wallet ∧
        tx.request.call = p.call ∧ Funded order.side base quote before tx) ∧
    ∀ base quote p amount, c.Prepares order base quote p →
      p.entryPoint.paid? p.call = some amount → ∀ ev ∈ s.log me, ∀ w, w < amount →
        (ev.TellsBalance c.sender.wallet (order.side.spent base quote) w →
          Denied s me (.insufficientBalance (order.side.spent base quote).symbol amount w)) ∧
        (ev.TellsAllowance c.sender.wallet (order.side.spent base quote) p.call.target w →
          Denied s me (.insufficientAllowance (order.side.spent base quote).symbol amount w)) := by
  intro s
  have serves : Scene.Serves c.Tells (Scene.called choices) s :=
    Scene.serves_play (c.perform_tells checked) common books choices
  -- The log so far begins one that a placement may come to, and a finished call has come to it.
  obtain ⟨_, more, r, -, tells⟩ := serves.begins me _ placing
  refine ⟨fun before tx after split => ?_, fun base quote p amount prepares pays ev mem w low => ?_⟩
  · rw [split, List.append_assoc] at tells
    obtain ⟨base, quote, p, prepares, sender, carries, covered⟩ := tells.sends before tx _ rfl
    exact ⟨base, quote, p, prepares, sender, carries,
      funded_of_covered prepares sender carries covered⟩
  · obtain ⟨price, -, built⟩ := prepares.built
    have placed := CallBook.placed_of_placement built
    obtain rfl := Option.some.inj (placed.paid?_eq.symm.trans pays)
    rw [placed.target]
    have whole {job : Job (Except Fault Achieved)} {result : Except Fault Achieved}
        (here : s.jobs[me]? = some job) (finished : job.progress = .finished result) :
        c.Tells (.place id order) result (s.log me) := by
      have met := serves.safe me job _ here placing
      rwa [finished] at met
    refine ⟨fun told => ⟨fun ev' mem' => ?_, fun job result here finished => ?_⟩,
      fun told => ⟨fun ev' mem' => ?_, fun job result here finished => ?_⟩⟩
    · exact (tells.lowBalance _ _ _ prepares ev (List.mem_append_left _ mem) w told low).1 ev'
        (List.mem_append_left _ mem')
    · obtain ⟨r', rfl, ended⟩ := whole here finished
      rw [(ended.lowBalance _ _ _ prepares ev mem w told low).2]
      rfl
    · exact (tells.lowAllowance _ _ _ prepares ev (List.mem_append_left _ mem) w told low).1 ev'
        (List.mem_append_left _ mem')
    · obtain ⟨r', rfl, ended⟩ := whole here finished
      rw [(ended.lowAllowance _ _ _ prepares ev mem w told low).2]
      rfl

end Connector

/-! #### A run that sends -/

namespace FundedRun

/-- A desk with two tokens that checks funds on the chain. -/
def desk : Connector :=
  { (default : Connector) with
    deployment :=
      { chainId := 1, exchange := ⟨7⟩
        tokens := [⟨"A", ⟨1⟩, 0, false⟩, ⟨"B", ⟨2⟩, 0, false⟩] }
    calls := { (default : CallBook) with exchange := ⟨7⟩ }
    funds := .onChain }

/-- Five of the one token for two of the other each. -/
def order : OrderRequest := ⟨⟨"A", "B"⟩, .ask, .limit, .finite 5 0, .finite 2 0⟩

/-- The node reports seven for every call of a contract, and takes every transaction. -/
def node : (r : Request) → r.Reply
  | .pendingNonce _ => .ok 0
  | .send tx => .ok tx.hash
  | .call _ _ => .ok (Bytes.ofNat 32 7)
  | _ => .error default

def choices : List (Choice Operation) :=
  .call (.place "a" order) :: List.replicate 30 (.go 0 node false)

def scene : Scene (Except Fault Achieved) :=
  (Scene.opening {} [{}]).play desk.onFloor choices

/-- The event hands a transaction to the node. -/
def sends : Event → Bool
  | .asked (.send _) => true
  | _ => false

/-- With a balance and an allowance of seven the order is sent, and both were told before. -/
theorem sent_with_funds : ∃ before tx after, scene.log 0 = before ++ .asked (.send tx) :: after ∧
    ∃ base quote p, desk.Prepares order base quote p ∧ tx.request.sender = desk.sender.wallet ∧
      tx.request.call = p.call ∧ Connector.Funded order.side base quote before tx := by
  have sent : (scene.log 0).any sends = true := by decide +kernel
  obtain ⟨ev, mem, sending⟩ := List.any_eq_true.1 sent
  obtain ⟨before, after, split⟩ := List.append_of_mem mem
  unfold sends at sending
  split at sending
  · next tx =>
    have placing : (Scene.called choices)[0]? = some (.place "a" order) := rfl
    exact ⟨before, tx, after, split,
      (desk.placement_funded rfl {} [{}] choices placing).1 before tx after split⟩
  · cases sending

end FundedRun

end OrderDesk
