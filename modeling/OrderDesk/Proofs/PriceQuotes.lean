import OrderDesk.Proofs.GasLimits

/-!
# `OrderDesk.Proofs.PriceQuotes` — the kept gas price against all prices ever fetched

A wallet keeps one price with the time it was fetched. Here what its submissions pay is set against
the whole list of prices that the node ever quoted: each pays the last of them while that is fresh, and
asks once when it is not. What an earlier submission came to does not matter, only what it fetched.

## Contents
- `Entry.quote?`, `priceRequest?`, `pricePaid?`, …: what a journal tells of prices.
- `Chosen`, `Priced`: the price by the last quote and by the node's answer; a submission that pays it.
- `Sender.gasPrice_chosen`, `Sender.submit_priced`: one submission, and the quote it leaves.
- `Sender.submitAll`, `Sender.submitAll_priced`: the result over all sequences of submissions.
-/

namespace OrderDesk

open Attempt

/-! ### Prices in a journal -/

/-- The answer about the gas price that the event tells. -/
def Event.priceAnswer? : Event → Option (Except DeskError GasPrice)
  | told .gasPrice answer => some answer
  | _ => none

namespace Entry

/-- When a price is asked for. -/
def priceRequest? : Entry → Option Instant
  | ⟨.asked .gasPrice, desk⟩ => some desk.common.now
  | _ => none

/-- The node's answer to that. -/
def priceAnswer? (entry : Entry) : Option (Except DeskError GasPrice) := entry.event.priceAnswer?

/-- The price that the node tells, with the time. -/
def quote? (entry : Entry) : Option PriceQuote :=
  (entry.priceAnswer?.bind Except.toOption).map (⟨·, entry.time⟩)

/-- The answer about an estimate, with the time. -/
def estimate? (entry : Entry) : Option (Except DeskError UInt64 × Instant) :=
  entry.event.estimate?.map (·, entry.time)

/-- The price that a transaction is handed over with. -/
def pricePaid? (entry : Entry) : Option GasPrice :=
  entry.event.handedOver?.map (·.request.gasPrice)

end Entry

theorem PriceQuote.fresh?_eq_some {q : PriceQuote} {now : Instant} {lifetime : Duration}
    {price : GasPrice} :
    q.fresh? now lifetime = some price ↔ now.since q.fetched < lifetime ∧ q.price = price := by
  unfold fresh?
  split <;> simp [*]

/-! ### The price by the last quote -/

/-- **The price chosen at a time**, with the requests and the answers it takes: the last quote while it
is fresh, without a request; else the node's answer to one request at that time, or the fallback if
it fails. -/
inductive Chosen (policy : GasPolicy) (latest : Option PriceQuote) (t : Instant) :
    GasPrice → List Instant → List (Except DeskError GasPrice) → Prop
  | kept {q : PriceQuote} (last : latest = some q) (fresh : t.since q.fetched < policy.priceLifetime) :
    Chosen policy latest t q.price [] []
  | asked (answer : Except DeskError GasPrice)
    (stale : ∀ q, latest = some q → policy.priceLifetime ≤ t.since q.fetched) :
    Chosen policy latest t (answer.toOption.getD policy.fallbackPrice) [t] [answer]

/-- **A submission pays the price** that is chosen when its estimate has been answered. One whose limit
cannot be told asks for no price and pays none. -/
inductive Priced (policy : GasPolicy) (latest : Option PriceQuote) (own : List Entry) : Prop
  | chosen {estimate : Except DeskError UInt64} {t : Instant} {price : GasPrice}
    (estimated : own.filterMap Entry.estimate? = [(estimate, t)])
    (by_quote : Chosen policy latest t price (own.filterMap Entry.priceRequest?)
      (own.filterMap Entry.priceAnswer?))
    (paid : own.filterMap Entry.pricePaid? = [price])
  | overflow {estimate : UInt64} {t : Instant}
    (estimated : own.filterMap Entry.estimate? = [(.ok estimate, t)])
    (no_limit : policy.limitFor? estimate = none) (unasked : own.filterMap Entry.priceRequest? = [])
    (unpaid : own.filterMap Entry.pricePaid? = [])

/-- A submission in three parts: its estimate, the choice of a price, and the transaction under it. The
first and the last have nothing to do with prices asked for. -/
theorem Priced.of_parts {policy : GasPolicy} {latest : Option PriceQuote} {own choosing : List Entry}
    {wallet : Address} {call : Call} {estimate : Except DeskError UInt64} {price : GasPrice}
    {tx : SignedTx} {answer : Except DeskError Hash} {start estimated unsent sent : Desk}
    (parts : own = [⟨.asked (.estimateGas wallet call), start⟩,
      ⟨.told (.estimateGas wallet call) estimate, estimated⟩] ++
      (choosing ++ [⟨.asked (.send tx), unsent⟩, ⟨.told (.send tx) answer, sent⟩]))
    (chosen : Chosen policy latest estimated.common.now price
      (choosing.filterMap Entry.priceRequest?) (choosing.filterMap Entry.priceAnswer?))
    (no_estimate : choosing.filterMap Entry.estimate? = [])
    (unpaid : choosing.filterMap Entry.pricePaid? = []) (paid : tx.request.gasPrice = price) :
    Priced policy latest own ∧ own.filterMap Entry.quote? = choosing.filterMap Entry.quote? := by
  have estimates : own.filterMap Entry.estimate? = [(estimate, estimated.common.now)] := by
    rw [parts, List.filterMap_append, List.filterMap_append, no_estimate]
    rfl
  have requests : own.filterMap Entry.priceRequest? = choosing.filterMap Entry.priceRequest? := by
    rw [parts, List.filterMap_append, List.filterMap_append]
    exact List.append_nil _
  have answers : own.filterMap Entry.priceAnswer? = choosing.filterMap Entry.priceAnswer? := by
    rw [parts, List.filterMap_append, List.filterMap_append]
    exact List.append_nil _
  have payments : own.filterMap Entry.pricePaid? = [price] := by
    rw [parts, List.filterMap_append, List.filterMap_append, unpaid, ← paid]
    rfl
  refine ⟨.chosen estimates (by rwa [requests, answers]) payments, ?_⟩
  rw [parts, List.filterMap_append, List.filterMap_append]
  exact List.append_nil _

/-- The last quote, with more fetched after the one that is kept. -/
def lastQuote (kept : Option PriceQuote) (fetched : List PriceQuote) : Option PriceQuote :=
  (kept.toList ++ fetched).getLast?

@[simp] theorem lastQuote_nil (kept : Option PriceQuote) : lastQuote kept [] = kept := by
  cases kept <;> rfl

theorem lastQuote_eq_or (kept : Option PriceQuote) (fetched : List PriceQuote) :
    lastQuote kept fetched = fetched.getLast?.or kept := by
  unfold lastQuote
  rw [List.getLast?_append]
  cases kept <;> rfl

theorem lastQuote_append (kept : Option PriceQuote) (fetched more : List PriceQuote) :
    lastQuote kept (fetched ++ more) = lastQuote (lastQuote kept fetched) more := by
  rw [lastQuote_eq_or, lastQuote_eq_or, lastQuote_eq_or, List.getLast?_append, Option.or_assoc]

variable {ε : Type} (env : Environment ε)

namespace Sender

variable (s : Sender)

/-- **The gas price** is the one by the quote that is kept, and the quote that is kept afterwards is the
last one fetched. -/
theorem gasPrice_chosen (start : Desk × ε) :
    ∃ price after own, s.gasPrice.runAlone env start = (.ok price, after) ∧
      s.gasPrice.journal env start = own ∧
      Chosen s.gas start.1.common.quote start.1.common.now price
        (own.filterMap Entry.priceRequest?) (own.filterMap Entry.priceAnswer?) ∧
      own.filterMap Entry.estimate? = [] ∧ own.filterMap Entry.pricePaid? = [] ∧
      after.1.common.quote = lastQuote start.1.common.quote (own.filterMap Entry.quote?) := by
  unfold gasPrice
  rw [runAlone_act_bind, journal_act_bind]
  cases kept : (Effect.apply (.freshPrice s.gas.priceLifetime) start.1).1 with
  | some price =>
    obtain ⟨q, last, fresh⟩ := Option.bind_eq_some_iff.1 kept
    obtain ⟨young, rfl⟩ := PriceQuote.fresh?_eq_some.1 fresh
    exact ⟨q.price, start, _, rfl, rfl, .kept last young, rfl, rfl, (lastQuote_nil _).symm⟩
  | none =>
    have stale (q : PriceQuote) (last : start.1.common.quote = some q) :
        s.gas.priceLifetime ≤ start.1.common.now.since q.fetched := by
      refine Nat.not_lt.1 fun young => ?_
      have fresh := PriceQuote.fresh?_eq_some.2 ⟨young, rfl⟩
      rw [Option.bind_eq_none_iff.1 kept q last] at fresh
      cases fresh
    rw [runAlone_reply_bind, journal_reply_bind]
    cases told : (env.reply start.2 .gasPrice).1 with
    | ok price =>
      exact ⟨price, _, _, rfl, rfl, .asked (.ok price) stale, rfl, rfl,
        (lastQuote_eq_or _ [_]).symm⟩
    | error e =>
      exact ⟨s.gas.fallbackPrice, _, _, rfl, rfl, .asked (.error e) stale, rfl, rfl,
        (lastQuote_nil _).symm⟩

/-- One estimate is asked for. The limit is known when it has been answered, or there is none. -/
theorem gasLimit_known (call : Call) (start : Desk × ε) :
    let answer := (env.reply start.2 (.estimateGas s.wallet call)).1
    let after := env.answered start (.estimateGas s.wallet call)
    (s.gasLimit call).journal env start =
        [⟨.asked (.estimateGas s.wallet call), start.1⟩,
          ⟨.told (.estimateGas s.wallet call) answer, after.1⟩] ∧
      ((∃ limit, (s.gasLimit call).runAlone env start = (.ok limit, after)) ∨
        ∃ estimate, answer = .ok estimate ∧ s.gas.limitFor? estimate = none ∧
          (s.gasLimit call).runAlone env start = (.error (.breakdown .arithmetic), after)) := by
  dsimp only
  unfold gasLimit
  rw [runAlone_reply_bind, journal_reply_bind]
  cases (env.reply start.2 (.estimateGas s.wallet call)).1 with
  | error e => exact ⟨rfl, .inl ⟨_, rfl⟩⟩
  | ok estimate =>
    dsimp only
    cases limited : s.gas.limitFor? estimate with
    | some limit => exact ⟨rfl, .inl ⟨limit, rfl⟩⟩
    | none => exact ⟨rfl, .inr ⟨estimate, rfl, limited, rfl⟩⟩

/-- **One submission** pays the price by the quote that is kept, and the quote that is kept afterwards
is the last one fetched, whatever became of the transaction. -/
theorem submit_priced (call : Call) (nonce : UInt64) (start : Desk × ε) :
    Priced s.gas start.1.common.quote ((s.submit call nonce).journal env start) ∧
      ((s.submit call nonce).runAlone env start).2.1.common.quote =
        lastQuote start.1.common.quote
          (((s.submit call nonce).journal env start).filterMap Entry.quote?) := by
  unfold submit
  obtain ⟨wrote, ⟨limit, ran⟩ | ⟨estimate, told, no_limit, ran⟩⟩ :=
    s.gasLimit_known env call start
  · rw [journal_ok ran, runAlone_ok ran, wrote]
    obtain ⟨price, after, choosing, ran, wrote, chosen, no_estimate, unpaid, kept⟩ :=
      s.gasPrice_chosen env (env.answered start (.estimateGas s.wallet call))
    rw [journal_ok ran, runAlone_ok ran, wrote]
    dsimp only
    rw [runAlone_reply_bind, journal_reply_bind]
    generalize signed : (s.request call nonce limit price).sign s.key = tx
    have price_of_tx : tx.request.gasPrice = price := signed ▸ rfl
    cases (env.reply after.2 (.send tx)).1 with
    | ok hash =>
      obtain ⟨priced, quotes⟩ := Priced.of_parts rfl chosen no_estimate unpaid price_of_tx
      exact ⟨priced, quotes ▸ kept⟩
    | error e =>
      obtain ⟨priced, quotes⟩ := Priced.of_parts rfl chosen no_estimate unpaid price_of_tx
      exact ⟨priced, quotes ▸ kept⟩
  · rw [journal_error ran, runAlone_error ran, wrote, told]
    exact ⟨.overflow rfl no_limit rfl rfl, (lastQuote_nil _).symm⟩

end Sender

/-! ### One submission after another -/

/-- A submission that is to be made, after a pause. -/
structure Submission where
  pause : Lapse
  call : Call
  nonce : UInt64

namespace Sender

variable (s : Sender)

/-- What submissions do that are made one after another, whatever becomes of them. -/
def submitAll : Desk × ε → List Submission → List (List Entry)
  | _, [] => []
  | (desk, out), x :: rest =>
    let start := (desk.pass x.pause, out)
    (s.submit x.call x.nonce).journal env start ::
      submitAll ((s.submit x.call x.nonce).runAlone env start).2 rest

/-- **Every submission pays by the last quote.** However the node answers a wallet's submissions, and
however much time passes before and within them, each pays the last of all prices fetched before it
if that was fetched less than the price's lifetime ago, and then asks for none. Otherwise it asks once
and pays the answer, or the fallback if that fails. Nothing but the prices they fetched matters of
the submissions before. -/
theorem submitAll_priced {start : Desk × ε} {submissions : List Submission}
    {earlier later : List (List Entry)} {own : List Entry}
    (made : s.submitAll env start submissions = earlier ++ own :: later) :
    Priced s.gas
      (lastQuote start.1.common.quote (earlier.flatten.filterMap Entry.quote?)) own := by
  induction submissions generalizing start earlier with
  | nil => exact absurd made (by simp [submitAll])
  | cons x rest ih =>
    obtain ⟨priced, kept⟩ := s.submit_priced env x.call x.nonce
      (start.1.pass x.pause, start.2)
    cases earlier with
    | nil =>
      obtain ⟨rfl, -⟩ := List.cons.inj made
      rw [List.flatten_nil, List.filterMap_nil, lastQuote_nil]
      exact priced
    | cons first others =>
      obtain ⟨rfl, remaining⟩ := List.cons.inj made
      rw [List.flatten_cons, List.filterMap_append, lastQuote_append]
      -- The first of them leaves what the others begin with.
      have onward := ih remaining
      rwa [kept] at onward

end Sender

namespace PriceSample

/-- Quotes seven, then fails once, then quotes nine; takes no transaction. -/
def node : Environment Nat where
  reply asked
    | .gasPrice =>
      match asked with
      | 0 => (.ok 7, {}, 1)
      | 1 => (.error default, {}, 2)
      | _ => (.ok 9, {}, asked + 1)
    | _ => (.error default, {}, asked)
  sleep asked d := ({ elapsed := d }, asked)

/-- Four submissions: at once, just before half a minute is over, then, and then again. -/
def journals : List (List Entry) :=
  GasSample.sender.submitAll node ({}, 0) <|
    [⟨0⟩, ⟨29999999999⟩, ⟨1⟩, ⟨0⟩].map fun elapsed => ⟨{ elapsed }, default, 0⟩

/-- The quote is used until it is half a minute old. The fallback after that is not used again. -/
theorem quote_until_it_is_old : ∃ first second third fourth,
    journals = [first, second] ++ third :: [fourth] ∧
    Priced GasSample.sender.gas (some ⟨7, ⟨0⟩⟩) third ∧
    journals.map (·.filterMap Entry.pricePaid?) = [[7], [7], [20000000000], [9]] ∧
    journals.map (·.filterMap Entry.priceRequest?) =
      [[⟨0⟩], [], [⟨30000000000⟩], [⟨30000000000⟩]] := by
  obtain ⟨first, second, third, fourth, made, fetched⟩ : ∃ first second third fourth,
      journals = [first, second] ++ third :: [fourth] ∧
        [first, second].flatten.filterMap Entry.quote? = [⟨7, ⟨0⟩⟩] := ⟨_, _, _, _, rfl, rfl⟩
  have priced := GasSample.sender.submitAll_priced node made
  rw [fetched] at priced
  exact ⟨first, second, third, fourth, made, priced, rfl, rfl⟩

end PriceSample
end OrderDesk
