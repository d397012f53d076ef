import OrderDesk.Proofs.Balance

/-!
# `OrderDesk.Proofs.Tallied` — when the counters tell of each mined placement once

A desk that adopts no orders is used for one call after another. Its counters tell of every receipt
that a call was shown. That is once for each placement as long as no receipt is seen again, and only a
successful one that says nothing of the order can be: its order goes on waiting, and to confirm it
again is to count it again.

## Contents
- `Connector.account`: the account of a desk in use, and `Connector.serve_balanced`.
- `StableNotes`: no receipt changes once it is reported; `serve_stable`: a node that always answers
  alike.
- `Account.Balanced.once_after`: one step of a run whose counters tell each placement once.
- `Connector.tallied_iff`: the result, with a run in which the counters tell one placement twice.
-/

namespace OrderDesk

open Attempt

variable {ε : Type} {env : Environment ε} {s : Desk × ε × List Note} {a : Account} {c : Connector}

/-! ### A desk in use -/

/-- The account after one more instruction, of which the notes are given. -/
def Account.after (a : Account) : Instruction → List Note → Account
  | .call op, notes => a.turn op notes
  | .shutdown, _ | .pause _, _ => a

/-- The instruction adopts no order. -/
def Instruction.Own : Instruction → Prop
  | .call (.adopt ..) => False
  | _ => True

namespace Connector

/-- The account of a desk in use: each call adds what is in its own notes. -/
def account (c : Connector) (env : Environment ε) (s : Session ε) (a : Account) :
    List Instruction → Account
  | [] => a
  | i :: rest =>
    c.account env (c.obey env s i) (a.after i ((c.obey env s i).notes.drop s.notes.length)) rest

theorem serve_append (s : Session ε) (first more : List Instruction) :
    c.serve env s (first ++ more) = c.serve env (c.serve env s first) more := List.foldl_append

theorem account_append (s : Session ε) (a : Account) (first more : List Instruction) :
    c.account env s a (first ++ more) =
      c.account env (c.serve env s first) (c.account env s a first) more := by
  induction first generalizing s a with
  | nil => rfl
  | cons i rest ih => exact ih _ _

/-- One call more. -/
theorem account_concat (s : Session ε) (a : Account) (first : List Instruction) (i : Instruction) :
    c.account env s a (first ++ [i]) = (c.account env s a first).after i
      ((c.serve env s (first ++ [i])).notes.drop (c.serve env s first).notes.length) := by
  rw [account_append, serve_append]
  rfl

/-- **Every call keeps the balance.** -/
theorem perform_turns (env : Environment ε)
    (h : a.Balanced c.deployment.exchange c.sender.wallet s) {op : Operation}
    (own : Instruction.Own (.call op)) :
    (c.perform op).Safe env.noted.alone
      (fun _ s' => Turned c.deployment.exchange c.sender.wallet a op s s') s := by
  have ended {β : Type} {p : Attempt β} (f : β → Achieved)
      (h : p.Safe env.noted.alone
        (fun _ s' => Turned c.deployment.exchange c.sender.wallet a op s s') s) :
      (f <$> p).Safe env.noted.alone
        (fun _ s' => Turned c.deployment.exchange c.sender.wallet a op s s') s :=
    Safe.bind h (fun _ _ turned => turned) fun _ _ turned => turned
  cases op with
  | place id order => exact ended _ (place_turns h id order)
  | confirm id => exact ended _ (confirm_turns h id)
  | cancel id => exact ended _ (cancel_turns h id)
  | adopt id pair side hash number => exact own.elim

/-- One instruction, with the notes that it adds. -/
theorem obey_balanced (env : Environment ε) {s : Session ε}
    (h : a.Balanced c.deployment.exchange c.sender.wallet (s.desk, s.out, s.notes)) {i : Instruction}
    (own : i.Own) :
    ∃ more, (c.obey env s i).notes = s.notes ++ more ∧
      (a.after i more).Balanced c.deployment.exchange c.sender.wallet
        ((c.obey env s i).desk, (c.obey env s i).out, (c.obey env s i).notes) := by
  -- Between calls the orders and the counters stay, and nothing is noted.
  have still {d : Desk} (orders : d.book.registry = s.desk.book.registry)
      (steady : s.desk.Steady c.sender.wallet d) :
      a.Balanced c.deployment.exchange c.sender.wallet (d, s.out, s.notes) := by
    have idle : PartialCall c.sender.wallet (s.desk, s.out, s.notes) s.desk.book.registry.get? []
        (d, s.out, s.notes) :=
      ⟨fun id => by rw [orders], steady, (List.append_nil _).symm⟩
    exact h.partialCall idle fun _ _ found => found
  cases i with
  | call op => exact safe_alone.1 (perform_turns env h own)
  | shutdown => exact ⟨[], (List.append_nil _).symm, still rfl ⟨.refl _, UInt64.le_refl _⟩⟩
  | pause elapsed => exact ⟨[], (List.append_nil _).symm, still rfl (.pass _ _)⟩

/-- **Every run keeps the balance.** -/
theorem serve_balanced (env : Environment ε) {s : Session ε}
    (h : a.Balanced c.deployment.exchange c.sender.wallet (s.desk, s.out, s.notes))
    {instructions : List Instruction} (own : ∀ i ∈ instructions, i.Own) :
    s.notes <+: (c.serve env s instructions).notes ∧
      (c.account env s a instructions).Balanced c.deployment.exchange c.sender.wallet
        ((c.serve env s instructions).desk, (c.serve env s instructions).out,
          (c.serve env s instructions).notes) := by
  induction instructions generalizing s a with
  | nil => exact ⟨List.prefix_refl _, h⟩
  | cons i rest ih =>
    obtain ⟨more, notes, balanced⟩ := obey_balanced env h (own i (List.mem_cons_self ..))
    have later := ih (a := a.after i more) balanced fun j mem => own j (List.mem_cons_of_mem _ mem)
    have same : (c.obey env s i).notes.drop s.notes.length = more := by
      rw [notes, List.drop_left]
    refine ⟨List.IsPrefix.trans ⟨more, notes.symm⟩ later.1, ?_⟩
    show (c.account env (c.obey env s i) (a.after i _) rest).Balanced _ _ _
    rw [same]
    exact later.2

end Connector

/-! ### Once or again -/

/-- A receipt does not change once it is reported. -/
def StableNotes (notes : List Note) : Prop :=
  ∀ hash receipt receipt', .ofReceipt hash receipt ∈ notes → .ofReceipt hash receipt' ∈ notes →
    receipt' = receipt

namespace Account

/-- What an instruction adds to the sightings: nothing, one of a placement that it sends itself, or one
of a placement that was sent before. -/
theorem after_sightings (a : Account) (i : Instruction) (notes : List Note) :
    (a.after i notes).sightings = a.sightings ∨
    (∃ id hash receipt,
      (a.after i notes).sightings = a.sightings ++ [⟨a.next id hash, receipt⟩]) ∨
    ∃ p receipt, a.after i notes = a.see p (some receipt) := by
  unfold after turn
  cases i with
  | call op =>
    cases op with
    | place id order =>
      dsimp only
      split
      · next tx taken =>
        cases shown : seen? tx.hash notes with
        | none => exact .inl rfl
        | some receipt => exact .inr (.inl ⟨id, tx.hash, receipt, rfl⟩)
      · exact .inl rfl
    | confirm id =>
      dsimp only
      split
      · next p last =>
        cases shown : seen? p.hash notes with
        | none => exact .inl rfl
        | some receipt => exact .inr (.inr ⟨p, receipt, rfl⟩)
      · exact .inl rfl
    | cancel id => exact .inl rfl
    | adopt id pair side hash number => exact .inl rfl
  | shutdown => exact .inl rfl
  | pause elapsed => exact .inl rfl

/-- What was seen stays seen. -/
theorem sightings_prefix (a : Account) (i : Instruction) (notes : List Note) :
    a.sightings <+: (a.after i notes).sightings := by
  rcases a.after_sightings i notes with same | ⟨id, hash, receipt, more⟩ | ⟨p, receipt, more⟩
  · exact same ▸ List.prefix_refl _
  · exact more ▸ List.prefix_append _ _
  · exact more ▸ List.prefix_append _ _

/-- **One step of a run.** While the counters tell each placement once, no receipt is seen again: it
would be a success that was told before. -/
theorem Balanced.once_after {exchange wallet : Address} {i : Instruction} {more : List Note}
    {s' : Desk × ε × List Note} (h : a.Balanced exchange wallet s)
    (h' : (a.after i more).Balanced exchange wallet s') (longer : s.2.2 <+: s'.2.2)
    (stable : StableNotes s'.2.2) (once : (a.sightings.map (·.placement)).Nodup)
    (tallied : a.Tallied s.1.book.stats) (tallied' : (a.after i more).Tallied s'.1.book.stats) :
    ((a.after i more).sightings.map (·.placement)).Nodup := by
  rcases a.after_sightings i more with same | ⟨id, hash, receipt, added⟩ | ⟨p, receipt, added⟩
  · rw [same]
    exact once
  · rw [added, List.map_append, List.nodup_append']
    refine ⟨once, List.nodup_singleton _, List.disjoint_singleton.2 fun mem => ?_⟩
    obtain ⟨t, here, same⟩ := List.mem_map.1 mem
    have old := h.numbered _ (h.noted t here).1
    rw [same] at old
    exact Nat.lt_irrefl _ old
  · rw [added] at h' tallied' ⊢
    by_cases before : p ∈ a.sightings.map (·.placement)
    · obtain ⟨t, here, rfl⟩ := List.mem_map.1 before
      have last : (⟨t.placement, receipt⟩ : Sighting) ∈
          (a.see t.placement (some receipt)).sightings :=
        List.mem_append_right _ (List.mem_singleton_self _)
      -- Both sightings are of one receipt, which told a success.
      have same : receipt = t.receipt :=
        stable _ _ _ (longer.subset (h.noted t here).2) (h'.noted _ last).2
      have success : t.receipt.success = true :=
        ((List.pairwise_append.1 h'.repeated).2.2 t here _ (List.mem_singleton_self _) rfl).1
      subst same
      exact absurd tallied' (h.counted.not_tallied_again h'.counted here success tallied)
    · have more : (a.see p (some receipt)).sightings = a.sightings ++ [⟨p, receipt⟩] := rfl
      rw [more, List.map_append, List.nodup_append']
      exact ⟨once, List.nodup_singleton _, List.disjoint_singleton.2 before⟩

end Account

namespace Connector

/-- What was seen stays seen throughout a run. -/
theorem sightings_account (s : Session ε) (a : Account) (instructions : List Instruction) :
    a.sightings <+: (c.account env s a instructions).sightings := by
  induction instructions generalizing s a with
  | nil => exact List.prefix_refl _
  | cons i rest ih => exact (a.sightings_prefix i _).trans (ih _ _)

/-- **When the counters tell of each mined placement once.** A desk begins without orders, and orders
are placed, confirmed and cancelled one call after another, as long as no receipt changes once it is
reported. The counters tell each mined placement once throughout the run exactly when no call is shown
a receipt of a placement again and all gas fits the counter. They always tell of each sighting; and
what is seen again is a success that says nothing of the order. -/
theorem tallied_iff (c : Connector) (env : Environment ε) (common : Common) (out : ε)
    (instructions : List Instruction) (own : ∀ i ∈ instructions, i.Own)
    (stable : StableNotes (c.serve env (.opened common out) instructions).notes) :
    let account := c.account env (.opened common out) {}
    let stats := fun done => (c.serve env (.opened common out) done).desk.book.stats
    ((∀ done, done <+: instructions → (account done).Tallied (stats done)) ↔
      ((account instructions).sightings.map (·.placement)).Nodup ∧
        (account instructions).gas < UInt64.size) ∧
    (∀ done, done <+: instructions → (account done).Counted (stats done)) ∧
    (account instructions).sightings.Pairwise fun t later => t.placement = later.placement →
      t.receipt.success = true ∧ t.receipt.Silent c.deployment.exchange := by
  intro account stats
  have balanced {done : List Instruction} (within : done <+: instructions) :
      (account done).Balanced c.deployment.exchange c.sender.wallet
        ((c.serve env (.opened common out) done).desk, (c.serve env (.opened common out) done).out,
          (c.serve env (.opened common out) done).notes) :=
    (serve_balanced env (s := .opened common out) (.opened common out)
      fun i mem => own i (within.subset mem)).2
  have longer {done more : List Instruction} (within : done ++ more <+: instructions) :
      (c.serve env (.opened common out) done).notes <+:
        (c.serve env (.opened common out) (done ++ more)).notes := by
    rw [serve_append]
    refine (serve_balanced env (balanced ((List.prefix_append _ _).trans within)) fun i mem => ?_).1
    exact own i (within.subset (List.mem_append_right _ mem))
  refine ⟨⟨fun tallied => ?_, ?_⟩, fun done within => (balanced within).counted,
    (balanced (List.prefix_refl _)).repeated⟩
  · have once (done : List Instruction) (within : done <+: instructions) :
        ((account done).sightings.map (·.placement)).Nodup := by
      induction done using List.reverseRecOn with
      | nil => exact List.nodup_nil
      | append_singleton done i ih =>
        have before : done <+: instructions := (List.prefix_append _ _).trans within
        have step : account (done ++ [i]) = (account done).after i _ :=
          c.account_append (.opened common out) {} done [i]
        have stableHere : StableNotes (c.serve env (.opened common out) (done ++ [i])).notes := by
          obtain ⟨more, rfl⟩ := within
          intro hash receipt receipt' mem mem'
          exact stable _ _ _ ((longer (List.prefix_refl _)).subset mem)
            ((longer (List.prefix_refl _)).subset mem')
        have after := balanced within
        have tallied' := tallied _ within
        rw [step] at after tallied' ⊢
        exact (balanced before).once_after after (longer within) stableHere (ih before)
          (tallied done before) tallied'
    have all := once instructions (List.prefix_refl _)
    refine ⟨all, ?_⟩
    rw [← Account.sum_gas all, ← (tallied _ (List.prefix_refl _)).gasUsed]
    exact UInt64.toNat_lt _
  · rintro ⟨once, fits⟩ done within
    have seen : (account done).sightings <+: (account instructions).sightings := by
      obtain ⟨more, rfl⟩ := within
      show _ <+: (c.account env _ _ (done ++ more)).sightings
      rw [account_append]
      exact sightings_account _ _ _
    have balanced := balanced within
    refine balanced.counted.tallied (once.sublist (seen.sublist.map _))
      (fun t mem => (balanced.noted t mem).1) ?_ ?_
    · exact Nat.lt_of_le_of_lt balanced.afforded (UInt64.toNat_lt _)
    · obtain ⟨more, split⟩ := seen
      unfold Account.gas at fits ⊢
      rw [← split, List.map_append, List.sum_append] at fits
      omega

end Connector

/-! #### A run that counts one placement twice -/

/-- What is noted with a node that always answers alike is its answer. -/
theorem Routine.notes_run {α : Type} {answer : (r : Request) → r.Reply}
    (alike : ∀ out r, (env.reply out r).1 = answer r) (p : Routine α) (desk : Desk) (out : ε)
    (notes : List Note) :
    ∀ note ∈ (p.run env.noted desk (out, notes)).2.2.2,
      note ∈ notes ∨ note.reply = answer note.request := by
  induction p generalizing desk out notes with
  | done a => exact fun note mem => .inl mem
  | act e next ih => exact ih _ _ _ _
  | ask r next ih =>
    intro note mem
    rcases ih _ _ _ _ note mem with before | same
    · rcases List.mem_append.1 before with before | now
      · exact .inl before
      · obtain rfl := List.mem_singleton.1 now
        exact .inr (alike out r)
    · exact .inr same
  | sleep d next ih => exact ih _ _ _ _
  | lock a next ih => exact ih _ _ _
  | unlock a next ih => exact ih _ _ _

/-- **A node that always answers alike** changes no receipt. -/
theorem Connector.serve_stable {answer : (r : Request) → r.Reply}
    (alike : ∀ out r, (env.reply out r).1 = answer r) (common : Common) (out : ε)
    (instructions : List Instruction) :
    StableNotes (c.serve env (.opened common out) instructions).notes := by
  have told (s : Session ε) : ∀ note ∈ (c.serve env s instructions).notes,
      note ∈ s.notes ∨ note.reply = answer note.request := by
    induction instructions generalizing s with
    | nil => exact fun note mem => .inl mem
    | cons i rest ih =>
      intro note mem
      refine (ih (c.obey env s i) note mem).elim (fun before => ?_) .inr
      cases i with
      | call op => exact Routine.notes_run alike _ _ _ _ note before
      | shutdown => exact .inl before
      | pause elapsed => exact .inl before
  intro hash receipt receipt' mem mem'
  have first := (told _ _ mem).resolve_left List.not_mem_nil
  have second := (told _ _ mem').resolve_left List.not_mem_nil
  have same : (.ok (some receipt') : Except DeskError (Option Receipt)) = .ok (some receipt) :=
    second.trans first.symm
  cases same
  rfl

namespace Recount

/-- A desk with two tokens. -/
def desk : Connector :=
  { (default : Connector) with
    deployment :=
      { chainId := 1, exchange := ⟨7⟩
        tokens := [⟨"A", ⟨1⟩, 6, false⟩, ⟨"B", ⟨2⟩, 6, false⟩] }
    calls := { (default : CallBook) with exchange := ⟨7⟩ } }

/-- The node takes every transaction, and its receipt is a success without logs. -/
def answer : (r : Request) → r.Reply
  | .pendingNonce _ => .ok 0
  | .send tx => .ok tx.hash
  | .receipt hash => .ok (some ⟨hash, 1, true, 120000, []⟩)
  | _ => .error default

def node : Environment Unit where
  reply _ r := (answer r, {}, ())
  sleep _ _ := ({}, ())

/-- An order is placed and confirmed twice. -/
def run : List Instruction :=
  [.call (.place "a" ⟨⟨"A", "B"⟩, .ask, .limit, .finite 1 0, .finite 2 0⟩), .call (.confirm "a"),
    .call (.confirm "a")]

theorem own_run : ∀ i ∈ run, i.Own := by
  simp [run, Instruction.Own]

theorem stable_run : StableNotes (desk.serve node (.opened {} ()) run).notes :=
  Connector.serve_stable (fun _ _ => rfl) {} () run

/-- One placement is sent, and two are confirmed. -/
theorem stats_run : (desk.serve node (.opened {} ()) run).desk.book.stats =
    { submitted := 1, confirmed := 2, gasUsed := 240000 } := by
  decide +kernel

/-- More placements are confirmed than were sent: the one that was is counted twice. -/
theorem confirmed_twice :
    (∀ i ∈ run, i.Own) ∧ StableNotes (desk.serve node (.opened {} ()) run).notes ∧
      ¬ (desk.account node (.opened {} ()) {} run).Tallied
        (desk.serve node (.opened {} ()) run).desk.book.stats := by
  refine ⟨own_run, stable_run, fun tallied => ?_⟩
  have within := tallied.within
  rw [stats_run] at within
  exact absurd within (by decide)

/-- The node takes every transaction, and its receipt is a failure. -/
def failing : (r : Request) → r.Reply
  | .receipt hash => .ok (some ⟨hash, 1, false, 120000, []⟩)
  | r => answer r

def failingNode : Environment Unit where
  reply _ r := (failing r, {}, ())
  sleep _ _ := ({}, ())

/-- The failure is seen by the first confirmation alone: placing does not wait for it, and the second
confirmation is answered from the record. -/
theorem failure_seen_once :
    (desk.account failingNode (.opened {} ()) {} run).sightings.length ≤ 1 := by
  let placing := run.take 1
  let again : Instruction := .call (.confirm "a")
  have unseen : (desk.account failingNode (.opened {} ()) {} placing).sightings = [] := rfl
  have first :
      (desk.account failingNode (.opened {} ()) {} (placing ++ [again])).sightings.length ≤ 1 := by
    rw [Connector.account_concat]
    exact (Account.turn_sightings_le _ _ _).trans (by rw [unseen]; rfl)
  have quiet : (desk.serve failingNode (.opened {} ()) (placing ++ [again] ++ [again])).notes.drop
      (desk.serve failingNode (.opened {} ()) (placing ++ [again])).notes.length = [] := rfl
  show (desk.account failingNode (.opened {} ()) {} (placing ++ [again] ++ [again])).sightings.length ≤ 1
  rw [Connector.account_concat, quiet]
  show (Account.turn _ (.confirm "a") []).sightings.length ≤ 1
  rwa [Account.turn_of_quiet rfl fun _ => rfl]

/-- The success was seen twice. A failure is seen once, and throughout that run the counters tell of it
once. -/
theorem seen_twice_or_once :
    ¬ (((desk.account node (.opened {} ()) {} run).sightings.map (·.placement)).Nodup ∧
      (desk.account node (.opened {} ()) {} run).gas < UInt64.size) ∧
    (∀ done, done <+: run → (desk.account failingNode (.opened {} ()) {} done).Tallied
      (desk.serve failingNode (.opened {} ()) done).desk.book.stats) ∧
    (desk.serve failingNode (.opened {} ()) run).desk.book.stats =
      { submitted := 1, reverted := 1, gasUsed := 120000 } := by
  refine ⟨?_, ?_, by decide +kernel⟩
  · intro once
    have tallied : (desk.account node (.opened {} ()) {} run).Tallied
        (desk.serve node (.opened {} ()) run).desk.book.stats :=
      (desk.tallied_iff node {} () run own_run stable_run).1.2 once run (List.prefix_refl _)
    have within := tallied.within
    rw [stats_run] at within
    exact absurd within (by decide)
  · have stable : StableNotes (desk.serve failingNode (.opened {} ()) run).notes :=
      Connector.serve_stable (fun _ _ => rfl) {} () run
    exact (desk.tallied_iff failingNode {} () run own_run stable).1.2
      (Account.once_of_length_le failure_seen_once)

end Recount
end OrderDesk
