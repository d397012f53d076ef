import OrderDesk.Proofs.Scene
import OrderDesk.Proofs.WalletLock

/-!
# `OrderDesk.Proofs.NonceOrder` — a wallet's transactions go out in the order of their nonces

In a scene whose operations keep to their phases with one wallet, at most one of them has the lock, so
between taking a nonce and sending under it no other comes in. The invariant ties the wallet's next
nonce to all that was sent before and to the one nonce that may be on its way.

## Contents
- `sentNonces`, `countReply?`: what a history says of the transactions sent.
- `Scene.NonceInvariant`, and `NonceInvariant.change`: every change keeps it.
- `sentNonces_increasing`: the nonces sent in any run of a desk.
-/

namespace OrderDesk

/-- The nonces of the transactions handed over, in the order of their sending. -/
def sentNonces (history : List Deed) : List UInt64 :=
  history.filterMap fun deed => match deed.event with
    | .asked (.send tx) => some tx.request.nonce
    | _ => none

/-- What the last question for the pending count was answered, until a transaction is sent. -/
def countAfter : Option (Except DeskError UInt64) → Event → Option (Except DeskError UInt64)
  | _, .told (.pendingNonce _) reply => some reply
  | _, .asked (.send _) => none
  | last, _ => last

/-- What an operation was told when it asked for the pending count for its next transaction. -/
def countReply? (history : List Deed) (me : Nat) : Option (Except DeskError UInt64) :=
  Scene.known none countAfter history me

/-- Every transaction handed over is the one its sender signed, and its nonce is no less than the
pending count that was reported for it. -/
def Accounted (s : Sender) (history : List Deed) : Prop :=
  ∀ before deed tx, before ++ [deed] <+: history → deed.event = .asked (.send tx) →
    tx = tx.request.sign s.key ∧ tx.request.sender = s.wallet ∧
      ∃ reply, countReply? before deed.who = some reply ∧
        ∀ count, reply = .ok count → count ≤ tx.request.nonce

/-! ### What leaves the wallet alone -/

/-- Only a step that takes a nonce changes the nonces. -/
theorem Effect.nonces_apply (e : Effect) (d : Desk) (h : e.concernsWallet = false) :
    (e.apply d).2.common.nonces = d.common.nonces := by
  cases e with
  | allocate wallet pending => cases h
  | reserve record => simp only [apply, Desk.track]; split <;> rfl
  | adopt record => simp only [apply, Desk.track]; split <;> rfl
  | broadcast id hash => simp only [apply]; split <;> rfl
  | resolve id resolution => simp only [apply]; split <;> rfl
  | _ => rfl

/-- A step that leaves the wallet alone leaves the lines and the nonces as they are. -/
theorem Floor.Move.offWallet {α : Type} {me i : Nat} {f f' : Floor Unit}
    {progress progress' : Progress α} {ev : Event} (step : f.Move me i progress ev progress' f')
    (h : ev.OffWallet) : f'.lines = f.lines ∧ f'.common.nonces = f.common.nonces := by
  cases step with
  | did => exact ⟨rfl, Effect.nonces_apply _ _ h⟩
  | asked => exact ⟨rfl, rfl⟩
  | told => exact ⟨rfl, rfl⟩
  | slept => exact ⟨rfl, rfl⟩
  | woke why => exact ⟨rfl, rfl⟩
  | queued => cases h
  | locked first => cases h
  | unlocked => cases h

theorem LockPhase.after_offWallet (phase : LockPhase) {ev : Event} (h : ev.OffWallet) :
    phase.after ev = phase :=
  (watch_step.1 (rests default phase ev h)).2

theorem countAfter_offWallet (last : Option (Except DeskError UInt64)) {ev : Event}
    (h : ev.OffWallet) : countAfter last ev = last := by
  cases ev with
  | asked r => cases r <;> first | rfl | cases h
  | told r x => cases r <;> first | rfl | cases h
  | _ => rfl

theorem sentNonces_append (history : List Deed) (deed : Deed) :
    sentNonces (history ++ [deed]) = sentNonces history ++ sentNonces [deed] :=
  List.filterMap_append

theorem sentNonces_offWallet (history : List Deed) {deed : Deed} (h : deed.event.OffWallet) :
    sentNonces (history ++ [deed]) = sentNonces history := by
  obtain ⟨me, ev, d⟩ := deed
  have none : sentNonces [⟨me, ev, d⟩] = [] := by
    cases ev with
    | asked r => cases r <;> first | rfl | cases h
    | _ => rfl
  rw [sentNonces_append, none, List.append_nil]

/-- A history goes on being accounted for when what is sent next is. -/
theorem Accounted.append {s : Sender} {history : List Deed} {deed : Deed}
    (h : Accounted s history)
    (new : ∀ tx, deed.event = .asked (.send tx) → tx = tx.request.sign s.key ∧
      tx.request.sender = s.wallet ∧ ∃ reply, countReply? history deed.who = some reply ∧
        ∀ count, reply = .ok count → count ≤ tx.request.nonce) :
    Accounted s (history ++ [deed]) := by
  intro before last tx hprefix sent
  rcases List.prefix_concat_iff.1 hprefix with whole | within
  · obtain ⟨rfl, same⟩ := List.append_inj' whole rfl
    obtain rfl := List.singleton_inj.1 same
    exact new tx sent
  · exact h before last tx within sent

namespace Scene

variable {α ι : Type} {calls : ι → Nat × Routine α} {sender : Sender} {wallet : Address}

/-- How far an operation has come with the wallet. -/
def lockPhase (s : Scene α) (me : Nat) : LockPhase := known .away LockPhase.after s.history me

/-- The nonce that the wallet gets next without a pending count. -/
def nextNonce (s : Scene α) (wallet : Address) : UInt64 :=
  (s.floor.common.nonces.next? wallet).getD 0

/-- The operation has the wallet's lock. -/
def Has (s : Scene α) (wallet : Address) (me : Nat) : Prop :=
  (s.floor.line wallet).head? = some me

/-- What the phase of an operation promises. -/
def Keeps (s : Scene α) (wallet : Address) (me : Nat) : LockPhase → Prop
  | .away | .waiting => True
  | .held => s.Has wallet me
  | .counted count =>
    s.Has wallet me ∧ (countReply? s.history me).map Except.toOption = some count
  | .numbered count nonce =>
    s.Has wallet me ∧ (countReply? s.history me).map Except.toOption = some count ∧
      (∀ n, count = some n → n ≤ nonce) ∧ (∀ n ∈ sentNonces s.history, n < nonce) ∧
      nonce < s.nextNonce wallet

/-- **The invariant.** The next nonce is behind all that were sent, and an operation with a nonce to
use is the only one with the lock. -/
structure NonceInvariant (sender : Sender) (s : Scene α) : Prop where
  keeps : ∀ (me : Nat) (job : Job α), s.jobs[me]? = some job → job.progress ≠ .givenUp →
    s.Keeps sender.wallet me (s.lockPhase me)
  behind : ∀ n ∈ sentNonces s.history, n < s.nextNonce sender.wallet
  increasing : (sentNonces s.history).Pairwise (· < ·)
  accounted : Accounted sender s.history

/-- Without the lock nothing is promised. -/
theorem keeps_of_not_holds {s : Scene α} {me : Nat} {phase : LockPhase} (h : phase.holds = false) :
    s.Keeps wallet me phase := by
  cases phase with
  | away => trivial
  | waiting => trivial
  | held => cases h
  | counted count => cases h
  | numbered count nonce => cases h

theorem Keeps.has {s : Scene α} {me : Nat} {phase : LockPhase} (h : s.Keeps wallet me phase)
    (holds : phase.holds = true) : s.Has wallet me := by
  cases phase with
  | away => cases holds
  | waiting => cases holds
  | held => exact h
  | counted count => exact h.1
  | numbered count nonce => exact h.1

/-- **Mutual exclusion.** While one operation has the lock, no other does. -/
theorem Keeps.alone {s : Scene α} {me other : Nat} {phase : LockPhase} (h : s.Keeps wallet other phase)
    (has : s.Has wallet me) (ne : other ≠ me) : phase.holds = false := by
  rw [← Bool.not_eq_true]
  intro holds
  have both : some me = some other := has.symm.trans (h.has holds)
  exact ne (Option.some.inj both).symm

/-- What a phase promises is about the head of the line, the replies, and the nonces. -/
theorem Keeps.frame {s s' : Scene α} {me : Nat} {phase : LockPhase} (h : s.Keeps wallet me phase)
    (line : s.Has wallet me → s'.Has wallet me)
    (reply : countReply? s'.history me = countReply? s.history me)
    (sent : sentNonces s'.history = sentNonces s.history)
    (next : s'.nextNonce wallet = s.nextNonce wallet) : s'.Keeps wallet me phase := by
  cases phase with
  | away => trivial
  | waiting => trivial
  | held => exact line h
  | counted count => exact ⟨line h.1, reply ▸ h.2⟩
  | numbered count nonce =>
    obtain ⟨has, told, least, above, below⟩ := h
    exact ⟨line has, reply ▸ told, least, sent ▸ above, next ▸ below⟩

/-- A step keeps the invariant if the promises of the one that takes it and those of the others are
kept, and a transaction that it sends is behind all before. -/
theorem NonceInvariant.took {s : Scene α} (h : NonceInvariant sender s) {me : Nat} {job : Job α}
    {ev : Event} {progress : Progress α} {floor : Floor Unit}
    (own : (s.took me job ev progress floor).Keeps sender.wallet me ((s.lockPhase me).after ev))
    (others : ∀ other, other ≠ me → s.Keeps sender.wallet other (s.lockPhase other) →
      (s.took me job ev progress floor).Keeps sender.wallet other (s.lockPhase other))
    (behind : ∀ n ∈ sentNonces (s.history ++ [⟨me, ev, s.floor.desk job.desk⟩]),
      n < (s.took me job ev progress floor).nextNonce sender.wallet)
    (increasing : (sentNonces (s.history ++ [⟨me, ev, s.floor.desk job.desk⟩])).Pairwise (· < ·))
    (accounted : Accounted sender (s.history ++ [⟨me, ev, s.floor.desk job.desk⟩])) :
    NonceInvariant sender (s.took me job ev progress floor) where
  behind := behind
  increasing := increasing
  accounted := accounted
  keeps other job' hjob present := by
    show Keeps _ sender.wallet other (known _ LockPhase.after _ other)
    rw [known_took]
    rcases of_getElem?_set hjob with ⟨rfl, -⟩ | ⟨ne, hjob⟩
    · rw [if_pos rfl]
      exact own
    · rw [if_neg (Ne.symm ne)]
      exact others other ne (h.keeps other job' hjob present)

/-- A step under the lock promises nothing for the others. -/
theorem others_of_has {s s' : Scene α} {me : Nat} (has : s.Has wallet me) :
    ∀ other, other ≠ me → s.Keeps wallet other (s.lockPhase other) →
      s'.Keeps wallet other (s.lockPhase other) :=
  fun _ ne h => keeps_of_not_holds (h.alone has ne)

/-- Nothing is sent: what was sent stays behind the next nonce, which does not go back. -/
theorem NonceInvariant.unsent {s : Scene α} (h : NonceInvariant sender s) {me : Nat} {job : Job α}
    {ev : Event} {progress : Progress α} {floor : Floor Unit}
    (unsent : sentNonces [⟨me, ev, s.floor.desk job.desk⟩] = [])
    (next : s.nextNonce sender.wallet ≤
      (s.took me job ev progress floor).nextNonce sender.wallet)
    (own : (s.took me job ev progress floor).Keeps sender.wallet me ((s.lockPhase me).after ev))
    (others : ∀ other, other ≠ me → s.Keeps sender.wallet other (s.lockPhase other) →
      (s.took me job ev progress floor).Keeps sender.wallet other (s.lockPhase other)) :
    NonceInvariant sender (s.took me job ev progress floor) := by
  have same : sentNonces (s.history ++ [⟨me, ev, s.floor.desk job.desk⟩]) = sentNonces s.history := by
    rw [sentNonces_append, unsent, List.append_nil]
  refine h.took own others (fun n hn => ?_) (same ▸ h.increasing) (h.accounted.append ?_)
  · rw [same] at hn
    exact UInt64.lt_of_lt_of_le (h.behind n hn) next
  · rintro tx rfl
    cases unsent

/-- What leaves the wallet alone keeps the invariant. -/
theorem NonceInvariant.offWallet {s : Scene α} (h : NonceInvariant sender s) {me : Nat}
    {job : Job α} {ev : Event} {progress : Progress α} {floor : Floor Unit}
    (here : s.jobs[me]? = some job) (step : s.floor.Move me job.desk job.progress ev progress floor)
    (off : ev.OffWallet) : NonceInvariant sender (s.took me job ev progress floor) := by
  obtain ⟨lines, nonces⟩ := step.offWallet off
  have frame (other : Nat) {phase : LockPhase} (hk : s.Keeps sender.wallet other phase) :
      (s.took me job ev progress floor).Keeps sender.wallet other phase := by
    refine hk.frame (fun has => ?_) ?_ (sentNonces_offWallet _ off) ?_
    · show (floor.line _).head? = _
      unfold Floor.line
      rw [lines]
      exact has
    · unfold countReply?
      rw [known_took, countAfter_offWallet _ off]
      split
      · next same => rw [same]
      · rfl
    · show (floor.common.nonces.next? _).getD 0 = _
      rw [nonces]
      rfl
  refine h.unsent ?_ ?_ ?_ fun other _ hk => frame other hk
  · show sentNonces ([] ++ [_]) = []
    rw [sentNonces_offWallet _ off]
    rfl
  · show _ ≤ (floor.common.nonces.next? _).getD 0
    rw [nonces]
    exact UInt64.le_refl _
  · rw [LockPhase.after_offWallet _ off]
    exact frame me (h.keeps me job here step.ne_givenUp)

/-! ### The steps on the wallet -/

/-- **Taking a nonce.** It is behind all that were sent, no less than the count that was told, and the
next is behind it. -/
theorem NonceInvariant.allocate {s : Scene α} (h : NonceInvariant sender s) {me : Nat}
    {job : Job α} {progress : Progress α} {pending : Option UInt64}
    (has : s.Has sender.wallet me)
    (told : (countReply? s.history me).map Except.toOption = some pending)
    (phase : s.lockPhase me = .counted pending) :
    NonceInvariant sender (s.took me job
      (.did (.allocate sender.wallet pending)
        ((Effect.allocate sender.wallet pending).apply (s.floor.desk job.desk)).1) progress
      (s.floor.putDesk job.desk
        ((Effect.allocate sender.wallet pending).apply (s.floor.desk job.desk)).2)) := by
  have answer (given : Option UInt64) (d : Desk) (hd :
      (Effect.allocate sender.wallet pending).apply (s.floor.desk job.desk) = (given, d))
      (next : s.nextNonce sender.wallet ≤ (d.common.nonces.next? sender.wallet).getD 0)
      (own : ∀ nonce, given = some nonce → (∀ n, pending = some n → n ≤ nonce) ∧
        (∀ n ∈ sentNonces s.history, n < nonce) ∧
        nonce < (d.common.nonces.next? sender.wallet).getD 0) :
      NonceInvariant sender (s.took me job (.did (.allocate sender.wallet pending) given) progress
        (s.floor.putDesk job.desk d)) := by
    have sent : sentNonces (s.history ++ [⟨me, .did (.allocate sender.wallet pending) given,
        s.floor.desk job.desk⟩]) =
        sentNonces s.history := by
      rw [sentNonces_append]
      exact List.append_nil _
    have reply : (countReply? (s.took me job (.did (.allocate sender.wallet pending) given) progress
        (s.floor.putDesk job.desk d)).history me).map Except.toOption = some pending := by
      unfold countReply?
      rw [known_took, if_pos rfl]
      exact told
    refine h.unsent rfl next ?_ (others_of_has has)
    rw [phase]
    cases given with
    | none => exact ⟨has, reply⟩
    | some nonce =>
      obtain ⟨least, above, below⟩ := own nonce rfl
      refine ⟨has, reply, least, fun n hn => ?_, below⟩
      exact above n (sent ▸ hn)
  cases taken : s.floor.common.nonces.allocate? sender.wallet pending with
  | none =>
    have hd : (Effect.allocate sender.wallet pending).apply (s.floor.desk job.desk) =
        (none, s.floor.desk job.desk) := by
      simp only [Effect.apply, Floor.desk, taken]
    rw [hd]
    refine answer none _ hd (UInt64.le_refl _) fun nonce hn => ?_
    cases hn
  | some result =>
    obtain ⟨nonce, nonces⟩ := result
    have hd : (Effect.allocate sender.wallet pending).apply (s.floor.desk job.desk) = (some nonce,
        { s.floor.desk job.desk with common := { s.floor.common with nonces } }) := by
      simp only [Effect.apply, Floor.desk, taken]
    have chosen := (Nonces.allocate?_eq_some taken).1
    have own : s.nextNonce sender.wallet ≤ nonce := by
      rw [chosen]
      exact Nonces.own_le_candidate _ _ _
    have next := Nonces.lt_next_of_allocate? taken
    rw [hd]
    refine answer (some nonce) _ hd ?_ ?_
    · exact UInt64.le_of_lt (UInt64.lt_of_le_of_lt own next)
    · rintro _ ⟨⟩
      refine ⟨fun n hn => ?_, fun n hn => ?_, next⟩
      · rw [chosen, hn]
        exact Nonces.pending_le_candidate _ _ _
      · exact UInt64.lt_of_lt_of_le (h.behind n hn) own

/-- **Sending.** The transaction goes out under the nonce that was taken for it. -/
theorem NonceInvariant.send {s : Scene α} (h : NonceInvariant sender s) {me : Nat} {job : Job α}
    {progress : Progress α} {tx : SignedTx} {count : Option UInt64}
    (hk : s.Keeps sender.wallet me (.numbered count tx.request.nonce))
    (signed : tx = tx.request.sign sender.key) (mine : tx.request.sender = sender.wallet) :
    NonceInvariant sender (s.took me job (.asked (.send tx)) progress s.floor) := by
  -- The nonce is behind all that were sent, and the wallet's next is behind it.
  obtain ⟨has, told, least, above, below⟩ := hk
  have sent : sentNonces (s.history ++ [⟨me, .asked (.send tx), s.floor.desk job.desk⟩]) =
      sentNonces s.history ++ [tx.request.nonce] := sentNonces_append _ _
  refine h.took ?_ (others_of_has has) ?_ ?_ (h.accounted.append ?_)
  · cases s.lockPhase me <;> exact has
  · rw [sent]
    intro n hn
    rcases List.mem_append.1 hn with hn | hn
    · exact h.behind n hn
    · rw [List.mem_singleton.1 hn]
      exact below
  · rw [sent, List.pairwise_append]
    refine ⟨h.increasing, List.pairwise_singleton _ _, fun n hn m hm => ?_⟩
    rw [List.mem_singleton.1 hm]
    exact above n hn
  · rintro _ ⟨⟩
    obtain ⟨reply, hreply, hcount⟩ := Option.map_eq_some_iff.1 told
    refine ⟨signed, mine, reply, hreply, fun n hn => least n ?_⟩
    rw [← hcount, hn]
    rfl

/-- A step with no sending, after which the lines and the nonces are as they were. -/
theorem NonceInvariant.aside {s : Scene α} (h : NonceInvariant sender s) {me : Nat} {job : Job α}
    {ev : Event} {progress : Progress α} (unsent : sentNonces [⟨me, ev, s.floor.desk job.desk⟩] = [])
    (own : (s.took me job ev progress s.floor).Keeps sender.wallet me ((s.lockPhase me).after ev)) :
    NonceInvariant sender (s.took me job ev progress s.floor) := by
  refine h.unsent unsent (UInt64.le_refl _) own fun other ne hk => ?_
  refine hk.frame id ?_ ?_ rfl
  · unfold countReply?
    rw [known_took, if_neg (Ne.symm ne)]
  · show sentNonces (s.history ++ _) = _
    rw [sentNonces_append, unsent, List.append_nil]

/-- **Every step keeps the invariant** if it is one that the operation's phase allows. -/
theorem NonceInvariant.move {s : Scene α} (h : NonceInvariant sender s) {me : Nat} {job : Job α}
    {ev : Event} {progress : Progress α} {floor : Floor Unit} (here : s.jobs[me]? = some job)
    (step : s.floor.Move me job.desk job.progress ev progress floor)
    (permit : LockPhase.may sender (s.lockPhase me) ev) :
    NonceInvariant sender (s.took me job ev progress floor) := by
  have hk := h.keeps me job here step.ne_givenUp
  -- Off the wallet nothing changes; on it, the phase says which step it is.
  by_cases off : ev.OffWallet
  · exact h.offWallet here step off
  generalize job.progress = before at step
  cases step with
  | @did e _ =>
    cases e with
    | allocate wallet pending =>
      obtain ⟨rfl, phase⟩ := permit
      rw [phase] at hk
      exact h.allocate hk.1 hk.2 phase
    | _ => exact absurd rfl off
  | @asked r _ =>
    cases r with
    | pendingNonce wallet =>
      obtain ⟨rfl, phase⟩ := permit
      refine h.aside rfl ?_
      rw [phase] at hk ⊢
      exact hk
    | send tx =>
      obtain ⟨signed, mine, count, phase⟩ := permit
      rw [phase] at hk
      exact h.send hk signed mine
    | _ => exact absurd rfl off
  | @told r _ reply =>
    cases r with
    | pendingNonce wallet =>
      have phase : s.lockPhase me = .held := permit
      rw [phase] at hk
      refine h.aside rfl ?_
      rw [phase]
      refine ⟨hk, ?_⟩
      unfold countReply?
      rw [known_took, if_pos rfl]
      rfl
    | send tx =>
      refine h.aside rfl ?_
      have same : (s.lockPhase me).after (.told (.send tx) reply) = s.lockPhase me := by
        cases s.lockPhase me <;> rfl
      rw [same]
      refine hk.frame id ?_ ?_ rfl
      · unfold countReply?
        rw [known_took, if_pos rfl]
        rfl
      · show sentNonces (s.history ++ _) = _
        rw [sentNonces_append]
        exact List.append_nil _
    | _ => exact absurd rfl off
  | slept => exact absurd rfl off
  | woke why => exact absurd rfl off
  | @queued wallet _ =>
    obtain ⟨rfl, phase⟩ := permit
    refine h.unsent rfl (UInt64.le_refl _) ?_ fun other ne hk => ?_
    · rw [phase]
      trivial
    · refine hk.frame (fun has => ?_) ?_ ?_ rfl
      · show ((s.floor.putLine _ _).line _).head? = _
        rw [Floor.line_putLine, if_pos rfl, List.head?_append, has]
        rfl
      · unfold countReply?
        rw [known_took, if_neg (Ne.symm ne)]
      · show sentNonces (s.history ++ _) = _
        rw [sentNonces_append]
        exact List.append_nil _
  | @locked wallet _ first =>
    obtain ⟨rfl, phase⟩ := permit
    refine h.aside rfl ?_
    rw [phase]
    exact first
  | @unlocked wallet _ =>
    obtain ⟨rfl, holds⟩ := permit
    refine h.unsent rfl (UInt64.le_refl _) ?_ (others_of_has (hk.has holds))
    cases s.lockPhase me <;> trivial

/-- One that is given up leaves the line, and the lock passes on. -/
theorem NonceInvariant.giveUp {s : Scene α} (h : NonceInvariant sender s) (me : Nat) (job : Job α) :
    NonceInvariant sender
      { s with floor := (s.floor.giveUp me job).2, jobs := s.jobs.set me (s.floor.giveUp me job).1 } where
  behind n hn := by
    show n < ((s.floor.giveUp me job).2.common.nonces.next? _).getD 0
    rw [Floor.common_giveUp]
    exact h.behind n hn
  increasing := h.increasing
  accounted := h.accounted
  keeps other job' hjob present := by
    rcases of_getElem?_set hjob with ⟨rfl, rfl⟩ | ⟨ne, hjob⟩
    · exact absurd rfl present
    · refine (h.keeps other job' hjob present).frame (fun has => ?_) rfl rfl ?_
      · obtain ⟨rest, line⟩ := List.head?_eq_some_iff.1 has
        show ((s.floor.giveUp me job).2.line _).head? = _
        rw [Floor.line_giveUp, line, List.filter_cons_of_pos (by simpa using ne)]
        rfl
      · show ((s.floor.giveUp me job).2.common.nonces.next? _).getD 0 = _
        rw [Floor.common_giveUp]
        rfl

/-- Nothing has been sent yet. -/
theorem NonceInvariant.opening (common : Common) (books : List Book) :
    NonceInvariant sender (Scene.opening common books : Scene α) where
  keeps me job here := by cases here
  behind n mem := by cases mem
  increasing := List.Pairwise.nil
  accounted before deed tx within := by
    cases List.append_eq_nil_iff.1 (List.prefix_nil.1 within)
    contradiction

/-- **Every change keeps the invariant** when all operations keep to their phases. -/
theorem NonceInvariant.change {Q : α → LockPhase → Prop} {s s' : Scene α}
    (hw : Watched LockPhase.away (LockPhase.may sender) LockPhase.after Q s) (h : NonceInvariant sender s)
    (change : Change calls s s') : NonceInvariant sender s' := by
  cases change with
  | still => exact h
  | call c once =>
    refine { h with keeps := fun me job hjob present => ?_ }
    rcases of_getElem?_concat hjob with hjob | ⟨rfl, -⟩
    · exact h.keeps me job hjob present
    · -- A new operation has done nothing yet.
      have phase : s.lockPhase s.jobs.length = .away := hw.known_of_le (Nat.le_refl _)
      show s.Keeps _ s.jobs.length (s.lockPhase s.jobs.length)
      rw [phase]
      trivial
  | move here step => exact h.move here step (hw.permits here step)
  | finish here ended =>
    refine { h with keeps := fun other job' hjob present => ?_ }
    rcases of_getElem?_set hjob with ⟨rfl, rfl⟩ | ⟨-, hjob⟩
    · refine h.keeps other _ here ?_
      rw [ended]
      nofun
    · exact h.keeps other job' hjob present
  | giveUp here may => exact h.giveUp _ _
  | clock now => exact ⟨h.keeps, h.behind, h.increasing, h.accounted⟩
  | stop desk => exact ⟨h.keeps, h.behind, h.increasing, h.accounted⟩

end Scene

namespace Connector

/-- **The nonces of a wallet's transactions only grow.** However the calls of a desk take turns, whatever
the node answers, and wherever calls are given up: the nonces of the transactions handed over are
strictly increasing in the order of their sending. Each transaction is the desk's own, and when the
pending count that was asked for it was told, its nonce is no less. -/
theorem sentNonces_increasing (c : Connector) (common : Common) (book : Book)
    (choices : List (Choice Operation)) :
    (sentNonces ((Scene.opening common [book]).play c.onFloor choices).history).Pairwise (· < ·) ∧
      Accounted c.sender ((Scene.opening common [book]).play c.onFloor choices).history := by
  have inv : ((Scene.opening common [book]).play c.onFloor choices).NonceInvariant c.sender := by
    refine Scene.play_watched (I := Scene.NonceInvariant c.sender) c.perform_lockPhase
      (Scene.NonceInvariant.opening common [book]) ?_ choices
    exact fun s s' hw h change => h.change hw change
  exact ⟨inv.increasing, inv.accounted⟩

end Connector
end OrderDesk
