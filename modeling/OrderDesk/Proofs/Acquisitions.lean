import OrderDesk.Proofs.Log
import OrderDesk.Proofs.NonceOrder

/-!
# `OrderDesk.Proofs.Acquisitions` — the nonces of each wallet, one after another

However operations take turns, and whatever wallets they take nonces of, the nonces of one wallet follow
a rule of its own: from the nonce before and the count that was told, the next. The rule is said of the
integers, so it says as well that a sequence never wraps.

## Contents
- `Taking`, `takings`: what a history says of the nonces of a wallet.
- `Taking.due`, `Taking.InTurn`: the rule; `InTurn.increasing`, `InTurn.gapless`, `InTurn.unique`: what
  follows from it.
- `Effect.inTurn_allocate`: a step of a desk follows the rule.
- `Scene.InTurn`: what there is to say of a wallet in a scene; `Scene.InTurn.change`: every change keeps
  it.
- `Sender.acquisitions_in_turn`: the result, for every scene.
-/

namespace OrderDesk

/-! ### The rule -/

/-- A nonce that an operation took, or was refused. -/
structure Taking where
  /-- The pending count, if the node told one. -/
  count : Option UInt64
  /-- The nonce, unless it would be the last of all. -/
  given : Option UInt64
deriving DecidableEq, Repr

namespace Taking

/-- **The nonce that is due** to a wallet after the nonce given last, over the integers. -/
def due : (last count : Option UInt64) → Nat
  | some last, some count => max count.toNat (last.toNat + 1)
  | none, some count => count.toNat
  | some last, none => last.toNat + 1
  | none, none => 0

/-- **The rule of one wallet.** Each time the nonce that is due is given. If that is the largest number of
64 bits, nothing is given, and the rule goes on as if nothing had been asked. -/
inductive InTurn : (last : Option UInt64) → List Taking → Prop
  | done {last} : InTurn last []
  | given {last count nonce rest} (is_due : nonce.toNat = due last count)
    (room : nonce.toNat < UInt64.size - 1) (next : InTurn (some nonce) rest) :
    InTurn last (⟨count, some nonce⟩ :: rest)
  | refused {last count rest} (largest : due last count = UInt64.size - 1) (next : InTurn last rest) :
    InTurn last (⟨count, none⟩ :: rest)

/-- The nonces that were given, in their order. -/
def nonces (taken : List Taking) : List UInt64 := taken.filterMap (·.given)

/-- The nonce given last, or that before all of them. -/
def lastGiven (last : Option UInt64) (taken : List Taking) : Option UInt64 :=
  taken.foldl (fun last t => t.given.or last) last

/-- No count is ahead of the number after the nonce given last; the first nonce may be any. -/
def NoneAhead : (last : Option UInt64) → List Taking → Prop
  | _, [] => True
  | last, t :: rest =>
    (∀ nonce ∈ last, ∀ count ∈ t.count, count.toNat ≤ nonce.toNat + 1) ∧
      NoneAhead (t.given.or last) rest

namespace InTurn

variable {last : Option UInt64} {taken : List Taking}

theorem concat (h : InTurn last taken) {t : Taking} (next : InTurn (lastGiven last taken) [t]) :
    InTurn last (taken ++ [t]) := by
  induction h with
  | done => exact next
  | given is_due room _ ih => exact .given is_due room (ih next)
  | refused largest _ ih => exact .refused largest (ih next)

/-- What is due after a nonce is above it. -/
theorem lt_due (last : UInt64) (count : Option UInt64) : last.toNat < due (some last) count := by
  cases count with
  | none => exact Nat.lt_succ_self _
  | some count => exact Nat.lt_of_lt_of_le (Nat.lt_succ_self _) (Nat.le_max_right _ _)

theorem above {nonce : UInt64} (h : InTurn (some nonce) taken) : ∀ later ∈ nonces taken, nonce < later := by
  generalize start : some nonce = last at h
  induction h generalizing nonce with
  | done => exact fun _ mem => absurd mem List.not_mem_nil
  | @given _ count next rest is_due room _ ih =>
    cases start
    have first : nonce < next := by
      rw [UInt64.lt_iff_toNat_lt, is_due]
      exact lt_due nonce count
    intro later mem
    rcases List.mem_cons.1 mem with rfl | mem
    · exact first
    · exact UInt64.lt_trans first (ih rfl later mem)
  | refused _ _ ih => exact ih start

/-- **No nonce is given twice**, or after a larger one. -/
theorem increasing (h : InTurn last taken) : (nonces taken).Pairwise (· < ·) := by
  induction h with
  | done => exact .nil
  | given _ _ next ih => exact .cons next.above ih
  | refused _ _ ih => exact ih

/-- **The counts decide** what is given. -/
theorem unique (h : InTurn last taken) {other : List Taking} (h' : InTurn last other)
    (same : other.map (·.count) = taken.map (·.count)) : other = taken := by
  induction h generalizing other with
  | done => exact List.map_eq_nil_iff.1 same
  | @given last count nonce rest is_due room _ ih =>
    cases h' with
    | done => cases same
    | @given _ count' nonce' rest' is_due' room' next' =>
      obtain ⟨rfl, counts⟩ := List.cons.inj same
      obtain rfl : nonce' = nonce := UInt64.toNat_inj.1 (is_due'.trans is_due.symm)
      rw [ih next' counts]
    | @refused _ count' rest' largest next' =>
      obtain ⟨rfl, -⟩ := List.cons.inj same
      exact absurd (is_due.trans largest) (Nat.ne_of_lt room)
  | @refused last count rest largest _ ih =>
    cases h' with
    | done => cases same
    | @given _ count' nonce' rest' is_due' room' next' =>
      obtain ⟨rfl, -⟩ := List.cons.inj same
      exact absurd (is_due'.trans largest) (Nat.ne_of_lt room')
    | @refused _ count' rest' largest' next' =>
      obtain ⟨rfl, counts⟩ := List.cons.inj same
      rw [ih next' counts]

/-- After a nonce, counts that are not ahead leave no gap. -/
theorem gapless_after {nonce : UInt64} (h : InTurn (some nonce) taken)
    (behind : NoneAhead (some nonce) taken) :
    (nonces taken).map UInt64.toNat = List.range' (nonce.toNat + 1) (nonces taken).length := by
  generalize start : some nonce = last at h
  induction h generalizing nonce with
  | done => rfl
  | @given _ count next rest is_due room _ ih =>
    cases start
    have follows : next.toNat = nonce.toNat + 1 := by
      rw [is_due]
      cases count with
      | none => rfl
      | some count => exact Nat.max_eq_right (behind.1 nonce rfl count rfl)
    show next.toNat :: (nonces rest).map UInt64.toNat = _
    rw [ih behind.2 rfl, follows]
    rfl
  | refused _ _ ih => exact ih behind.2 start

/-- **Counts that are not ahead leave no gap** from the first nonce on. -/
theorem gapless (h : InTurn none taken) (behind : NoneAhead none taken) :
    ∃ first, (nonces taken).map UInt64.toNat = List.range' first (nonces taken).length := by
  generalize start : (none : Option UInt64) = last at h
  induction h with
  | done => exact ⟨0, rfl⟩
  | @given _ count nonce rest _ _ next _ =>
    refine ⟨nonce.toNat, ?_⟩
    show nonce.toNat :: (nonces rest).map UInt64.toNat = _
    subst start
    rw [next.gapless_after behind.2]
    rfl
  | refused _ _ ih =>
    subst start
    exact ih behind.2 rfl

end InTurn
end Taking

/-! ### The desk follows the rule -/

namespace Nonces

variable {n : Nonces} {wallet : Address} {last : Option UInt64}

/-- What is stored for a wallet is the number after the nonce given last, over the integers. -/
def Stores (n : Nonces) (wallet : Address) (last : Option UInt64) : Prop :=
  (n.next? wallet).map UInt64.toNat = last.map (·.toNat + 1)

theorem toNat_max (a b : UInt64) : (max a b).toNat = max a.toNat b.toNat := by
  show (if a ≤ b then b else a).toNat = _
  split
  · next le => exact (Nat.max_eq_right (UInt64.le_iff_toNat_le.1 le)).symm
  · next lt =>
    exact (Nat.max_eq_left (Nat.le_of_not_le fun le => lt (UInt64.le_iff_toNat_le.2 le))).symm

/-- The nonce that is chosen is the one due. -/
theorem toNat_candidate (stores : n.Stores wallet last) (count : Option UInt64) :
    (n.candidate wallet count).toNat = Taking.due last count := by
  have own : ((n.next? wallet).getD 0).toNat = Taking.due last none := by
    unfold Stores at stores
    cases next : n.next? wallet with
    | none =>
      rw [next] at stores
      cases last with
      | none => rfl
      | some last => cases stores
    | some own =>
      rw [next] at stores
      cases last with
      | none => cases stores
      | some last => exact Option.some.inj stores
  cases count with
  | none => exact own
  | some count =>
    show (max count _).toNat = _
    rw [toNat_max, own]
    cases last with
    | none => exact Nat.max_zero _
    | some last => rfl

end Nonces

/-- The nonce that the event gives or refuses to the wallet. -/
def Event.taking? (wallet : Address) : Event → Option Taking
  | did (.allocate own count) given => if own = wallet then some ⟨count, given⟩ else none
  | _ => none

/-- **A step that takes a nonce** follows the rule, and so does what is stored. -/
theorem Effect.inTurn_allocate {d : Desk} {wallet : Address} {last : Option UInt64}
    (stores : d.common.nonces.Stores wallet last) (count : Option UInt64) :
    let step := (Effect.allocate wallet count).apply d
    Taking.InTurn last [⟨count, step.1⟩] ∧
      step.2.common.nonces.Stores wallet (step.1.or last) := by
  have chosen := Nonces.toNat_candidate stores count
  by_cases room : (d.common.nonces.candidate wallet count).toNat + 1 < UInt64.size
  · have taken : d.common.nonces.allocate? wallet count =
        some (d.common.nonces.candidate wallet count, d.common.nonces.put wallet
          (d.common.nonces.candidate wallet count + 1)) := if_pos room
    simp only [Effect.apply, taken]
    refine ⟨.given chosen (by omega) .done, ?_⟩
    unfold Nonces.Stores
    rw [Nonces.next?_put, if_pos rfl]
    have size : UInt64.size = 2 ^ 64 := rfl
    have next : (d.common.nonces.candidate wallet count + 1).toNat =
        (d.common.nonces.candidate wallet count).toNat + 1 := by
      rw [UInt64.toNat_add]
      exact Nat.mod_eq_of_lt (by rw [← size]; exact room)
    exact congrArg some next
  · have refused : d.common.nonces.allocate? wallet count = none := if_neg room
    have below := (d.common.nonces.candidate wallet count).toNat_lt
    have size : UInt64.size = 2 ^ 64 := rfl
    simp only [Effect.apply, refused]
    exact ⟨.refused (by omega) .done, stores⟩

/-- A step that gives no nonce changes nothing. -/
theorem Effect.apply_refused {d : Desk} {wallet : Address} {count : Option UInt64}
    (refused : ((Effect.allocate wallet count).apply d).1 = none) :
    ((Effect.allocate wallet count).apply d).2 = d := by
  simp only [Effect.apply] at refused ⊢
  split
  · next allocated =>
    rw [allocated] at refused
    cases refused
  · rfl

/-- A step that takes a nonce of one wallet leaves those of the others. -/
theorem Effect.next?_allocate_other {wallet other : Address} (ne : other ≠ wallet)
    (count : Option UInt64) (d : Desk) :
    ((Effect.allocate other count).apply d).2.common.nonces.next? wallet =
      d.common.nonces.next? wallet := by
  simp only [Effect.apply]
  split
  · next nonce after allocated =>
    show after.next? wallet = _
    rw [(Nonces.allocate?_eq_some allocated).2.2, Nonces.next?_put, if_neg ne]
  · rfl

/-- Where no nonce of a wallet is taken, nothing is stored for it. -/
theorem Floor.Move.next?_eq {α : Type} {me i : Nat} {f f' : Floor Unit}
    {progress progress' : Progress α} {ev : Event} (step : f.Move me i progress ev progress' f')
    {wallet : Address} (aside : ev.taking? wallet = none) :
    f'.common.nonces.next? wallet = f.common.nonces.next? wallet := by
  cases step with
  | @did e next =>
    cases concerns : e.concernsWallet with
    | false => exact congrArg (·.next? wallet) (e.nonces_apply _ concerns)
    | true =>
      cases e with
      | allocate other count =>
        refine Effect.next?_allocate_other (fun same => ?_) count _
        rw [Event.taking?, if_pos same] at aside
        cases aside
      | _ => cases concerns
  | _ => rfl

/-- Where a nonce of a wallet is taken, it is by the rule. -/
theorem Floor.Move.inTurn {α : Type} {me i : Nat} {f f' : Floor Unit}
    {progress progress' : Progress α} {ev : Event} (step : f.Move me i progress ev progress' f')
    {wallet : Address} {t : Taking} (takes : ev.taking? wallet = some t) {last : Option UInt64}
    (stores : f.common.nonces.Stores wallet last) :
    Taking.InTurn last [t] ∧ f'.common.nonces.Stores wallet (t.given.or last) := by
  cases step with
  | @did e next =>
    cases e with
    | allocate other count =>
      rw [Event.taking?] at takes
      split at takes
      · next same =>
        subst same
        cases takes
        exact Effect.inTurn_allocate stores count
      · cases takes
    | _ => cases takes
  | _ => cases takes

/-! ### Scenes -/

/-- What a history says of the nonces of a wallet. -/
def takings (wallet : Address) (history : List Deed) : List Taking :=
  history.filterMap (·.event.taking? wallet)

theorem takings_append (wallet : Address) (history : List Deed) (deed : Deed) :
    takings wallet (history ++ [deed]) =
      takings wallet history ++ (deed.event.taking? wallet).toList := by
  unfold takings
  rw [List.filterMap_append]
  cases taking : deed.event.taking? wallet <;> simp [taking]

namespace Scene

variable {α ι : Type} {calls : ι → Nat × Routine α} {s s' : Scene α} {wallet : Address}

/-- **What there is to say of a wallet**: its nonces follow the rule, and what is stored for it goes on
behind the last of them. -/
structure InTurn (s : Scene α) (wallet : Address) : Prop where
  rule : Taking.InTurn none (takings wallet s.history)
  stores : s.floor.common.nonces.Stores wallet (Taking.lastGiven none (takings wallet s.history))

namespace InTurn

/-- A step of one operation keeps it, whichever wallet it is about. -/
theorem move (h : s.InTurn wallet) {me : Nat} {job : Job α} {ev : Event} {progress : Progress α}
    {floor : Floor Unit} (step : s.floor.Move me job.desk job.progress ev progress floor) :
    (s.took me job ev progress floor).InTurn wallet := by
  have history : takings wallet (s.took me job ev progress floor).history =
      takings wallet s.history ++ (ev.taking? wallet).toList := takings_append ..
  cases taking : ev.taking? wallet with
  | none =>
    rw [taking, Option.toList_none, List.append_nil] at history
    refine ⟨history ▸ h.rule, ?_⟩
    have same : floor.common.nonces.next? wallet = s.floor.common.nonces.next? wallet :=
      step.next?_eq taking
    have stores := h.stores
    unfold Nonces.Stores at stores ⊢
    rw [history, ← stores, ← same]
    rfl
  | some t =>
    rw [taking, Option.toList_some] at history
    obtain ⟨follows, stores⟩ := step.inTurn taking h.stores
    refine ⟨history ▸ h.rule.concat follows, ?_⟩
    rw [history, Taking.lastGiven, List.foldl_append]
    exact stores

/-- **Every change keeps it.** -/
theorem change (h : s.InTurn wallet) (change : Change calls s s') : s'.InTurn wallet := by
  cases change with
  | still => exact h
  | call c once => exact ⟨h.rule, h.stores⟩
  | move here step => exact h.move step
  | finish here ended => exact ⟨h.rule, h.stores⟩
  | @giveUp me job here may =>
    refine ⟨h.rule, ?_⟩
    show (s.floor.giveUp me job).2.common.nonces.Stores _ _
    rw [Floor.common_giveUp]
    exact h.stores
  | clock now => exact ⟨h.rule, h.stores⟩
  | stop desk => exact ⟨h.rule, h.stores⟩

end InTurn

/-- An opening where no nonce has been given yet. -/
def fresh (common : Common) (books : List Book) : Scene α := opening { common with nonces := {} } books

theorem inTurn_play (calls : ι → Nat × Routine α) (common : Common) (books : List Book)
    (choices : List (Choice ι)) (wallet : Address) :
    ((fresh common books).play calls choices).InTurn wallet := by
  have start : (fresh common books : Scene α).InTurn wallet := ⟨.done, rfl⟩
  exact play_induction (P := fun s => s.InTurn wallet) start (fun _ _ h change => h.change change)
    choices

end Scene

/-! ### The result -/

namespace Sender

open Attempt

/-- **One acquisition**: the count is asked for, a nonce is taken by what is told, and that nonce is the
result; if none is given, there is none. -/
def Acquires (wallet : Address) (r : Except Fault UInt64) (own : List Event) : Prop :=
  ∃ (answer : Except DeskError UInt64) (given : Option UInt64),
    own = [.asked (.pendingNonce wallet), .told (.pendingNonce wallet) answer,
      .did (.allocate wallet answer.toOption) given] ∧
    r = match given with
      | some nonce => .ok nonce
      | none => .error (.breakdown .arithmetic)

theorem acquire_logs (wallet : Address) : (acquire wallet).Logs (Acquires wallet) := by
  unfold acquire
  refine logs_reply_bind fun answer => logs_act_bind fun given => ?_
  cases given with
  | some nonce => exact ⟨answer, some nonce, rfl, rfl⟩
  | none => exact ⟨answer, none, rfl, rfl⟩

variable {α ι : Type}

/-- **Each wallet's nonces come as if it were alone.** An acquisition asks for the pending count and has the
nonce it takes by it for its result; refused, it is a breakdown and changes nothing. However operations
take turns, the nonces of every wallet follow the rule: each is the one due by the count and the nonce
before, they never repeat, they leave no gap while no count is ahead, and the wallet's own counts decide
them, whatever else goes on in the scene. -/
theorem acquisitions_in_turn (calls : ι → Nat × Routine α) (common : Common) (books : List Book)
    (choices : List (Choice ι)) (wallet : Address) :
    let s := (Scene.fresh common books).play calls choices
    let taken := takings wallet s.history
    (acquire wallet).Logs (Acquires wallet) ∧
    (∀ count d, ((Effect.allocate wallet count).apply d).1 = none →
      ((Effect.allocate wallet count).apply d).2 = d) ∧
    s.InTurn wallet ∧
    (Taking.nonces taken).Pairwise (· < ·) ∧
    (Taking.NoneAhead none taken → ∃ first,
      (Taking.nonces taken).map UInt64.toNat = List.range' first (Taking.nonces taken).length) ∧
    ∀ (calls' : ι → Nat × Routine α) common' books' choices',
      let taken' := takings wallet ((Scene.fresh common' books').play calls' choices').history
      taken'.map (·.count) = taken.map (·.count) → taken' = taken := by
  intro s taken
  have inTurn : s.InTurn wallet := Scene.inTurn_play calls common books choices wallet
  refine ⟨acquire_logs wallet, fun _ _ => Effect.apply_refused, inTurn, inTurn.rule.increasing,
    inTurn.rule.gapless, ?_⟩
  intro calls' common' books' choices' taken' same
  exact inTurn.rule.unique (Scene.inTurn_play calls' common' books' choices' wallet).rule same

end Sender

namespace TakingSample

def one : Address := ⟨1⟩

def other : Address := ⟨2⟩

/-- Two nonces of a wallet under one hold of its lock. -/
def calls (wallet : Address) : Nat × Routine (Except Fault (List UInt64)) :=
  (0, (Sender.acquireMany wallet 2).run)

/-- The next step of an operation, which is told the count or an error. -/
def step (me : Nat) (count : Option UInt64) : Choice Address :=
  .go me (fun
    | .pendingNonce _ => count.elim (.error default) .ok
    | _ => .error default) false

/-- The first wallet is told five and then an error. -/
def counts : List (Option UInt64) := List.replicate 5 (some 5) ++ List.replicate 5 none

/-- Both wallets' operations step by step in turn; the other wallet is told seven. -/
def together : List (Choice Address) :=
  .call one :: .call other :: counts.flatMap fun count => [step 1 (some 7), step 0 count]

/-- The operation of the one wallet without the other's. -/
def alone : List (Choice Address) := .call one :: counts.map (step 0)

/-- What the operations take of a wallet's nonces. -/
def taken (choices : List (Choice Address)) (wallet : Address) : List Taking :=
  takings wallet ((Scene.fresh {} []).play calls choices).history

/-- The wallet is given five and six beside the other, as it would be alone. -/
theorem taken_beside_other :
    taken together one = [⟨some 5, some 5⟩, ⟨none, some 6⟩] ∧
    taken together other = [⟨some 7, some 7⟩, ⟨some 7, some 8⟩] ∧
    (∃ first, (Taking.nonces (taken together one)).map UInt64.toNat = List.range' first 2) ∧
    taken alone one = taken together one := by
  have both : taken together one = [⟨some 5, some 5⟩, ⟨none, some 6⟩] := by decide
  obtain ⟨-, -, -, -, gapless, decided⟩ := Sender.acquisitions_in_turn calls {} [] together one
  refine ⟨both, by decide, ?_, decided calls {} [] alone (by decide)⟩
  have behind : Taking.NoneAhead none (taken together one) := by
    rw [both]
    simp [Taking.NoneAhead]
  obtain ⟨first, consecutive⟩ := gapless behind
  exact ⟨first, consecutive⟩

end TakingSample
end OrderDesk
