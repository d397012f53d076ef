import OrderDesk.Proofs.OrderSteps

/-!
# `OrderDesk.Proofs.PlacementPhase` — what a placement does with its identifier

A placement looks whether its identifier is free, reserves it, hands its transaction to the node, and
completes the record if the node took it or gives the identifier up if not. Its phase says how far it
has come with that. One that finds the identifier taken has nothing left to do but to fail.

## Contents
- `PlacementPhase`, and `PlacementPhase.may`: what a placement may do next.
- `PlacementPhase.Transition`, `PlacementPhase.transition`: all that a permitted event can be, with
  the phase after it.
- `…_placementPhase`: the parts of a placement keep to it, up to `Connector.place_placementPhase`.
-/

namespace OrderDesk

/-- How far a placement has come with its identifier. -/
inductive PlacementPhase where
  | fresh
  /-- It found the identifier taken. -/
  | refused (id : String)
  | reserved (id : String)
  /-- Its transaction is in the hands of the node. -/
  | handed (id : String) (hash : Hash)
  /-- The node took the transaction; the record is not complete yet. -/
  | accepted (id : String) (hash : Hash)
  | placed (id : String) (hash : Hash)
  /-- It gave the identifier up. -/
  | freed (id : String)
deriving DecidableEq

namespace PlacementPhase

/-- The identifier that was reserved. -/
def reserved? : PlacementPhase → Option String
  | reserved id | handed id _ | accepted id _ | placed id _ | freed id => some id
  | fresh | refused _ => none

/-- The identifier that is the placement's. -/
def held? : PlacementPhase → Option String
  | reserved id | handed id _ | accepted id _ | placed id _ => some id
  | fresh | refused _ | freed _ => none

/-- The identifier that is reserved and whose record is not complete. -/
def pending? : PlacementPhase → Option String
  | reserved id | handed id _ | accepted id _ => some id
  | fresh | refused _ | placed _ _ | freed _ => none

/-- The hash under which the node took the transaction. -/
def accepted? : PlacementPhase → Option Hash
  | accepted _ hash | placed _ hash => some hash
  | fresh | refused _ | reserved _ | handed _ _ | freed _ => none

/-- The identifier that was given up. -/
def freed? : PlacementPhase → Option String
  | freed id => some id
  | fresh | refused _ | reserved _ | handed _ _ | accepted _ _ | placed _ _ => none

/-- Nothing was ever reserved. -/
def isEarly : PlacementPhase → Bool
  | fresh | refused _ => true
  | reserved _ | handed _ _ | accepted _ _ | placed _ _ | freed _ => false

/-- The record under the identifier that is the placement's. -/
def Fits : PlacementPhase → OrderRecord → Prop
  | placed _ hash, r => r.Stands hash
  | _, r => r.state = .pendingSubmit

/-- The identifier was given up or the record was completed. -/
def Left (id : String) (phase : PlacementPhase) : Prop :=
  phase = freed id ∨ ∃ hash, phase = placed id hash

/-- The result of a placement, and where it ends with it. -/
def Ends (id : String) (r : Except Fault OrderHandle) : PlacementPhase → Prop
  | fresh => ∃ fault, r = .error fault
  | refused other => other = id ∧ r = .error (.error (.duplicateOrder id))
  | freed other => other = id ∧ ∃ fault, r = .error fault
  | placed other hash => other = id ∧ ∀ handle, r = .ok handle → handle.id = id ∧ handle.hash = hash
  | reserved _ | handed _ _ | accepted _ _ => False

/-- What a placement may do. Between being told that the node took its transaction and completing the
record there is nothing else, and one that found its identifier taken does nothing more. -/
def may : PlacementPhase → Event → Prop
  | fresh, .did (.order _) _ => True
  | fresh, .did (.reserve record) _ => record.status = .pendingSubmit
  | fresh, .did e _ => e.concernsOrders = false
  | reserved id, .did (.release other) _ => other = id
  | reserved _, .asked (.send _) => True
  | reserved _, ev => ev.Passing
  | handed _ hash, .told (.send tx) _ => tx.hash = hash
  | accepted id hash, .did (.broadcast other completed) _ => other = id ∧ completed = hash
  | placed id _, .did (.resolve other _) _ => other = id
  | placed _ _, ev => ev.Passing
  | freed _, .unlocked _ => True
  | _, _ => False

/-- How an event changes the phase. -/
def after : PlacementPhase → Event → PlacementPhase
  | fresh, .did (.order id) (some _) => refused id
  | fresh, .did (.reserve record) (.ok ()) => reserved record.id
  | fresh, .did (.reserve record) (.error _) => refused record.id
  | reserved id, .did (.release _) _ => freed id
  | reserved id, .asked (.send tx) => handed id tx.hash
  | handed id hash, .told (.send _) (.ok _) => accepted id hash
  | handed id _, .told (.send _) (.error _) => reserved id
  | accepted id hash, .did (.broadcast _ _) _ => placed id hash
  | phase, _ => phase

/-- The watch over a placement's dealings with its identifier. -/
def watch : Watch PlacementPhase := Watch.tracking may after

theorem watch_step {phase : PlacementPhase} {ev : Event} {P : PlacementPhase → Prop} :
    watch.Step phase ev P ↔ may phase ev ∧ P (phase.after ev) :=
  Watch.tracking_step ..

/-- **All that a placement does**, with its phase before and after. -/
inductive Transition : PlacementPhase → Event → PlacementPhase → Prop
  /-- It takes no step on its order, and sends nothing; before it has an identifier it asks nothing. -/
  | passing {phase ev} (passing : ev.Passing)
    (early : phase.isEarly = true → phase = fresh ∧ ∀ r, ev ≠ .asked r) : Transition phase ev phase
  | looked {id} : Transition fresh (.did (.order id) none) fresh
  | found {id r} : Transition fresh (.did (.order id) (some r)) (refused id)
  | reserve {record} (pending : record.status = .pendingSubmit) :
    Transition fresh (.did (.reserve record) (.ok ())) (reserved record.id)
  | refuse {record e} : Transition fresh (.did (.reserve record) (.error e)) (refused record.id)
  | hand {id tx} : Transition (reserved id) (.asked (.send tx)) (handed id tx.hash)
  | accept {id tx answer} : Transition (handed id tx.hash) (.accepted tx answer) (accepted id tx.hash)
  | reject {id tx e} : Transition (handed id tx.hash) (.told (.send tx) (.error e)) (reserved id)
  | complete {id hash x} : Transition (accepted id hash) (.did (.broadcast id hash) x) (placed id hash)
  | release {id x} : Transition (reserved id) (.did (.release id) x) (freed id)
  | settle {id hash resolution x} :
    Transition (placed id hash) (.did (.resolve id resolution) x) (placed id hash)

theorem transition {phase : PlacementPhase} {ev : Event} (permit : may phase ev) :
    Transition phase ev (phase.after ev) := by
  cases phase with
  | fresh =>
    cases ev with
    | did e x =>
      cases e with
      | order id =>
        cases x with
        | none => exact .looked
        | some r => exact .found
      | reserve record =>
        cases x with
        | ok _ => exact .reserve permit
        | error e => exact .refuse
      | orders | adopt _ | broadcast _ _ | release _ | resolve _ _ | clear _ => cases permit
      | _ => exact .passing ⟨rfl, trivial⟩ fun _ => ⟨rfl, nofun⟩
    | _ => cases permit
  | refused id => cases permit
  | reserved id =>
    cases ev with
    | did e x =>
      cases e with
      | release other =>
        cases permit
        exact .release
      | _ => exact .passing permit nofun
    | asked r =>
      cases r with
      | send tx => exact .hand
      | _ => exact .passing permit nofun
    | _ => exact .passing permit nofun
  | handed id hash =>
    cases ev with
    | told r x =>
      cases r with
      | send tx =>
        cases permit
        cases x with
        | ok answer => exact .accept
        | error e => exact .reject
      | _ => cases permit
    | _ => cases permit
  | accepted id hash =>
    cases ev with
    | did e x =>
      cases e with
      | broadcast other completed =>
        obtain ⟨rfl, rfl⟩ := permit
        exact .complete
      | _ => cases permit
    | _ => cases permit
  | placed id hash =>
    cases ev with
    | did e x =>
      cases e with
      | resolve other resolution =>
        cases permit
        exact .settle
      | _ => exact .passing permit nofun
    | _ => exact .passing permit nofun
  | freed id =>
    cases ev with
    | unlocked a => exact .passing ⟨trivial, trivial⟩ nofun
    | _ => cases permit

/-- Events by which nothing is sent and no step is taken on orders leave one that has an identifier
where it is. -/
theorem ignores_passing {phase : PlacementPhase} (has : (∃ id, phase = reserved id) ∨
    ∃ id hash, phase = placed id hash) {ev : Event} (h : ev.Passing) : watch.Ignores phase ev := by
  refine watch_step.2 ?_
  rcases has with ⟨id, rfl⟩ | ⟨id, hash, rfl⟩
  · cases ev with
    | did e x => cases e <;> first | exact ⟨h, rfl⟩ | cases h.1
    | asked r => cases r <;> first | exact ⟨h, rfl⟩ | cases h.2
    | told r x => cases r <;> exact ⟨h, rfl⟩
    | _ => exact ⟨h, rfl⟩
  · cases ev with
    | did e x => cases e <;> first | exact ⟨h, rfl⟩ | cases h.1
    | _ => exact ⟨h, rfl⟩

end PlacementPhase

open Attempt PlacementPhase

/-! ### Every placement keeps to its phase -/

variable {α β : Type} {id : String}

/-- A part that passes over the placement's order leaves the reservation. -/
theorem reserved_passing {p : Attempt α} {Q : Except Fault α → PlacementPhase → Prop}
    (h : p.Only Event.Passing) (hQ : ∀ r, Q r (reserved id)) :
    p.Safe PlacementPhase.watch Q (reserved id) :=
  h.safe (fun _ hev => ignores_passing (.inl ⟨id, rfl⟩) hev) hQ

/-- After such a part a placement goes on with its reservation. -/
theorem reserved_after {p : Attempt α} {f : α → Attempt β} {Q : Except Fault β → PlacementPhase → Prop}
    (h : p.Only Event.Passing) (stop : ∀ fault, Q (.error fault) (reserved id))
    (next : ∀ a, (f a).Safe PlacementPhase.watch Q (reserved id)) :
    (p >>= f).Safe PlacementPhase.watch Q (reserved id) :=
  h.followed (fun _ hev => ignores_passing (.inl ⟨id, rfl⟩) hev) stop next

/-- After such a part a placement that was sent goes on as one. -/
theorem placed_after {hash : Hash} {p : Attempt α} {f : α → Attempt β}
    {Q : Except Fault β → PlacementPhase → Prop} (h : p.Only Event.Passing)
    (stop : ∀ fault, Q (.error fault) (placed id hash))
    (next : ∀ a, (f a).Safe PlacementPhase.watch Q (placed id hash)) :
    (p >>= f).Safe PlacementPhase.watch Q (placed id hash) :=
  h.followed (fun _ hev => ignores_passing (.inr ⟨id, hash, rfl⟩) hev) stop next

/-- A step that the phase permits is taken, whatever it answers. -/
theorem phase_act {e : Effect} {f : e.Answer → Attempt β} {phase : PlacementPhase}
    {Q : Except Fault β → PlacementPhase → Prop} (permit : ∀ x, PlacementPhase.may phase (.did e x))
    (next : ∀ x, (f x).Safe PlacementPhase.watch Q (phase.after (.did e x))) :
    (act e >>= f).Safe PlacementPhase.watch Q phase := by
  rw [safe_bind, safe_act]
  intro d
  exact watch_step.2 ⟨permit _, next _⟩

/-- A transaction that is not taken leaves the reservation. -/
theorem submit_placementPhase (s : Sender) (call : Call) (nonce : UInt64) :
    (s.submit call nonce).Safe PlacementPhase.watch
      (Either (fun submitted phase => phase = accepted id submitted.hash) (· = reserved id))
      (reserved id) := by
  unfold Sender.submit
  refine reserved_after ((gasLimit_minor s call).mono fun _ h => h.aside.passing) (fun _ => rfl) ?_
  intro gasLimit
  refine reserved_after ((gasPrice_minor s).mono fun _ h => h.aside.passing) (fun _ => rfl) ?_
  intro gasPrice
  rw [safe_bind, safe_reply]
  refine watch_step.2 ⟨trivial, fun answer => watch_step.2 ⟨rfl, ?_⟩⟩
  cases answer with
  | ok hash => exact rfl
  | error e => exact rfl

theorem sendNext_placementPhase (s : Sender) (call : Call) :
    (s.sendNext call).Safe PlacementPhase.watch
      (Either (fun submitted phase => phase = accepted id submitted.hash) (· = reserved id))
      (reserved id) := by
  unfold Sender.sendNext
  exact reserved_after (acquire_passing s.wallet) (fun _ => rfl) fun nonce =>
    submit_placementPhase s call nonce

namespace Connector

variable (c : Connector)

/-- A refusal is counted with the reservation in hand. -/
theorem countRefusal_placementPhase {body : Attempt α} {P : α → PlacementPhase → Prop}
    (h : body.Safe PlacementPhase.watch (Either P (· = reserved id)) (reserved id)) :
    (countRefusal body).Safe PlacementPhase.watch (Either P (· = reserved id)) (reserved id) := by
  unfold countRefusal
  rw [safe_bind, safe_outcome]
  refine h.mono fun result phase left => ?_
  match result, left with
  | .ok a, met => exact met
  | .error (.breakdown b), same => exact same
  | .error (.error e), same =>
    subst same
    show Safe _ _ (act (.count .submissionFailed) >>= fun _ => act .recordFailure >>= fun _ => fail e) _
    refine reserved_after (only_act.2 fun _ => ⟨rfl, trivial⟩) (fun _ => rfl) fun _ => ?_
    exact reserved_after (only_act.2 fun _ => ⟨rfl, trivial⟩) (fun _ => rfl) fun _ => rfl

/-- What fails with the reservation in hand gives it up. -/
theorem orRelease_placementPhase {body : Attempt α} {P : α → PlacementPhase → Prop}
    (h : body.Safe PlacementPhase.watch (Either P (· = reserved id)) (reserved id)) :
    (orRelease id body).Safe PlacementPhase.watch (Either P (· = freed id)) (reserved id) := by
  unfold orRelease
  rw [safe_bind, safe_outcome]
  refine h.mono fun result phase left => ?_
  cases result with
  | ok a => exact left
  | error fault =>
    obtain rfl := left
    exact phase_act (f := fun _ => throw fault) (fun _ => rfl) fun _ => rfl

/-- A placement whose funds are missing gives its identifier up. -/
theorem funds_placementPhase (token : Token) (amount : Word) :
    (orRelease id (c.funds.check c.sender.wallet token amount c.calls.exchange)).Safe
      PlacementPhase.watch
      (Either (fun _ phase => phase = reserved id) (· = freed id)) (reserved id) := by
  refine orRelease_placementPhase
    (reserved_passing ((check_aside _ _ _ _ _).mono fun _ h => h.passing) ?_)
  intro r
  cases r <;> rfl

/-- What was reserved is completed with the transaction that was sent, or given up. -/
theorem broadcast_placementPhase (placement : Placement) :
    (c.broadcast id placement).Safe PlacementPhase.watch
      (Either (fun submitted phase => phase = placed id submitted.hash) (PlacementPhase.Left id))
      (reserved id) := by
  unfold Connector.broadcast
  refine Safe.bind (orRelease_placementPhase (countRefusal_placementPhase
    (sendNext_placementPhase c.sender _))) ?_ fun _ _ freed => .inl freed
  rintro submitted _ rfl
  refine phase_act (fun _ => ⟨rfl, rfl⟩) fun completed => ?_
  show Safe _ _ (ofOutcome completed >>= _) (placed id submitted.hash)
  refine Safe.bind (R := fun _ phase => phase = placed id submitted.hash) (safe_ofOutcome.2 rfl) ?_
    fun _ _ same => .inr ⟨_, same⟩
  rintro _ _ rfl
  exact placed_after (only_act.2 fun _ => ⟨rfl, trivial⟩) (fun _ => .inr ⟨_, rfl⟩) fun _ => rfl

/-- Settling an order that was placed. -/
theorem settle_placementPhase (hash : Hash) (confirmation : Confirmation) :
    (c.settle id confirmation).Safe PlacementPhase.watch (fun _ phase => phase = placed id hash)
      (placed id hash) := by
  have resolves (resolution : Resolution) : (resolveOrder id resolution).Safe PlacementPhase.watch
      (fun _ phase => phase = placed id hash) (placed id hash) := by
    unfold resolveOrder
    refine phase_act (fun _ => rfl) fun result => ?_
    exact Safe.bind (R := fun _ phase => phase = placed id hash) (safe_ofOutcome.2 rfl)
      (fun _ _ same => same) fun _ _ same => same
  have counts (tally : Tally) : (act (.count tally)).Only Event.Passing :=
    only_act.2 fun _ => ⟨rfl, trivial⟩
  cases confirmation with
  | confirmed receipt =>
    refine placed_after (counts _) (fun _ => rfl) fun _ => ?_
    exact Safe.bind (resolves _) (fun _ _ same => same) fun _ _ same => same
  | reverted receipt reason =>
    refine placed_after (counts _) (fun _ => rfl) fun _ => ?_
    refine placed_after (only_act.2 fun _ => ⟨rfl, trivial⟩) (fun _ => rfl) fun _ => ?_
    exact Safe.bind (resolves _) (fun _ _ same => same) fun _ _ same => same
  | timedOut hash timeout => exact placed_after (counts _) (fun _ => rfl) fun _ => rfl

/-- Before anything is reserved, a placement fails or finds its identifier free. -/
theorem prepare_placementPhase (order : OrderRequest) :
    (c.prepare id order).Safe PlacementPhase.watch
      (fun r phase => phase = fresh ∨
        phase = refused id ∧ r = .error (.error (.duplicateOrder id))) fresh := by
  unfold Connector.prepare
  refine phase_act (fun _ => rfl) fun verdict => ?_
  refine Safe.bind (R := fun _ phase => phase = fresh) (safe_ofExcept.2 rfl) ?_
    fun _ _ same => .inl same
  rintro _ _ rfl
  unfold Attempt.order
  refine phase_act (fun _ => trivial) fun found => ?_
  cases found with
  | some record => exact .inr ⟨rfl, rfl⟩
  | none =>
    -- The tokens and the call follow from the settings, without any event.
    have terms : Only (fun _ => False) _ := c.terms_only order
    exact terms.safe (fun _ none => none.elim) fun _ => .inl rfl

/-- What is done under the lock: the placement is sent and, if so set, its receipt awaited. -/
theorem section_placementPhase (placement : Placement) :
    (locked c.sender.wallet do
      let submitted ← c.broadcast id placement
      if c.confirmInLock then
        let result ← outcome (c.sender.poll.confirm submitted.hash)
        pure (submitted, some result)
      else pure (submitted, none) :
        Attempt (Submitted × Option (Except Fault Confirmation))).Safe PlacementPhase.watch
      (Either (fun sent phase => phase = placed id sent.1.hash) (PlacementPhase.Left id))
      (reserved id) := by
  rw [safe_locked]
  refine watch_step.2 ⟨⟨trivial, trivial⟩, watch_step.2 ⟨⟨trivial, trivial⟩, ?_⟩⟩
  refine Safe.bind (c.broadcast_placementPhase placement) ?_ ?_
  · rintro submitted _ rfl
    split
    · rw [safe_bind, safe_outcome]
      have waits : (c.sender.poll.confirm submitted.hash).Only Event.Passing :=
        confirm_only (fun _ h => h.aside.passing) ⟨trivial, trivial⟩ (fun _ => ⟨trivial, trivial⟩) _
      refine waits.safe (fun _ hev => ignores_passing (.inr ⟨id, _, rfl⟩) hev) fun r => ?_
      exact watch_step.2 ⟨⟨trivial, trivial⟩, rfl⟩
    · exact watch_step.2 ⟨⟨trivial, trivial⟩, rfl⟩
  · -- However it failed, all that is left to do is to put the lock back.
    rintro fault _ (rfl | ⟨hash, rfl⟩)
    · exact watch_step.2 ⟨trivial, .inl rfl⟩
    · exact watch_step.2 ⟨⟨trivial, trivial⟩, .inr ⟨hash, rfl⟩⟩

/-- **Every placement keeps to its phase**, and fails with its identifier given up, or succeeds with
its record complete. -/
theorem place_placementPhase (order : OrderRequest) :
    (c.place id order).Safe PlacementPhase.watch (PlacementPhase.Ends id) fresh := by
  unfold Connector.place
  refine Safe.bind (c.prepare_placementPhase order) ?_ ?_
  · rintro ⟨base, quote, placement⟩ phase (rfl | ⟨-, failed⟩)
    · refine phase_act (fun _ => rfl) fun created => ?_
      show Safe _ _ _ fresh
      rw [safe_bind, safe_act]
      intro d
      refine watch_step.2 ⟨rfl, ?_⟩
      -- The identifier was free when it was looked for, but may have been reserved by now.
      generalize answer : (Effect.apply _ d).1 = reserved
      cases reserved with
      | error e =>
        obtain rfl := Desk.eq_of_track_error answer
        exact ⟨rfl, rfl⟩
      | ok _ =>
        show Safe _ _ (orRelease id _ >>= _) (reserved id)
        refine Safe.bind (c.funds_placementPhase _ _) ?_ ?_
        · rintro _ _ rfl
          refine Safe.bind (c.section_placementPhase placement) ?_ ?_
          · rintro ⟨submitted, confirmation⟩ _ rfl
            cases confirmation with
            | none => exact ⟨rfl, by rintro _ ⟨⟩; exact ⟨rfl, rfl⟩⟩
            | some result =>
              cases result with
              | error fault => exact ⟨rfl, nofun⟩
              | ok confirmation =>
                show Safe _ _ (c.settle id confirmation >>= _) (placed id submitted.hash)
                refine Safe.bind (c.settle_placementPhase submitted.hash confirmation) ?_ ?_
                · rintro outcome _ rfl
                  exact ⟨rfl, by rintro _ ⟨⟩; exact ⟨rfl, rfl⟩⟩
                · rintro fault _ rfl
                  exact ⟨rfl, nofun⟩
          · -- A call can fail after its order was placed; the record is complete all the same.
            rintro fault _ (rfl | ⟨hash, rfl⟩)
            · exact ⟨rfl, _, rfl⟩
            · exact ⟨rfl, nofun⟩
        · rintro fault _ rfl
          exact ⟨rfl, _, rfl⟩
    · cases failed
  · rintro fault phase (rfl | ⟨rfl, failed⟩)
    · exact ⟨_, rfl⟩
    · cases failed
      exact ⟨rfl, rfl⟩

end Connector
end OrderDesk
