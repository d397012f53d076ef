import OrderDesk.Proofs.Evidence
import OrderDesk.Proofs.OrderSteps

/-!
# `OrderDesk.Proofs.Justified` — tracked orders are what the node reported

A desk is used for one call after another. Whatever the node answers, and however the calls end, the
status of every order that is tracked between them is borne out by the notes.

## Contents
- `Instruction`, `Session`, `Connector.serve`: a desk in use.
- `Borne`, `Reserving`, `Awaited`: the invariant between calls, and what holds instead within one.
- `Connector.orders_justified`: the invariant after every sequence of calls, in which records never
  contradict each other.
-/

namespace OrderDesk

open Attempt

variable {ε : Type}

/-! ### A desk in use -/

/-- What is done with a desk. -/
inductive Instruction where
  | call (op : Operation)
  /-- Waits for receipts are stopped, for good. -/
  | shutdown
  | pause (elapsed : Duration)

/-- A desk in use, with what was noted and how the calls ended. -/
structure Session (ε : Type) where
  desk : Desk
  out : ε
  notes : List Note := []
  calls : List Answered := []

/-- A desk with no orders. -/
def Session.opened (common : Common) (out : ε) : Session ε := { desk := { common }, out }

namespace Connector

/-- The session after one more instruction. A call is carried out to its end. -/
def obey (c : Connector) (env : Environment ε) (s : Session ε) : Instruction → Session ε
  | .call op =>
    let (result, desk, out, notes) := (c.perform op).runAlone env.noted (s.desk, s.out, s.notes)
    ⟨desk, out, notes, s.calls ++ [⟨op, result⟩]⟩
  | .shutdown => { s with desk := s.desk.stop }
  | .pause elapsed => { s with desk := s.desk.pass { elapsed } }

/-- The session after a sequence of instructions. -/
def serve (c : Connector) (env : Environment ε) (s : Session ε) (instructions : List Instruction) :
    Session ε :=
  instructions.foldl (c.obey env) s

end Connector

/-! ### What holds between calls and within one -/

section States

variable (exchange : Address) (calls : List Answered)

/-- The status of every tracked order is borne out. -/
def Borne (s : Desk × ε × List Note) : Prop :=
  ∀ id r, s.1.book.registry.get? id = some r → r.Justified exchange s.2.2 calls

/-- The identifier is reserved, and the status of every other order is borne out. -/
def Reserving (id : String) (s : Desk × ε × List Note) : Prop :=
  (∃ r, s.1.book.registry.get? id = some r ∧ r.state = .pendingSubmit) ∧
    ∀ other r, id ≠ other → s.1.book.registry.get? other = some r → r.Justified exchange s.2.2 calls

/-- The order's placement was sent, and nothing is known of it yet. -/
def Awaited (id : String) (hash : Hash) (s : Desk × ε × List Note) : Prop :=
  ∃ r, s.1.book.registry.get? id = some r ∧ r.hash = hash ∧ r.status = .awaitingConfirmation

/-- An operation ends with every status borne out, and not in a contradiction. -/
def Ends {α : Type} (r : Except Fault α) (s : Desk × ε × List Note) : Prop :=
  Borne exchange calls s ∧ Sound Event.Reads r

end States

/-- The tracked orders are the same, and no note is lost. -/
structure Kept (s s' : Desk × ε × List Note) : Prop where
  orders : s'.1.book.registry = s.1.book.registry
  notes : s.2.2 <+: s'.2.2

variable {exchange : Address} {calls : List Answered} {env : Environment ε}
  {s s' : Desk × ε × List Note} {id : String} {hash : Hash} {α β : Type}

/-- Of the statuses without an outcome, a record that is borne out can only wait. -/
theorem OrderRecord.Justified.waits {r : OrderRecord} {notes : List Note}
    (justified : r.Justified exchange notes calls) (unsettled : r.outcome? = none) :
    r.status = .awaitingConfirmation := by
  unfold OrderRecord.outcome? at unsettled
  unfold OrderRecord.Justified at justified
  cases status : r.status with
  | awaitingConfirmation => rfl
  | pendingSubmit | cancelled last =>
    rw [status] at justified
    exact justified.elim
  | resting number | immediatelyFilled | failed reason =>
    rw [status] at unsettled
    cases unsettled

theorem Borne.kept (h : Borne exchange calls s) (kept : Kept s s') : Borne exchange calls s' := by
  intro id r present
  rw [kept.orders] at present
  exact (h id r present).mono kept.notes (List.prefix_refl _)

/-- More calls bear out as much. -/
theorem Borne.more (h : Borne exchange calls s) (later : List Answered) :
    Borne exchange (calls ++ later) s :=
  fun id r present => (h id r present).mono (List.prefix_refl _) (List.prefix_append _ _)

theorem Reserving.kept (h : Reserving exchange calls id s) (kept : Kept s s') :
    Reserving exchange calls id s' := by
  obtain ⟨reserved, others⟩ := h
  refine ⟨by rw [kept.orders]; exact reserved, fun other r ne present => ?_⟩
  rw [kept.orders] at present
  exact (others other r ne present).mono kept.notes (List.prefix_refl _)

theorem Awaited.kept (h : Awaited id hash s) (kept : Kept s s') : Awaited id hash s' := by
  unfold Awaited
  rw [kept.orders]
  exact h

/-- A part that only reads keeps the orders and the notes. -/
theorem Attempt.Only.alone_kept {p : Attempt α} (h : p.Only Event.Reads) :
    p.Safe env.noted.alone (fun r s' => Kept s s' ∧ Sound Event.Reads r) s := by
  refine h.keeps (I := Kept s) (fun t ev reads kept => ⟨trivial, fun t' next => ?_⟩)
    ⟨rfl, List.prefix_refl _⟩
  cases ev with
  | did e x =>
    obtain ⟨-, rfl⟩ := next
    exact ⟨(e.registry_apply t.1 reads).trans kept.orders, kept.notes⟩
  | told r x =>
    obtain ⟨-, rfl⟩ := next
    exact ⟨kept.orders, kept.notes.trans (List.prefix_append _ _)⟩
  | slept d =>
    obtain rfl := next
    exact ⟨kept.orders, kept.notes⟩
  | woke b =>
    obtain ⟨-, rfl⟩ := next
    exact kept
  | _ =>
    obtain rfl := next
    exact kept

/-- A step does one of the things that steps do. -/
theorem alone_does (e : Effect) {f : e.Answer → Attempt β}
    {Q : Except Fault β → Desk × ε × List Note → Prop}
    (h : ∀ x d', e.Does s.1.book.registry d'.book.registry x →
      (f x).Safe env.noted.alone Q (d', s.2)) :
    (act e >>= f).Safe env.noted.alone Q s :=
  alone_act_bind.2 (h _ _ (e.does_apply s.1))

/-- After a part that only reads, an operation goes on, or stops, where every status is borne out. -/
theorem Borne.reading {p : Attempt α} {f : α → Attempt β}
    {Q : Except Fault β → Desk × ε × List Note → Prop} (h : Borne exchange calls s)
    (reads : p.Only Event.Reads)
    (next : ∀ a s', Borne exchange calls s' → (f a).Safe env.noted.alone Q s')
    (stop : ∀ fault s', Borne exchange calls s' → Sound Event.Reads (.error fault : Except Fault β) →
      Q (.error fault) s') :
    (p >>= f).Safe env.noted.alone Q s :=
  Safe.bind reads.alone_kept (fun a s' kept => next a s' (h.kept kept.1))
    fun fault s' kept => stop fault s' (h.kept kept.1) kept.2.passed

theorem Borne.read {p : Attempt α} {f : α → Attempt β} (h : Borne exchange calls s)
    (reads : p.Only Event.Reads)
    (next : ∀ a s', Borne exchange calls s' → (f a).Safe env.noted.alone (Ends exchange calls) s') :
    (p >>= f).Safe env.noted.alone (Ends exchange calls) s :=
  h.reading reads next fun _ _ borne sound => ⟨borne, sound⟩

/-- A record that is borne out takes its place among others that are. -/
theorem borne_of_view {d' : Desk} {record : OrderRecord}
    (others : ∀ other r, id ≠ other → s.1.book.registry.get? other = some r →
      r.Justified exchange s.2.2 calls)
    (view : ∀ x, d'.book.registry.get? x =
      if id = x then some record else s.1.book.registry.get? x)
    (justified : record.Justified exchange s.2.2 calls) : Borne exchange calls (d', s.2) := by
  intro other r found
  change d'.book.registry.get? other = some r at found
  rw [view] at found
  split at found
  · cases found
    exact justified
  · next ne => exact others other r ne found

/-! ### Placing -/

/-- A reservation that its purpose fails for is given up. -/
theorem Reserving.orRelease {body : Attempt α} (h : Reserving exchange calls id s)
    (reads : body.Only Event.Reads) :
    (Connector.orRelease id body).Safe env.noted.alone
      (fun
        | .ok _, s' => Reserving exchange calls id s'
        | .error f, s' => Ends exchange calls (.error f : Except Fault α) s') s := by
  unfold Connector.orRelease
  rw [safe_bind, safe_outcome]
  refine reads.alone_kept.mono ?_
  rintro result s' ⟨kept, sound⟩
  have here := h.kept kept
  cases result with
  | ok a => exact here
  | error fault =>
    show Safe _ _ (act (.release id) >>= fun _ => throw fault) s'
    refine alone_does _ fun x d' does => ?_
    refine ⟨fun other r found => ?_, sound⟩
    -- Giving up removes the reservation and nothing else.
    obtain ⟨⟨reserved, present, pending⟩, others⟩ := here
    change d'.book.registry.get? other = some r at found
    cases does with
    | aside off => cases off
    | released view =>
      rw [view] at found
      split at found
      · next same =>
        rw [← same, present, Option.filter_some, if_neg (by simp [pending])] at found
        cases found
      · next ne => exact others other r ne found

/-- What was reserved is completed with the transaction that was sent. -/
theorem Reserving.broadcast {c : Connector} (h : Reserving exchange calls id s)
    (placement : Placement) :
    (c.broadcast id placement).Safe env.noted.alone
      (fun
        | .ok submitted, s' => Borne exchange calls s' ∧ Awaited id submitted.hash s'
        | .error f, s' => Ends exchange calls (.error f : Except Fault Submitted) s') s := by
  unfold Connector.broadcast
  refine Safe.bind (h.orRelease ((c.sending_offOrders _).mono fun _ hev => hev.offRegistry.reads)) ?_
    fun _ _ ends => ends
  intro submitted s' here
  -- The reservation is still there: completing it can neither miss it nor find it complete.
  obtain ⟨⟨reserved, present, pending⟩, others⟩ := here
  refine alone_does _ fun x d' does => ?_
  cases does with
  | aside off => cases off
  | lost absent same =>
    rw [present] at absent
    cases absent
  | completedTwice found sent same =>
    rw [present] at found
    cases found
    exact absurd pending sent
  | completed found _ view =>
    rw [present] at found
    cases found
    have awaited : Awaited id submitted.hash (d', s'.2) := by
      refine ⟨reserved.broadcast submitted.hash, ?_, rfl, rfl⟩
      show d'.book.registry.get? id = _
      rw [view, if_pos rfl]
    have borne : Borne exchange calls (d', s'.2) := borne_of_view others view trivial
    have counted : (act (.count .submitted)).Only Event.Reads := only_act.2 fun _ => rfl
    show Safe _ _ (act (.count .submitted) >>= fun _ => pure submitted) (d', s'.2)
    refine Safe.bind counted.alone_kept (fun _ s'' kept => ?_) fun _ _ kept => ?_
    · exact ⟨borne.kept kept.1, awaited.kept kept.1⟩
    · exact ⟨borne.kept kept.1, kept.2.passed⟩

/-! ### Settling -/

/-- A resolution is applied to the order that waits for it. -/
theorem resolveOrder_ends {resolution : Resolution} {r : OrderRecord}
    (borne : Borne exchange calls s) (present : s.1.book.registry.get? id = some r)
    (waits : r.status = .awaitingConfirmation)
    (justified : (r.apply resolution).Justified exchange s.2.2 calls) :
    (Connector.resolveOrder id resolution).Safe env.noted.alone (Ends exchange calls) s := by
  unfold Connector.resolveOrder
  refine alone_does _ fun x d' does => ?_
  cases does with
  | aside off => cases off
  | contradicted found terminal apart same =>
    rw [present] at found
    cases found
    -- An order that waits is not at its end.
    unfold OrderRecord.state at terminal
    rw [waits] at terminal
    cases terminal
  | resolvedBefore same =>
    refine ⟨fun other r' found => ?_, .ok ()⟩
    exact borne other r' (same ▸ found)
  | resolved found view =>
    rw [present] at found
    cases found
    exact ⟨borne_of_view (fun other r' _ => borne other r') view justified, .ok ()⟩

/-- **What a confirmation settles is borne out**, if the confirmation is. -/
theorem settle_ends {c : Connector} {confirmation : Confirmation}
    (borne : Borne c.deployment.exchange calls s) (awaited : Awaited id hash s)
    (noted : confirmation.Noted s.2.2 hash) :
    (c.settle id confirmation).Safe env.noted.alone (Ends c.deployment.exchange calls) s := by
  have passed {α : Type} {f : Fault} {s' : Desk × ε × List Note}
      (ends : Ends c.deployment.exchange calls (.error f : Except Fault Unit) s') :
      Ends c.deployment.exchange calls (.error f : Except Fault α) s' := ⟨ends.1, ends.2.passed⟩
  have counted (tally : Tally) : (act (.count tally)).Only Event.Reads := only_act.2 fun _ => rfl
  cases confirmation with
  | timedOut hash timeout => exact borne.read (counted _) fun _ _ borne => ⟨borne, .ok _⟩
  | confirmed receipt =>
    unfold Connector.settle
    refine Safe.bind (counted _).alone_kept ?_ fun _ _ kept => ⟨borne.kept kept.1, kept.2.passed⟩
    rintro _ s' ⟨kept, -⟩
    obtain ⟨r, present, rfl, waits⟩ := awaited.kept kept
    refine Safe.bind (resolveOrder_ends (borne.kept kept) present waits ?_)
      (fun _ _ ends => ⟨ends.1, .ok _⟩) fun _ _ => passed
    exact OrderRecord.justified_apply (noted.mono kept.notes).1 noted.2
  | reverted receipt reason =>
    unfold Connector.settle
    refine Safe.bind (counted _).alone_kept ?_ fun _ _ kept => ⟨borne.kept kept.1, kept.2.passed⟩
    rintro _ s₁ ⟨kept, -⟩
    have failing : (act .recordFailure).Only Event.Reads := only_act.2 fun _ => rfl
    replace borne := borne.kept kept
    replace awaited := awaited.kept kept
    replace noted := noted.mono kept.notes
    refine Safe.bind failing.alone_kept ?_ fun _ _ kept => ⟨borne.kept kept.1, kept.2.passed⟩
    rintro _ s₂ ⟨kept, -⟩
    obtain ⟨r, present, rfl, waits⟩ := awaited.kept kept
    refine Safe.bind (resolveOrder_ends (borne.kept kept) present waits ?_)
      (fun _ _ ends => ⟨ends.1, .ok _⟩) fun _ _ => passed
    exact ⟨receipt, noted.mono kept.notes⟩

/-- A wait for the receipt of a placement. -/
theorem confirm_kept (p : PollPolicy) (hash : Hash) :
    (p.confirm hash).Safe env.noted.alone
      (fun r s' => (Kept s s' ∧ Sound Event.Reads r) ∧
        Verdict (fun confirmation s' => confirmation.Noted s'.2.2 hash)
          (fun e _ => e = .shutdown hash) r s') s :=
  have reads := (confirm_offRegistry p hash).mono fun _ hev => hev.reads
  safe_both reads.alone_kept (confirm_noted p hash)

/-! ### Calls -/

namespace Connector

variable (c : Connector)

theorem place_ends (borne : Borne c.deployment.exchange calls s) (id : String)
    (order : OrderRequest) :
    (c.place id order).Safe env.noted.alone (Ends c.deployment.exchange calls) s := by
  unfold Connector.place
  refine borne.read (c.prepare_reads id order) ?_
  rintro ⟨base, quote, placement⟩ s borne
  refine borne.read (only_act.2 fun _ => rfl) fun created s borne => ?_
  refine alone_does _ fun x d' does => ?_
  cases does with
  | aside off => cases off
  | notReserved same =>
    refine ⟨fun other r found => ?_, .fail _⟩
    exact borne other r (same ▸ found)
  | reserved free view =>
    have here : Reserving c.deployment.exchange calls id (d', s.2) := by
      refine ⟨⟨_, (view id).trans (if_pos rfl), rfl⟩, fun other r ne found => ?_⟩
      change d'.book.registry.get? other = some r at found
      rw [view, if_neg ne] at found
      exact borne other r found
    show Safe _ _ (orRelease id _ >>= _) (d', s.2)
    refine Safe.bind (here.orRelease ((check_aside _ _ _ _ _).mono fun _ hev => hev.offRegistry.reads))
      ?_ fun _ _ ends => ⟨ends.1, ends.2.passed⟩
    intro _ s here
    refine Safe.bind (R := fun
      | .ok (submitted, confirmation), s' =>
        (Borne c.deployment.exchange calls s' ∧ Awaited id submitted.hash s') ∧
          ∀ result, confirmation = some result → Sound Event.Reads result ∧
            Verdict (fun confirmation s' => confirmation.Noted s'.2.2 submitted.hash)
              (fun e _ => e = .shutdown submitted.hash) result s'
      | .error f, s' => Ends c.deployment.exchange calls (.error f : Except Fault OrderHandle) s')
      (alone_locked ?inside) ?_ fun _ _ ends => ends
    case inside =>
      refine Safe.bind (here.broadcast placement) ?_ fun _ _ ends => ⟨ends.1, ends.2.passed⟩
      rintro submitted s ⟨borne, awaited⟩
      split
      · rw [safe_bind, safe_outcome]
        refine (confirm_kept _ _).mono ?_
        rintro result s' ⟨⟨kept, sound⟩, noted⟩
        refine ⟨⟨borne.kept kept, awaited.kept kept⟩, fun _ same => ?_⟩
        cases same
        exact ⟨sound, noted⟩
      · exact ⟨⟨borne, awaited⟩, fun _ same => by cases same⟩
    rintro ⟨submitted, confirmation⟩ s ⟨⟨borne, awaited⟩, told⟩
    cases confirmation with
    | none => exact ⟨borne, .ok _⟩
    | some result =>
      obtain ⟨sound, noted⟩ := told result rfl
      cases result with
      | error f => exact ⟨borne, sound.passed⟩
      | ok confirmation =>
        show Safe _ _ (c.settle id confirmation >>= _) s
        exact Safe.bind (settle_ends borne awaited noted) (fun _ _ ends => ⟨ends.1, .ok _⟩)
          fun _ _ ends => ⟨ends.1, ends.2.passed⟩

/-- The record that an operation goes by is tracked, and its placement was sent. -/
theorem sentOrder_found (id : String) :
    (sentOrder id).Safe env.noted.alone
      (fun r s' => s' = s ∧ Sound Event.Reads r ∧
        ∀ record, r = .ok record → s.1.book.registry.get? id = some record) s := by
  unfold sentOrder Attempt.order
  refine alone_act_bind.2 ?_
  split
  · exact ⟨rfl, .fail _, fun _ same => by cases same⟩
  · next record present =>
    split
    · exact ⟨rfl, .fail _, fun _ same => by cases same⟩
    · exact ⟨rfl, .ok _, fun _ same => by cases same; exact present⟩

theorem confirm_ends (borne : Borne c.deployment.exchange calls s) (id : String) :
    (c.confirm id).Safe env.noted.alone (Ends c.deployment.exchange calls) s := by
  unfold Connector.confirm
  refine Safe.bind (sentOrder_found id) ?_ ?_
  · rintro record s ⟨rfl, -, found⟩
    split
    · exact ⟨borne, .ok _⟩
    · next unsettled =>
      have waits := (borne id record (found record rfl)).waits unsettled
      refine Safe.bind (confirm_kept _ record.hash) ?_ fun _ _ kept => ?_
      · rintro confirmation s' ⟨⟨kept, -⟩, noted⟩
        have awaited : Awaited id record.hash s := ⟨record, found record rfl, rfl, waits⟩
        exact settle_ends (borne.kept kept) (awaited.kept kept) noted
      · exact ⟨borne.kept kept.1.1, kept.1.2.passed⟩
  · rintro fault s ⟨rfl, sound, -⟩
    exact ⟨borne, sound.passed⟩

theorem cancel_ends (borne : Borne c.deployment.exchange calls s) (id : String) :
    (c.cancel id).Safe env.noted.alone (Ends c.deployment.exchange calls) s := by
  unfold Connector.cancel
  refine borne.read (sentOrder_only fun _ => rfl) fun record s borne => ?_
  refine borne.read ((c.cancelDesk.route_offRegistry record).mono fun _ hev => hev.reads) ?_
  intro outcome s borne
  refine alone_does _ fun x d' does => ⟨fun other r found => ?_, .ok _⟩
  cases does with
  | aside off => cases off
  | cleared view =>
    change d'.book.registry.get? other = some r at found
    rw [view] at found
    split at found
    · cases found
    · exact borne other r found

/-- An order that is adopted with a number has it from the call. -/
theorem adopt_ends (borne : Borne c.deployment.exchange calls s) (id : String) (pair : Pair)
    (side : Side) (hash : Hash) (number : Option UInt64) :
    (c.adopt id pair side hash number).Safe env.noted.alone
      (fun r s' => Sound Event.Reads r ∧ Borne c.deployment.exchange
        (calls ++ [⟨.adopt id pair side hash number, .adopted <$> r⟩]) s') s := by
  unfold Connector.adopt
  refine borne.reading (resolve_only _ _) ?_ fun _ _ borne sound => ⟨sound, borne.more _⟩
  intro base s borne
  refine borne.reading (resolve_only _ _) ?_ fun _ _ borne sound => ⟨sound, borne.more _⟩
  intro quote s borne
  refine borne.reading (only_act.2 fun _ => rfl) ?_ fun _ _ borne sound => ⟨sound, borne.more _⟩
  intro created s borne
  refine alone_does _ fun x d' does => ?_
  cases does with
  | aside off => cases off
  | notAdopted same =>
    refine ⟨.fail _, fun other r found => ?_⟩
    exact borne.more _ other r (same ▸ found)
  | adopted free view =>
    refine ⟨.ok _, borne_of_view (fun other r _ => borne.more _ other r) view ?_⟩
    cases number with
    | none => trivial
    | some number =>
      exact .inr ⟨pair, side, _, List.mem_append_right _ (List.mem_singleton_self _)⟩

/-- **Every call** that begins with all statuses borne out ends so, and not in a contradiction. -/
theorem perform_ends (borne : Borne c.deployment.exchange calls s) (op : Operation) :
    (c.perform op).Safe env.noted.alone
      (fun r s' => Sound Event.Reads r ∧ Borne c.deployment.exchange (calls ++ [⟨op, r⟩]) s') s := by
  -- All calls but adoptions are borne out by the calls before them.
  have ended {α : Type} {p : Attempt α} (f : α → Achieved)
      (h : p.Safe env.noted.alone (Ends c.deployment.exchange calls) s) :
      (f <$> p).Safe env.noted.alone
        (fun r s' => Sound Event.Reads r ∧ Borne c.deployment.exchange (calls ++ [⟨op, r⟩]) s') s :=
    Safe.bind h (fun _ _ ends => ⟨.ok _, ends.1.more _⟩)
      fun _ _ ends => ⟨ends.2.passed, ends.1.more _⟩
  cases op with
  | place id order => exact ended _ (c.place_ends borne id order)
  | confirm id => exact ended _ (c.confirm_ends borne id)
  | cancel id => exact ended _ (c.cancel_ends borne id)
  | adopt id pair side hash number =>
    exact Safe.bind (c.adopt_ends borne id pair side hash number)
      (fun _ _ ends => ⟨.ok _, ends.2⟩) fun _ _ ends => ⟨ends.1.passed, ends.2⟩

end Connector

/-! ### A desk in use -/

/-- Between calls every status is borne out, and no call has ended in a contradiction. -/
structure Session.BorneOut (exchange : Address) (s : Session ε) : Prop where
  borne : Borne exchange s.calls (s.desk, s.out, s.notes)
  consistent : ∀ answered ∈ s.calls, ∀ text, answered.result ≠ .error (.breakdown (.assertion text))

namespace Connector

variable (c : Connector)

theorem obey_sound {s : Session ε} (h : s.BorneOut c.deployment.exchange)
    (instruction : Instruction) :
    (c.obey env s instruction).BorneOut c.deployment.exchange := by
  cases instruction with
  | shutdown => exact ⟨h.borne, h.consistent⟩
  | pause elapsed => exact ⟨h.borne, h.consistent⟩
  | call op =>
    have ended : (c.perform op).Safe env.noted.alone _ (s.desk, s.out, s.notes) :=
      c.perform_ends h.borne op
    obtain ⟨sound, borne⟩ := safe_alone.1 ended
    refine ⟨borne, fun answered mem text same => ?_⟩
    rcases List.mem_append.1 mem with before | now
    · exact h.consistent answered before text same
    · obtain rfl := List.mem_singleton.1 now
      obtain ⟨ev, reads, contradicts⟩ := sound text same
      exact reads.consistent contradicts

theorem serve_sound {s : Session ε} (h : s.BorneOut c.deployment.exchange)
    (instructions : List Instruction) :
    (c.serve env s instructions).BorneOut c.deployment.exchange := by
  induction instructions generalizing s with
  | nil => exact h
  | cons instruction rest ih => exact ih (c.obey_sound h instruction)

/-- **Tracked orders are what the node reported.** A desk begins without orders and is used for any
calls, stops and pauses. Then the status of every tracked order is borne out by what the node
answered, and no call has ended because records contradicted each other. -/
theorem orders_justified (env : Environment ε) (common : Common) (out : ε)
    (instructions : List Instruction) :
    let s := c.serve env (.opened common out) instructions
    (∀ r ∈ s.desk.book.registry.entries, r.Justified c.deployment.exchange s.notes s.calls) ∧
      ∀ answered ∈ s.calls, ∀ text,
        answered.result ≠ .error (.breakdown (.assertion text)) := by
  have empty : (Session.opened common out).BorneOut c.deployment.exchange :=
    ⟨fun _ _ present => (nomatch present), fun _ mem => (nomatch mem)⟩
  have sound : (c.serve env (.opened common out) instructions).BorneOut c.deployment.exchange :=
    c.serve_sound empty instructions
  exact ⟨fun r mem => sound.borne r.id r (Registry.get?_of_mem mem), sound.consistent⟩

end Connector
end OrderDesk
