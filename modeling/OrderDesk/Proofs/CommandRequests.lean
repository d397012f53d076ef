import OrderDesk.Proofs.CommandSteps
import OrderDesk.Proofs.Sendings
import OrderDesk.Proofs.TokenIndex

/-!
# `OrderDesk.Proofs.CommandRequests` — what a command line sends to the node

The node is asked for its chain first, and for nothing else unless it serves the chain of the chosen
deployment. What a command sends then is known from its log: nothing if it only looks, one placement at
most after all that can be checked without the node, or one cancellation for each channel at most, of
the order that the command line names.

## Contents
- `CliSession.decode_quiet`, `CliSession.nonce_quiet`: the two commands that only look.
- `CommandLine.Selects`, `CommandLine.Makes`: the deployment and the desk of a command line.
- `Connector.adopt_leaves`, `Connector.cancel_sends`: an order that is adopted to be cancelled.
- `CliSession.place_meets`, `CliSession.cancel_meets`: the two commands that send.
- `CommandLine.HandsOver`: what may be handed over, command by command.
- `CommandLine.run_requests`: the result, for every command line, file and outside.
-/

namespace OrderDesk

open Attempt CliStep

namespace CliSession

variable (session : CliSession)

/-! ### Commands that only look -/

theorem decode_quiet (hash : Hash) : (session.decode hash).Quiet := by
  have asked : (Attempt.ask (.receipt hash)).Only Event.Unsent :=
    only_ask.2 ⟨trivial, fun _ => trivial⟩
  unfold decode
  refine Quiet.bind (quiet_attempt asked) fun answer => ?_
  cases answer with
  | none => exact quiet_throw _
  | some receipt =>
    refine Quiet.bind (quiet_print _) fun _ => ?_
    split
    · exact quiet_print _
    · exact Quiet.bind (quiet_forM fun event => quiet_print _) fun _ => quiet_print _

theorem nonce_quiet : session.nonce.Quiet := by
  have asked (wallet : Address) : (Attempt.ask (.pendingNonce wallet)).Only Event.Unsent :=
    only_ask.2 ⟨trivial, fun _ => trivial⟩
  unfold nonce
  refine Quiet.bind (quiet_ofExcept _) fun key => ?_
  exact Quiet.bind (quiet_attempt (asked _)) fun next => quiet_print _

end CliSession

/-! ### What a command line names -/

/-- The order that a command describes. -/
def PlaceCommand.request (order : PlaceCommand) : OrderRequest where
  pair := order.pair
  side := order.side
  kind := if order.market then .market else .limit
  amount := order.amount
  price := order.price

/-- The identifier of a command's order; one that names none gets one of the time. -/
def PlaceCommand.idAt (order : PlaceCommand) (now : Instant) : String :=
  order.id.getD s!"cli-{now.nanos / 1000000}"

/-- The desk of a key on a deployment under the terms. Funds are checked on the chain. -/
def Terms.desk (terms : Terms) (d : Deployment) (key : SigningKey) : Connector :=
  let base := Connector.standard d key terms.gas terms.poll
  { base with
    calls := { base.calls with maker := terms.maker }
    confirmInLock := terms.confirmInLock
    slippage := terms.slippage
    funds := .onChain }

namespace CommandLine

variable (line : CommandLine) (file : String → Option String)

/-- **The deployment that is chosen**: of the network on the command line, else of the file's, else of
the test network, with the exchange and the tokens of the file. -/
def Selects (settings : Settings) (d : Deployment) : Prop :=
  CliSession.loadSettings file line.config = .ok settings ∧
    settings.Overrides ((line.network <|> settings.network).getD .testnet).deployment d

/-- **Key and settings are accepted**, and this is the desk that they make. -/
def Makes (settings : Settings) (d : Deployment) (c : Connector) : Prop :=
  ∃ text key terms, line.privateKey = some text ∧
    (Hex.decode? text).bind SigningKey.ofBytes? = some key ∧
    settings.terms = .ok terms ∧ c = terms.desk d key

end CommandLine

namespace CliSession

variable {line : CommandLine} {file : String → Option String} {colours : Bool}
  {session : CliSession}

theorem prepare_selects (h : prepare line file colours = .ok session) :
    line.Selects file session.settings session.deployment ∧ session.privateKey = line.privateKey := by
  unfold prepare at h
  cases read : loadSettings file line.config with
  | error e =>
    rw [read] at h
    cases h
  | ok settings =>
    rw [read] at h
    simp only [bind, Except.bind] at h
    split at h
    · cases h
    split at h
    · cases h
    split at h
    · cases h
    next d chosen =>
      cases h
      exact ⟨⟨read, Settings.deployment_eq_ok.1 chosen⟩, rfl⟩

theorem connector_makes {c : Connector} (own : session.privateKey = line.privateKey)
    (h : session.connector = .ok c) : line.Makes session.settings session.deployment c := by
  unfold connector at h
  cases accepted : session.settings.terms with
  | error e =>
    rw [accepted] at h
    cases h
  | ok terms =>
    rw [accepted] at h
    simp only [bind, Except.bind] at h
    split at h
    · cases h
    next key parsed =>
      cases h
      unfold CliSession.key at parsed
      rw [own] at parsed
      split at parsed
      · cases parsed
      next text given =>
        split at parsed
        next key parses =>
          cases parsed
          exact ⟨text, key, terms, given, parses, accepted, rfl⟩
        · cases parsed

end CliSession

/-! ### An order that is adopted to be cancelled -/

namespace Connector

variable {c : Connector} {id : String} {pair : Pair} {side : Side} {hash : Hash}
  {orderId : Option UInt64} {ε : Type} {env : Environment ε} {s : Desk × ε}

/-- The record is of the pair's tokens and names the order by its number, if it was given, or by its
placement. -/
structure Describes (c : Connector) (pair : Pair) (side : Side) (hash : Hash)
    (orderId : Option UInt64) (record : OrderRecord) : Prop where
  ofBase : ∃ base, c.deployment.resolve? pair.base = some base ∧ record.base = base.address
  ofQuote : ∃ quote, c.deployment.resolve? pair.quote = some quote ∧ record.quote = quote.address
  ofSide : record.side = side
  named : record.reference? = some (match orderId with
    | some number => .number number
    | none => .placement hash)

/-- **An order that is adopted** is tracked as it is described. -/
theorem adopt_leaves :
    (c.adopt id pair side hash orderId).Safe env.alone (fun r t => ∀ record, r = .ok record →
      c.Describes pair side hash orderId record ∧ t.1.book.registry.get? id = some record) s := by
  unfold adopt
  rw [resolve_eq, resolve_eq]
  cases ofBase : c.deployment.resolve? pair.base with
  | none => exact fun _ same => nomatch same
  | some base =>
    cases ofQuote : c.deployment.resolve? pair.quote with
    | none => exact fun _ same => nomatch same
    | some quote =>
      refine alone_act_bind.2 (alone_act_bind.2 ?_)
      simp only [Effect.apply, Desk.track]
      split
      next registry tracked =>
        rintro record ⟨⟩
        have view := (Registry.get?_of_track tracked).2 id
        rw [if_pos (by cases orderId <;> rfl)] at view
        refine ⟨?_, view⟩
        cases orderId <;> exact ⟨⟨base, ofBase, rfl⟩, ⟨quote, ofQuote, rfl⟩, rfl, rfl⟩
      next => exact fun _ same => nomatch same

/-- Within a command that is the only one, and nothing is handed over. -/
theorem adopt_meets :
    (attempt (c.adopt id pair side hash orderId)).Meets env s fun r t log =>
      (∀ ev ∈ log, ev.Unsent) ∧ ∀ record, r = .ok record →
        c.Describes pair side hash orderId record ∧ t.1.book.registry.get? id = some record := by
  have unsent : (c.adopt id pair side hash orderId).Only Event.Unsent :=
    (c.adopt_offWallet id pair side hash orderId).mono fun _ h => h.unsent
  refine meets_attempt.2 ⟨unsent.logs.journal env s, fun record same => ?_⟩
  refine safe_alone.1 adopt_leaves record ?_
  cases outcome : ((c.adopt id pair side hash orderId).runAlone env s).1 with
  | error fault =>
    rw [outcome] at same
    cases same
  | ok tracked =>
    rw [outcome] at same
    cases same
    rfl

/-- **A cancellation by the record that it reads** hands over only what the search for its order does. -/
theorem cancel_sends (own : ∀ channel ∈ c.channels, channel.isOwn = true) :
    (c.cancel id).Logs fun _ log => ∀ record, log.head? = some (.did (.order id) (some record)) →
      c.cancelDesk.RouteSends record log := by
  refine cancel_parts (fun _ same => by cases same) (fun _ _ _ _ => .inl rfl) fun found _ => ?_
  refine (c.cancelDesk.route_sends found own).mono fun r between sends => ?_
  -- What stands about the search is no sending, and its notes are still there.
  have around {last : List Event} (unsent : ∀ ev ∈ last, ev.Unsent) :
      ∀ record, (.did (.order id) (some found) :: (between ++ last)).head? =
          some (.did (.order id) (some record)) →
        c.cancelDesk.RouteSends record (.did (.order id) (some found) :: (between ++ last)) := by
    rintro record ⟨⟩
    have read : ∀ ev ∈ [Event.did (.order id) (some found)], ev.Unsent := by simp [Event.Unsent]
    exact sends.within read unsent
  cases r with
  | ok outcome => exact fun cleared => around (by simp [Event.Unsent])
  | error fault =>
    have alone := around fun _ mem => absurd mem List.not_mem_nil
    rwa [List.append_nil] at alone

/-- Within a command the record that is read is the one that is tracked. -/
theorem cancel_meets {record : OrderRecord} (own : ∀ channel ∈ c.channels, channel.isOwn = true)
    (found : s.1.book.registry.get? id = some record) :
    (attempt (c.cancel id)).Meets env s fun _ _ log => c.cancelDesk.RouteSends record log := by
  have first : (((c.cancel id).journal env s).map (·.event)).head? =
      some (.did (.order id) (s.1.book.registry.get? id)) := rfl
  rw [found] at first
  exact meets_attempt.2 ((cancel_sends own).journal env s record first)

end Connector

theorem CommandLine.Makes.channels {line : CommandLine} {settings : Settings} {d : Deployment}
    {c : Connector} (h : line.Makes settings d c) : c.channels = CancelChannel.standard := by
  obtain ⟨text, key, terms, -, -, -, rfl⟩ := h
  rfl

/-- **Transactions that cancel one order**: it is of the pair's tokens, and its number was given, or none
was and it is that of the placement's receipt. Each channel, the batched call and then the one for a
single order, has handed over one at most. -/
def Connector.SendsCancels (c : Connector) (pair : Pair) (side : Side) (hash : Option Hash)
    (orderId : Option UInt64) (log : List Event) : Prop :=
  ∃ base quote number, c.deployment.resolve? pair.base = some base ∧
    c.deployment.resolve? pair.quote = some quote ∧
    (orderId = some number ∨ orderId = none ∧ ∃ placement receipt, hash = some placement ∧
      .reported placement receipt ∈ log ∧ receipt.success = true ∧
      receipt.FirstPlaces c.calls.exchange number) ∧
    c.cancelDesk.Tries ⟨base.address, quote.address, side, number⟩
      [CancelChannel.batch.name, (CancelChannel.direct true).name] log

/-- A search for a record that is as described sends for the order that was named. -/
theorem Connector.Describes.sendsCancels {c : Connector} {pair : Pair} {side : Side}
    {hash : Option Hash} {orderId : Option UInt64} {record : OrderRecord} {log : List Event}
    (h : c.Describes pair side (hash.getD Hash.zero) orderId record)
    (standard : c.channels = CancelChannel.standard)
    (named : ¬ (hash.isNone = true ∧ orderId.isNone = true))
    (sends : c.cancelDesk.RouteSends record log) :
    sentBy log = [] ∨ c.SendsCancels pair side hash orderId log := by
  refine sends.imp_right ?_
  rintro ⟨number, known, tries⟩
  obtain ⟨base, ofBase, sameBase⟩ := h.ofBase
  obtain ⟨quote, ofQuote, sameQuote⟩ := h.ofQuote
  have reference := h.named
  refine ⟨base, quote, number, ofBase, ofQuote, ?_, ?_⟩
  · rcases known with given | ⟨placement, receipt, placed, told, success, places⟩
    · rw [given] at reference
      cases orderId with
      | some number =>
        cases reference
        exact .inl rfl
      | none => cases reference
    · rw [placed] at reference
      cases orderId with
      | some number => cases reference
      | none =>
        cases hash with
        | none => exact absurd ⟨rfl, rfl⟩ named
        | some hash =>
          cases reference
          exact .inr ⟨rfl, _, receipt, rfl, told, success, places⟩
  · have target : record.target number = ⟨base.address, quote.address, side, number⟩ := by
      unfold OrderRecord.target
      rw [sameBase, sameQuote, h.ofSide]
    have channels : c.cancelDesk.channels = CancelChannel.standard := standard
    rwa [target, channels] at tries

/-! ### Commands that send -/

namespace CliSession

variable {line : CommandLine} {session : CliSession} {ε : Type} {env : Environment ε}
  {s : Desk × ε}

/-- **A placing command** asks nothing until key and settings are accepted and the order is let
through. -/
theorem place_meets (own : session.privateKey = line.privateKey) (order : PlaceCommand) :
    (session.place order).Meets env s fun _ _ log => questionsOf log = [] ∨
      ∃ c now, line.Makes session.settings session.deployment c ∧
        c.SendsAdmitted (order.idAt now) order.request log := by
  unfold place
  refine Meets.bind (R := fun r _ log => r = session.connector ∧ log = [])
    (meets_ofExcept.2 ⟨rfl, rfl⟩) ?_ fun _ _ _ h => .inl (by rw [h.2]; rfl)
  rintro c s' _ ⟨made, rfl⟩
  have makes := connector_makes own made.symm
  refine Meets.bind (R := fun r _ log => ∃ now, r = .ok now ∧ log = [.did .now now])
    (meets_attempt.2 ⟨_, rfl, rfl⟩) ?_ fun _ _ _ ⟨_, same, _⟩ => nomatch same
  rintro now s' _ ⟨_, ⟨⟩, rfl⟩
  -- The look at the clock before it is no question.
  have began {log : List Event} (admitted : c.SendsAdmitted (order.idAt now) order.request log) :
      c.SendsAdmitted (order.idAt now) order.request ([.did .now now] ++ log) :=
    admitted.after_silent rfl
  refine Meets.bind (meets_of_logs (c.place_sends (order.idAt now) order.request)) ?_ ?_
  · rintro handle s' log ⟨r, same, admitted | ⟨-, fault, rfl⟩⟩
    · refine Meets.mono (Q := fun _ _ more => ∀ ev ∈ more, ev.Unsent) ?_ fun _ _ more unsent =>
        .inr ⟨c, now, makes, ?_⟩
      · -- What is shown of a placement hands nothing over.
        refine Quiet.bind (quiet_print _) (fun _ => Quiet.bind (quiet_print _) fun _ => ?_) ε env s'
        have listed {text : List OrderRecord → String} : CliStep.Quiet
            (CliStep.attempt (Attempt.act .orders) >>= fun records => CliStep.print (text records)) :=
          Quiet.bind (quiet_attempt (act_unsent _)) fun _ => quiet_print _
        have confirmed : (c.confirm (order.idAt now)).Only Event.Unsent :=
          (c.confirm_offWallet _).mono fun _ h => h.unsent
        dsimp only
        split
        · split
          · exact Quiet.bind (quiet_pure _) fun _ => Quiet.bind (quiet_print _) fun _ => listed
          · exact Quiet.bind (quiet_attempt confirmed) fun _ =>
              Quiet.bind (quiet_print _) fun _ => listed
        · exact listed
      · exact began (admitted.then_unsent unsent)
    · cases same
  · rintro fault s' log ⟨r, -, admitted | ⟨silent, -⟩⟩
    · exact .inr ⟨c, now, makes, began admitted⟩
    · refine .inl ?_
      rw [List.nil_append, questionsOf_append, silent]
      rfl

/-- **A cancelling command** hands over only what cancels its order. -/
theorem cancel_meets (own : session.privateKey = line.privateKey) (pair : Pair) (side : Side)
    (hash : Option Hash) (orderId : Option UInt64) :
    (session.cancel pair side hash orderId).Meets env s fun _ _ log => sentBy log = [] ∨
      ∃ c, line.Makes session.settings session.deployment c ∧
        c.SendsCancels pair side hash orderId log := by
  unfold cancel
  refine Meets.bind (R := fun r _ log => r = session.connector ∧ log = [])
    (meets_ofExcept.2 ⟨rfl, rfl⟩) ?_ fun _ _ _ h => .inl (by rw [h.2]; rfl)
  rintro c s' _ ⟨made, rfl⟩
  have makes := connector_makes own made.symm
  split
  · exact meets_throw.2 (.inl rfl)
  next named =>
    have own : ∀ channel ∈ c.channels, channel.isOwn = true := by
      rw [makes.channels]
      decide
    refine Meets.bind Connector.adopt_meets ?_ fun _ _ _ h => .inl (sentBy_of_unsent h.1)
    rintro record t first ⟨unsentFirst, adopted⟩
    obtain ⟨describes, found⟩ := adopted record rfl
    -- What the search hands over is all, whatever is shown of it.
    have sends {log more : List Event} (routed : c.cancelDesk.RouteSends record log)
        (unsent : ∀ ev ∈ more, ev.Unsent) : sentBy (first ++ (log ++ more)) = [] ∨
          ∃ c, line.Makes session.settings session.deployment c ∧
            c.SendsCancels pair side hash orderId (first ++ (log ++ more)) :=
      (describes.sendsCancels makes.channels named (routed.within unsentFirst unsent)).imp_right
        fun cancels => ⟨c, makes, cancels⟩
    refine Meets.bind (Connector.cancel_meets own found) ?_ ?_
    · intro outcome t log routed
      refine Meets.mono (Q := fun _ _ more => ∀ ev ∈ more, ev.Unsent) ?_
        fun _ _ _ unsent => sends routed unsent
      cases outcome with
      | cancelled hash channel =>
        exact (Quiet.bind (quiet_print _) fun _ => quiet_print _) ε env t
      | localOnly reason => exact quiet_print _ ε env t
    · intro fault t log routed
      have all := sends routed fun _ mem => absurd mem List.not_mem_nil
      rwa [List.append_nil] at all

/-! ### A whole command line -/

/-- The node is asked for its chain, and the answer decides. -/
theorem checkChain_meets :
    session.checkChain.Meets env s fun r _ log =>
      log = [.asked .chainId, .told .chainId (env.reply s.2 .chainId).1] ∧
        (r = .ok () → (env.reply s.2 .chainId).1 = .ok session.deployment.chainId) := by
  unfold checkChain
  refine Meets.bind (R := fun r _ log => r = .ok (env.reply s.2 .chainId).1 ∧
    log = [.asked .chainId, .told .chainId (env.reply s.2 .chainId).1])
    (meets_reply.2 ⟨rfl, rfl⟩) ?_ fun _ _ _ h => nomatch h.1
  rintro answer t _ ⟨same, rfl⟩
  rw [← Except.ok.inj same]
  cases answer with
  | error e => exact meets_throw.2 ⟨rfl, nofun⟩
  | ok chainId =>
    dsimp only
    split
    · exact meets_throw.2 ⟨rfl, nofun⟩
    · next other => exact meets_pure.2 ⟨rfl, fun _ => congrArg Except.ok (not_not.1 other)⟩

end CliSession

namespace CommandLine

/-- **What is handed over after the chain was checked**, command by command. -/
def HandsOver (line : CommandLine) (settings : Settings) (d : Deployment) (rest : List Event) : Prop :=
  match line.command with
  | .decode _ | .nonce => sentBy rest = []
  | .place order => questionsOf rest = [] ∨ ∃ c now, line.Makes settings d c ∧
      c.SendsAdmitted (order.idAt now) order.request rest
  | .cancel pair side hash orderId => sentBy rest = [] ∨ ∃ c, line.Makes settings d c ∧
      c.SendsCancels pair side hash orderId rest

variable {line : CommandLine} {session : CliSession} {ε : Type} {env : Environment ε}
  {s : Desk × ε}

theorem handsOver_nil (settings : Settings) (d : Deployment) : line.HandsOver settings d [] := by
  unfold HandsOver
  split
  · rfl
  · rfl
  · exact .inl rfl
  · exact .inl rfl

theorem carryOut_meets (own : session.privateKey = line.privateKey) :
    (session.carryOut line.command).Meets env s fun _ _ rest =>
      line.HandsOver session.settings session.deployment rest := by
  unfold HandsOver
  cases line.command with
  | decode hash => exact (session.decode_quiet hash ε env s).mono fun _ _ _ => sentBy_of_unsent
  | nonce => exact (session.nonce_quiet ε env s).mono fun _ _ _ => sentBy_of_unsent
  | place order => exact CliSession.place_meets own order
  | cancel pair side hash orderId => exact CliSession.cancel_meets own pair side hash orderId

/-- **What a command line asks of the node.** For every command line and file, and however the outside
answers: if anything is done at all, a deployment was chosen and the node is asked for its chain first,
and nothing else is done unless that is the deployment's. Commands that only look hand no transaction
over. A placing command asks nothing more until key and settings are accepted and the order is let
through, and then hands over one transaction at most, for the order's placement. A cancelling command
hands over transactions of a desk of accepted key and settings only, one for the batched call and one
for the single call at most, each for the order of the pair's tokens, of the side, and of the number that
was given or, if none was, that the placement's receipt tells. -/
theorem run_requests (line : CommandLine) (file : String → Option String) (colours : Bool)
    (env : Environment ε) (s : Desk × ε) :
    let log := ((line.run file colours).journal env s).map (·.event)
    log = [] ∨ ∃ settings d answer rest, line.Selects file settings d ∧
      log = .asked .chainId :: .told .chainId answer :: rest ∧
      (answer = .ok d.chainId ∨ rest = []) ∧ line.HandsOver settings d rest := by
  intro log
  let steps : CliStep Unit := do
    let session ← CliStep.ofExcept (CliSession.prepare line file colours)
    session.run line.command
  -- A report adds nothing to what is done.
  have reported : (line.run file colours).journal env s = (steps.run.run "").journal env s :=
    (Routine.journal_bind env (steps.run.run "") _ s).trans (List.append_nil _)
  have meets : steps.Meets env s fun _ _ log =>
      log = [] ∨ ∃ settings d answer rest, line.Selects file settings d ∧
        log = .asked .chainId :: .told .chainId answer :: rest ∧
        (answer = .ok d.chainId ∨ rest = []) ∧ line.HandsOver settings d rest := by
    refine Meets.bind (R := fun r _ log => r = CliSession.prepare line file colours ∧ log = [])
      (meets_ofExcept.2 ⟨rfl, rfl⟩) ?_ fun _ _ _ h => .inl h.2
    rintro session t _ ⟨prepared, rfl⟩
    obtain ⟨selects, own⟩ := CliSession.prepare_selects prepared.symm
    refine Meets.bind CliSession.checkChain_meets ?_ ?_
    · rintro _ t' _ ⟨rfl, served⟩
      exact (carryOut_meets own).mono fun _ _ rest handed =>
        .inr ⟨session.settings, session.deployment, _, rest, selects, rfl, .inl (served rfl), handed⟩
    · rintro _ t' _ ⟨rfl, -⟩
      exact .inr ⟨session.settings, session.deployment, _, [], selects, rfl, .inr rfl,
        handsOver_nil ..⟩
  have done := meets ""
  rwa [← reported] at done

end CommandLine
end OrderDesk
