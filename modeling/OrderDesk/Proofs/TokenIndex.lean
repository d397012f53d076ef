import Mathlib.Data.List.Induction
import OrderDesk.Cli.Settings
import OrderDesk.Desk.Connector

/-!
# `OrderDesk.Proofs.TokenIndex` — tokens by their symbols

A deployment keeps its tokens in a list, which may hold a symbol more than once. It is looked up as if
the tokens stood in an index under the small letters of their symbols: the first of the list under each
at the start, and each token that is added in the place of what stood there.

## Contents
- `TokenIndex`, `Deployment.index`, `TokenIndex.put`: the index.
- `Deployment.ofSymbol`: the tokens of a symbol, and what adding a token does to them.
- `Deployment.withTokens`, `lastOf?`: tokens added one after another, and the last of a symbol.
- `Connector.resolve_eq_pure_iff`, `Connector.resolve_eq_fail_iff`: which symbols a desk refuses.
- `Settings.deployment_eq_ok`: which deployment the settings make.
- `Deployment.lookup_after_adding`: the result, for every deployment and all tokens added.
-/

namespace OrderDesk

open AsciiCase (same fold)

/-! ### The index -/

/-- Tokens by the small letters of their symbols. -/
abbrev TokenIndex : Type := Std.HashMap String Token

namespace TokenIndex

/-- The token takes the place of what stands under its symbol. -/
def put (index : TokenIndex) (t : Token) : TokenIndex := index.insert (fold t.symbol) t

/-- What stands under a symbol. -/
def find? (index : TokenIndex) (symbol : String) : Option Token := index[fold symbol]?

theorem find?_put (index : TokenIndex) (t : Token) (symbol : String) :
    (index.put t).find? symbol = if same t.symbol symbol then some t else index.find? symbol := by
  unfold find? put
  rw [Std.HashMap.getElem?_insert]
  rfl

end TokenIndex

/-- The last of the tokens of a symbol. -/
def lastOf? (tokens : List Token) (symbol : String) : Option Token :=
  tokens.reverse.find? fun t => same t.symbol symbol

theorem lastOf?_append (tokens : List Token) (t : Token) (symbol : String) :
    lastOf? (tokens ++ [t]) symbol =
      if same t.symbol symbol then some t else lastOf? tokens symbol := by
  unfold lastOf?
  rw [List.reverse_append, List.reverse_singleton, List.singleton_append, List.find?_cons]
  cases same t.symbol symbol <;> rfl

namespace Deployment

/-- Adds tokens one after another. -/
def withTokens (d : Deployment) (added : List Token) : Deployment := added.foldl withToken d

/-- The first token of each symbol. -/
def index (d : Deployment) : TokenIndex := d.tokens.foldr (fun t index => index.put t) ∅

/-- All tokens of a symbol, in their order. -/
def ofSymbol (d : Deployment) (symbol : String) : List Token :=
  d.tokens.filter fun t => same t.symbol symbol

variable (d : Deployment) (added : List Token) (t : Token) (symbol : String)

/-- A token that is looked up is the first of its symbol. -/
theorem token?_eq_head? : d.token? symbol = (d.ofSymbol symbol).head? :=
  (List.head?_filter ..).symm

/-- **The list is looked up like its index.** -/
theorem token?_eq_index : d.token? symbol = d.index.find? symbol := by
  unfold token? index
  induction d.tokens with
  | nil => simp [TokenIndex.find?]
  | cons t rest ih =>
    rw [List.find?_cons, List.foldr_cons, TokenIndex.find?_put, ih]
    cases same t.symbol symbol <;> rfl

/-! ### Adding one token -/

/-- A token that is added becomes the only one of its symbol; other symbols keep theirs. -/
theorem ofSymbol_withToken :
    (d.withToken t).ofSymbol symbol =
      if same t.symbol symbol then [t] else d.ofSymbol symbol := by
  unfold ofSymbol withToken
  rw [List.filter_append, List.filter_filter]
  cases own : same t.symbol symbol with
  | true =>
    -- What is kept has another symbol, so it is not of this one.
    have none : d.tokens.filter (fun kept => same kept.symbol symbol &&
        !same kept.symbol t.symbol) = [] := by
      refine List.filter_eq_nil_iff.2 fun kept _ => ?_
      have told : fold t.symbol = fold symbol := AsciiCase.same_iff.1 own
      simp [same, told]
    rw [none]
    simp [own]
  | false =>
    -- A token of this symbol is not of the one that is replaced.
    have unmoved : ∀ kept ∈ d.tokens, (same kept.symbol symbol &&
        !same kept.symbol t.symbol) = same kept.symbol symbol := by
      intro kept _
      cases here : same kept.symbol symbol with
      | false => rfl
      | true =>
        have apart : same kept.symbol t.symbol = false := by
          refine Bool.eq_false_iff.2 fun replaced => ?_
          exact Bool.eq_false_iff.1 own (AsciiCase.same_trans (AsciiCase.same_symm replaced) here)
        rw [apart]
        rfl
    rw [List.filter_congr unmoved]
    simp [own]

theorem token?_withToken :
    (d.withToken t).token? symbol = if same t.symbol symbol then some t else d.token? symbol := by
  rw [token?_eq_head?, token?_eq_head?, ofSymbol_withToken]
  split <;> rfl

/-! ### Adding tokens one after another -/

@[simp] theorem withTokens_nil : d.withTokens [] = d := rfl

theorem withTokens_append : d.withTokens (added ++ [t]) = (d.withTokens added).withToken t :=
  List.foldl_append

/-- Nothing but the tokens changes. -/
theorem withTokens_rest : { d.withTokens added with tokens := d.tokens } = d := by
  induction added using List.reverseRecOn with
  | nil => rfl
  | append_singleton before t ih =>
    rw [withTokens_append]
    exact ih

/-- The token added last is the only one of its symbol; what was not added stays as it was. -/
theorem ofSymbol_withTokens :
    (d.withTokens added).ofSymbol symbol =
      match lastOf? added symbol with
      | some t => [t]
      | none => d.ofSymbol symbol := by
  induction added using List.reverseRecOn with
  | nil => rfl
  | append_singleton before t ih =>
    rw [withTokens_append, ofSymbol_withToken, lastOf?_append]
    split
    next => rfl
    next => exact ih

theorem token?_withTokens :
    (d.withTokens added).token? symbol = (lastOf? added symbol).or (d.token? symbol) := by
  rw [token?_eq_head?, token?_eq_head?, ofSymbol_withTokens]
  cases lastOf? added symbol <;> rfl

/-- The index that is kept up to date is the one that the list is looked up like. -/
theorem token?_withTokens_eq_index :
    (d.withTokens added).token? symbol = (added.foldl TokenIndex.put d.index).find? symbol := by
  induction added using List.reverseRecOn with
  | nil => exact d.token?_eq_index symbol
  | append_singleton before t ih =>
    rw [withTokens_append, token?_withToken, List.foldl_append, List.foldl_cons, List.foldl_nil,
      TokenIndex.find?_put, ih]

end Deployment

/-! ### Resolving -/

theorem Deployment.resolve?_eq_some_iff {d : Deployment} {symbol : String} {t : Token} :
    d.resolve? symbol = some t ↔ d.token? symbol = some t ∧ t.address ≠ Address.zero := by
  rw [Deployment.resolve?, Option.filter_eq_some_iff, bne_iff_ne]

namespace Connector

variable (c : Connector) (symbol : String)

/-- What a desk answers for a symbol, found or not. -/
theorem resolve_eq : c.resolve symbol =
    match c.deployment.resolve? symbol with
    | some t => Routine.done (.ok t)
    | none => Routine.done (.error (.error (.unknownToken symbol))) := by
  unfold resolve
  cases c.deployment.resolve? symbol <;> rfl

theorem resolve_eq_pure_iff (t : Token) :
    c.resolve symbol = pure t ↔
      c.deployment.token? symbol = some t ∧ t.address ≠ Address.zero := by
  have answer : (pure t : Attempt Token) = Routine.done (.ok t) := rfl
  rw [← Deployment.resolve?_eq_some_iff, resolve_eq, answer]
  cases c.deployment.resolve? symbol with
  | none => exact iff_of_false (fun h => nomatch Routine.done.inj h) nofun
  | some found =>
    constructor
    · intro h
      rw [Except.ok.inj (Routine.done.inj h)]
    · intro h
      rw [Option.some.inj h]

theorem resolve_eq_fail_iff :
    c.resolve symbol = Attempt.fail (.unknownToken symbol) ↔
      ∀ t, c.deployment.token? symbol = some t → t.address = Address.zero := by
  have answer : (Attempt.fail (.unknownToken symbol) : Attempt Token) =
      Routine.done (.error (.error (.unknownToken symbol))) := rfl
  rw [resolve_eq, answer]
  cases found : c.deployment.resolve? symbol with
  | none =>
    refine ⟨fun _ t here => ?_, fun _ => rfl⟩
    by_contra address
    rw [Deployment.resolve?_eq_some_iff.2 ⟨here, address⟩] at found
    cases found
  | some t =>
    obtain ⟨here, address⟩ := Deployment.resolve?_eq_some_iff.1 found
    exact iff_of_false (fun h => nomatch Routine.done.inj h) fun missing => address (missing t here)

end Connector

/-! ### The settings' deployment -/

/-- The token that a setting describes. -/
def TokenSetting.token? (t : TokenSetting) : Option Token :=
  (Address.ofText? t.address).map fun address =>
    { symbol := t.symbol, address, decimals := t.decimals, native := t.native }

namespace Settings

variable {s : Settings} {network : Network} {d : Deployment}

theorem addToken_eq_ok {t : TokenSetting} {start : Deployment} :
    addToken start t = .ok d ↔ ∃ token, t.token? = some token ∧ d = start.withToken token := by
  unfold addToken TokenSetting.token?
  cases Address.ofText? t.address <;> simp [eq_comm]

theorem foldlM_addToken_eq_ok {added : List TokenSetting} {start : Deployment} :
    added.foldlM addToken start = .ok d ↔
      ∃ tokens, added.mapM TokenSetting.token? = some tokens ∧ d = start.withTokens tokens := by
  induction added generalizing start with
  | nil => simp [Deployment.withTokens, pure, Except.pure, eq_comm]
  | cons t rest ih =>
    rw [List.foldlM_cons, List.mapM_cons]
    cases first : t.token? with
    | none =>
      have refused : ∀ d, addToken start t ≠ .ok d := by
        intro d done
        obtain ⟨token, here, -⟩ := addToken_eq_ok.1 done
        rw [first] at here
        cases here
      cases added : addToken start t with
      | error e => simp [bind, Except.bind]
      | ok d => exact absurd added (refused d)
    | some token =>
      rw [addToken_eq_ok.2 ⟨token, first, rfl⟩]
      simp only [bind, Except.bind]
      rw [ih]
      cases rest.mapM TokenSetting.token? <;> simp [Deployment.withTokens]

/-- The deployment has the exchange and the tokens of the settings, where they name any, in the place of
its own. -/
def Overrides (s : Settings) (start d : Deployment) : Prop :=
  ∃ exchange tokens,
    (match s.exchange with
    | none => exchange = start.exchange
    | some text => Address.ofText? text = some exchange) ∧
    s.tokens.mapM TokenSetting.token? = some tokens ∧
    d = { start with exchange }.withTokens tokens

theorem deployment_eq_ok : s.deployment network = .ok d ↔ s.Overrides network.deployment d := by
  unfold deployment withExchange Overrides
  cases s.exchange with
  | none => simp [bind, Except.bind, foldlM_addToken_eq_ok]
  | some text =>
    cases named : Address.ofText? text <;>
      simp [named, bind, Except.bind, foldlM_addToken_eq_ok]

end Settings

/-- **Tokens are looked up as in an index by small letters.** For every deployment at the start, with
symbols repeated or not, and for all tokens added to it one after another: a look-up finds what the
index holds under the symbol, which is the token added last under it, then the only one of its symbol in
the list, and if none was added the first of the list at the start; a desk answers with that token if it
has an address, and refuses the symbol as unknown if there is none or it has no address; nothing but the
tokens changes. -/
theorem Deployment.lookup_after_adding (start : Deployment) (added : List Token) (symbol : String)
    (c : Connector) :
    let d := start.withTokens added
    let desk := { c with deployment := d }
    d.token? symbol = (added.foldl TokenIndex.put start.index).find? symbol ∧
    d.token? symbol =
      (lastOf? added symbol).or (start.tokens.find? fun t => same t.symbol symbol) ∧
    d.ofSymbol symbol =
      (match lastOf? added symbol with
      | some t => [t]
      | none => start.ofSymbol symbol) ∧
    (∀ t, desk.resolve symbol = pure t ↔ d.token? symbol = some t ∧ t.address ≠ Address.zero) ∧
    (desk.resolve symbol = Attempt.fail (.unknownToken symbol) ↔
      ∀ t, d.token? symbol = some t → t.address = Address.zero) ∧
    { d with tokens := start.tokens } = start := by
  intro d desk
  exact ⟨start.token?_withTokens_eq_index added symbol, start.token?_withTokens added symbol,
    start.ofSymbol_withTokens added symbol, desk.resolve_eq_pure_iff symbol,
    desk.resolve_eq_fail_iff symbol, start.withTokens_rest added⟩

/-- The token added last takes the place of both, however the symbol is spelt. -/
example :
    let first : Token := { symbol := "usdc", address := ⟨1⟩, decimals := 6 }
    let second : Token := { symbol := "UsDc", address := ⟨2⟩, decimals := 6 }
    (Deployment.mainnet.withTokens [first, second]).ofSymbol "USDC" = [second] := by
  decide +kernel

end OrderDesk
