import OrderDesk.Digest.Keccak
import OrderDesk.Proofs.CallData
import OrderDesk.Proofs.Units

/-!
# `OrderDesk.Proofs.PlacementData` — the call that places an order, as the exchange reads it

The exchange's interface names the parameters of each entry point and their kinds. A selector is the
hash of the signature they make, and every word is read as one value of its kind and nothing else. So
read, the call of a placement says what the order says.

## Contents
- `Kind`, `Value`, `Parameter`, `EntryPoint.parameters`: the interface of the entry points.
- `EntryPoint.decode?`: call data read by the interface; `EntryPoint.decode?_encode`: it reads what is
  written for it.
- `EntryPoint.paid?`: the amount that a call pays.
- `CallBook.Placed`: what there is to say about a placement; `CallBook.placed_of_placement`.
-/

namespace OrderDesk

/-! ### The interface -/

/-- The kinds of values that the entry points take. -/
inductive Kind where
  | address
  | uint256
  | bool
  | uint32
deriving DecidableEq, Repr

/-- The kind's name in a signature. -/
def Kind.text : Kind → String
  | address => "address"
  | uint256 => "uint256"
  | bool => "bool"
  | uint32 => "uint32"

/-- A value of one of the kinds. -/
inductive Value where
  | address (a : Address)
  | uint256 (w : Word)
  | bool (b : Bool)
  | uint32 (n : UInt32)
deriving DecidableEq, Repr

namespace Value

def kind : Value → Kind
  | address _ => .address
  | uint256 _ => .uint256
  | bool _ => .bool
  | uint32 _ => .uint32

/-- The word that stands for a value. -/
def word : Value → Word
  | address a => Abi.ofAddress a
  | uint256 w => w
  | bool b => Abi.ofBool b
  | uint32 n => Abi.ofUInt32 n

end Value

/-- The value of a kind that a word stands for. A word beyond the kind's range stands for none. -/
def Kind.read? (k : Kind) (w : Word) : Option Value :=
  match k with
  | address => if w.toNat < Nat.pow 2 160 then some (.address (Abi.toAddress w)) else none
  | uint256 => some (.uint256 w)
  | bool => if w = 0 then some (.bool false) else if w = 1 then some (.bool true) else none
  | uint32 => if w.toNat < UInt32.size then some (.uint32 (Abi.toUInt32 w)) else none

/-- What an entry point is told. -/
inductive Parameter where
  | base
  | quote
  | price
  /-- The amount of the token spent, of the quote for a bid and of the base for an ask. -/
  | amount
  /-- Whether what is not matched rests on the book. -/
  | maker
  | maxMatches
  | recipient
deriving DecidableEq, Repr

def Parameter.kind : Parameter → Kind
  | base | quote | recipient => .address
  | price | amount => .uint256
  | maker => .bool
  | maxMatches => .uint32

namespace EntryPoint

/-- The parameters in their order. An entry point that is paid with an attached value is told neither
the token that it is paid in nor the amount. -/
def parameters : EntryPoint → List Parameter
  | limitBuy => [.base, .quote, .price, .amount, .maker, .maxMatches, .recipient]
  | limitBuyNative => [.base, .price, .maker, .maxMatches, .recipient]
  | limitSell => [.base, .quote, .price, .amount, .maker, .maxMatches, .recipient]
  | limitSellNative => [.quote, .price, .maker, .maxMatches, .recipient]

/-- The name with the kinds of the parameters. -/
def signature (e : EntryPoint) : String :=
  e.text ++ "(" ++ ",".intercalate (e.parameters.map (·.kind.text)) ++ ")"

/-- **The selectors are those of the interface.** -/
theorem selector_eq (e : EntryPoint) :
    e.selector = (Keccak.digest e.signature.toUTF8.toList).take 4 := by
  cases e <;> decide +kernel

/-- One word for each parameter, read as a value of its kind. -/
def readAll? : List Parameter → List Abi.Arg → Option (List Value)
  | [], [] => some []
  | parameter :: parameters, .word w :: args => do
    let value ← parameter.kind.read? w
    let values ← readAll? parameters args
    return value :: values
  | _, _ => none

/-- Reads a call by the interface: the selector of the signature, and a value for each parameter.
Nothing may be left over. -/
def decode? (e : EntryPoint) (data : Bytes) : Option (List Value) :=
  if data.take 4 = (Keccak.digest e.signature.toUTF8.toList).take 4 then do
    let args ← Abi.decode? (e.parameters.map fun _ => .word) (data.drop 4)
    readAll? e.parameters args
  else none

/-- The entry point is paid with an attached value. -/
def attaches : EntryPoint → Bool
  | limitBuyNative | limitSellNative => true
  | limitBuy | limitSell => false

/-- The amount that the data of a call say. -/
def amount? (e : EntryPoint) (data : Bytes) : Option Word := do
  let values ← e.decode? data
  match (e.parameters.zip values).lookup .amount with
  | some (.uint256 w) => some w
  | _ => none

/-- What a call to the entry point pays: the value that is attached, or the amount it is told. -/
def paid? (e : EntryPoint) (call : Call) : Option Word :=
  if e.attaches then some call.value else e.amount? call.data

end EntryPoint

/-! ### Reading what was written -/

/-- **A value is read back from its word.** -/
theorem Value.read?_word (v : Value) : v.kind.read? v.word = some v := by
  cases v with
  | address a =>
    have bound := a.bits.isLt
    have small : (Abi.ofAddress a).toNat = a.bits.toNat := by
      rw [Abi.ofAddress, BitVec.toNat_setWidth]
      exact Nat.mod_eq_of_lt (by omega)
    have back : Abi.toAddress (Abi.ofAddress a) = a := by
      unfold Abi.toAddress Abi.ofAddress
      congr 1
      apply BitVec.eq_of_toNat_eq
      simp only [BitVec.toNat_setWidth]
      omega
    rw [kind, word, Kind.read?, small, if_pos bound, back]
  | uint256 w => rfl
  | bool b => cases b <;> rfl
  | uint32 n =>
    have bound := n.toNat_lt
    have small : (Abi.ofUInt32 n).toNat = n.toNat := by
      rw [Abi.ofUInt32, BitVec.toNat_ofNat]
      exact Nat.mod_eq_of_lt (by omega)
    rw [kind, word, Kind.read?, Abi.toUInt32, small, if_pos bound, Nat.mod_eq_of_lt bound,
      UInt32.ofNat_toNat]

namespace EntryPoint

variable {value : Parameter → Value}

theorem readAll?_words (kinds : ∀ parameter, (value parameter).kind = parameter.kind)
    (parameters : List Parameter) :
    readAll? parameters (parameters.map fun parameter => .word (value parameter).word) =
      some (parameters.map value) := by
  induction parameters with
  | nil => rfl
  | cons parameter rest ih =>
    rw [List.map_cons, readAll?, ← kinds, Value.read?_word, ih]
    rfl

/-- **The interface reads what is written for it**, whatever the values. -/
theorem decode?_encode (e : EntryPoint) (kinds : ∀ parameter, (value parameter).kind = parameter.kind) :
    e.decode? (e.selector ++
      Abi.encode (e.parameters.map fun parameter => .word (value parameter).word)) =
        some (e.parameters.map value) := by
  have four : e.selector.length = 4 := by cases e <;> rfl
  have fits : (Abi.encode (e.parameters.map fun parameter => .word (value parameter).word)).length <
      Nat.pow 2 256 := by
    cases e <;> simp [parameters, Abi.encode, Abi.encodeFrom, Abi.wordBytes]
  have back := Abi.decode?_encode fits
  rw [List.map_map] at back
  unfold decode?
  rw [List.take_left' four, List.drop_left' four, if_pos e.selector_eq]
  exact (congrArg (· >>= readAll? e.parameters) back).trans (readAll?_words kinds e.parameters)

end EntryPoint

/-! ### Placements -/

/-- The token that an order spends. -/
def Side.spent (side : Side) (base quote : Token) : Token := if side.isBid then quote else base

/-- A value is attached where the token spent is the native one. -/
theorem EntryPoint.attaches_select (side : Side) (base quote : Token) :
    (EntryPoint.select side base quote).attaches = (side.spent base quote).native := by
  cases side with
  | bid => cases native : quote.native <;> simp [select, attaches, Side.spent, Side.isBid, native]
  | ask => cases native : base.native <;> simp [select, attaches, Side.spent, Side.isBid, native]

namespace CallBook

variable {b : CallBook} {side : Side} {base quote : Token} {amount price : Decimal} {p : Placement}

/-- What an order has to tell. -/
def argument (b : CallBook) (base quote : Address) (price amount : Word) : Parameter → Value
  | .base => .address base
  | .quote => .address quote
  | .price => .uint256 price
  | .amount => .uint256 amount
  | .maker => .bool b.maker
  | .maxMatches => .uint32 b.maxMatches
  | .recipient => .address b.recipient

theorem placementData_eq (b : CallBook) (e : EntryPoint) (base quote : Address) (price amount : Word) :
    b.placementData e base quote price amount = e.selector ++ Abi.encode
      (e.parameters.map fun parameter => .word (b.argument base quote price amount parameter).word) := by
  cases e <;> rfl

theorem decode?_placementData (b : CallBook) (e : EntryPoint) (base quote : Address)
    (price amount : Word) : e.decode? (b.placementData e base quote price amount) =
      some (e.parameters.map (b.argument base quote price amount)) := by
  rw [placementData_eq]
  exact e.decode?_encode fun parameter => by cases parameter <;> rfl

/-- The placement of an order with these words. -/
def placed (b : CallBook) (side : Side) (base quote : Token) (price spend : Word) : Placement where
  entryPoint := .select side base quote
  call := ⟨b.exchange, b.placementData (.select side base quote) base.address quote.address price spend,
    if (side.spent base quote).native then spend else 0⟩
  price := price
  spend := spend

/-! #### A placement in its parts -/

section Parts

variable {α β : Type} {x : Except Fault α} {f : α → Except Fault β} {result : β}

/-- What is computed was computed step by step. -/
theorem bind_eq_ok (h : x >>= f = .ok result) : ∃ a, x = .ok a ∧ f a = .ok result := by
  cases x with
  | ok a => exact ⟨a, rfl, h⟩
  | error fault => cases h

/-- What is not refused has passed its test. -/
theorem passed_of_ok {refused : Prop} [Decidable refused] {e : Fault} {rest : Unit → Except Fault β}
    (h : (if refused then throw e >>= rest else rest ()) = .ok result) :
    ¬ refused ∧ rest () = .ok result := by
  split at h
  · cases h
  · next passed => exact ⟨passed, h⟩

end Parts

theorem units?_of_units {rounding : Decimal.Rounding} {decimals : UInt8} {w : Word}
    (h : (units rounding decimals amount).mapError Fault.error = .ok w) :
    amount.units? rounding decimals = some w := by
  unfold units at h
  split at h
  · next found =>
    cases h
    exact found
  · cases h

/-- **A placement in its parts**: neither the price nor what is spent vanishes in its units. -/
theorem placement_eq_ok (built : b.placement side base quote amount price = .ok p) :
    ∃ unitPrice spent, price.units? .down b.priceDecimals = some unitPrice ∧ unitPrice ≠ 0 ∧
      spend (.select side base quote) base quote amount price = .ok spent ∧ spent ≠ 0 ∧
      p = b.placed side base quote unitPrice spent := by
  unfold placement at built
  obtain ⟨-, -, built⟩ := bind_eq_ok built
  obtain ⟨-, built⟩ := passed_of_ok built
  obtain ⟨unitPrice, units, built⟩ := bind_eq_ok built
  obtain ⟨priced, built⟩ := passed_of_ok built
  obtain ⟨spent, spends, built⟩ := bind_eq_ok built
  obtain ⟨paid, built⟩ := passed_of_ok built
  cases built
  refine ⟨unitPrice, spent, units?_of_units units, priced, spends, paid, ?_⟩
  unfold placed
  congr 2
  rw [← EntryPoint.attaches_select]
  cases EntryPoint.select side base quote <;> rfl

/-- **What there is to say about a placement**: where it goes, how the exchange reads it, what it
attaches and how its price was made. -/
structure Placed (b : CallBook) (side : Side) (base quote : Token) (price : Decimal)
    (p : Placement) : Prop where
  target : p.call.target = b.exchange
  entryPoint : p.entryPoint = .select side base quote
  arguments : p.entryPoint.decode? p.call.data =
    some (p.entryPoint.parameters.map (b.argument base.address quote.address p.price p.spend))
  price : ∃ y, price.value? = some y ∧ p.price.toNat = ⌊y * 10 ^ b.priceDecimals.toNat⌋₊
  value : p.call.value = if (side.spent base quote).native then p.spend else 0
  price_ne_zero : p.price ≠ 0
  spend_ne_zero : p.spend ≠ 0

/-- **The exchange reads the order that was built**, for every order that can be. -/
theorem placed_of_placement (built : b.placement side base quote amount price = .ok p) :
    b.Placed side base quote price p := by
  obtain ⟨unitPrice, spent, units, priced, -, paid, rfl⟩ := placement_eq_ok built
  obtain ⟨y, known⟩ := Decimal.value?_of_units? units priced
  exact ⟨rfl, rfl, b.decode?_placementData _ _ _ _ _, ⟨y, known, Decimal.units?_eq_some known units⟩, rfl,
    priced, paid⟩

namespace Placed

variable (h : b.Placed side base quote price p)
include h

theorem attaches_eq : p.entryPoint.attaches = (side.spent base quote).native := by
  rw [h.entryPoint, EntryPoint.attaches_select]

/-- What a token amount is paid with stands in the data. -/
theorem amount?_eq (token : p.entryPoint.attaches = false) :
    p.entryPoint.amount? p.call.data = some p.spend := by
  unfold EntryPoint.amount?
  rw [h.arguments]
  cases entry : p.entryPoint with
  | limitBuyNative | limitSellNative =>
    rw [entry] at token
    cases token
  | limitBuy | limitSell => rfl

/-- **The call pays what is spent.** -/
theorem paid?_eq : p.entryPoint.paid? p.call = some p.spend := by
  unfold EntryPoint.paid?
  split
  · next attached =>
    rw [h.value, if_pos (h.attaches_eq ▸ attached)]
  · next token => exact h.amount?_eq (Bool.not_eq_true _ ▸ token)

end Placed

/-! #### Orders of a token and of the native one -/

namespace Sample

/-- A native token. -/
def coin : Token := ⟨"STT", ⟨0x4a3bc48c156384f9564fd65a53a2f3d534d8f2b7⟩, 18, true⟩

/-- A token of eight decimals. -/
def gold : Token := ⟨"WBTC", ⟨0x54597df4e4a6385b77f39d458eb75443a8f9aa9e⟩, 8, false⟩

/-- The terms of an exchange with the longest number of matches. -/
def book : CallBook where
  exchange := ⟨0x0d3251ef0d66b60c4e387fc95462bf274e50cbe1⟩
  recipient := ⟨0xf39fd6e51aad88f6f4ce6ab8827279cfffb92266⟩
  priceDecimals := 8
  maxMatches := 0xffffffff
  maker := false

/-- An ask of 0.5 at 2.25, which is paid with a token amount. -/
theorem placed_ask : ∃ p, book.placement .ask gold coin (.finite 5 1) (.finite 225 2) = .ok p ∧
    book.Placed .ask gold coin (.finite 225 2) p := by
  have built : book.placement .ask gold coin (.finite 5 1) (.finite 225 2) =
    .ok (book.placed .ask gold coin 225000000 50000000) := rfl
  exact ⟨_, built, placed_of_placement built⟩

end Sample
end CallBook
end OrderDesk
