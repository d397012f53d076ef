import OrderDesk.Proofs.PlacementData

/-!
# `OrderDesk.Proofs.CancelData` — lists of orders to cancel, as the exchange reads them

The exchange is told of orders on the book through three functions: two for one order, and one that takes
an array for each parameter. A list of targets goes into four arrays of its own length, and is read back
from them whole and in its order. A number that has no place in the 32 bits of the exchange refuses the
whole list.

## Contents
- `TargetField`, `OrderFunction`: the interface of the functions about orders on the book.
- `OrderFunction.decode?`: call data read by the interface, parameter by parameter;
  `OrderFunction.targets?`: the orders it is about.
- `CancelTarget.columns`, `CancelTarget.ofColumns?_values`: targets to arrays and back.
- `CancelTarget.mapM_engineId`, `mapM_engineId_refused`: which lists are numbered, and what refuses one.
- `Abi.lists_of_encode`: lists of one length are told apart by their encoding, however long it is.
- `CallBook.Lists`: what there is to say about a call for a list; `CallBook.cancelOrders_recovers`.
-/

namespace OrderDesk

/-! ### The interface -/

/-- What the exchange is told of an order on the book. -/
inductive TargetField where
  | base
  | quote
  | isBid
  | orderId
deriving DecidableEq, Repr

namespace TargetField

/-- The parameters in their order. -/
def all : List TargetField := [base, quote, isBid, orderId]

def kind : TargetField → Kind
  | base | quote => .address
  | isBid => .bool
  | orderId => .uint32

/-- What a target says of it; a number is cut to 32 bits. -/
def value (t : CancelTarget) : TargetField → Value
  | base => .address t.base
  | quote => .address t.quote
  | isBid => .bool t.side.isBid
  | orderId => .uint32 (UInt32.ofNat t.orderId.toNat)

theorem kind_value (t : CancelTarget) (field : TargetField) : (field.value t).kind = field.kind := by
  cases field <;> rfl

end TargetField

/-- The functions of the exchange about orders on the book. -/
inductive OrderFunction where
  | cancelOrder
  /-- Takes any number of orders, an array for each parameter. -/
  | cancelOrders
  | getOrder
deriving DecidableEq, Repr

namespace OrderFunction

/-- The function's name. -/
def text : OrderFunction → String
  | cancelOrder => "cancelOrder"
  | cancelOrders => "cancelOrders"
  | getOrder => "getOrder"

def shape : OrderFunction → Abi.Shape
  | cancelOrders => .list
  | cancelOrder | getOrder => .word

def selector : OrderFunction → Bytes
  | cancelOrder => Selector.cancelOrder
  | cancelOrders => Selector.cancelOrders
  | getOrder => Selector.getOrder

/-- The name with the types of the parameters. -/
def signature (f : OrderFunction) : String :=
  let array := match f.shape with
    | .list => "[]"
    | .word => ""
  f.text ++ "(" ++ ",".intercalate (TargetField.all.map (·.kind.text ++ array)) ++ ")"

/-- **The selectors are those of the interface.** -/
theorem selector_eq (f : OrderFunction) :
    f.selector = (Keccak.digest f.signature.toUTF8.toList).take 4 := by
  cases f <;> decide +kernel

/-- The values of an argument, each read as one of its kind. -/
def column? (k : Kind) : Abi.Arg → Option (List Value)
  | .word w => (k.read? w).map fun value => [value]
  | .list ws => ws.mapM k.read?

/-- The values of each argument in its turn. -/
def columns? : List TargetField → List Abi.Arg → Option (List (List Value))
  | [], [] => some []
  | field :: fields, arg :: args => do
    let column ← column? field.kind arg
    let columns ← columns? fields args
    return column :: columns
  | _, _ => none

/-- Reads a call by the interface: the selector of the signature, and for each parameter its values.
Nothing may be left over. -/
def decode? (f : OrderFunction) (data : Bytes) : Option (List (List Value)) :=
  if data.take 4 = (Keccak.digest f.signature.toUTF8.toList).take 4 then do
    let args ← Abi.decode? (TargetField.all.map fun _ => f.shape) (data.drop 4)
    columns? TargetField.all args
  else none

end OrderFunction

namespace CancelTarget

/-- The orders that stand side by side in four columns of equal length. -/
def ofRows? : List Value → List Value → List Value → List Value → Option (List CancelTarget)
  | .address base :: bases, .address quote :: quotes, .bool isBid :: bids, .uint32 id :: ids =>
    (ofRows? bases quotes bids ids).map
      (⟨base, quote, if isBid then .bid else .ask, id.toUInt64⟩ :: ·)
  | [], [], [], [] => some []
  | _, _, _, _ => none

/-- The orders in the columns of a call. -/
def ofColumns? : List (List Value) → Option (List CancelTarget)
  | [bases, quotes, bids, ids] => ofRows? bases quotes bids ids
  | _ => none

end CancelTarget

/-- The orders that a call is about, by the interface. -/
def OrderFunction.targets? (f : OrderFunction) (data : Bytes) : Option (List CancelTarget) :=
  (f.decode? data).bind CancelTarget.ofColumns?

/-! ### Targets to columns and back -/

namespace CancelTarget

/-- The number has a place in the 32 bits that the exchange has for it. -/
def InRange (t : CancelTarget) : Prop := t.orderId.toNat < UInt32.size

instance (t : CancelTarget) : Decidable t.InRange := inferInstanceAs (Decidable (_ < _))

/-- The words of targets, parameter by parameter. -/
def columns (targets : List CancelTarget) : List (List Word) :=
  TargetField.all.map fun field => targets.map fun t => (field.value t).word

/-- **Targets are read back from their values**, in their order. -/
theorem ofColumns?_values {targets : List CancelTarget} (inRange : ∀ t ∈ targets, t.InRange) :
    ofColumns? (TargetField.all.map fun field => targets.map field.value) = some targets := by
  show ofRows? _ _ _ _ = _
  induction targets with
  | nil => rfl
  | cons t rest ih =>
    have small : t.orderId.toNat < UInt32.size := inRange t (List.mem_cons_self ..)
    have side : (if t.side.isBid then Side.bid else .ask) = t.side := by cases t.side <;> rfl
    have number : (UInt32.ofNat t.orderId.toNat).toUInt64 = t.orderId := by
      apply UInt64.toNat_inj.1
      rw [UInt32.toNat_toUInt64, UInt32.toNat_ofNat_of_lt' small]
    show (ofRows? _ _ _ _).map _ = _
    rw [ih fun t mem => inRange t (List.mem_cons_of_mem _ mem), Option.map_some, side, number]

end CancelTarget

namespace OrderFunction

theorem column?_words (field : TargetField) (targets : List CancelTarget) :
    column? field.kind (.list (targets.map fun t => (field.value t).word)) =
      some (targets.map field.value) := by
  show List.mapM _ _ = _
  induction targets with
  | nil => rfl
  | cons t rest ih =>
    rw [List.map_cons, List.mapM_cons, ih, ← TargetField.kind_value t, Value.read?_word]
    rfl

theorem column?_word (field : TargetField) (t : CancelTarget) :
    column? field.kind (.word (field.value t).word) = some ([t].map field.value) := by
  rw [column?, ← TargetField.kind_value t, Value.read?_word]
  rfl

/-- Arguments that are columns one by one are columns together. -/
theorem columns?_map {arg : TargetField → Abi.Arg} {column : TargetField → List Value}
    (read : ∀ field, column? field.kind (arg field) = some (column field)) (fields : List TargetField) :
    columns? fields (fields.map arg) = some (fields.map column) := by
  induction fields with
  | nil => rfl
  | cons field rest ih =>
    rw [List.map_cons, columns?, read, ih]
    rfl

theorem columns?_columns (targets : List CancelTarget) :
    columns? TargetField.all ((CancelTarget.columns targets).map .list) =
      some (TargetField.all.map fun field => targets.map field.value) := by
  unfold CancelTarget.columns
  rw [List.map_map]
  exact columns?_map (fun field => column?_words field targets) _

/-- **A call is read as the arguments that were written**, each as a column. -/
theorem decode?_selector (f : OrderFunction) {args : List Abi.Arg}
    (shapes : args.map Abi.Arg.shape = TargetField.all.map fun _ => f.shape)
    (fits : (Abi.encode args).length < Nat.pow 2 256) :
    f.decode? (f.selector ++ Abi.encode args) = columns? TargetField.all args := by
  have four : f.selector.length = 4 := by cases f <;> rfl
  unfold decode?
  rw [List.take_left' four, List.drop_left' four, if_pos f.selector_eq, ← shapes,
    Abi.decode?_encode fits]
  rfl

end OrderFunction

/-! ### The numbers of a list -/

namespace CancelTarget

variable {t : CancelTarget} {targets : List CancelTarget}

theorem engineId_of_inRange (h : t.InRange) : t.engineId = .ok (UInt32.ofNat t.orderId.toNat) :=
  if_pos h

theorem mapM_engineId (inRange : ∀ t ∈ targets, t.InRange) :
    targets.mapM engineId = .ok (targets.map fun t => UInt32.ofNat t.orderId.toNat) := by
  induction targets with
  | nil => rfl
  | cons t rest ih =>
    rw [List.mapM_cons, engineId_of_inRange (inRange t (List.mem_cons_self ..)),
      ih fun t mem => inRange t (List.mem_cons_of_mem _ mem)]
    rfl

/-- The first number out of range refuses the list, whatever comes after it. -/
theorem mapM_engineId_refused {before after : List CancelTarget} (earlier : ∀ t ∈ before, t.InRange)
    (h : ¬ t.InRange) : (before ++ t :: after).mapM engineId =
      .error (.invalidArgument s!"order id {t.orderId.toNat} out of range") := by
  rw [List.mapM_append, mapM_engineId earlier, List.mapM_cons, engineId_of_le (Nat.not_lt.1 h)]
  rfl

/-- A list without a first number out of range has none. -/
theorem inRange_or_first (targets : List CancelTarget) : (∀ t ∈ targets, t.InRange) ∨
    ∃ before t after, targets = before ++ t :: after ∧ (∀ earlier ∈ before, earlier.InRange) ∧
      ¬ t.InRange := by
  cases found : targets.find? fun t => !decide t.InRange with
  | none =>
    refine .inl fun t mem => ?_
    simpa using List.find?_eq_none.1 found t mem
  | some t =>
    obtain ⟨out, before, after, rfl, earlier⟩ := List.find?_eq_some_iff_append.1 found
    exact .inr ⟨before, t, after, rfl, by simpa using earlier, by simpa using out⟩

end CancelTarget

/-! ### Lists told apart by their encoding -/

namespace Abi

variable {n : Nat} {xs ys : List (List Word)}

theorem words_inj {ws vs : List Word} (same : ws.length = vs.length)
    (h : ws.flatMap wordBytes = vs.flatMap wordBytes) : ws = vs := by
  have first : Stands (ws.flatMap wordBytes) 0 (ws.flatMap wordBytes) := ⟨[], [], by simp, rfl⟩
  have second : Stands (ws.flatMap wordBytes) 0 (vs.flatMap wordBytes) := ⟨[], [], by simp [h], rfl⟩
  exact Option.some.inj (first.words.symm.trans (same ▸ second.words))

theorem length_tails (long : ∀ members ∈ xs, members.length = n) (offset : Nat) :
    (encodeFrom offset (xs.map .list)).2.length = xs.length * (32 + 32 * n) := by
  induction xs generalizing offset with
  | nil => exact (Nat.zero_mul _).symm
  | cons members rest ih =>
    rw [List.map_cons, encodeFrom_list, List.length_append, length_tail_list,
      ih fun other mem => long other (List.mem_cons_of_mem _ mem), long members (List.mem_cons_self ..),
      List.length_cons]
    exact (Nat.add_comm ..).trans (Nat.succ_mul ..).symm

/-- An encoding of lists is as long as all their heads, lengths and members. -/
theorem length_encode_lists (long : ∀ members ∈ xs, members.length = n) :
    (encode (xs.map .list)).length = xs.length * (64 + 32 * n) := by
  have whole : encode (xs.map .list) = (encodeFrom (32 * (xs.map Arg.list).length) (xs.map .list)).1 ++
    (encodeFrom (32 * (xs.map Arg.list).length) (xs.map .list)).2 := rfl
  rw [whole, List.length_append, length_heads, length_tails long, List.length_map, Nat.mul_comm 32,
    ← Nat.mul_add]
  congr 1
  omega

theorem lists_of_tails (longX : ∀ members ∈ xs, members.length = n)
    (longY : ∀ members ∈ ys, members.length = n) (count : xs.length = ys.length) {offset place : Nat}
    (h : (encodeFrom offset (xs.map .list)).2 = (encodeFrom place (ys.map .list)).2) : xs = ys := by
  induction xs generalizing ys offset place with
  | nil => exact (List.length_eq_zero_iff.1 count.symm).symm
  | cons x xs ih =>
    cases ys with
    | nil => cases count
    | cons y ys =>
      have same : x.length = y.length :=
        (longX x (List.mem_cons_self ..)).trans (longY y (List.mem_cons_self ..)).symm
      rw [List.map_cons, List.map_cons, encodeFrom_list, encodeFrom_list] at h
      obtain ⟨own, others⟩ := List.append_inj h (by rw [length_tail_list, length_tail_list, same])
      have first : x = y := words_inj same
        (List.append_inj own (by rw [Bytes.length_ofNat, Bytes.length_ofNat])).2
      have rest : xs = ys := ih (fun members mem => longX members (List.mem_cons_of_mem _ mem))
        (fun members mem => longY members (List.mem_cons_of_mem _ mem)) (Nat.succ.inj count) others
      rw [first, rest]

/-- **Lists of one length are told apart by their encoding.** Unlike reading it back, this takes no
bound on their length: the tails stand in their order whatever the heads say. -/
theorem lists_of_encode (longX : ∀ members ∈ xs, members.length = n)
    (longY : ∀ members ∈ ys, members.length = n) (count : xs.length = ys.length)
    (h : encode (xs.map .list) = encode (ys.map .list)) : xs = ys := by
  refine lists_of_tails longX longY count (List.append_inj h ?_).2
  rw [length_heads, length_heads, List.length_map, List.length_map, count]

end Abi

/-! ### Calls for a list -/

namespace CallBook

variable {b : CallBook} {t : CancelTarget} {targets : List CancelTarget} {call : Call}

theorem length_columns (targets : List CancelTarget) :
    ∀ members ∈ CancelTarget.columns targets, members.length = targets.length := by
  intro members mem
  obtain ⟨field, -, rfl⟩ := List.mem_map.1 mem
  exact List.length_map _

/-- The data of a call for a list. -/
def listData (targets : List CancelTarget) : Bytes :=
  OrderFunction.cancelOrders.selector ++ Abi.encode ((CancelTarget.columns targets).map .list)

theorem length_listData (targets : List CancelTarget) :
    (listData targets).length = 4 + 4 * (64 + 32 * targets.length) := by
  rw [listData, List.length_append, Abi.length_encode_lists (length_columns targets)]
  rfl

theorem cancelOrders_of_inRange (b : CallBook) (inRange : ∀ t ∈ targets, t.InRange) :
    b.cancelOrders targets = .ok ⟨b.exchange, listData targets, 0⟩ := by
  have ids : (targets.map fun t => UInt32.ofNat t.orderId.toNat).map Abi.ofUInt32 =
      targets.map fun t => (TargetField.orderId.value t).word := List.map_map ..
  unfold cancelOrders
  rw [CancelTarget.mapM_engineId inRange]
  show Except.ok (Call.mk _ (_ ++ Abi.encode [.list _, .list _, .list _, .list _]) _) = _
  rw [ids]
  rfl

theorem cancelOrders_refused (b : CallBook) {before after : List CancelTarget}
    (earlier : ∀ t ∈ before, t.InRange) (h : ¬ t.InRange) : b.cancelOrders (before ++ t :: after) =
      .error (.invalidArgument s!"order id {t.orderId.toNat} out of range") := by
  unfold cancelOrders
  rw [CancelTarget.mapM_engineId_refused earlier h]
  rfl

/-- **A list has its call if, and only if, every number has its place.** -/
theorem cancelOrders_eq_ok : b.cancelOrders targets = .ok call ↔
    (∀ t ∈ targets, t.InRange) ∧ call = ⟨b.exchange, listData targets, 0⟩ := by
  refine ⟨fun made => ?_, fun ⟨inRange, h⟩ => h ▸ b.cancelOrders_of_inRange inRange⟩
  obtain inRange | ⟨before, t, after, rfl, earlier, out⟩ := CancelTarget.inRange_or_first targets
  · rw [b.cancelOrders_of_inRange inRange] at made
    cases made
    exact ⟨inRange, rfl⟩
  · rw [b.cancelOrders_refused earlier out] at made
    cases made

theorem decode?_listData (short : targets.length < UInt64.size) :
    OrderFunction.cancelOrders.decode? (listData targets) =
      some (TargetField.all.map fun field => targets.map field.value) := by
  have fits : (Abi.encode ((CancelTarget.columns targets).map .list)).length < Nat.pow 2 256 := by
    rw [Abi.length_encode_lists (length_columns targets)]
    have room : 4 * (64 + 32 * UInt64.size) < Nat.pow 2 256 := by decide
    show 4 * _ < _
    omega
  rw [listData, OrderFunction.decode?_selector _ rfl fits, OrderFunction.columns?_columns]

/-- **Different lists have different data**, however long they are. -/
theorem listData_inj {others : List CancelTarget} (inRange : ∀ t ∈ targets, t.InRange)
    (othersInRange : ∀ t ∈ others, t.InRange) (h : listData others = listData targets) :
    others = targets := by
  have long : others.length = targets.length := by
    have := congrArg List.length h
    rw [length_listData, length_listData] at this
    omega
  have same : CancelTarget.columns others = CancelTarget.columns targets :=
    Abi.lists_of_encode (length_columns others) (long ▸ length_columns targets) rfl
      (List.append_cancel_left h)
  have values := (OrderFunction.columns?_columns others).symm.trans
    (same ▸ OrderFunction.columns?_columns targets)
  have back := CancelTarget.ofColumns?_values othersInRange
  rw [Option.some.inj values, CancelTarget.ofColumns?_values inRange] at back
  exact (Option.some.inj back).symm

/-- The data of a call about one order are read as that order. -/
theorem targets?_targetArgs (f : OrderFunction) (word : f.shape = .word) (h : t.InRange) :
    f.targets? (f.selector ++ Abi.encode (targetArgs t (UInt32.ofNat t.orderId.toNat))) = some [t] := by
  have fits : (Abi.encode (targetArgs t (UInt32.ofNat t.orderId.toNat))).length < Nat.pow 2 256 := by
    simp [targetArgs, Abi.encode, Abi.encodeFrom, Abi.wordBytes]
  have read : OrderFunction.columns? TargetField.all (targetArgs t (UInt32.ofNat t.orderId.toNat)) =
      some (TargetField.all.map fun field => [t].map field.value) :=
    OrderFunction.columns?_map (fun field => OrderFunction.column?_word field t) TargetField.all
  unfold OrderFunction.targets?
  rw [OrderFunction.decode?_selector _ (by rw [word]; rfl) fits, read]
  exact CancelTarget.ofColumns?_values (List.forall_mem_singleton.2 h)

/-- **What there is to say about a call for a list**: where it goes, how the exchange reads it, that no
other list has its data, and that for one order the other two functions are told the same. A list in
memory has fewer than 2^64 members. -/
structure Lists (b : CallBook) (targets : List CancelTarget) (call : Call) : Prop where
  target : call.target = b.exchange
  value : call.value = 0
  columns : targets.length < UInt64.size → OrderFunction.cancelOrders.decode? call.data =
    some (TargetField.all.map fun field => targets.map field.value)
  recovered : targets.length < UInt64.size →
    OrderFunction.cancelOrders.targets? call.data = some targets
  only : ∀ (other : CallBook) others twin, other.cancelOrders others = .ok twin →
    twin.data = call.data → others = targets
  single : ∀ t, targets = [t] → ∃ cancel view, b.cancelOrder t = .ok cancel ∧ b.getOrder t = .ok view ∧
    OrderFunction.cancelOrder.targets? cancel.data = some [t] ∧
    OrderFunction.getOrder.targets? view.data = some [t]

theorem lists_of_cancelOrders (made : b.cancelOrders targets = .ok call) : b.Lists targets call := by
  obtain ⟨inRange, rfl⟩ := cancelOrders_eq_ok.1 made
  exact {
    target := rfl
    value := rfl
    columns := decode?_listData
    recovered := fun short => by
      unfold OrderFunction.targets?
      rw [decode?_listData short]
      exact CancelTarget.ofColumns?_values inRange
    only := fun other others twin twinMade same => by
      obtain ⟨othersInRange, rfl⟩ := cancelOrders_eq_ok.1 twinMade
      exact listData_inj inRange othersInRange same
    single := by
      rintro t rfl
      have known : t.InRange := inRange t (List.mem_singleton_self t)
      have named := CancelTarget.engineId_of_inRange known
      refine ⟨_, ⟨b.exchange, Selector.getOrder ++ Abi.encode (targetArgs t _), 0⟩,
        cancelOrder_of_engineId named, ?_, targets?_targetArgs .cancelOrder rfl known,
        targets?_targetArgs .getOrder rfl known⟩
      unfold getOrder
      rw [named]
      rfl
  }

/-- **A list of targets reaches the exchange whole and in its order, or not at all.** The first number
without a place refuses it; a list without one has its call. -/
theorem cancelOrders_recovers (b : CallBook) (targets : List CancelTarget) :
    (∀ e, b.cancelOrders targets = .error e ↔ ∃ before t after, targets = before ++ t :: after ∧
      (∀ earlier ∈ before, earlier.InRange) ∧ ¬ t.InRange ∧
      e = .invalidArgument s!"order id {t.orderId.toNat} out of range") ∧
    ((∃ call, b.cancelOrders targets = .ok call) ↔ ∀ t ∈ targets, t.InRange) ∧
    ∀ call, b.cancelOrders targets = .ok call → b.Lists targets call := by
  refine ⟨fun e => ⟨fun refused => ?_, ?_⟩, ⟨?_, fun inRange => ⟨_, b.cancelOrders_of_inRange inRange⟩⟩,
    fun call => lists_of_cancelOrders⟩
  · obtain inRange | ⟨before, t, after, rfl, earlier, out⟩ := CancelTarget.inRange_or_first targets
    · rw [b.cancelOrders_of_inRange inRange] at refused
      cases refused
    · rw [b.cancelOrders_refused earlier out] at refused
      cases refused
      exact ⟨before, t, after, rfl, earlier, out, rfl⟩
  · rintro ⟨before, t, after, rfl, earlier, out, rfl⟩
    exact b.cancelOrders_refused earlier out
  · rintro ⟨call, made⟩
    exact (cancelOrders_eq_ok.1 made).1

namespace Sample

/-- A bid with the longest number there is, and an ask of the same pair. -/
def resting : List CancelTarget :=
  [⟨gold.address, coin.address, .bid, 0xffffffff⟩, ⟨gold.address, coin.address, .ask, 7⟩]

/-- Both orders are read back from their call. -/
theorem resting_recovered : ∃ call, book.cancelOrders resting = .ok call ∧
    OrderFunction.cancelOrders.targets? call.data = some resting := by
  obtain ⟨-, made, lists⟩ := cancelOrders_recovers book resting
  obtain ⟨call, made⟩ := made.2 (by decide)
  exact ⟨call, made, (lists call made).recovered (by decide)⟩

end Sample
end CallBook
end OrderDesk
