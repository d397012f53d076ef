import OrderDesk.Desk.Cancel

/-!
# `OrderDesk.Proofs.CallData` — call data is read back as it was written

Every word and every tail is found where the heads say it is, so reading undoes writing as long as
positions fit a word.

## Contents
- `Abi.Stands`: a part of some data at a byte position; what is read there.
- `Abi.decodeFrom?_encodeFrom`: the arguments from one position on; `Abi.decode?_encode`: all of them.
- `OrderRecord.target`; `CancelTarget.engineId_of_toUInt64`, `engineId_of_le`: which numbers of orders have 32 bits.
- `CallBook.Cancels`: a call that cancels one order, and through which function it does so;
  `CallBook.cancelOrders_cancels`, `cancelOrder_cancels`: the desk's calls are such.
-/

namespace OrderDesk
namespace Abi

/-- The part stands in the data at the position. -/
def Stands (data : Bytes) (position : Nat) (part : Bytes) : Prop :=
  ∃ before after, data = before ++ part ++ after ∧ before.length = position

variable {data : Bytes} {position : Nat}

theorem Stands.left {part rest : Bytes} (h : Stands data position (part ++ rest)) :
    Stands data position part := by
  obtain ⟨before, after, rfl, rfl⟩ := h
  exact ⟨before, rest ++ after, by simp, rfl⟩

theorem Stands.right {part rest : Bytes} (h : Stands data position (part ++ rest)) :
    Stands data (position + part.length) rest := by
  obtain ⟨before, after, rfl, rfl⟩ := h
  exact ⟨before ++ part, after, by simp, List.length_append⟩

/-- A part ends before the data does. -/
theorem Stands.le_length {part : Bytes} (h : Stands data position part) :
    position + part.length ≤ data.length := by
  obtain ⟨before, after, rfl, rfl⟩ := h
  simp only [List.length_append]
  omega

/-- A number that is written as a word is read as one. -/
theorem Stands.number {n : Nat} (h : Stands data position (Bytes.ofNat 32 n)) :
    wordAt? data position = some (BitVec.ofNat 256 n) := by
  obtain ⟨before, after, rfl, rfl⟩ := h
  have found : Bytes.slice (before ++ Bytes.ofNat 32 n ++ after) before.length 32 =
      Bytes.ofNat 32 n := by
    unfold Bytes.slice
    rw [List.append_assoc, List.drop_left]
    exact List.take_left' (Bytes.length_ofNat 32 n)
  have wrapped : BitVec.ofNat 256 (n % Nat.pow 256 32) = BitVec.ofNat 256 n := by
    apply BitVec.eq_of_toNat_eq
    simp only [BitVec.toNat_ofNat]
    exact Nat.mod_mod _ _
  unfold wordAt?
  rw [found, if_pos (Bytes.length_ofNat 32 n), Bytes.toNat_ofNat, wrapped]

theorem Stands.word {w : Word} (h : Stands data position (wordBytes w)) :
    wordAt? data position = some w := by
  rw [h.number, BitVec.ofNat_toNat, BitVec.setWidth_eq]

/-- Words that are written one after another are read one after another. -/
theorem Stands.words {ws : List Word} (h : Stands data position (ws.flatMap wordBytes)) :
    wordsAt? data position ws.length = some ws := by
  induction ws generalizing position with
  | nil => rfl
  | cons w rest ih =>
    rw [List.flatMap_cons] at h
    have first := h.left.word
    have others := h.right
    rw [wordBytes, Bytes.length_ofNat] at others
    rw [List.length_cons, wordsAt?, first, ih others]
    rfl

/-- Words take 32 bytes each. -/
theorem length_words (ws : List Word) : (ws.flatMap wordBytes).length = 32 * ws.length := by
  induction ws with
  | nil => rfl
  | cons w rest ih =>
    rw [List.flatMap_cons, List.length_append, ih, wordBytes, Bytes.length_ofNat, List.length_cons]
    omega

theorem encodeFrom_word (offset : Nat) (value : Word) (rest : List Arg) :
    encodeFrom offset (.word value :: rest) =
      (wordBytes value ++ (encodeFrom offset rest).1, (encodeFrom offset rest).2) := rfl

theorem encodeFrom_list (offset : Nat) (members : List Word) (rest : List Arg) :
    encodeFrom offset (.list members :: rest) =
      (Bytes.ofNat 32 offset ++ (encodeFrom (offset + (tail (.list members)).length) rest).1,
        tail (.list members) ++ (encodeFrom (offset + (tail (.list members)).length) rest).2) := rfl

/-- The tail of a list is its length and its members. -/
theorem length_tail_list (members : List Word) :
    (tail (.list members)).length = 32 + 32 * members.length := by
  rw [tail, List.length_append, Bytes.length_ofNat, length_words]

/-- Each argument has one word in the head. -/
theorem length_heads (offset : Nat) (args : List Arg) :
    (encodeFrom offset args).1.length = 32 * args.length := by
  induction args generalizing offset with
  | nil => rfl
  | cons arg rest ih =>
    cases arg with
    | word value =>
      rw [encodeFrom_word, List.length_append, ih, wordBytes, Bytes.length_ofNat, List.length_cons]
      omega
    | list members =>
      rw [encodeFrom_list, List.length_append, ih, Bytes.length_ofNat, List.length_cons]
      omega

/-- **Reading undoes writing from any argument on.** The heads stand at `head` and the tails at
`offset`, where the first tail is said to begin. -/
theorem decodeFrom?_encodeFrom {args : List Arg} {head offset : Nat} (fits : data.length < Nat.pow 2 256)
    (heads : Stands data head (encodeFrom offset args).1)
    (tails : Stands data offset (encodeFrom offset args).2) :
    decodeFrom? data head offset (args.map Arg.shape) =
      some (args, offset + (encodeFrom offset args).2.length) := by
  induction args generalizing head offset with
  | nil => rfl
  | cons arg rest ih =>
    cases arg with
    | word value =>
      rw [encodeFrom_word] at heads tails ⊢
      have others := heads.right
      rw [wordBytes, Bytes.length_ofNat] at others
      rw [List.map_cons, Arg.shape, decodeFrom?, heads.left.word]
      dsimp only [Option.bind_eq_bind, Option.bind_some]
      rw [ih others tails]
      rfl
    | list members =>
      rw [encodeFrom_list] at heads tails ⊢
      have otherHeads := heads.right
      rw [Bytes.length_ofNat] at otherHeads
      have otherTails := tails.right
      have body := tails.left.right
      rw [Bytes.length_ofNat] at body
      -- Both numbers stand in the data, so they are short enough for a word.
      have inside := tails.left.le_length
      have short : data.length < 2 ^ 256 := fits
      rw [length_tail_list] at inside otherHeads otherTails ⊢
      have position : (BitVec.ofNat 256 offset).toNat = offset := by
        rw [BitVec.toNat_ofNat]
        exact Nat.mod_eq_of_lt (by omega)
      have count : (BitVec.ofNat 256 members.length).toNat = members.length := by
        rw [BitVec.toNat_ofNat]
        exact Nat.mod_eq_of_lt (by omega)
      rw [List.map_cons, Arg.shape, decodeFrom?, heads.left.number, tails.left.left.number]
      dsimp only [Option.bind_eq_bind, Option.bind_some]
      rw [position, count, if_pos ⟨rfl, by omega⟩, body.words]
      dsimp only [Option.bind_some]
      rw [Nat.add_assoc, ih otherHeads otherTails, List.length_append, length_tail_list]
      dsimp only [Option.bind_some]
      rw [Nat.add_assoc]
      rfl

/-- **Reading undoes writing** for arguments whose positions fit a word. -/
theorem decode?_encode {args : List Arg} (fits : (encode args).length < Nat.pow 2 256) :
    decode? (args.map Arg.shape) (encode args) = some args := by
  have whole : encode args = (encodeFrom (32 * args.length) args).1 ++
    (encodeFrom (32 * args.length) args).2 := rfl
  have long := length_heads (32 * args.length) args
  have heads : Stands (encode args) 0 (encodeFrom (32 * args.length) args).1 :=
    ⟨[], _, whole, rfl⟩
  have tails : Stands (encode args) (32 * args.length) (encodeFrom (32 * args.length) args).2 :=
    ⟨_, [], by rw [whole, List.append_nil], long⟩
  unfold decode?
  rw [List.length_map, decodeFrom?_encodeFrom fits heads tails]
  dsimp only [Option.bind_eq_bind, Option.bind_some]
  rw [if_pos (by rw [whole, List.length_append, long])]

end Abi

/-! ### Calls that cancel an order -/

/-- The order of a record under a number. -/
def OrderRecord.target (r : OrderRecord) (number : UInt64) : CancelTarget :=
  ⟨r.base, r.quote, r.side, number⟩

namespace CancelTarget

/-- A number of 32 bits is the exchange's own. -/
theorem engineId_of_toUInt64 {t : CancelTarget} {id : UInt32} (h : id.toUInt64 = t.orderId) :
    t.engineId = .ok id := by
  have number : t.orderId.toNat = id.toNat := by
    rw [← h]
    exact UInt32.toNat_toUInt64 id
  unfold engineId
  rw [number, if_pos id.toNat_lt, UInt32.ofNat_toNat]

theorem toUInt64_of_engineId {t : CancelTarget} {id : UInt32} (h : t.engineId = .ok id) :
    id.toUInt64 = t.orderId := by
  unfold engineId at h
  split at h
  · next small =>
    cases h
    apply UInt64.toNat_inj.1
    rw [UInt32.toNat_toUInt64, UInt32.toNat_ofNat_of_lt' small]
  · cases h

/-- A longer number is refused. -/
theorem engineId_of_le {t : CancelTarget} (h : UInt32.size ≤ t.orderId.toNat) :
    t.engineId = .error (.invalidArgument s!"order id {t.orderId.toNat} out of range") := by
  unfold engineId
  rw [if_neg (Nat.not_lt.2 h)]

end CancelTarget

namespace CallBook

/-- **The call cancels one order**: it goes to the exchange without value, and its data are read as
the arguments of `cancelOrders` with one order (the batched channel) or of `cancelOrder` (the direct
one), which are those of the target. -/
def Cancels (b : CallBook) (t : CancelTarget) (channel : String) (call : Call) : Prop :=
  call.target = b.exchange ∧ call.value = 0 ∧ ∃ (id : UInt32) (args : Bytes),
    id.toUInt64 = t.orderId ∧
      ((channel = CancelChannel.batch.name ∧ call.data = Selector.cancelOrders ++ args ∧
          Abi.decode? [.list, .list, .list, .list] args =
            some [.list [Abi.ofAddress t.base], .list [Abi.ofAddress t.quote],
              .list [Abi.ofBool t.side.isBid], .list [Abi.ofUInt32 id]]) ∨
        (channel = (CancelChannel.direct true).name ∧ call.data = Selector.cancelOrder ++ args ∧
          Abi.decode? [.word, .word, .word, .word] args =
            some [.word (Abi.ofAddress t.base), .word (Abi.ofAddress t.quote),
              .word (Abi.ofBool t.side.isBid), .word (Abi.ofUInt32 id)]))

variable {b : CallBook} {t : CancelTarget} {call : Call} {id : UInt32}

/-- The arguments of `cancelOrders` for one order. -/
def listArgs (t : CancelTarget) (id : UInt32) : List Abi.Arg :=
  [.list [Abi.ofAddress t.base], .list [Abi.ofAddress t.quote], .list [Abi.ofBool t.side.isBid],
    .list [Abi.ofUInt32 id]]

theorem cancelOrders_of_engineId (named : t.engineId = .ok id) :
    b.cancelOrders [t] =
      .ok ⟨b.exchange, Selector.cancelOrders ++ Abi.encode (listArgs t id), 0⟩ := by
  unfold cancelOrders
  rw [List.mapM_cons, named]
  rfl

theorem cancelOrder_of_engineId (named : t.engineId = .ok id) :
    b.cancelOrder t =
      .ok ⟨b.exchange, Selector.cancelOrder ++ Abi.encode (targetArgs t id), 0⟩ := by
  unfold cancelOrder
  rw [named]
  rfl

/-- No call is made for a number that is not the exchange's. -/
theorem calls_of_error {e : DeskError} (unnamed : t.engineId = .error e) :
    b.cancelOrders [t] = .error e ∧ b.cancelOrder t = .error e ∧ b.getOrder t = .error e := by
  unfold cancelOrders cancelOrder getOrder
  rw [List.mapM_cons, unnamed]
  exact ⟨rfl, rfl, rfl⟩

theorem cancelOrders_cancels (h : b.cancelOrders [t] = .ok call) :
    b.Cancels t CancelChannel.batch.name call := by
  cases named : t.engineId with
  | error e =>
    rw [(calls_of_error named).1] at h
    cases h
  | ok id =>
    rw [cancelOrders_of_engineId named] at h
    cases h
    have fits : (Abi.encode (listArgs t id)).length < Nat.pow 2 256 := by
      simp [listArgs, Abi.encode, Abi.encodeFrom, Abi.tail, Abi.wordBytes]
    exact ⟨rfl, rfl, id, Abi.encode (listArgs t id), CancelTarget.toUInt64_of_engineId named,
      .inl ⟨rfl, rfl, Abi.decode?_encode fits⟩⟩

theorem cancelOrder_cancels (h : b.cancelOrder t = .ok call) :
    b.Cancels t (CancelChannel.direct true).name call := by
  cases named : t.engineId with
  | error e =>
    rw [(calls_of_error named).2.1] at h
    cases h
  | ok id =>
    rw [cancelOrder_of_engineId named] at h
    cases h
    have fits : (Abi.encode (targetArgs t id)).length < Nat.pow 2 256 := by
      simp [targetArgs, Abi.encode, Abi.encodeFrom, Abi.wordBytes]
    exact ⟨rfl, rfl, id, Abi.encode (targetArgs t id), CancelTarget.toUInt64_of_engineId named,
      .inr ⟨rfl, rfl, Abi.decode?_encode fits⟩⟩

end CallBook
end OrderDesk
