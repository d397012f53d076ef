import OrderDesk.Proofs.GasLimits
import OrderDesk.Proofs.RlpReading

/-!
# `OrderDesk.Proofs.RawTransactions` — what the bytes of a transaction say

A signed transaction is kept twice, as the bytes that are handed over and as the request they were made
from. The bytes are read here by the format alone: nine items in one list, numbers of the width of
their field, an address of twenty bytes, and a first signature number that tells chain and parity. They
say what the request says, so requests that differ in a field that is sent have different bytes.

## Contents
- `Bytes.limit`: how long a byte string may be.
- `WireTx`, `WireTx.decode?`: a transaction read from its bytes; `TxRequest.wire`: what a request says.
- `TxRequest.decode?_rawWith`: the bytes read back; `SigningKey.sign_fits`: the width of signatures.
- `TxRequest.wire_of_raw_eq`: requests with the same bytes.
- `SignedTx.Tells`, `Sender.Recorded`, `Sender.submit_recorded`: what a submission hands over and
  records.
- `Sender.raw_tells`: the result.
-/

namespace OrderDesk

/-- No byte string is as long: the length of what is in memory is a signed 64-bit number. -/
def Bytes.limit : Nat := 2 ^ 63

/-! ### The format -/

/-- A signed transaction that is bound to a chain. -/
structure WireTx where
  nonce : UInt64
  gasPrice : GasPrice
  gasLimit : UInt64
  call : Call
  chainId : UInt64
  signature : Signature
deriving DecidableEq, Repr

/-- Reads a transaction that takes up all of the bytes. -/
def WireTx.decode? (raw : Bytes) : Option WireTx := do
  let (items, after) ← Rlp.readList? raw
  let (nonce, rest) ← Rlp.readBits? 64 items
  let (gasPrice, rest) ← Rlp.readBits? 128 rest
  let (gasLimit, rest) ← Rlp.readBits? 64 rest
  let (target, rest) ← Rlp.readString? rest
  let (value, rest) ← Rlp.readBits? 256 rest
  let (data, rest) ← Rlp.readString? rest
  let (mark, rest) ← Rlp.readBits? 256 rest
  let (r, rest) ← Rlp.readBits? 256 rest
  let (s, rest) ← Rlp.readBits? 256 rest
  if after = [] ∧ rest = [] ∧ target.length = 20 ∧ 35 ≤ mark ∧ (mark - 35) / 2 < 2 ^ 64 then
    some
      { nonce := UInt64.ofNat nonce, gasPrice := BitVec.ofNat 128 gasPrice,
        gasLimit := UInt64.ofNat gasLimit,
        call := ⟨Address.ofBytes target, data, BitVec.ofNat 256 value⟩,
        chainId := UInt64.ofNat ((mark - 35) / 2), signature := ⟨r, s, (mark - 35) % 2 = 1⟩ }
  else none

/-- Both numbers of a signature have room in a word. -/
structure Signature.Fits (signature : Signature) : Prop where
  r_lt : signature.r < 2 ^ 256
  s_lt : signature.s < 2 ^ 256

theorem Address.ofBytes_toBytes (a : Address) : Address.ofBytes a.toBytes = a := by
  unfold Address.ofBytes Address.toBytes
  rw [Bytes.toNat_ofNat, Nat.mod_eq_of_lt (by simpa using a.bits.isLt), BitVec.ofNat_toNat,
    BitVec.setWidth_eq]

namespace TxRequest

variable (r : TxRequest) (signature : Signature)

/-- What a request says to the chain, under a signature. -/
def wire : WireTx := ⟨r.nonce, r.gasPrice, r.gasLimit, r.call, r.chainId, signature⟩

/-! Chain and parity are told by the first number of a signature. -/

theorem le_recoveryMark : 35 ≤ r.recoveryMark signature := by
  unfold recoveryMark
  omega

theorem recoveryMark_lt : r.recoveryMark signature < 2 ^ 66 := by
  have chain := r.chainId.toNat_lt
  have parity := Bool.toNat_le signature.parity
  unfold recoveryMark
  omega

theorem recoveryMark_chain : (r.recoveryMark signature - 35) / 2 = r.chainId.toNat := by
  have parity := Bool.toNat_le signature.parity
  unfold recoveryMark
  omega

theorem recoveryMark_parity :
    decide ((r.recoveryMark signature - 35) % 2 = 1) = signature.parity := by
  unfold recoveryMark
  cases signature.parity with
  | false =>
    rw [decide_eq_false_iff_not, Bool.toNat_false]
    omega
  | true =>
    rw [decide_eq_true_eq, Bool.toNat_true]
    omega

/-- The items of a transaction have room behind their mark. -/
theorem items_short (short : r.data.length < Bytes.limit) (fits : signature.Fits) :
    (r.fields ++ [Rlp.number (r.recoveryMark signature), Rlp.number signature.r,
      Rlp.number signature.s]).flatten.length < 2 ^ 64 := by
  have nonce := Rlp.length_number_le (Nat.lt_trans r.nonce.toNat_lt (by decide))
  have gasPrice := Rlp.length_number_le (Nat.lt_trans r.gasPrice.isLt (by decide))
  have gasLimit := Rlp.length_number_le (Nat.lt_trans r.gasLimit.toNat_lt (by decide))
  have target_length : r.target.toBytes.length = 20 := Bytes.length_ofNat ..
  have target : (Rlp.string r.target.toBytes).length ≤ r.target.toBytes.length + 1 + 1 :=
    Rlp.length_string_le (by omega)
  have value := Rlp.length_number_le r.value.isLt
  have data : (Rlp.string r.data).length ≤ r.data.length + 8 + 1 :=
    Rlp.length_string_le (Nat.lt_trans short (by decide))
  have mark := Rlp.length_number_le (Nat.lt_trans (r.recoveryMark_lt signature) (by decide))
  have first := Rlp.length_number_le fits.r_lt
  have second := Rlp.length_number_le fits.s_lt
  unfold Bytes.limit at short
  simp only [fields, List.cons_append, List.nil_append, List.flatten_cons, List.flatten_nil,
    List.length_append, List.length_nil]
  omega

/-- **The bytes of a transaction say what its request says.** -/
theorem decode?_rawWith (short : r.data.length < Bytes.limit) (fits : signature.Fits) :
    WireTx.decode? (r.rawWith signature) = some (r.wire signature) := by
  have items : Rlp.readList? (r.rawWith signature ++ []) = some (_, []) :=
    Rlp.readList?_list (r.items_short signature short fits)
  have target : r.target.toBytes.length = 20 := Bytes.length_ofNat ..
  have target_room : r.target.toBytes.length < 2 ^ 64 := by omega
  have data_room : r.data.length < 2 ^ 64 := by
    unfold Bytes.limit at short
    omega
  have mark : r.recoveryMark signature < 2 ^ 256 := by
    have bound := r.recoveryMark_lt signature
    omega
  rw [List.append_nil] at items
  unfold WireTx.decode?
  rw [items]
  -- Each reader takes one item and leaves the others.
  simp only [fields, List.cons_append, List.nil_append, List.flatten_cons, Option.bind_eq_bind,
    Option.bind_some, Rlp.readBits?_number r.nonce.toNat_lt, Rlp.readBits?_number r.gasPrice.isLt,
    Rlp.readBits?_number r.gasLimit.toNat_lt, Rlp.readString?_string target_room,
    Rlp.readBits?_number r.value.isLt, Rlp.readString?_string data_room, Rlp.readBits?_number mark,
    Rlp.readBits?_number fits.r_lt, Rlp.readBits?_number fits.s_lt, Nat.reduceLeDiff]
  have chain : (r.recoveryMark signature - 35) / 2 < 2 ^ 64 := by
    rw [recoveryMark_chain]
    exact r.chainId.toNat_lt
  rw [if_pos ⟨trivial, List.flatten_nil, target, r.le_recoveryMark signature, chain⟩,
    recoveryMark_chain, recoveryMark_parity]
  simp only [wire, call, Address.ofBytes_toBytes, UInt64.ofNat_toNat, BitVec.ofNat_toNat,
    BitVec.setWidth_eq]

end TxRequest

/-! ### Signatures -/

namespace SigningKey

open Secp256k1

variable {key : SigningKey} {hash : Hash} {signature : Signature}

/-- The numbers of a signature are below the order of the group. -/
theorem signWith?_fits {k : Nat} (made : signWith? key hash k = some signature) : signature.Fits := by
  have positive : 0 < order := by decide
  have word : order < 2 ^ 256 := by decide
  rcases point : (Point.scale k generator).affine? with - | ⟨x, y⟩
  next => simp [signWith?, point] at made
  next =>
    simp only [signWith?, point, Option.bind_eq_bind, Option.bind_some] at made
    have r_lt := Nat.mod_lt x positive
    have s_lt := Nat.mod_lt (inverse order k * (hash.bits.toNat + x % order * key.scalar)) positive
    generalize inverse order k * (hash.bits.toNat + x % order * key.scalar) % order = s at made s_lt
    split at made
    next => cases made
    next =>
      split at made
      next =>
        cases made
        exact ⟨by dsimp only; omega, by dsimp only; omega⟩
      next =>
        cases made
        exact ⟨by dsimp only; omega, by dsimp only; omega⟩

theorem signFrom_fits (tries : Nat) (d : Draw) : (signFrom key hash tries d).Fits := by
  induction tries generalizing d with
  | zero => exact ⟨by simp [signFrom], by simp [signFrom]⟩
  | succ tries ih =>
    rw [signFrom]
    split
    next signature drawn =>
      split at drawn
      next => exact signWith?_fits drawn
      next => cases drawn
    next => exact ih _

/-- Every signature has room in two words. -/
theorem sign_fits : (key.sign hash).Fits := signFrom_fits ..

end SigningKey

/-! ### Transactions -/

namespace TxRequest

variable {a b : TxRequest} {first second : SigningKey}

/-- The bytes of a signed transaction say what its request says. -/
theorem decode?_sign (r : TxRequest) (key : SigningKey) (short : r.data.length < Bytes.limit) :
    WireTx.decode? (r.sign key).raw = some (r.wire (key.sign r.signingHash)) :=
  r.decode?_rawWith _ short SigningKey.sign_fits

/-- **Requests with the same bytes** say the same, whoever signs them. -/
theorem wire_of_raw_eq (short_a : a.data.length < Bytes.limit) (short_b : b.data.length < Bytes.limit)
    (same : (a.sign first).raw = (b.sign second).raw) :
    a.wire (first.sign a.signingHash) = b.wire (second.sign b.signingHash) := by
  have read := a.decode?_sign first short_a
  rw [same, b.decode?_sign second short_b] at read
  exact (Option.some.inj read).symm

end TxRequest

/-! ### Submissions -/

/-- A transaction is what was asked for: the call under the nonce on the sender's chain, recorded under
the hash of its bytes, which say what its request says. -/
structure SignedTx.Tells (tx : SignedTx) (s : Sender) (call : Call) (nonce : UInt64) : Prop where
  call_eq : tx.request.call = call
  nonce_eq : tx.request.nonce = nonce
  chain_eq : tx.request.chainId = s.chainId
  hash_eq : tx.hash = Hash.ofMessage tx.raw
  decoded : WireTx.decode? tx.raw = some (tx.request.wire (s.key.sign tx.request.signingHash))

/-- What a submission may come to, by the transactions it has handed over. One that returns has handed
over a single one, which tells the call; record and failure name the hash of its bytes, and the record
holds the request they were made from. One that breaks down has handed over none. -/
def Sender.Recorded (s : Sender) (call : Call) (nonce : UInt64) (handed : List SignedTx) :
    Except Fault Submitted → Prop
  | .ok submitted => ∃ tx, handed = [tx] ∧ tx.Tells s call nonce ∧
      submitted = ⟨Hash.ofMessage tx.raw, tx.request⟩
  | .error (.error e) => ∃ tx message, handed = [tx] ∧ tx.Tells s call nonce ∧
      e = .submissionFailed (Hash.ofMessage tx.raw) message
  | .error (.breakdown _) => handed = []

namespace Sender

open Attempt

variable (s : Sender) (call : Call)

/-- Nothing is handed over for a limit, and only a breakdown leaves none. -/
theorem gasLimit_hands_nothing :
    (s.gasLimit call).Logs fun r own => own.filterMap Event.handedOver? = [] ∧
      ∀ e, r ≠ .error (.error e) := by
  unfold gasLimit
  refine logs_reply_bind fun answer => ?_
  cases answer with
  | ok estimate =>
    dsimp only
    cases s.gas.limitFor? estimate with
    | some limit => exact ⟨rfl, fun _ same => by cases same⟩
    | none => exact ⟨rfl, fun _ same => by cases same⟩
  | error e => exact ⟨rfl, fun _ same => by cases same⟩

/-- A request for a call, signed, tells it. -/
theorem request_tells (nonce limit : UInt64) (price : GasPrice)
    (short : call.data.length < Bytes.limit) :
    ((s.request call nonce limit price).sign s.key).Tells s call nonce where
  call_eq := rfl
  nonce_eq := rfl
  chain_eq := rfl
  hash_eq := rfl
  decoded := TxRequest.decode?_sign _ _ short

/-- **A submission records what it hands over.** -/
theorem submit_recorded (nonce : UInt64) (short : call.data.length < Bytes.limit) :
    (s.submit call nonce).Logs fun r own =>
      s.Recorded call nonce (own.filterMap Event.handedOver?) r := by
  unfold submit
  refine Logs.bind (s.gasLimit_hands_nothing call) ?_ ?_
  next =>
    rintro limit before ⟨none_before, -⟩
    refine Logs.bind s.gasPrice_logs ?_ ?_
    next =>
      rintro price between ⟨_, -, -, none_between⟩
      -- Nothing was handed over for limit and price, so what is sent is all.
      have tells := s.request_tells call nonce limit price short
      have sent (more : List Event) (tx : SignedTx)
          (only : more.filterMap Event.handedOver? = [tx]) :
          (before ++ (between ++ more)).filterMap Event.handedOver? = [tx] := by
        simp [none_before, none_between, only]
      refine logs_reply_bind fun accepted => ?_
      cases accepted with
      | ok hash => exact ⟨_, sent _ _ rfl, tells, rfl⟩
      | error e => exact ⟨_, e.message, sent _ _ rfl, tells, rfl⟩
    next =>
      rintro _ _ ⟨_, same, _⟩
      cases same
  next =>
    rintro fault before ⟨none_before, no_error⟩
    cases fault with
    | error e => exact absurd rfl (no_error e)
    | breakdown b => exact none_before

/-- **The bytes and the record agree.** The bytes of every signed request decode as one transaction
with exactly its nonce, gas price, gas limit, target, value, data and chain; so requests that differ in
one of these have different bytes, whoever signs them. Every submission that comes to an end has handed
over one such transaction, with the call as it was given; the hash it returns is that of these bytes,
and the request it returns the one they decode to. -/
theorem raw_tells :
    (∀ (r : TxRequest) (key : SigningKey), r.data.length < Bytes.limit →
      WireTx.decode? (r.sign key).raw = some (r.wire (key.sign r.signingHash))) ∧
    (∀ (a b : TxRequest) (first second : SigningKey),
      a.data.length < Bytes.limit → b.data.length < Bytes.limit →
      (a.sign first).raw = (b.sign second).raw →
      a.nonce = b.nonce ∧ a.gasPrice = b.gasPrice ∧ a.gasLimit = b.gasLimit ∧ a.target = b.target ∧
        a.value = b.value ∧ a.data = b.data ∧ a.chainId = b.chainId) ∧
    ∀ (s : Sender) (call : Call) (nonce : UInt64), call.data.length < Bytes.limit →
      (s.submit call nonce).Logs fun r own =>
        s.Recorded call nonce (own.filterMap Event.handedOver?) r := by
  refine ⟨TxRequest.decode?_sign, fun a b first second short_a short_b same => ?_,
    fun s call nonce short => s.submit_recorded call nonce short⟩
  have wire := TxRequest.wire_of_raw_eq short_a short_b same
  simp only [TxRequest.wire, TxRequest.call, WireTx.mk.injEq, Call.mk.injEq] at wire
  obtain ⟨nonce, gasPrice, gasLimit, ⟨target, data, value⟩, chain, -⟩ := wire
  exact ⟨nonce, gasPrice, gasLimit, target, value, data, chain⟩

end Sender

namespace PaidCall

/-- A call with eight bytes of data and a coin of eighteen decimals attached. -/
def call : Call where
  target := ⟨9⟩
  data := [0xa9, 0x05, 0x9c, 0xbb, 0x00, 0x00, 0x12, 0x34]
  value := 1000000000000000000

/-- What its submission does at a node that estimates five million. -/
def events : List Event :=
  ((GasSample.sender.submit call 12).journal (GasSample.node 5000000) ({}, ())).map (·.event)

/-- The call is handed over with a gas limit of six million, and the bytes say so, with its target, its
data and its coin. -/
theorem bytes_of_call :
    call.data.length < Bytes.limit ∧
    ∃ tx wire, events.filterMap Event.handedOver? = [tx] ∧
      WireTx.decode? tx.raw = some wire ∧ wire.nonce = 12 ∧ wire.gasLimit = 6000000 ∧
      wire.gasPrice = 7 ∧ wire.call = call ∧ wire.chainId = 50312 := by
  have short : call.data.length < Bytes.limit := by decide
  obtain ⟨-, -, submits⟩ := Sender.raw_tells
  obtain ⟨tx, sent, tells, -⟩ : ∃ tx, events.filterMap Event.handedOver? = [tx] ∧
      tx.Tells GasSample.sender call 12 ∧ _ :=
    (submits GasSample.sender call 12 short).journal (GasSample.node 5000000) ({}, ())
  have request : tx.request = GasSample.sender.request call 12 6000000 7 := by
    cases sent
    rfl
  refine ⟨short, tx, _, sent, tells.decoded, ?_⟩
  rw [request]
  exact ⟨rfl, rfl, rfl, rfl, rfl⟩

end PaidCall
end OrderDesk
