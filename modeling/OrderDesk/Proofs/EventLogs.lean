import OrderDesk.Proofs.Evidence
import OrderDesk.Proofs.PlacementData

/-!
# `OrderDesk.Proofs.EventLogs` — what became of an order, by the logs of a receipt

The exchange's interface names its events, the kinds of their parameters and which of them are indexed.
A log's first topic is the hash of an event's signature; the other topics are the indexed parameters and
the data the rest. Reading by the interface is reading as the desk does it. Of the logs of a receipt, the
exchange's first placement tells what became of an order, and logs of others, of no event or of
cancellations have no say in it wherever they stand.

## Contents
- `EventType`, `EventType.parameters`: the interface of the events.
- `EventType.decode?`: a log read by the interface; `EngineEvent.told_ofLog?`: the desk reads the same.
- `EngineEvent.log`: the log of an event by the interface; `EngineEvent.ofLog?_log`: it is read as that
  event.
- `Log.Aside`, `Padded`: logs that have no say, and lists with more of them.
- `Receipt.trace_of_logs`: the result, for every receipt.
-/

namespace OrderDesk

/-! ### The interface -/

/-- The events of the exchange by name. -/
inductive EventType where
  | placed
  | matched
  | canceled
deriving DecidableEq, Repr

/-- A parameter of an event: its kind, and whether it stands among the topics. -/
structure EventParameter where
  kind : Kind
  indexed : Bool := false
deriving DecidableEq, Repr

/-- The value in those bits of a word that a kind has; all others are ignored. -/
def Kind.low (k : Kind) (w : Word) : Value :=
  match k with
  | address => .address (Abi.toAddress w)
  | uint256 => .uint256 w
  | bool => .bool (Abi.toBool w)
  | uint32 => .uint32 (Abi.toUInt32 w)

namespace EventType

def all : List EventType := [placed, matched, canceled]

/-- The event's name. -/
def text : EventType → String
  | placed => "OrderPlaced"
  | matched => "OrderMatched"
  | canceled => "OrderCanceled"

/-- The parameters in their order. -/
def parameters : EventType → List EventParameter
  | placed => [⟨.address, false⟩, ⟨.uint32, false⟩, ⟨.address, true⟩, ⟨.bool, false⟩, ⟨.uint256, false⟩,
      ⟨.uint256, false⟩, ⟨.uint256, false⟩]
  | matched => [⟨.address, false⟩, ⟨.uint32, false⟩, ⟨.bool, false⟩, ⟨.address, true⟩, ⟨.address, true⟩,
      ⟨.uint256, false⟩, ⟨.uint256, false⟩, ⟨.bool, false⟩]
  | canceled => [⟨.address, false⟩, ⟨.uint32, false⟩, ⟨.bool, false⟩, ⟨.address, true⟩,
      ⟨.uint256, false⟩]

/-- The name with the kinds of the parameters. -/
def signature (t : EventType) : String :=
  t.text ++ "(" ++ ",".intercalate (t.parameters.map (·.kind.text)) ++ ")"

/-- The first topic of the event's logs: the hash of its signature. -/
def topic (t : EventType) : Hash := .ofMessage t.signature.toUTF8.toList

/-- **The desk knows the topics of the interface.** -/
theorem topic_eq (t : EventType) : t.topic = match t with
    | placed => EngineEvent.placedTopic
    | matched => EngineEvent.matchedTopic
    | canceled => EngineEvent.canceledTopic := by
  cases t <;> decide +kernel

theorem topic_injective {t t' : EventType} (h : t.topic = t'.topic) : t = t' := by
  rw [topic_eq, topic_eq] at h
  cases t <;> cases t' <;> first | rfl | exact absurd h (by decide)

/-- A value for each parameter, the indexed ones from topics and the others from words. None may be
left over. -/
def values? : List EventParameter → List Hash → List Word → Option (List Value)
  | [], [], [] => some []
  | ⟨kind, true⟩ :: rest, topic :: topics, words =>
    (values? rest topics words).map (kind.low topic.bits :: ·)
  | ⟨kind, false⟩ :: rest, topics, word :: words =>
    (values? rest topics words).map (kind.low word :: ·)
  | _, _, _ => none

/-- The number of words in the data. -/
def wordCount (t : EventType) : Nat := t.parameters.countP (!·.indexed)

/-- Reads a log by the interface: the first topic names the event, and each parameter has its value.
What follows in the data is ignored. -/
def decode? (log : Log) : Option (EventType × List Value) :=
  match log.topics with
  | [] => none
  | first :: indexed =>
    (all.find? (·.topic = first)).bind fun t =>
      (Abi.wordsAt? log.data 0 t.wordCount).bind fun words =>
        (values? t.parameters indexed words).map fun values => (t, values)

theorem find?_topic (t : EventType) : all.find? (·.topic = t.topic) = some t := by
  have only (t' : EventType) : decide (t'.topic = t.topic) = decide (t' = t) :=
    decide_eq_decide.2 ⟨topic_injective, congrArg topic⟩
  simp only [only]
  cases t <;> rfl

theorem find?_eq_none {first : Hash} (unknown : ∀ t : EventType, first ≠ t.topic) :
    all.find? (·.topic = first) = none :=
  List.find?_eq_none.2 fun t _ same => unknown t (of_decide_eq_true same).symm

end EventType

/-! ### The desk reads by the interface -/

namespace EngineEvent

/-- The name of an event. -/
def type : EngineEvent → EventType
  | placed .. => .placed
  | matched .. => .matched
  | canceled .. => .canceled

/-- What an event says, parameter by parameter. -/
def values : EngineEvent → List Value
  | placed book id owner bid price withoutFee rested =>
    [.address book, .uint32 id, .address owner, .bool bid, .uint256 price, .uint256 withoutFee,
      .uint256 rested]
  | matched book id bid sender owner price amount clear =>
    [.address book, .uint32 id, .bool bid, .address sender, .address owner, .uint256 price,
      .uint256 amount, .bool clear]
  | canceled book id bid owner amount =>
    [.address book, .uint32 id, .bool bid, .address owner, .uint256 amount]

/-- An event as the interface tells it. -/
def told (e : EngineEvent) : EventType × List Value := (e.type, e.values)

theorem told_injective {e e' : EngineEvent} (h : e.told = e'.told) : e = e' := by
  cases e <;> cases e' <;> simp_all [told, type, values]

end EngineEvent

namespace EventType

/-- Values are read just from as many topics as parameters are indexed. -/
theorem length_of_values? {parameters : List EventParameter} {topics : List Hash} {words : List Word}
    {values : List Value} (h : values? parameters topics words = some values) :
    topics.length = parameters.countP (·.indexed) := by
  fun_induction values? parameters topics words generalizing values with
  | case1 => rfl
  | case2 kind rest topic topics words ih =>
    obtain ⟨more, read, -⟩ := Option.map_eq_some_iff.1 h
    rw [List.length_cons, ih read, List.countP_cons_of_pos rfl]
  | case3 kind rest topics word words ih =>
    obtain ⟨more, read, -⟩ := Option.map_eq_some_iff.1 h
    rw [ih read, List.countP_cons_of_neg Bool.false_ne_true]
  | case4 => cases h

theorem decode?_of_topic {log : Log} {t : EventType} {indexed : List Hash}
    (titled : log.topics = t.topic :: indexed) :
    decode? log = (Abi.wordsAt? log.data 0 t.wordCount).bind fun words =>
      (values? t.parameters indexed words).map fun values => (t, values) := by
  unfold decode?
  rw [titled]
  dsimp only
  rw [find?_topic, Option.bind_some]

/-- A log with too many or too few topics is none of the event. -/
theorem decode?_of_length_ne {log : Log} {t : EventType} {indexed : List Hash}
    (titled : log.topics = t.topic :: indexed)
    (wrong : indexed.length ≠ t.parameters.countP (·.indexed)) : decode? log = none := by
  rw [decode?_of_topic titled, Option.bind_eq_none_iff]
  intro words _
  rw [Option.map_eq_none_iff, Option.eq_none_iff_forall_ne_some]
  exact fun values read => wrong (length_of_values? read)

/-- A log without a topic of the interface is no event. -/
theorem decode?_of_unknown {log : Log} (unknown : ∀ t : EventType, log.topics.head? ≠ some t.topic) :
    decode? log = none := by
  unfold decode?
  split
  · rfl
  · next first indexed titled =>
    rw [titled] at unknown
    rw [find?_eq_none fun t same => unknown t (congrArg some same), Option.bind_none]

end EventType

namespace EngineEvent

theorem length_of_wordsAt? {data : Bytes} {position count : Nat} {words : List Word}
    (h : Abi.wordsAt? data position count = some words) : words.length = count := by
  induction count generalizing position words with
  | zero =>
    cases h
    rfl
  | succ count ih =>
    obtain ⟨first, -, h⟩ := Option.bind_eq_some_iff.1 h
    obtain ⟨rest, read, h⟩ := Option.bind_eq_some_iff.1 h
    cases h
    rw [List.length_cons, ih read]

/-- A log under an event's topic is read as that event or as none. -/
theorem told_ofLog?_of_topic {log : Log} {t : EventType} {indexed : List Hash}
    (titled : log.topics = t.topic :: indexed) : (ofLog? log).map told = EventType.decode? log := by
  by_cases number : indexed.length = t.parameters.countP (·.indexed)
  · rw [EventType.decode?_of_topic titled]
    rw [EventType.topic_eq] at titled
    unfold ofLog?
    cases t with
    | placed =>
      obtain ⟨owner, rfl⟩ := List.length_eq_one_iff.1 number
      rw [titled, show EventType.placed.wordCount = 6 from rfl]
      dsimp only
      rw [if_pos rfl]
      cases read : Abi.wordsAt? log.data 0 6 with
      | none => rfl
      | some words =>
        match words, length_of_wordsAt? read with
        | [book, id, bid, price, withoutFee, rested], _ => rfl
    | matched =>
      obtain ⟨sender, owner, rfl⟩ := List.length_eq_two.1 number
      rw [titled, show EventType.matched.wordCount = 6 from rfl]
      dsimp only
      rw [if_pos rfl]
      cases read : Abi.wordsAt? log.data 0 6 with
      | none => rfl
      | some words =>
        match words, length_of_wordsAt? read with
        | [book, id, bid, price, amount, clear], _ => rfl
    | canceled =>
      obtain ⟨owner, rfl⟩ := List.length_eq_one_iff.1 number
      rw [titled, show EventType.canceled.wordCount = 4 from rfl]
      dsimp only
      rw [if_neg (by decide), if_pos rfl]
      cases read : Abi.wordsAt? log.data 0 4 with
      | none => rfl
      | some words =>
        match words, length_of_wordsAt? read with
        | [book, id, bid, amount], _ => rfl
  · rw [EventType.decode?_of_length_ne titled number]
    rw [EventType.topic_eq] at titled
    unfold ofLog?
    rw [titled]
    -- With as many topics as another event has, the first is not that event's.
    match indexed, t, number with
    | [], _, _ => rfl
    | [_], .matched, _ =>
      dsimp only
      rw [if_neg (by decide), if_neg (by decide)]
      rfl
    | [_, _], .placed, _ =>
      dsimp only
      rw [if_neg (by decide)]
      rfl
    | [_, _], .canceled, _ =>
      dsimp only
      rw [if_neg (by decide)]
      rfl
    | _ :: _ :: _ :: _, _, _ => rfl

theorem ofLog?_of_unknown {log : Log} (unknown : ∀ t : EventType, log.topics.head? ≠ some t.topic) :
    ofLog? log = none := by
  have other (t : EventType) : log.topics.head? ≠ some t.topic := unknown t
  simp only [EventType.topic_eq] at other
  unfold ofLog?
  split
  · next topic owner titled =>
    rw [titled] at other
    rw [if_neg fun same => other .placed (congrArg some same),
      if_neg fun same => other .canceled (congrArg some same)]
  · next topic sender owner titled =>
    rw [titled] at other
    rw [if_neg fun same => other .matched (congrArg some same)]
  · rfl

/-- **The desk reads every log by the interface.** -/
theorem told_ofLog? (log : Log) : (ofLog? log).map told = EventType.decode? log := by
  by_cases known : ∃ t : EventType, log.topics.head? = some t.topic
  · obtain ⟨t, titled⟩ := known
    obtain ⟨indexed, titled⟩ := List.head?_eq_some_iff.1 titled
    exact told_ofLog?_of_topic titled
  · have unknown := not_exists.1 known
    rw [ofLog?_of_unknown unknown, EventType.decode?_of_unknown unknown]
    rfl

end EngineEvent

/-! ### Logs of events -/

/-- A value that a kind reads from a word is that of the kind's bits. -/
theorem Kind.low_of_read? {k : Kind} {w : Word} {v : Value} (h : k.read? w = some v) : k.low w = v := by
  cases k with
  | address | uint32 =>
    simp only [read?] at h
    split at h
    · cases h
      rfl
    · cases h
  | uint256 =>
    cases h
    rfl
  | bool =>
    simp only [read?] at h
    split at h
    · next zero =>
      cases h
      rw [zero]
      rfl
    · split at h
      · next one =>
        cases h
        rw [one]
        rfl
      · cases h

/-- Arguments that are words are written one after another. -/
theorem Abi.encode_words (ws : List Word) :
    Abi.encode (ws.map .word) = ws.flatMap Abi.wordBytes := by
  have heads (offset : Nat) :
      Abi.encodeFrom offset (ws.map .word) = (ws.flatMap Abi.wordBytes, []) := by
    induction ws generalizing offset with
    | nil => rfl
    | cons w rest ih => rw [List.map_cons, Abi.encodeFrom_word, ih, List.flatMap_cons]
  unfold Abi.encode
  rw [heads]
  exact List.append_nil _

namespace EventType

/-- The words of those values whose parameters are indexed, or of those whose are not. -/
def words (indexed : Bool) : List EventParameter → List Value → List Word
  | parameter :: rest, value :: values =>
    if parameter.indexed = indexed then value.word :: words indexed rest values
    else words indexed rest values
  | _, _ => []

/-- **Values of the parameters' kinds are read back** from their topics and words. -/
theorem values?_words {parameters : List EventParameter} {values : List Value}
    (kinds : values.map Value.kind = parameters.map EventParameter.kind) :
    values? parameters ((words true parameters values).map Hash.mk) (words false parameters values) =
      some values := by
  induction parameters generalizing values with
  | nil =>
    obtain rfl := List.map_eq_nil_iff.1 kinds
    rfl
  | cons parameter rest ih =>
    obtain ⟨value, others, rfl, same, alike⟩ := List.map_eq_cons_iff.1 kinds
    have back := Kind.low_of_read? value.read?_word
    obtain ⟨kind, indexed⟩ := parameter
    obtain rfl : value.kind = kind := same
    cases indexed with
    | true =>
      show (values? rest ((words true rest others).map Hash.mk) (words false rest others)).map _ = _
      rw [ih alike, Option.map_some, back]
    | false =>
      show (values? rest ((words true rest others).map Hash.mk) (words false rest others)).map _ = _
      rw [ih alike, Option.map_some, back]

/-- There are as many words in the data as parameters that are not indexed. -/
theorem length_words {parameters : List EventParameter} {values : List Value}
    (number : values.length = parameters.length) :
    (words false parameters values).length = parameters.countP (!·.indexed) := by
  induction parameters generalizing values with
  | nil => rfl
  | cons parameter rest ih =>
    obtain ⟨value, others, rfl⟩ := List.exists_cons_of_length_eq_add_one number
    have shorter := ih (Nat.succ.inj number)
    obtain ⟨kind, indexed⟩ := parameter
    cases indexed with
    | true => rw [List.countP_cons_of_neg (by simp)]; exact shorter
    | false => rw [List.countP_cons_of_pos rfl]; exact congrArg Nat.succ shorter

end EventType

namespace EngineEvent

theorem kinds_values (e : EngineEvent) :
    e.values.map Value.kind = e.type.parameters.map EventParameter.kind := by
  cases e <;> rfl

/-- The log that the interface prescribes for an event of an exchange: the topic of its signature with
those of the indexed parameters, and the others as arguments are written. -/
def log (exchange : Address) (e : EngineEvent) : Log where
  address := exchange
  topics := e.type.topic :: (EventType.words true e.type.parameters e.values).map Hash.mk
  data := Abi.encode ((EventType.words false e.type.parameters e.values).map .word)

/-- Events are written by the interface. -/
theorem toLog_eq_log (exchange : Address) (e : EngineEvent) : e.toLog exchange = e.log exchange := by
  unfold log
  rw [Abi.encode_words, EventType.topic_eq]
  cases e <;> rfl

/-- **The log of an event is read as that event**, whatever it says. -/
theorem ofLog?_log (exchange : Address) (e : EngineEvent) : ofLog? (e.log exchange) = some e := by
  have number := congrArg List.length e.kinds_values
  rw [List.length_map, List.length_map] at number
  have stands : Abi.Stands (e.log exchange).data 0
      ((EventType.words false e.type.parameters e.values).flatMap Abi.wordBytes) :=
    ⟨[], [], by rw [List.nil_append, List.append_nil]; exact Abi.encode_words _, rfl⟩
  have words := stands.words
  rw [EventType.length_words number] at words
  have decoded : EventType.decode? (e.log exchange) = some e.told := by
    rw [EventType.decode?_of_topic rfl, EventType.wordCount, words, Option.bind_some,
      EventType.values?_words e.kinds_values]
    rfl
  obtain ⟨read, found, same⟩ := Option.map_eq_some_iff.1 ((told_ofLog? _).trans decoded)
  rw [found, told_injective same]

end EngineEvent

/-! ### Logs that have no say -/

/-- **A log has no say in what became of an order.** -/
inductive Log.Aside (exchange : Address) (log : Log) : Prop
  | foreign (other : log.address ≠ exchange)
  /-- It has no topic, or its first is no event's. -/
  | unknown (none : ∀ t : EventType, log.topics.head? ≠ some t.topic)
  | cancellation (titled : log.topics.head? = some EventType.canceled.topic)

theorem Log.event?_of_aside {exchange : Address} {log : Log} (h : log.Aside exchange) :
    log.event? exchange = none := by
  unfold event?
  cases h with
  | foreign other => exact if_neg (by simpa using other)
  | unknown none => rw [EngineEvent.ofLog?_of_unknown none, Option.bind_none, ite_self]
  | cancellation titled =>
    obtain ⟨indexed, titled⟩ := List.head?_eq_some_iff.1 titled
    have read := EngineEvent.told_ofLog? log
    rw [EventType.decode?_of_topic titled] at read
    cases found : EngineEvent.ofLog? log with
    | none => rw [Option.bind_none, ite_self]
    | some e =>
      rw [found] at read
      obtain ⟨words, -, read⟩ := Option.bind_eq_some_iff.1 read.symm
      obtain ⟨values, -, read⟩ := Option.map_eq_some_iff.1 read
      have canceled : e.type = .canceled := (congrArg Prod.fst read).symm
      cases e with
      | canceled => exact ite_self _
      | placed | matched => cases canceled

/-- The second list is the first with logs put in that have no say, anywhere and any number of them. -/
inductive Padded (exchange : Address) : List Log → List Log → Prop
  | nil : Padded exchange [] []
  | keep {logs more : List Log} (log : Log) (rest : Padded exchange logs more) :
    Padded exchange (log :: logs) (log :: more)
  | insert {logs more : List Log} {log : Log} (aside : log.Aside exchange)
    (rest : Padded exchange logs more) : Padded exchange logs (log :: more)

theorem Padded.events {exchange : Address} {logs more : List Log} (h : Padded exchange logs more) :
    logs.filterMap (·.event? exchange) = more.filterMap (·.event? exchange) := by
  induction h with
  | nil => rfl
  | keep log rest ih => rw [List.filterMap_cons, List.filterMap_cons, ih]
  | insert aside rest ih => rw [List.filterMap_cons_none (Log.event?_of_aside aside), ih]

namespace Receipt

/-- Only what the events tell of orders matters. -/
theorem trace_eq_of_events {exchange : Address} {r r' : Receipt}
    (same : r.logs.filterMap (·.event? exchange) = r'.logs.filterMap (·.event? exchange)) :
    r.trace exchange = r'.trace exchange := by
  unfold trace
  rw [orderEvents_eq, orderEvents_eq, same]

/-- **What became of an order, by the logs of a receipt.** The desk reads every log by the interface of
the exchange. The first log of the exchange that is read as a placement tells the number of the order,
whatever else there is; without one, a match that is read says that the order was filled at once, and
otherwise nothing is known of it. Each event's log is read as that event. Logs of others, of no event or
of cancellations change nothing, wherever they are put in or left out. -/
theorem trace_of_logs (exchange : Address) :
    (∀ log, (EngineEvent.ofLog? log).map EngineEvent.told = EventType.decode? log) ∧
    (∀ (r : Receipt) number, r.trace exchange = .placed number ↔ r.FirstPlaces exchange number) ∧
    (∀ r : Receipt, r.trace exchange = .immediatelyFilled ↔ r.OnlyMatches exchange) ∧
    (∀ r : Receipt, r.trace exchange = .notFound ↔ r.Silent exchange) ∧
    (∀ e : EngineEvent, e.toLog exchange = e.log exchange ∧
      EngineEvent.ofLog? (e.log exchange) = some e) ∧
    ∀ r r' : Receipt, Padded exchange r.logs r'.logs → r.trace exchange = r'.trace exchange :=
  ⟨EngineEvent.told_ofLog?, fun _ _ => trace_eq_placed, fun _ => trace_eq_immediatelyFilled,
    fun _ => trace_eq_notFound, fun e => ⟨e.toLog_eq_log exchange, e.ofLog?_log exchange⟩,
    fun _ _ padded => trace_eq_of_events padded.events⟩

end Receipt

namespace LogSample

def exchange : Address := ⟨7⟩

/-- A placement of an order. -/
def placement (id : UInt32) : EngineEvent := .placed ⟨11⟩ id ⟨12⟩ true 250000000 1000000 1000000

/-- A match of a resting order. -/
def trade : EngineEvent := .matched ⟨11⟩ 3 false ⟨12⟩ ⟨13⟩ 250000000 1000000 true

/-- The receipt of a transaction with these logs. -/
def receipt (logs : List Log) : Receipt := ⟨⟨1⟩, 10, true, 21000, logs⟩

/-- An order was matched in part and rests with what is left; another was placed after it. -/
def told : List Log := [trade, placement 42, placement 43].map (·.log exchange)

/-- The same among a placement at another exchange, a log of no event and a cancellation. -/
def scattered : List Log :=
  (placement 9).log ⟨8⟩ :: trade.log exchange :: ⟨exchange, [⟨5⟩], [1, 2, 3]⟩ ::
    (EngineEvent.canceled ⟨11⟩ 9 true ⟨12⟩ 1).log exchange ::
    [placement 42, placement 43].map (·.log exchange)

/-- What stands between the logs of an order does not hide the first placement. -/
theorem first_among_others : Padded exchange told scattered ∧
    (receipt scattered).trace exchange = .placed 42 := by
  have unknown : (⟨exchange, [⟨5⟩], [1, 2, 3]⟩ : Log).Aside exchange := by
    refine .unknown fun t same => ?_
    rw [EventType.topic_eq] at same
    cases t <;> exact absurd same (by decide)
  have padded : Padded exchange told scattered :=
    .insert (.foreign (by decide)) <| .keep _ <| .insert unknown <| .insert (.cancellation rfl) <|
      .keep _ <| .keep _ .nil
  obtain ⟨-, placed, -, -, reads, same⟩ := Receipt.trace_of_logs exchange
  refine ⟨padded, ?_⟩
  rw [← same (receipt told) (receipt scattered) padded, placed]
  refine ⟨[trade.log exchange], (placement 42).log exchange, [(placement 43).log exchange], rfl,
    ⟨rfl, _, _, _, _, _, _, _, (reads (placement 42)).2, rfl⟩, ?_⟩
  rintro earlier mem number ⟨-, _, _, _, _, _, _, _, read, -⟩
  rw [List.mem_singleton.1 mem, (reads trade).2] at read
  cases read

end LogSample
end OrderDesk
