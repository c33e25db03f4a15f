import BinanceApi.Stream.CandleStore

/-!
# Kline messages on the wire

A kline stream belongs to a symbol and an interval, and its messages name both.
The decoder looks the interval up without regard to case, so minutes and months
are the same to it.
-/

namespace BinanceApi.Futures

/-- A message of the stream of a symbol and an interval, and the event that it
decodes to. -/
structure KlineMessage (externals : Externals) where
  pair : String
  interval : CandleInterval
  json : Json
  candle : Json
  event : EventCandlestick
  symbol_member : json.find? "s" = some (.string pair)
  candle_member : json.find? "k" = some candle
  interval_member : candle.find? "i" = some (.string interval.wireName)
  decodes : EventCandlestick.fromJson externals json = .ok event

/-- The candle of an interval decodes to that interval, except that months become
minutes. -/
theorem decodeInterval_wireName (interval : CandleInterval) :
    Candlestick.decodeInterval interval.wireName =
      if interval = ._1M then ._1m else interval := by
  cases interval <;> decide

/-- The interval of a decoded candle is that of the text in the message. -/
theorem interval_of_candlestick {externals : Externals} {json : Json}
    {candle : Candlestick} {interval : String} (reads : externals.ReadsStrings)
    (carried : json.find? "i" = some (.string interval))
    (decodes : Candlestick.fromJson externals json = .ok candle) :
    candle.i = Candlestick.decodeInterval interval := by
  simp only [Candlestick.fromJson] at decodes
  -- the five members before the interval, and the ten after it
  iterate 5 rcases exists_of_bind_ok decodes with ⟨_, _, decodes⟩
  rw [reads json "i" interval "" carried] at decodes
  rcases exists_of_bind_ok decodes with ⟨text, same, decodes⟩
  cases same
  iterate 10 rcases exists_of_bind_ok decodes with ⟨_, _, decodes⟩
  rw [← Except.ok.inj decodes]

namespace KlineMessage

variable {externals : Externals}

theorem event_symbol (reads : externals.ReadsStrings) (message : KlineMessage externals) :
    message.event.s = message.pair := by
  have decodes := message.decodes
  simp only [EventCandlestick.fromJson] at decodes
  rw [reads message.json "s" message.pair "" message.symbol_member] at decodes
  rcases exists_of_bind_ok decodes with ⟨s, same, rest⟩
  cases same
  rcases exists_of_bind_ok rest with ⟨member, _, rest⟩
  rcases exists_of_bind_ok rest with ⟨k, _, built⟩
  rw [← Except.ok.inj built]

theorem event_interval (reads : externals.ReadsStrings)
    (message : KlineMessage externals) :
    message.event.k.i = if message.interval = ._1M then ._1m else message.interval := by
  have decodes := message.decodes
  simp only [EventCandlestick.fromJson] at decodes
  rcases exists_of_bind_ok decodes with ⟨s, _, rest⟩
  rw [Json.member_eq_ok_iff.mpr message.candle_member] at rest
  rcases exists_of_bind_ok rest with ⟨candle, same, rest⟩
  cases same
  rcases exists_of_bind_ok rest with ⟨k, decoded, built⟩
  rw [← Except.ok.inj built, ← decodeInterval_wireName]
  exact interval_of_candlestick reads message.interval_member
    (Throws.lift_eq_ok_iff.mp decoded)

end KlineMessage

/-- The candlestick callback.  A message that does not decode raises an exception
before the store is touched. -/
def CandleStore.callback (externals : Externals) (store : CandleStore) (json : Json) :
    CandleStore :=
  match EventCandlestick.fromJson externals json with
  | .ok eventMsg => store.insert eventMsg
  | .error _ => store

namespace KlineMessage

variable {externals : Externals}

/-- The store after an interleaving of messages. -/
def store (messages : List (KlineMessage externals)) : CandleStore :=
  (messages.map json).foldl (CandleStore.callback externals) .empty

theorem store_eq_receive (messages : List (KlineMessage externals)) :
    store messages = CandleStore.receive (messages.map event) := by
  induction messages using List.reverseRecOn with
  | nil => rfl
  | append_singleton messages message ih =>
      rw [List.map_append, List.map_singleton, CandleStore.receive_concat, ← ih]
      simp [store, CandleStore.callback, message.decodes]

/-- The messages of one stream. -/
def ofStream (pair : String) (interval : CandleInterval)
    (messages : List (KlineMessage externals)) : List (KlineMessage externals) :=
  messages.filter fun message => message.pair = pair ∧ message.interval = interval

/-- A reader of a symbol and an interval sees the candles of that stream and no
others, and of the current candle the latest update. -/
structure Unmixed (messages : List (KlineMessage externals)) (pair : String)
    (interval : CandleInterval) : Prop where
  own : ∀ eventMsg, ((store messages).poll pair interval false).1 = some eventMsg →
    ∃ message ∈ ofStream pair interval messages, message.event = eventMsg
  latest : ∀ message, (ofStream pair interval messages).getLast? = some message →
    ((store messages).poll pair interval false).1 = some message.event
  previous : ∀ eventMsg, ((store messages).poll pair interval true).1 = some eventMsg →
    ∃ message ∈ ofStream pair interval messages, message.event = eventMsg

/-- Without months, the messages filed under a symbol and an interval are those of
the stream. -/
theorem ofKey_events (reads : externals.ReadsStrings)
    {messages : List (KlineMessage externals)} {pair : String}
    (monthless : ∀ message ∈ messages, message.pair = pair → message.interval ≠ ._1M)
    (interval : CandleInterval) :
    CandleStore.ofKey pair interval (messages.map event) =
      (ofStream pair interval messages).map event := by
  rw [CandleStore.ofKey, ofStream, List.filter_map]
  congr 1
  apply List.filter_congr
  intro message membership
  have symbol := message.event_symbol reads
  have decoded := message.event_interval reads
  by_cases same : message.pair = pair
  · rw [if_neg (monthless message membership same)] at decoded
    simp [symbol, decoded]
  · simp [symbol, same]

theorem unmixed_of_monthless (reads : externals.ReadsStrings)
    {messages : List (KlineMessage externals)} {pair : String}
    (monthless : ∀ message ∈ messages, message.pair = pair → message.interval ≠ ._1M)
    (interval : CandleInterval) : Unmixed messages pair interval := by
  have currentEq := CandleStore.poll_current (messages.map event) pair interval
  have previousEq := CandleStore.poll_previous (messages.map event) pair interval
  rw [← store_eq_receive, ofKey_events reads monthless] at currentEq previousEq
  constructor
  case own =>
    intro eventMsg found
    rw [currentEq] at found
    exact List.mem_map.mp (List.mem_of_getLast? found)
  case latest =>
    intro message last
    rw [currentEq, List.getLast?_map, last]
    rfl
  case previous =>
    intro eventMsg found
    rw [previousEq] at found
    exact List.mem_map.mp (Rollover.mem_of_lastReplaced _ found)

/-- Nothing is ever filed under the interval of a month. -/
theorem poll_month (reads : externals.ReadsStrings)
    (messages : List (KlineMessage externals)) (pair : String) :
    ((store messages).poll pair ._1M false).1 = none := by
  rw [store_eq_receive, CandleStore.poll_current]
  apply List.getLast?_eq_none_iff.mpr
  apply List.filter_eq_nil_iff.mpr
  intro eventMsg membership
  rcases List.mem_map.mp membership with ⟨message, _, rfl⟩
  have decoded := message.event_interval reads
  grind

end KlineMessage

/-- At every moment of a run the readers of a symbol see the candles of their own
streams, exactly when no message of the symbol's month stream comes in the run. -/
theorem candles_unmixed_iff (externals : Externals) (reads : externals.ReadsStrings)
    (messages : List (KlineMessage externals)) (pair : String) :
    (∀ front, front <+: messages →
        ∀ interval, KlineMessage.Unmixed front pair interval) ↔
      ∀ message ∈ messages, message.pair = pair → message.interval ≠ ._1M := by
  constructor
  · intro unmixed message membership symbol month
    have inStream : message ∈ KlineMessage.ofStream pair ._1M messages :=
      List.mem_filter.mpr ⟨membership, by simp [symbol, month]⟩
    cases last : (KlineMessage.ofStream pair ._1M messages).getLast? with
    | none =>
        rw [List.getLast?_eq_none_iff.mp last] at inStream
        cases inStream
    | some newest =>
        have found := (unmixed messages (List.prefix_refl _) ._1M).latest newest last
        rw [KlineMessage.poll_month reads] at found
        cases found
  · intro monthless front isFront interval
    apply KlineMessage.unmixed_of_monthless reads
    intro message membership
    exact monthless message (isFront.subset membership)

namespace KlineMessage

/-- A candle of the given interval that starts at zero. -/
def sampleEvent (interval : CandleInterval) : EventCandlestick where
  s := "BTCUSDT"
  k := { t := 0, T := 0, s := "", i := interval, f := 0, L := 0, o := 0, h := 0, l := 0,
         c := 0, v := 0, n := 0, x := false, q := 0, V := 0, Q := 0 }

/-- A message of the month stream. -/
def sampleMonth : KlineMessage .plain where
  pair := "BTCUSDT"
  interval := ._1M
  json := .object [("k", .object [("i", .string "1M")]), ("s", .string "BTCUSDT")]
  candle := .object [("i", .string "1M")]
  event := sampleEvent ._1m
  symbol_member := by rfl
  candle_member := by rfl
  interval_member := by rfl
  decodes := by decide +kernel

end KlineMessage

theorem candles_unmixed_sample :
    (∀ front, front <+: [KlineMessage.sampleMonth] →
        ∀ interval, KlineMessage.Unmixed front "BTCUSDT" interval) ↔
      ∀ message ∈ [KlineMessage.sampleMonth],
        message.pair = "BTCUSDT" → message.interval ≠ ._1M :=
  candles_unmixed_iff .plain Externals.plain_readsStrings [KlineMessage.sampleMonth]
    "BTCUSDT"

/-- A month is returned to the reader of minutes, and not to its own reader. -/
theorem candles_mixed_sample :
    ((KlineMessage.store [KlineMessage.sampleMonth]).poll "BTCUSDT" ._1m false).1 =
        some (KlineMessage.sampleEvent ._1m) ∧
      ((KlineMessage.store [KlineMessage.sampleMonth]).poll "BTCUSDT" ._1M false).1 =
        none ∧
      ¬KlineMessage.Unmixed [KlineMessage.sampleMonth] "BTCUSDT" ._1m ∧
      ¬KlineMessage.Unmixed [KlineMessage.sampleMonth] "BTCUSDT" ._1M := by
  have minute : ((KlineMessage.store [KlineMessage.sampleMonth]).poll
      "BTCUSDT" ._1m false).1 = some (KlineMessage.sampleEvent ._1m) := by
    rw [KlineMessage.store_eq_receive, CandleStore.poll_current]
    decide +kernel
  have month := KlineMessage.poll_month Externals.plain_readsStrings
    [KlineMessage.sampleMonth] "BTCUSDT"
  refine ⟨minute, month, ?_, ?_⟩
  · intro unmixed
    rcases unmixed.own _ minute with ⟨message, membership, _⟩
    have stream : KlineMessage.ofStream "BTCUSDT" ._1m [KlineMessage.sampleMonth] = [] := by
      rfl
    rw [stream] at membership
    cases membership
  · intro unmixed
    have found := unmixed.latest KlineMessage.sampleMonth rfl
    rw [month] at found
    cases found

end BinanceApi.Futures
