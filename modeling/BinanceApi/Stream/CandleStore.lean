import Mathlib.Order.Compare
import Std.Data.TreeMap
import BinanceApi.Library.Polling
import BinanceApi.Library.Rollover
import BinanceApi.Models.Event
import BinanceApi.Stream.TickStore

/-!
# Candle store

The candlestick callback keeps, for every symbol and interval, the latest update
of the current candle, and the last update of the candle before it.  Both are
functions of the messages received for that symbol and interval.
-/

namespace BinanceApi.Futures

/-- Candles by symbol and interval, as two nested maps. -/
abbrev CandleMap := Std.TreeMap String (Std.TreeMap CandleInterval EventCandlestick)

namespace CandleMap

def find? (candles : CandleMap) (pair : String) (interval : CandleInterval) :
    Option EventCandlestick :=
  candles[pair]?.bind fun intervals => intervals[interval]?

/-- Insert an empty inner map if the symbol has none, then insert or assign. -/
def assign (candles : CandleMap) (pair : String) (interval : CandleInterval)
    (eventMsg : EventCandlestick) : CandleMap :=
  candles.insert pair ((candles.getD pair ∅).insert interval eventMsg)

@[simp] theorem find?_empty (pair : String) (interval : CandleInterval) :
    find? ∅ pair interval = none := by
  simp [find?]

theorem find?_assign (candles : CandleMap) (pair other : String)
    (interval otherInterval : CandleInterval) (eventMsg : EventCandlestick) :
    (assign candles pair interval eventMsg).find? other otherInterval =
      if pair = other ∧ interval = otherInterval then some eventMsg
      else candles.find? other otherInterval := by
  by_cases samePair : pair = other
  · subst samePair
    by_cases sameInterval : interval = otherInterval
    · simp [find?, assign, sameInterval]
    · have inner : (candles.getD pair ∅)[otherInterval]? =
          candles[pair]?.bind fun intervals => intervals[otherInterval]? := by
        rw [Std.TreeMap.getD_eq_getD_getElem?]
        cases candles[pair]? <;> simp
      simp [find?, assign, Std.TreeMap.getElem?_insert, compare_eq_iff_eq, sameInterval,
        inner]
  · simp [find?, assign, Std.TreeMap.getElem?_insert, samePair]

end CandleMap

/-- `candlesticks` and `candlesticksHistoric`. -/
structure CandleStore where
  candlesticks : CandleMap
  candlesticksHistoric : CandleMap

namespace CandleStore

def empty : CandleStore where
  candlesticks := ∅
  candlesticksHistoric := ∅

/-- The stored candle that a message replaces: one of its own interval with
another start time. -/
def previousCandle (store : CandleStore) (eventMsg : EventCandlestick) :
    Option EventCandlestick :=
  (store.candlesticks.find? eventMsg.s eventMsg.k.i).filter
    fun stored => stored.k.t ≠ eventMsg.k.t

/-- What the candlestick callback does with a decoded message.  The candle to be
replaced is captured before it is overwritten and filed under its own interval. -/
def insert (store : CandleStore) (eventMsg : EventCandlestick) : CandleStore where
  candlesticks := store.candlesticks.assign eventMsg.s eventMsg.k.i eventMsg
  candlesticksHistoric :=
    match store.previousCandle eventMsg with
    | some previous =>
        store.candlesticksHistoric.assign eventMsg.s previous.k.i previous
    | none => store.candlesticksHistoric

/-- One try of `readEventCandlestick`. -/
def poll (store : CandleStore) (pair : String) (interval : CandleInterval)
    (previous : Bool) : Option EventCandlestick × CandleStore :=
  if previous then (store.candlesticksHistoric.find? pair interval, store)
  else (store.candlesticks.find? pair interval, store)

/-- `readEventCandlestick`, with the time-outs and the other threads as for
`readEventTickPrice`. -/
def readEventCandlestick (timeout : Int) (timeoutAt : Nat → Int)
    (others : Nat → CandleStore → CandleStore) (store : CandleStore) (pair : String)
    (interval : CandleInterval) (previous : Bool) :
    Option EventCandlestick × CandleStore :=
  Polling.loop (fun current => poll current pair interval previous) others
    (fun numTries => timeoutAt numTries = 0) 0
    (TickStore.maxNumTries timeout + 1).toNat store

/-- The store after a sequence of decoded messages. -/
def receive (messages : List EventCandlestick) : CandleStore :=
  messages.foldl insert empty

@[simp] theorem receive_concat (messages : List EventCandlestick)
    (eventMsg : EventCandlestick) :
    receive (messages ++ [eventMsg]) = (receive messages).insert eventMsg := by
  simp [receive]

/-! ## The store as a function of the messages -/

/-- The messages of a symbol and interval, in order. -/
def ofKey (pair : String) (interval : CandleInterval)
    (messages : List EventCandlestick) : List EventCandlestick :=
  messages.filter fun eventMsg => eventMsg.s = pair ∧ eventMsg.k.i = interval

/-- The start time of the candle that a message updates. -/
def startTime (eventMsg : EventCandlestick) : Int :=
  eventMsg.k.t

theorem ofKey_concat_of_key {pair : String} {interval : CandleInterval}
    {eventMsg : EventCandlestick} (symbol : eventMsg.s = pair)
    (own : eventMsg.k.i = interval) (messages : List EventCandlestick) :
    ofKey pair interval (messages ++ [eventMsg]) =
      ofKey pair interval messages ++ [eventMsg] := by
  simp [ofKey, symbol, own]

theorem ofKey_concat_of_other {pair : String} {interval : CandleInterval}
    {eventMsg : EventCandlestick} (other : ¬(eventMsg.s = pair ∧ eventMsg.k.i = interval))
    (messages : List EventCandlestick) :
    ofKey pair interval (messages ++ [eventMsg]) = ofKey pair interval messages := by
  simp [ofKey, other]

/-- The current candle is the last message of its symbol and interval. -/
theorem current_receive (messages : List EventCandlestick) (pair : String)
    (interval : CandleInterval) :
    (receive messages).candlesticks.find? pair interval =
      (ofKey pair interval messages).getLast? := by
  induction messages using List.reverseRecOn with
  | nil => exact CandleMap.find?_empty pair interval
  | append_singleton messages eventMsg ih =>
      rw [receive_concat, insert, CandleMap.find?_assign]
      by_cases key : eventMsg.s = pair ∧ eventMsg.k.i = interval
      · rw [if_pos key, ofKey_concat_of_key key.1 key.2, List.getLast?_concat]
      · rw [if_neg key, ofKey_concat_of_other key, ih]

theorem interval_of_mem_ofKey {pair : String} {interval : CandleInterval}
    {messages : List EventCandlestick} {eventMsg : EventCandlestick}
    (membership : eventMsg ∈ ofKey pair interval messages) :
    eventMsg.k.i = interval := by
  have key := (List.mem_filter.mp membership).2
  simp only [decide_eq_true_eq] at key
  exact key.2

/-- The candle a message replaces is the last one of the message's key, unless the
message continues it. -/
theorem previousCandle_receive (messages : List EventCandlestick)
    (eventMsg : EventCandlestick) :
    (receive messages).previousCandle eventMsg =
      (ofKey eventMsg.s eventMsg.k.i messages).getLast?.filter
        fun stored => startTime stored ≠ startTime eventMsg := by
  rw [previousCandle, current_receive]
  rfl

/-- The historic candle is the last message of its symbol and interval that was
followed by another candle. -/
theorem historic_receive (messages : List EventCandlestick) (pair : String)
    (interval : CandleInterval) :
    (receive messages).candlesticksHistoric.find? pair interval =
      Rollover.lastReplaced startTime (ofKey pair interval messages) := by
  induction messages using List.reverseRecOn with
  | nil => exact CandleMap.find?_empty pair interval
  | append_singleton messages eventMsg ih =>
      rw [receive_concat, insert]
      have replaced := previousCandle_receive messages eventMsg
      by_cases key : eventMsg.s = pair ∧ eventMsg.k.i = interval
      · rcases key with ⟨symbol, own⟩
        rw [symbol, own] at replaced
        rw [ofKey_concat_of_key symbol own, Rollover.lastReplaced_append_singleton]
        cases last : (ofKey pair interval messages).getLast? with
        | none =>
            rw [last] at replaced
            rw [List.getLast?_eq_none_iff.mp last] at ih
            simp [replaced, ih]
        | some stored =>
            have storedInterval := interval_of_mem_ofKey (List.mem_of_getLast? last)
            rw [last, Option.filter_some] at replaced
            by_cases same : startTime stored = startTime eventMsg
            · simp [replaced, same, ih]
            · simp [replaced, same, CandleMap.find?_assign, symbol, storedInterval]
      · rw [ofKey_concat_of_other key, ← ih]
        cases outcome : (receive messages).previousCandle eventMsg with
        | none => rfl
        | some previous =>
            -- the captured candle is filed under the interval of the message
            have own : previous.k.i = eventMsg.k.i := by
              rw [replaced] at outcome
              have last := (Option.filter_eq_some_iff.mp outcome).1
              exact interval_of_mem_ofKey (List.mem_of_getLast? last)
            simp only [CandleMap.find?_assign, own, if_neg key]

/-- What the two kinds of reads find. -/
theorem poll_current (messages : List EventCandlestick) (pair : String)
    (interval : CandleInterval) :
    ((receive messages).poll pair interval false).1 =
      (ofKey pair interval messages).getLast? :=
  current_receive messages pair interval

theorem poll_previous (messages : List EventCandlestick) (pair : String)
    (interval : CandleInterval) :
    ((receive messages).poll pair interval true).1 =
      Rollover.lastReplaced startTime (ofKey pair interval messages) :=
  historic_receive messages pair interval

/-- A reader that returns a candle has read the store after the messages that came
before its successful try. -/
theorem exists_poll_of_readEventCandlestick {messages : List EventCandlestick}
    {between : Nat → List EventCandlestick} {timeout : Int} {timeoutAt : Nat → Int}
    {pair : String} {interval : CandleInterval} {previous : Bool}
    {retVal : EventCandlestick} {next : CandleStore}
    (found : readEventCandlestick timeout timeoutAt
      (fun n current => (between n).foldl insert current)
      (receive messages) pair interval previous = (some retVal, next)) :
    ∃ count, ((receive (messages ++ (List.range' 0 count).flatMap between)).poll
      pair interval previous).1 = some retVal := by
  have unchanged : ∀ current : CandleStore,
      (current.poll pair interval previous).1 = none →
      (current.poll pair interval previous).2 = current := by
    intro current _
    cases previous <;> rfl
  rcases Polling.exists_try_of_loop unchanged found with ⟨count, _, success⟩
  rw [Polling.stateAt_foldl, receive, ← List.foldl_append] at success
  exact ⟨count, congrArg Prod.fst success⟩

end CandleStore

/-- The candle store is a function of the messages: a read of the current candle
finds the last message of its key, a read of the previous candle the last message
of its key whose successor started another candle.  If start times never decrease,
the previous candle is the final update of the candle before the current one. -/
theorem candleStore_history (messages : List EventCandlestick) (pair : String)
    (interval : CandleInterval) :
    let store := CandleStore.receive messages
    let own := CandleStore.ofKey pair interval messages
    (store.poll pair interval false).1 = own.getLast? ∧
    (store.poll pair interval true).1 =
      Rollover.lastReplaced CandleStore.startTime own ∧
    (own.Pairwise (fun earlier later => earlier.k.t ≤ later.k.t) →
      ∀ previous, (store.poll pair interval true).1 = some previous →
        ∃ current, (store.poll pair interval false).1 = some current ∧
          previous.k.t < current.k.t ∧
          (∀ eventMsg ∈ own, eventMsg.k.t < current.k.t →
            eventMsg.k.t ≤ previous.k.t) ∧
          (own.filter fun eventMsg => eventMsg.k.t = previous.k.t).getLast? =
            some previous) := by
  intro store own
  have currentEq : (store.poll pair interval false).1 = own.getLast? :=
    CandleStore.poll_current messages pair interval
  have previousEq : (store.poll pair interval true).1 =
      Rollover.lastReplaced CandleStore.startTime own :=
    CandleStore.poll_previous messages pair interval
  refine ⟨currentEq, previousEq, ?_⟩
  intro ordered previous found
  rw [previousEq] at found
  cases last : own.getLast? with
  | none =>
      rw [List.getLast?_eq_none_iff.mp last] at found
      cases found
  | some current =>
      have ordered : own.Pairwise fun earlier later =>
          CandleStore.startTime earlier ≤ CandleStore.startTime later := ordered
      rw [Rollover.lastReplaced_eq_getLast_lt ordered last] at found
      exact ⟨current, currentEq.trans last, Rollover.final_of_getLast_lt ordered found⟩

end BinanceApi.Futures
