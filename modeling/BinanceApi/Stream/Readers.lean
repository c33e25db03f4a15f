import BinanceApi.Stream.CandleStore

/-!
# Readers that wait

A reader tries once every few milliseconds, up to a number of tries that the time-out
gives, and stops when the time-out has been set to zero.  While it sleeps messages arrive
and other readers read.  It returns what the first try finds at which there is something.
-/

namespace BinanceApi.Futures

namespace TickStore

/-- The inputs that a reader's try comes after: those before the call, and those between
the tries before it. -/
def before (steps : List Step) (between : Nat → List Step) (count : Nat) : List Step :=
  steps ++ (List.range' 0 count).flatMap between

/-- A try is made: the time-out allows for it, and has not been set to zero so far. -/
def Tries (timeout : Int) (timeoutAt : Nat → Int) (count : Nat) : Prop :=
  count ≤ maxNumTries timeout ∧ ∀ earlier ≤ count, timeoutAt earlier ≠ 0

theorem lt_tries_iff {timeout : Int} {count : Nat} :
    count < (maxNumTries timeout + 1).toNat ↔ (count : Int) ≤ maxNumTries timeout := by
  omega

theorem poll_eq_none_iff {store : TickStore} {pair : String} {consumeEvent : Bool} :
    (store.poll pair consumeEvent).1 = none ↔ store[pair]? = none := by
  cases found : store[pair]? with
  | none => simp [poll_none found]
  | some entry => simp [poll_some found]

theorem poll_eq_some_iff {store : TickStore} {pair : String} {consumeEvent : Bool}
    {retVal : EventTickPrice} :
    (store.poll pair consumeEvent).1 = some retVal ↔ store[pair]? = some retVal := by
  cases found : store[pair]? with
  | none => simp [poll_none found]
  | some entry => simp [poll_some found]

theorem poll_unchanged {store : TickStore} {pair : String} {consumeEvent : Bool}
    (nothing : (store.poll pair consumeEvent).1 = none) :
    (store.poll pair consumeEvent).2 = store := by
  rw [poll_none (poll_eq_none_iff.mp nothing)]

/-- A reader of ticks, with the steps of the others between its tries. -/
def reader (externals : Externals) (steps : List Step) (between : Nat → List Step)
    (timeout : Int) (timeoutAt : Nat → Int) (pair : String) (consumeEvent : Bool) :
    Option EventTickPrice :=
  (readEventTickPrice timeout timeoutAt
    (fun n current =>
      (between n).foldl (fun store input => (step externals store input).1) current)
    (run externals steps).1 pair consumeEvent).1

theorem stateAt_run (externals : Externals) (steps : List Step)
    (between : Nat → List Step) (count : Nat) :
    Polling.stateAt
        (fun n current =>
          (between n).foldl (fun store input => (step externals store input).1) current)
        0 (run externals steps).1 count =
      (run externals (before steps between count)).1 := by
  rw [Polling.stateAt_foldl, run, run, Machine.run_fst, Machine.run_fst, before,
    List.foldl_append]

theorem reader_eq_some_iff {externals : Externals} {steps : List Step}
    {between : Nat → List Step} {timeout : Int} {timeoutAt : Nat → Int} {pair : String}
    {consumeEvent : Bool} {retVal : EventTickPrice} :
    reader externals steps between timeout timeoutAt pair consumeEvent = some retVal ↔
      ∃ count, Tries timeout timeoutAt count ∧
        (∀ earlier < count, (run externals (before steps between earlier)).1[pair]? = none) ∧
        (run externals (before steps between count)).1[pair]? = some retVal := by
  rw [reader, readEventTickPrice, Polling.loop_eq_some_iff fun _ => poll_unchanged]
  simp only [stateAt_run, poll_eq_none_iff, poll_eq_some_iff, lt_tries_iff, Tries,
    Nat.zero_add, decide_eq_false_iff_not, and_assoc, ne_eq]

end TickStore

/-- A reader of ticks returns at the first of its tries at which an entry of the symbol is
stored: the latest message of the symbol with the volumes since the last read.  If it
returns nothing then at each of its tries no message of the symbol had come since the last
read that consumed it, whatever other readers did in between. -/
theorem ticks_read_exact (externals : Externals) (steps : List TickStore.Step)
    (between : Nat → List TickStore.Step) (timeout : Int) (timeoutAt : Nat → Int)
    (pair : String) (consumeEvent : Bool) :
    (∀ retVal,
      TickStore.reader externals steps between timeout timeoutAt pair consumeEvent =
          some retVal ↔
        ∃ count, TickStore.Tries timeout timeoutAt count ∧
          (∀ earlier < count, (TickStore.run externals
            (TickStore.before steps between earlier)).1[pair]? = none) ∧
          (TickStore.run externals
            (TickStore.before steps between count)).1[pair]? = some retVal ∧
          ∃ latest,
            (TickStore.received pair (TickStore.run externals
              (TickStore.before steps between count)).2).getLast? = some latest ∧
            retVal = TickStore.withVolumes latest (TickStore.sinceRead pair
              (TickStore.run externals (TickStore.before steps between count)).2)) ∧
    (TickStore.reader externals steps between timeout timeoutAt pair consumeEvent = none →
      ∀ count, TickStore.Tries timeout timeoutAt count →
        TickStore.sinceConsumed pair (TickStore.run externals
          (TickStore.before steps between count)).2 = []) := by
  constructor
  · intro retVal
    rw [TickStore.reader_eq_some_iff]
    constructor
    · rintro ⟨count, tries, nothing, found⟩
      exact ⟨count, tries, nothing, found,
        (TickStore.tracks_run externals pair _).present retVal found⟩
    · rintro ⟨count, tries, nothing, found, -⟩
      exact ⟨count, tries, nothing, found⟩
  · intro none
    -- the tries in order: none of them found an entry
    have absent : ∀ count, TickStore.Tries timeout timeoutAt count →
        (TickStore.run externals (TickStore.before steps between count)).1[pair]? =
          Option.none := by
      intro count
      induction count using Nat.strongRecOn with
      | _ count ih =>
          intro tries
          cases found : (TickStore.run externals
              (TickStore.before steps between count)).1[pair]? with
          | none => rfl
          | some retVal =>
              have earlierTries : ∀ earlier < count,
                  TickStore.Tries timeout timeoutAt earlier := by
                intro earlier reached
                have bound := tries.1
                exact ⟨by omega, fun first below => tries.2 first (by omega)⟩
              have returned : TickStore.reader externals steps between timeout timeoutAt pair
                  consumeEvent = some retVal :=
                TickStore.reader_eq_some_iff.mpr ⟨count, tries,
                  fun earlier reached => ih earlier reached (earlierTries earlier reached),
                  found⟩
              rw [none] at returned
              cases returned
    intro count tries
    exact ((TickStore.tracks_run externals pair _).absent (absent count tries)).1

namespace CandleStore

/-- The messages that a reader's try comes after. -/
def before (messages : List EventCandlestick) (between : Nat → List EventCandlestick)
    (count : Nat) : List EventCandlestick :=
  messages ++ (List.range' 0 count).flatMap between

/-- A reader of candles, with the messages that come between its tries. -/
def reader (messages : List EventCandlestick) (between : Nat → List EventCandlestick)
    (timeout : Int) (timeoutAt : Nat → Int) (pair : String) (interval : CandleInterval)
    (previous : Bool) : Option EventCandlestick :=
  (readEventCandlestick timeout timeoutAt
    (fun n current => (between n).foldl insert current)
    (receive messages) pair interval previous).1

/-- The candle that messages leave behind for a reader. -/
def known (pair : String) (interval : CandleInterval) (previous : Bool)
    (messages : List EventCandlestick) : Option EventCandlestick :=
  if previous then Rollover.lastReplaced startTime (ofKey pair interval messages)
  else (ofKey pair interval messages).getLast?

theorem poll_receive (messages : List EventCandlestick) (pair : String)
    (interval : CandleInterval) (previous : Bool) :
    ((receive messages).poll pair interval previous).1 =
      known pair interval previous messages := by
  cases previous with
  | false => exact poll_current messages pair interval
  | true => exact poll_previous messages pair interval

theorem stateAt_receive (messages : List EventCandlestick)
    (between : Nat → List EventCandlestick) (count : Nat) :
    Polling.stateAt (fun n current => (between n).foldl insert current) 0
        (receive messages) count =
      receive (before messages between count) := by
  rw [Polling.stateAt_foldl, receive, receive, before, List.foldl_append]

theorem poll_unchanged (store : CandleStore) (pair : String) (interval : CandleInterval)
    (previous : Bool) : (store.poll pair interval previous).2 = store := by
  cases previous <;> rfl

end CandleStore

/-- A reader of candles returns at the first of its tries at which the messages that have
come leave a candle for it, and what it returns is a function of these messages; it
returns nothing exactly if there is none at any of its tries. -/
theorem candles_read_exact (messages : List EventCandlestick)
    (between : Nat → List EventCandlestick) (timeout : Int) (timeoutAt : Nat → Int)
    (pair : String) (interval : CandleInterval) (previous : Bool)
    (retVal : EventCandlestick) :
    CandleStore.reader messages between timeout timeoutAt pair interval previous =
        some retVal ↔
      ∃ count, TickStore.Tries timeout timeoutAt count ∧
        (∀ earlier < count, CandleStore.known pair interval previous
          (CandleStore.before messages between earlier) = none) ∧
        CandleStore.known pair interval previous
          (CandleStore.before messages between count) = some retVal := by
  rw [CandleStore.reader, CandleStore.readEventCandlestick,
    Polling.loop_eq_some_iff fun store _ =>
      CandleStore.poll_unchanged store pair interval previous]
  simp only [CandleStore.stateAt_receive, CandleStore.poll_receive, TickStore.lt_tries_iff,
    TickStore.Tries, Nat.zero_add, decide_eq_false_iff_not, and_assoc, ne_eq]

end BinanceApi.Futures
