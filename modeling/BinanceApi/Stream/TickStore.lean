import Mathlib.Algebra.BigOperators.Group.List.Basic
import Mathlib.Data.List.DropRight
import Mathlib.Data.Rat.Defs
import Std.Data.TreeMap
import BinanceApi.Library.Machine
import BinanceApi.Library.Polling
import BinanceApi.Models.Event

/-!
# Tick store

The book-ticker callback stores the best prices of each symbol for the readers.
Prices are overwritten, quantities are added up until somebody reads them.  A
message and a try of a reader each hold the ticker lock for their whole duration,
so a run of the store is a sequence of such steps.
-/

namespace BinanceApi.Futures

/-- `tickPrices`. -/
abbrev TickStore := Std.TreeMap String EventTickPrice

namespace TickStore

/-- What the book-ticker callback does with a decoded message. -/
def insert (store : TickStore) (eventMsg : EventTickPrice) : TickStore :=
  match store[eventMsg.s]? with
  | some tickPrice =>
      Std.TreeMap.insert store eventMsg.s
        { tickPrice with
          a := eventMsg.a, b := eventMsg.b, u := eventMsg.u, T := eventMsg.T
          E := eventMsg.E, e := eventMsg.e
          A := tickPrice.A + eventMsg.A, B := tickPrice.B + eventMsg.B }
  | none => Std.TreeMap.insert store eventMsg.s eventMsg

/-- One try of `readEventTickPrice`: hand the entry out, zero its quantities, and
remove it if it is consumed. -/
def poll (store : TickStore) (pair : String) (consumeEvent : Bool) :
    Option EventTickPrice × TickStore :=
  match store[pair]? with
  | some retVal =>
      let zeroed := Std.TreeMap.insert store pair { retVal with A := 0, B := 0 }
      (some retVal, if consumeEvent then zeroed.erase pair else zeroed)
  | none => (none, store)

theorem getElem?_insert (store : TickStore) (eventMsg : EventTickPrice)
    (pair : String) :
    (insert store eventMsg)[pair]? =
      if eventMsg.s = pair then
        some (match store[pair]? with
          | some tickPrice =>
              { eventMsg with
                s := tickPrice.s
                A := tickPrice.A + eventMsg.A, B := tickPrice.B + eventMsg.B }
          | none => eventMsg)
      else store[pair]? := by
  by_cases same : eventMsg.s = pair
  · subst same
    cases present : store[eventMsg.s]? <;> simp [insert, present]
  · cases present : store[eventMsg.s]? <;>
      simp [insert, present, Std.TreeMap.getElem?_insert, same]

theorem poll_none {store : TickStore} {pair : String} (absent : store[pair]? = none)
    (consumeEvent : Bool) : poll store pair consumeEvent = (none, store) := by
  simp [poll, absent]

theorem poll_some {store : TickStore} {pair : String} {retVal : EventTickPrice}
    (present : store[pair]? = some retVal) (consumeEvent : Bool) :
    (poll store pair consumeEvent).1 = some retVal := by
  simp [poll, present]

theorem getElem?_poll {store : TickStore} {pair : String} {retVal : EventTickPrice}
    (present : store[pair]? = some retVal) (consumeEvent : Bool) (other : String) :
    (poll store pair consumeEvent).2[other]? =
      if pair = other then
        if consumeEvent then none else some { retVal with A := 0, B := 0 }
      else store[other]? := by
  by_cases same : pair = other
  · subst same
    cases consumeEvent <;> simp [poll, present]
  · cases consumeEvent <;>
      simp [poll, present, same, Std.TreeMap.getElem?_insert, Std.TreeMap.getElem?_erase]

/-! ## Runs -/

/-- One atomic step: a message arrives, or a reader tries once. -/
inductive Step where
  | message (json : Json)
  | poll (pair : String) (consumeEvent : Bool)

/-- What a step shows to the outside.  A message that does not decode raises an
exception and leaves the store alone. -/
inductive Observation where
  | received (eventMsg : EventTickPrice)
  | rejected (exception : Exception)
  | read (pair : String) (consumeEvent : Bool) (retVal : EventTickPrice)
  | nothing (pair : String)
  deriving DecidableEq, Repr

def step (externals : Externals) (store : TickStore) : Step → TickStore × Observation
  | .message json =>
      match EventTickPrice.fromJson externals json with
      | .ok eventMsg => (store.insert eventMsg, .received eventMsg)
      | .error exception => (store, .rejected exception)
  | .poll pair consumeEvent =>
      match store.poll pair consumeEvent with
      | (some retVal, next) => (next, .read pair consumeEvent retVal)
      | (none, next) => (next, .nothing pair)

/-- A run from the empty store. -/
def run (externals : Externals) (steps : List Step) : TickStore × List Observation :=
  Machine.run (step externals) ∅ steps

/-! ### The log of a symbol -/

/-- The messages of a symbol in a log. -/
def received (pair : String) (log : List Observation) : List EventTickPrice :=
  log.filterMap fun
    | .received eventMsg => if eventMsg.s = pair then some eventMsg else none
    | _ => none

/-- What successful reads of a symbol returned. -/
def returned (pair : String) (log : List Observation) : List EventTickPrice :=
  log.filterMap fun
    | .read other _ retVal => if other = pair then some retVal else none
    | _ => none

def Observation.isRead (pair : String) : Observation → Bool
  | .read other _ _ => other = pair
  | _ => false

def Observation.isConsumingRead (pair : String) : Observation → Bool
  | .read other consumeEvent _ => other = pair ∧ consumeEvent
  | _ => false

/-- The messages of a symbol since its last successful read. -/
def sinceRead (pair : String) (log : List Observation) : List EventTickPrice :=
  received pair (log.rtakeWhile fun observation => !observation.isRead pair)

/-- The messages of a symbol since its last consuming read. -/
def sinceConsumed (pair : String) (log : List Observation) : List EventTickPrice :=
  received pair (log.rtakeWhile fun observation => !observation.isConsumingRead pair)

def askVolume (events : List EventTickPrice) : Double :=
  (events.map EventTickPrice.A).sum

def bidVolume (events : List EventTickPrice) : Double :=
  (events.map EventTickPrice.B).sum

theorem askVolume_concat (events : List EventTickPrice) (last : EventTickPrice) :
    askVolume (events ++ [last]) = askVolume events + last.A := by
  simp [askVolume]

theorem bidVolume_concat (events : List EventTickPrice) (last : EventTickPrice) :
    bidVolume (events ++ [last]) = bidVolume events + last.B := by
  simp [bidVolume]

/-- The latest of the given events with the volumes of others. -/
def withVolumes (latest : EventTickPrice) (events : List EventTickPrice) :
    EventTickPrice :=
  { latest with A := askVolume events, B := bidVolume events }

/-! ### The invariant of a symbol -/

/-- What the store knows of a symbol after a run. -/
structure Tracks (pair : String) (store : TickStore) (log : List Observation) : Prop where
  present : ∀ entry, store[pair]? = some entry →
    ∃ latest, (received pair log).getLast? = some latest ∧
      entry = withVolumes latest (sinceRead pair log)
  absent : store[pair]? = none →
    sinceConsumed pair log = [] ∧ sinceRead pair log = []
  asks : askVolume (returned pair log) + (store[pair]?.elim 0 EventTickPrice.A) =
    askVolume (received pair log)
  bids : bidVolume (returned pair log) + (store[pair]?.elim 0 EventTickPrice.B) =
    bidVolume (received pair log)

/-- An observation that is neither a message nor a read of the symbol does not
touch the symbol's log. -/
def Observation.Elsewhere (pair : String) : Observation → Prop
  | .received eventMsg => eventMsg.s ≠ pair
  | .rejected _ => True
  | .read other _ _ => other ≠ pair
  | .nothing _ => True

theorem Tracks.of_elsewhere {pair : String} {store next : TickStore}
    {log : List Observation} {observation : Observation}
    (tracks : Tracks pair store log) (elsewhere : observation.Elsewhere pair)
    (same : next[pair]? = store[pair]?) :
    Tracks pair next (log ++ [observation]) := by
  have receivedEq : ∀ events, received pair (events ++ [observation]) =
      received pair events := by
    intro events
    cases observation <;> simp_all [received, Observation.Elsewhere]
  have returnedEq : returned pair (log ++ [observation]) = returned pair log := by
    cases observation <;> simp_all [returned, Observation.Elsewhere]
  have readEq : sinceRead pair (log ++ [observation]) = sinceRead pair log := by
    have quiet : observation.isRead pair = false := by
      cases observation <;> simp_all [Observation.isRead, Observation.Elsewhere]
    simp [sinceRead, quiet, receivedEq]
  have consumedEq : sinceConsumed pair (log ++ [observation]) =
      sinceConsumed pair log := by
    have quiet : observation.isConsumingRead pair = false := by
      cases observation <;> simp_all [Observation.isConsumingRead, Observation.Elsewhere]
    simp [sinceConsumed, quiet, receivedEq]
  constructor
  case present =>
    rw [same, receivedEq, readEq]
    exact tracks.present
  case absent =>
    rw [same, readEq, consumedEq]
    exact tracks.absent
  case asks =>
    rw [same, returnedEq, receivedEq]
    exact tracks.asks
  case bids =>
    rw [same, returnedEq, receivedEq]
    exact tracks.bids

theorem symbol_of_mem_received {pair : String} {log : List Observation}
    {eventMsg : EventTickPrice} (membership : eventMsg ∈ received pair log) :
    eventMsg.s = pair := by
  rcases List.mem_filterMap.mp membership with ⟨observation, _, selected⟩
  cases observation <;> grind

/-- A message of the symbol is added to what is stored. -/
theorem Tracks.message {pair : String} {store : TickStore} {log : List Observation}
    (tracks : Tracks pair store log) {eventMsg : EventTickPrice}
    (symbol : eventMsg.s = pair) :
    Tracks pair (store.insert eventMsg) (log ++ [.received eventMsg]) := by
  have receivedEq : ∀ events, received pair (events ++ [.received eventMsg]) =
      received pair events ++ [eventMsg] := by
    intro events
    simp [received, symbol]
  have returnedEq : returned pair (log ++ [.received eventMsg]) = returned pair log := by
    simp [returned]
  have readEq : sinceRead pair (log ++ [.received eventMsg]) =
      sinceRead pair log ++ [eventMsg] := by
    simp [sinceRead, Observation.isRead, receivedEq]
  have stored := getElem?_insert store eventMsg pair
  rw [if_pos symbol] at stored
  constructor
  case present =>
    intro entry found
    rw [stored, Option.some.injEq] at found
    refine ⟨eventMsg, by simp [receivedEq], ?_⟩
    rw [← found, readEq]
    cases before : store[pair]? with
    | none =>
        rw [(tracks.absent before).2]
        simp [withVolumes, askVolume, bidVolume]
    | some tickPrice =>
        rcases tracks.present tickPrice before with ⟨latest, last, tickEq⟩
        have latestSymbol : latest.s = pair :=
          symbol_of_mem_received (List.mem_of_getLast? last)
        simp [tickEq, withVolumes, askVolume, bidVolume, latestSymbol, symbol]
  case absent =>
    intro missing
    rw [stored] at missing
    cases missing
  case asks =>
    have asks := tracks.asks
    rw [stored, returnedEq, receivedEq, askVolume_concat, ← asks]
    cases before : store[pair]? with
    | none => simp
    | some tickPrice => exact (add_assoc _ _ _).symm
  case bids =>
    have bids := tracks.bids
    rw [stored, returnedEq, receivedEq, bidVolume_concat, ← bids]
    cases before : store[pair]? with
    | none => simp
    | some tickPrice => exact (add_assoc _ _ _).symm

/-- A successful read hands out what is stored and starts over. -/
theorem Tracks.read {pair : String} {store : TickStore} {log : List Observation}
    (tracks : Tracks pair store log) {retVal : EventTickPrice}
    (found : store[pair]? = some retVal) (consumeEvent : Bool) :
    Tracks pair (store.poll pair consumeEvent).2
      (log ++ [.read pair consumeEvent retVal]) := by
  have receivedEq : received pair (log ++ [.read pair consumeEvent retVal]) =
      received pair log := by
    simp [received]
  have returnedEq : returned pair (log ++ [.read pair consumeEvent retVal]) =
      returned pair log ++ [retVal] := by
    simp [returned]
  have readEq : sinceRead pair (log ++ [.read pair consumeEvent retVal]) = [] := by
    simp [sinceRead, Observation.isRead, received]
  have stored := getElem?_poll found consumeEvent pair
  rw [if_pos rfl] at stored
  constructor
  case present =>
    intro entry remaining
    rw [stored] at remaining
    rcases tracks.present retVal found with ⟨latest, last, retEq⟩
    refine ⟨latest, by rw [receivedEq]; exact last, ?_⟩
    cases consumeEvent with
    | true => cases remaining
    | false =>
        simp only [Bool.false_eq_true, if_false, Option.some.injEq] at remaining
        rw [← remaining, readEq, retEq]
        rfl
  case absent =>
    intro missing
    rw [stored] at missing
    cases consumeEvent with
    | true => simp [readEq, sinceConsumed, Observation.isConsumingRead, received]
    | false => simp at missing
  case asks =>
    have asks := tracks.asks
    rw [stored, returnedEq, receivedEq, askVolume_concat]
    rw [found] at asks
    rw [← asks]
    cases consumeEvent <;> simp
  case bids =>
    have bids := tracks.bids
    rw [stored, returnedEq, receivedEq, bidVolume_concat]
    rw [found] at bids
    rw [← bids]
    cases consumeEvent <;> simp

/-- Every step keeps the invariant of every symbol. -/
theorem Tracks.step {externals : Externals} {pair : String} {store : TickStore}
    {log : List Observation} (tracks : Tracks pair store log) (input : Step) :
    Tracks pair (step externals store input).1
      (log ++ [(TickStore.step externals store input).2]) := by
  cases input with
  | message json =>
      simp only [TickStore.step]
      split
      next eventMsg decoded =>
        by_cases symbol : eventMsg.s = pair
        · exact tracks.message symbol
        · have elsewhere : Observation.Elsewhere pair (.received eventMsg) := symbol
          apply tracks.of_elsewhere elsewhere
          rw [getElem?_insert, if_neg symbol]
      next exception thrown =>
        exact tracks.of_elsewhere trivial rfl
  | poll other consumeEvent =>
      simp only [TickStore.step]
      cases found : store[other]? with
      | none =>
          rw [poll_none found]
          exact tracks.of_elsewhere trivial rfl
      | some retVal =>
          have outcome : store.poll other consumeEvent =
              (some retVal, (store.poll other consumeEvent).2) :=
            Prod.ext (poll_some found consumeEvent) rfl
          rw [outcome]
          by_cases same : other = pair
          · subst same
            exact tracks.read found consumeEvent
          · have elsewhere : Observation.Elsewhere pair
                (.read other consumeEvent retVal) := same
            apply tracks.of_elsewhere elsewhere
            rw [getElem?_poll found, if_neg same]

/-- The invariant of every symbol holds after every run. -/
theorem tracks_run (externals : Externals) (pair : String) (steps : List Step) :
    Tracks pair (run externals steps).1 (run externals steps).2 := by
  apply Machine.run_invariant (Tracks pair)
  · intro store log input tracks
    exact tracks.step input
  · constructor <;>
      simp [received, returned, sinceConsumed, sinceRead, askVolume, bidVolume]

/-! ## Reading -/

/-- `static_cast<int>(timeout / 0.01)`, for a time-out whose hundredfold fits an `int`;
above that the conversion has no defined value. -/
def maxNumTries (timeout : Int) : Int := 100 * timeout

/-- `readEventTickPrice`.  The time-out is read once for the number of tries and
again before every try; `others` is what happens to the store while the reader
sleeps. -/
def readEventTickPrice (timeout : Int) (timeoutAt : Nat → Int)
    (others : Nat → TickStore → TickStore) (store : TickStore) (pair : String)
    (consumeEvent : Bool) : Option EventTickPrice × TickStore :=
  Polling.loop (fun current => poll current pair consumeEvent) others
    (fun numTries => timeoutAt numTries = 0) 0 (maxNumTries timeout + 1).toNat store

/-- A reader that returns something has read the store of a run: the steps before
the call, and those that came while it slept. -/
theorem exists_poll_of_readEventTickPrice {externals : Externals} {steps : List Step}
    {between : Nat → List Step} {timeout : Int} {timeoutAt : Nat → Int} {pair : String}
    {consumeEvent : Bool} {retVal : EventTickPrice} {next : TickStore}
    (found : readEventTickPrice timeout timeoutAt
      (fun n current =>
        (between n).foldl (fun store input => (step externals store input).1) current)
      (run externals steps).1 pair consumeEvent = (some retVal, next)) :
    ∃ count, (run externals
      (steps ++ (List.range' 0 count).flatMap between)).1.poll pair consumeEvent =
        (some retVal, next) := by
  have unchanged : ∀ current : TickStore, (current.poll pair consumeEvent).1 = none →
      (current.poll pair consumeEvent).2 = current := by
    intro current nothing
    cases entry : current[pair]? with
    | none => rw [poll_none entry]
    | some value =>
        rw [poll_some entry] at nothing
        cases nothing
  rcases Polling.exists_try_of_loop unchanged found with ⟨count, _, success⟩
  rw [Polling.stateAt_foldl, run, Machine.run_fst, ← List.foldl_append] at success
  refine ⟨count, ?_⟩
  rw [run, Machine.run_fst]
  exact success

end TickStore

/-- No volume is lost or counted twice: a read returns the latest message of its
symbol with the volumes received since the read before, what has been read and
what is stored add up to what was received, and a try in vain means that nothing
came since the last consuming read. -/
theorem tickStore_lossless (externals : Externals) (steps : List TickStore.Step)
    (pair : String) :
    let store := (TickStore.run externals steps).1
    let log := (TickStore.run externals steps).2
    (∀ consumeEvent retVal, (store.poll pair consumeEvent).1 = some retVal →
      ∃ latest, (TickStore.received pair log).getLast? = some latest ∧
        retVal = TickStore.withVolumes latest (TickStore.sinceRead pair log)) ∧
    (∀ consumeEvent, (store.poll pair consumeEvent).1 = none →
      TickStore.sinceConsumed pair log = []) ∧
    TickStore.askVolume (TickStore.returned pair log) +
        store[pair]?.elim 0 EventTickPrice.A =
      TickStore.askVolume (TickStore.received pair log) ∧
    TickStore.bidVolume (TickStore.returned pair log) +
        store[pair]?.elim 0 EventTickPrice.B =
      TickStore.bidVolume (TickStore.received pair log) := by
  intro store log
  have tracks := TickStore.tracks_run externals pair steps
  refine ⟨?_, ?_, tracks.asks, tracks.bids⟩
  · intro consumeEvent retVal success
    cases found : store[pair]? with
    | none =>
        rw [TickStore.poll_none found] at success
        cases success
    | some entry =>
        rw [TickStore.poll_some found, Option.some.injEq] at success
        exact success ▸ tracks.present entry found
  · intro consumeEvent nothing
    cases found : store[pair]? with
    | none => exact (tracks.absent found).1
    | some entry =>
        rw [TickStore.poll_some found] at nothing
        cases nothing

end BinanceApi.Futures
