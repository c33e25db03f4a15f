import Mathlib.Algebra.Order.BigOperators.Group.List
import BinanceApi.Stream.MarketFeed

/-!
# What reaches the readers of market data

From the exchange's messages to what the readers return: no message is taken twice or
out of order, however often the session of its stream ends and is opened again; the
readers of ticks hand out the volumes of the messages read, once each; and the readers of
candles never go back.
-/

namespace BinanceApi.Futures

open Mailbox (addressed)

/-- The messages that are read of a stream are messages that the exchange published of
it, in its order and each once at most.  Since the stream's session has shaken hands none
is missing but those that wait to be read, as long as the session reads. -/
theorem messages_once_in_order (externals : Externals) (events : List FeedEvent)
    (feed : MarketFeed) (ran : MarketFeed.run externals events = some feed) :
    (∀ key, (addressed key feed.received).Sublist (addressed key feed.published)) ∧
      ∀ index stream connection, feed.manager.Live index stream →
        feed.connections[index]? = some connection → connection.phase = .reading →
        ∃ old earlier recent,
          addressed stream.key feed.published =
            old ++ (recent ++ connection.mailbox.waiting) ∧
          addressed stream.key feed.received = earlier ++ recent ∧
          recent ++ connection.mailbox.waiting = connection.mailbox.sent ∧
          earlier.Sublist old := by
  have invariant := MarketFeed.invariant_run ran
  refine ⟨invariant.inOrder, ?_⟩
  intro index stream connection live found reading
  have resumes := invariant.resumes index stream connection live found
    (by simp [reading])
  exact resumes.complete

/-! ## Ticks -/

namespace MarketFeed

variable {externals : Externals} {feed : MarketFeed}

/-- Quantities that are not negative add up to no less over more events. -/
theorem sum_le_of_subperm {part events : List EventTickPrice}
    (quantity : EventTickPrice → Double) (once : part.Subperm events)
    (nonneg : ∀ event ∈ events, 0 ≤ quantity event) :
    (part.map quantity).sum ≤ (events.map quantity).sum := by
  rcases once with ⟨others, perm, sublist⟩
  rw [← (perm.map quantity).sum_eq]
  apply (sublist.map quantity).sum_le_sum
  intro value member
  rcases List.mem_map.mp member with ⟨event, inside, rfl⟩
  exact nonneg event inside

theorem tickEvents_subperm (invariant : feed.Invariant) (pair : String) :
    (tickEvents externals pair feed.received).Subperm
      (tickEvents externals pair feed.published) := by
  rcases Mailbox.subperm_of_addressed invariant.inOrder with ⟨others, perm, sublist⟩
  exact ⟨_, perm.filterMap _, sublist.filterMap _⟩

/-- What is stored of a symbol are the volumes of messages that were received. -/
theorem stored_nonneg (stored : Stored externals feed) (pair : String)
    (quantity : EventTickPrice → Double)
    (volume : quantity = EventTickPrice.A ∨ quantity = EventTickPrice.B)
    (nonneg : ∀ event ∈ tickEvents externals pair feed.received, 0 ≤ quantity event) :
    0 ≤ feed.tickPrices[pair]?.elim 0 quantity := by
  cases found : feed.tickPrices[pair]? with
  | none => exact le_refl 0
  | some entry =>
      rcases (stored.tracks pair).present entry found with ⟨latest, -, rfl⟩
      have since : ∀ event ∈ TickStore.sinceRead pair feed.tickLog, 0 ≤ quantity event := by
        intro event member
        apply nonneg
        rw [← stored.ticks pair]
        exact ((List.rtakeWhile_suffix _ _).sublist.filterMap _).subset member
      rcases volume with rfl | rfl
      · exact List.sum_nonneg (List.forall_mem_map.mpr since)
      · exact List.sum_nonneg (List.forall_mem_map.mpr since)

end MarketFeed

/-- The volumes that the readers of a symbol's ticks have been handed and those that are
stored are those of the symbol's messages that were read, each of which was published and
none counted twice.  So nobody is handed more volume than the exchange published. -/
theorem volumes_published (externals : Externals) (events : List FeedEvent)
    (feed : MarketFeed) (ran : MarketFeed.run externals events = some feed)
    (pair : String) :
    let received := MarketFeed.tickEvents externals pair feed.received
    let published := MarketFeed.tickEvents externals pair feed.published
    let returned := TickStore.returned pair feed.tickLog
    TickStore.askVolume returned + feed.tickPrices[pair]?.elim 0 EventTickPrice.A =
        TickStore.askVolume received ∧
      TickStore.bidVolume returned + feed.tickPrices[pair]?.elim 0 EventTickPrice.B =
        TickStore.bidVolume received ∧
      received.Subperm published ∧
      ((∀ event ∈ published, 0 ≤ event.A ∧ 0 ≤ event.B) →
        TickStore.askVolume returned ≤ TickStore.askVolume published ∧
          TickStore.bidVolume returned ≤ TickStore.bidVolume published) := by
  intro received published returned
  have stored := MarketFeed.stored_run ran
  have once : received.Subperm published :=
    MarketFeed.tickEvents_subperm (MarketFeed.invariant_run ran) pair
  have asks := (stored.tracks pair).asks
  have bids := (stored.tracks pair).bids
  rw [stored.ticks pair] at asks bids
  refine ⟨asks, bids, once, ?_⟩
  intro nonneg
  have storedAsks := MarketFeed.stored_nonneg stored pair EventTickPrice.A (.inl rfl)
    fun event member => (nonneg event (once.subset member)).1
  have storedBids := MarketFeed.stored_nonneg stored pair EventTickPrice.B (.inr rfl)
    fun event member => (nonneg event (once.subset member)).2
  constructor
  · calc TickStore.askVolume returned
        ≤ TickStore.askVolume received := asks ▸ le_add_of_nonneg_right storedAsks
      _ ≤ TickStore.askVolume published :=
          MarketFeed.sum_le_of_subperm EventTickPrice.A once fun event member =>
            (nonneg event member).1
  · calc TickStore.bidVolume returned
        ≤ TickStore.bidVolume received := bids ▸ le_add_of_nonneg_right storedBids
      _ ≤ TickStore.bidVolume published :=
          MarketFeed.sum_le_of_subperm EventTickPrice.B once fun event member =>
            (nonneg event member).2

/-! ## Candles -/

namespace MarketFeed

variable {externals : Externals} {feed next : MarketFeed}

end MarketFeed

namespace MarketFeed

theorem sample_plain : (MarketStream.mk "BTCUSDT" (.kline ._1m)).Plain := by decide

/-- Minute candles of a symbol. -/
def sampleStream : Subscription :=
  ⟨_, sample_plain⟩

/-- An update of the candle that starts at a time. -/
def sampleFrame (startTime : Int) : Frame :=
  .ok (.object [("k", .object [("i", .string "1m"), ("t", .integer startTime)]),
    ("s", .string "BTCUSDT")])

/-- A session is opened, shakes hands, and reads a candle; then it ends. -/
def sampleOpening : List FeedEvent :=
  [.manager (.subscribe sampleStream false), .manager .caller, .manager .caller,
    .manager .caller, .manager .caller, .manager .caller, .manager .ioThread,
    .manager .ioThread, .manager .ioThread, .connect 0, .publish sampleStream (sampleFrame 0),
    .read 0 false, .publish sampleStream (sampleFrame 60000), .manager (.terminate 0)]

/-- The stream is subscribed again, and the next candle is read twice. -/
def sampleReopening : List FeedEvent :=
  [.manager (.subscribe sampleStream true), .manager .caller, .manager .caller, .connect 0,
    .publish sampleStream (sampleFrame 60000), .read 0 false,
    .publish sampleStream (sampleFrame 120000)]

def sampleBefore : MarketFeed :=
  (run .plain sampleOpening).get (by decide +kernel)

def sampleAfter : MarketFeed :=
  (Transition.run (step .plain) sampleBefore sampleReopening).get (by decide +kernel)

theorem sample_run : run .plain sampleOpening = some sampleBefore :=
  (Option.some_get _).symm

theorem sample_rerun :
    Transition.run (step .plain) sampleBefore sampleReopening = some sampleAfter :=
  (Option.some_get _).symm

theorem sample_whole : run .plain (sampleOpening ++ sampleReopening) = some sampleAfter :=
  Transition.run_append sample_run sample_rerun

/-- The connection of the session that was opened again. -/
def sampleConnection : Connection :=
  sampleAfter.connections[0]?.get (by decide +kernel)

theorem sample_connection : sampleAfter.connections[0]? = some sampleConnection :=
  (Option.some_get _).symm

theorem sample_live : sampleAfter.manager.Live 0 sampleStream.toMarketStream := by
  constructor
  · have alive : sampleAfter.manager.wsClient.sessions[0]?.map SessionEntry.alive =
        some true := by decide +kernel
    exact Option.map_eq_some_iff.mp alive
  · decide +kernel

theorem sampleTick_plain : (MarketStream.mk "BTCUSDT" .bookTicker).Plain := by decide

/-- The best prices of a symbol. -/
def sampleTickStream : Subscription :=
  ⟨_, sampleTick_plain⟩

/-- The quantities at the best prices. -/
def sampleTick (ask bid : String) : Frame :=
  .ok (.object [("A", .string ask), ("B", .string bid), ("s", .string "BTCUSDT")])

/-- A reader takes two messages at once; of two more, one is read by the session. -/
def sampleTicking : List FeedEvent :=
  [.manager (.subscribe sampleTickStream false), .manager .caller, .manager .caller,
    .manager .caller, .manager .caller, .manager .caller, .manager .ioThread,
    .manager .ioThread, .manager .ioThread, .connect 0,
    .publish sampleTickStream (sampleTick "2" "1"), .read 0 false,
    .publish sampleTickStream (sampleTick "3" "4.5"), .read 0 false, .poll "BTCUSDT" false,
    .publish sampleTickStream (sampleTick "7" "0.5"), .read 0 false,
    .publish sampleTickStream (sampleTick "1" "1")]

def sampleTicked : MarketFeed :=
  (run .plain sampleTicking).get (by decide +kernel)

theorem sampleTicked_run : run .plain sampleTicking = some sampleTicked :=
  (Option.some_get _).symm

end MarketFeed

/-- The session of the stream ended with a message unread and was opened again: of the two
messages since then one is read and one waits. -/
theorem messages_once_in_order_sample :
    let key := MarketFeed.sampleStream.key
    let waiting := MarketFeed.sampleConnection.mailbox.waiting
    (addressed key MarketFeed.sampleAfter.received).Sublist
        (addressed key MarketFeed.sampleAfter.published) ∧
      (addressed key MarketFeed.sampleAfter.published).length = 4 ∧
      (addressed key MarketFeed.sampleAfter.received).length = 2 ∧ waiting.length = 1 ∧
      ∃ old earlier recent,
        addressed key MarketFeed.sampleAfter.published = old ++ (recent ++ waiting) ∧
        addressed key MarketFeed.sampleAfter.received = earlier ++ recent ∧
        recent ++ waiting = MarketFeed.sampleConnection.mailbox.sent ∧
        earlier.Sublist old := by
  have delivered := messages_once_in_order .plain
    (MarketFeed.sampleOpening ++ MarketFeed.sampleReopening) MarketFeed.sampleAfter
    MarketFeed.sample_whole
  exact ⟨delivered.1 _, by decide +kernel, by decide +kernel, by decide +kernel,
    delivered.2 0 _ _ MarketFeed.sample_live MarketFeed.sample_connection
      (by decide +kernel)⟩

/-- A reader has taken the volumes of two messages, that of a third is stored, and a
fourth message is not read. -/
theorem volumes_published_sample :
    let received := MarketFeed.tickEvents .plain "BTCUSDT" MarketFeed.sampleTicked.received
    let published := MarketFeed.tickEvents .plain "BTCUSDT" MarketFeed.sampleTicked.published
    let returned := TickStore.returned "BTCUSDT" MarketFeed.sampleTicked.tickLog
    let stored := MarketFeed.sampleTicked.tickPrices["BTCUSDT"]?
    TickStore.askVolume returned = 5 ∧ stored.elim 0 EventTickPrice.A = 7 ∧
      TickStore.askVolume published = 13 ∧
      TickStore.askVolume returned + stored.elim 0 EventTickPrice.A =
        TickStore.askVolume received ∧
      TickStore.bidVolume returned + stored.elim 0 EventTickPrice.B =
        TickStore.bidVolume received ∧
      received.Subperm published ∧
      TickStore.askVolume returned ≤ TickStore.askVolume published ∧
      TickStore.bidVolume returned ≤ TickStore.bidVolume published := by
  have volumes := volumes_published .plain MarketFeed.sampleTicking
    MarketFeed.sampleTicked MarketFeed.sampleTicked_run "BTCUSDT"
  exact ⟨by decide +kernel, by decide +kernel, by decide +kernel, volumes.1, volumes.2.1,
    volumes.2.2.1, volumes.2.2.2 (by decide +kernel)⟩

end BinanceApi.Futures
