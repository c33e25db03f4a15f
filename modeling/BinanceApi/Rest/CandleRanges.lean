import BinanceApi.Rest.Candles

/-!
# Which candles a download drops

The download removes the last candle it received as not complete yet, without a look
at the time.  Here the current server time is given, and so is a range that is
downloaded in two parts.
-/

namespace BinanceApi

namespace CandleHistory

/-- The candles of a range that have ended by now. -/
def completeInRange (history : CandleHistory) (startTime endTime now : Int) :
    List Candle :=
  (history.inRange startTime endTime).filter fun candle => candle.closeTime < now

/-- The candles of a range that are still running. -/
def runningInRange (history : CandleHistory) (startTime endTime now : Int) :
    List Candle :=
  (history.inRange startTime endTime).filter fun candle => now ≤ candle.closeTime

/-- A download without its last candle has the complete ones exactly when one candle
of the range is running. -/
theorem dropLast_inRange_iff (history : CandleHistory) (startTime endTime now : Int) :
    (history.inRange startTime endTime).dropLast =
        history.completeInRange startTime endTime now ↔
      history.inRange startTime endTime = [] ∨
        (history.runningInRange startTime endTime now).length = 1 := by
  have consecutive := history.inRange_consecutive startTime endTime
  have closed : (history.inRange startTime endTime).Pairwise fun earlier later =>
      decide (later.closeTime < now) = true → decide (earlier.closeTime < now) = true := by
    apply consecutive.2.imp_of_mem
    intro earlier later _ laterMem ordered complete
    have positive := consecutive.1 later laterMem
    simp only [decide_eq_true_eq] at complete ⊢
    omega
  rw [completeInRange, Paging.dropLast_eq_filter_iff closed, runningInRange]
  simp only [← decide_not, not_lt]

theorem openTime_ordered (history : CandleHistory) :
    Paging.Ordered Candle.openTime history.candles := by
  apply history.consecutive.2.imp_of_mem
  intro earlier later earlierMem _ apart
  exact ((history.consecutive.1 earlier earlierMem).trans apart).le

/-- A range is the candles up to a time in it and those after that time. -/
theorem inRange_append (history : CandleHistory) {startTime middle endTime : Int}
    (start : startTime ≤ middle) (stop : middle ≤ endTime) :
    history.inRange startTime middle ++ history.inRange (middle + 1) endTime =
      history.inRange startTime endTime :=
  history.openTime_ordered.filter_between_append (by omega) stop

end CandleHistory

/-- The clients that download candles. -/
inductive CandleClient where
  | futures
  | spot
  deriving DecidableEq, Repr

namespace CandleClient

def publicApi : CandleClient → String
  | .futures => "/fapi/v1/"
  | .spot => "/api/v3/"

def getHistoricalPrices (client : CandleClient) (externals : Externals) (wire : Wire)
    (requests : Nat) (symbol : String) (interval : CandleInterval)
    (startTime endTime limit : Int) : Nat → Option (Evaluates (List Candle)) :=
  match client with
  | .futures =>
      Futures.RESTClient.getHistoricalPrices externals (.futures wire) requests symbol
        interval startTime endTime limit
  | .spot =>
      Spot.RESTClient.getHistoricalPrices externals (.spot wire) requests symbol
        interval startTime endTime limit

theorem getHistoricalPrices_of_serves (client : CandleClient) (externals : Externals)
    {history : CandleHistory} {pageSize : Nat} {wire : Wire} {symbol : String}
    {interval : CandleInterval}
    (serves : history.Serves pageSize client.publicApi symbol interval wire)
    (requests : Nat) {startTime endTime : Int} (limit : Int) (pageSizePos : 0 < pageSize)
    (startNonneg : 0 ≤ startTime) (before : startTime < endTime) :
    Loop.Ends
      (client.getHistoricalPrices externals wire requests symbol interval startTime
        endTime limit)
      (.ok (history.inRange startTime endTime).dropLast) := by
  cases client with
  | futures =>
      exact Futures.RESTClient.getHistoricalPrices_of_serves externals serves requests
        limit pageSizePos startNonneg before
  | spot =>
      exact Spot.RESTClient.getHistoricalPrices_of_serves externals serves requests
        limit pageSizePos startNonneg before

end CandleClient

/-- A download returns the complete candles of its range exactly when the range has no
candle at all or one that is running.  Two downloads of adjacent ranges yield what one
download of both does exactly when one of them has no candle. -/
theorem downloads_complete_iff (client : CandleClient) (externals : Externals)
    (history : CandleHistory) (pageSize : Nat) (wire : Wire) (symbol : String)
    (interval : CandleInterval) (limit now : Int) (pageSizePos : 1 ≤ pageSize)
    (serves : history.Serves pageSize client.publicApi symbol interval wire) :
    (∀ requests startTime endTime, 0 ≤ startTime → startTime < endTime →
      (Loop.Ends
          (client.getHistoricalPrices externals wire requests symbol interval startTime
            endTime limit)
          (.ok (history.completeInRange startTime endTime now)) ↔
        history.inRange startTime endTime = [] ∨
          (history.runningInRange startTime endTime now).length = 1)) ∧
    ∀ firstRequests secondRequests requests startTime middle endTime, 0 ≤ startTime →
      startTime < middle → middle + 1 < endTime →
      ∃ front back whole,
        Loop.Ends
          (client.getHistoricalPrices externals wire firstRequests symbol interval
            startTime middle limit) (.ok front) ∧
        Loop.Ends
          (client.getHistoricalPrices externals wire secondRequests symbol interval
            (middle + 1) endTime limit) (.ok back) ∧
        Loop.Ends
          (client.getHistoricalPrices externals wire requests symbol interval
            startTime endTime limit) (.ok whole) ∧
        (front ++ back = whole ↔
          history.inRange startTime middle = [] ∨
            history.inRange (middle + 1) endTime = []) := by
  constructor
  · intro requests startTime endTime startNonneg before
    have downloaded := client.getHistoricalPrices_of_serves externals serves requests
      limit pageSizePos startNonneg before
    rw [← history.dropLast_inRange_iff]
    constructor
    · intro complete
      exact Except.ok.inj (downloaded.unique complete)
    · intro complete
      rw [← complete]
      exact downloaded
  · intro firstRequests secondRequests requests startTime middle endTime startNonneg
      first second
    refine ⟨_, _, _,
      client.getHistoricalPrices_of_serves externals serves firstRequests limit
        pageSizePos startNonneg first,
      client.getHistoricalPrices_of_serves externals serves secondRequests limit
        pageSizePos (by omega) second,
      client.getHistoricalPrices_of_serves externals serves requests limit
        pageSizePos startNonneg (by omega), ?_⟩
    rw [← history.inRange_append first.le (by omega : middle ≤ endTime)]
    exact Paging.dropLast_append_dropLast_iff

theorem CandleHistory.sample_serves (client : CandleClient) :
    CandleHistory.sample.Serves 1 client.publicApi "BTCUSDT" ._1m
      (CandleHistory.sample.wire 1 client.publicApi "BTCUSDT" ._1m) :=
  CandleHistory.sample.wire_serves 1 _ _ _ CandleHistory.sample_decodes

/-- While the second candle is running, a download that ends with it is complete. -/
theorem downloads_complete_sample :
    Loop.Ends
      (CandleClient.futures.getHistoricalPrices .plain
        (CandleHistory.sample.wire 1 "/fapi/v1/" "BTCUSDT" ._1m) 0 "BTCUSDT" ._1m 0
        90000 1)
      (.ok (CandleHistory.sample.candles.take 1)) :=
  ((downloads_complete_iff .futures .plain CandleHistory.sample 1 _ "BTCUSDT" ._1m 1
      100000 (by decide) (CandleHistory.sample_serves .futures)).1 0 0 90000
    (by decide) (by decide)).mpr (by decide)

/-- Long after the history has ended, a download still lacks the last of its three
candles; downloaded in two parts, the history lacks another. -/
theorem downloads_incomplete_sample :
    ¬Loop.Ends
      (CandleClient.futures.getHistoricalPrices .plain
        (CandleHistory.sample.wire 1 "/fapi/v1/" "BTCUSDT" ._1m) 0 "BTCUSDT" ._1m 0
        200000 1)
      (.ok (CandleHistory.sample.completeInRange 0 200000 1000000)) ∧
    Loop.Ends
      (CandleClient.spot.getHistoricalPrices .plain
        (CandleHistory.sample.wire 1 "/api/v3/" "BTCUSDT" ._1m) 0 "BTCUSDT" ._1m 0
        90000 1)
      (.ok (CandleHistory.sample.candles.take 1)) ∧
    Loop.Ends
      (CandleClient.spot.getHistoricalPrices .plain
        (CandleHistory.sample.wire 1 "/api/v3/" "BTCUSDT" ._1m) 0 "BTCUSDT" ._1m 90001
        200000 1)
      (.ok []) ∧
    Loop.Ends
      (CandleClient.spot.getHistoricalPrices .plain
        (CandleHistory.sample.wire 1 "/api/v3/" "BTCUSDT" ._1m) 0 "BTCUSDT" ._1m 0
        200000 1)
      (.ok (CandleHistory.sample.candles.take 2)) := by
  refine ⟨?_, ?_, ?_, ?_⟩
  · intro complete
    have downloaded := CandleClient.futures.getHistoricalPrices_of_serves .plain
      (CandleHistory.sample_serves .futures) 0 1 Nat.one_pos
      (by decide : (0 : Int) ≤ 0) (by decide : (0 : Int) < 200000)
    have same := Except.ok.inj (downloaded.unique complete)
    exact absurd same (by decide +kernel)
  · exact CandleClient.spot.getHistoricalPrices_of_serves .plain
      (CandleHistory.sample_serves .spot) 0 1 Nat.one_pos (by decide) (by decide)
  · exact CandleClient.spot.getHistoricalPrices_of_serves .plain
      (CandleHistory.sample_serves .spot) 0 1 Nat.one_pos (by decide) (by decide)
  · exact CandleClient.spot.getHistoricalPrices_of_serves .plain
      (CandleHistory.sample_serves .spot) 0 1 Nat.one_pos (by decide) (by decide)

end BinanceApi
