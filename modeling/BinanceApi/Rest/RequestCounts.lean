import BinanceApi.Rest.CatchUp
import BinanceApi.Rest.Statistics

/-!
# How many requests a download makes

The exchange counts requests against a limit.  Against the endpoint of a history the
number of page requests of a download is a function of the range: candles take a request
for every page that they fill, and one that comes back empty if the last candle closes
before the end of the range; statistics always take the empty one.
-/

namespace BinanceApi

open Loop (Turn)
open Paging (pageCount)

/-! ## Candles -/

namespace CandleHistory

/-- The page requests that the candles of a range take. -/
def requestCount (history : CandleHistory) (pageSize : Nat) (startTime endTime : Int) :
    Nat :=
  match (history.inRange startTime endTime).getLast? with
  | none => 1
  | some last =>
      pageCount pageSize (history.inRange startTime endTime).length +
        if last.closeTime < endTime then 1 else 0

theorem requestCount_of_none (history : CandleHistory) {pageSize : Nat}
    {startTime endTime : Int} (none : history.inRange startTime endTime = []) :
    history.requestCount pageSize startTime endTime = 1 := by
  simp [requestCount, none]

/-- A page that closes before the end of the range leaves the requests of the rest. -/
theorem requestCount_of_before (history : CandleHistory) {pageSize : Nat}
    {startTime endTime : Int} {front back : List Candle} {last : Candle}
    (pageSizePos : 1 ≤ pageSize)
    (page : (history.inRange startTime endTime).take pageSize = front ++ [last])
    (rest : (history.inRange startTime endTime).drop pageSize = back)
    (before : last.closeTime < endTime) :
    history.requestCount pageSize startTime endTime =
      history.requestCount pageSize last.closeTime endTime + 1 := by
  have split : history.inRange startTime endTime = front ++ [last] ++ back := by
    rw [← page, ← rest, List.take_append_drop]
  have remaining := history.inRange_closeTime split
  have backLength : back.length =
      (history.inRange startTime endTime).length - pageSize := by
    rw [← rest, List.length_drop]
  have some : 1 ≤ (history.inRange startTime endTime).length := by
    rw [split, List.length_append, List.length_append, List.length_singleton]
    omega
  have counted := Paging.pageCount_of_pos pageSizePos some
  simp only [requestCount, remaining]
  rcases List.eq_nil_or_concat' back with rfl | ⟨middle, final, rfl⟩
  · rw [List.append_nil] at split
    rw [counted, ← backLength, List.length_nil, Paging.pageCount_zero pageSizePos]
    simp [split, before]
  · rw [counted, ← backLength]
    rw [← List.append_assoc] at split
    simp only [split, List.getLast?_concat]
    omega

/-- A page that closes at the end of the range or later is the last one. -/
theorem requestCount_of_after (history : CandleHistory) {pageSize : Nat}
    {startTime endTime : Int} {front back : List Candle} {last : Candle}
    (pageSizePos : 1 ≤ pageSize)
    (page : (history.inRange startTime endTime).take pageSize = front ++ [last])
    (rest : (history.inRange startTime endTime).drop pageSize = back)
    (after : endTime ≤ last.closeTime) :
    history.requestCount pageSize startTime endTime = 1 := by
  have split : history.inRange startTime endTime = front ++ [last] ++ back := by
    rw [← page, ← rest, List.take_append_drop]
  have none := history.inRange_closeTime_of_ge split after
  have short : (history.inRange startTime endTime).length - pageSize = 0 := by
    rw [← List.length_drop, rest, none, List.length_nil]
  have some : 1 ≤ (history.inRange startTime endTime).length := by
    rw [split, List.length_append, List.length_append, List.length_singleton]
    omega
  have counted := Paging.pageCount_of_pos pageSizePos some
  rw [short, Paging.pageCount_zero pageSizePos] at counted
  rw [none, List.append_nil] at split
  simp only [requestCount, split, List.getLast?_concat] at counted ⊢
  rw [counted, if_neg (not_lt.mpr after)]

end CandleHistory

namespace RESTClient

/-- A candle download leaves its loop with a result after so many page requests. -/
def CandlesTake (page : Nat → Int → Evaluates (List Candle)) (requests : Nat)
    (startTime endTime : Int) (count : Nat) (result : Evaluates (List Candle)) : Prop :=
  ∃ candles made last, fetch page requests startTime endTime = .ok (candles, made) ∧
    Loop.Leaves (CandleDownload.body page endTime)
      { retVal := [], lastFromTime := startTime, candles, requests := made } last result ∧
    last.requests = requests + count

section Candles

variable {history : CandleHistory} {pageSize : Nat} {startTime endTime : Int}
  {page : Nat → Int → Evaluates (List Candle)}

/-- The requests made and those to come, one of which fetched the page at hand. -/
def CandleDownload.Counts (history : CandleHistory) (pageSize total : Nat)
    (endTime : Int) (state : CandleDownload) : Prop :=
  state.requests + history.requestCount pageSize state.lastFromTime endTime = total + 1

variable (pages : ∀ n fromTime, 0 ≤ fromTime → fromTime < endTime →
  page n fromTime = .ok ((history.inRange fromTime endTime).take pageSize))

include pages

theorem CandleDownload.counts_again {total : Nat} (pageSizePos : 1 ≤ pageSize)
    {state next : CandleDownload} (inv : Inv history pageSize startTime endTime state)
    (counts : Counts history pageSize total endTime state)
    (turn : body page endTime state = .again next) :
    Counts history pageSize total endTime next := by
  rcases inv with ⟨-, candlesEq, fromNonneg⟩
  simp only [body] at turn
  cases lastEq : state.candles.getLast? with
  | none => simp [lastEq] at turn
  | some last =>
      simp only [lastEq] at turn
      rcases List.getLast?_eq_some_iff.mp lastEq with ⟨front, frontEq⟩
      rw [frontEq] at candlesEq
      have inside : last ∈ history.inRange state.lastFromTime endTime := by
        apply List.mem_of_mem_take (i := pageSize)
        rw [← candlesEq]
        simp
      have closeNonneg := history.closeTime_nonneg_of_mem_inRange fromNonneg inside
      rw [Counts] at counts ⊢
      by_cases before : last.closeTime < endTime
      · rw [fetch_of_lt before (pages _ _ closeNonneg before), Turn.again.injEq] at turn
        rw [history.requestCount_of_before pageSizePos candlesEq.symm rfl before] at counts
        subst turn
        change state.requests + 1 + history.requestCount pageSize last.closeTime endTime = _
        omega
      · have after := not_lt.mp before
        rw [fetch_of_ge after, Turn.again.injEq] at turn
        rw [history.requestCount_of_after pageSizePos candlesEq.symm rfl after] at counts
        subst turn
        have split := List.take_append_drop pageSize
          (history.inRange state.lastFromTime endTime)
        rw [← candlesEq] at split
        have none := history.inRange_closeTime_of_ge split.symm after
        have remaining := history.inRange_closeTime split.symm
        rw [none] at remaining
        change state.requests + history.requestCount pageSize last.closeTime endTime = _
        rw [history.requestCount_of_none remaining]
        exact counts

/-- The loop leaves when nothing is left to ask for. -/
theorem CandleDownload.counts_leave {total : Nat} (pageSizePos : 1 ≤ pageSize)
    {state : CandleDownload} {result : Evaluates (List Candle)}
    (inv : Inv history pageSize startTime endTime state)
    (counts : Counts history pageSize total endTime state)
    (turn : body page endTime state = .leave result) : state.requests = total := by
  rcases inv with ⟨-, candlesEq, fromNonneg⟩
  simp only [body] at turn
  cases lastEq : state.candles.getLast? with
  | none =>
      have empty := candlesEq.symm.trans (List.getLast?_eq_none_iff.mp lastEq)
      have exhausted : history.inRange state.lastFromTime endTime = [] := by
        rcases List.take_eq_nil_iff.mp empty with none | none
        · omega
        · exact none
      rw [Counts, history.requestCount_of_none exhausted] at counts
      exact Nat.succ.inj counts
  | some last =>
      simp only [lastEq] at turn
      have inside : last ∈ history.inRange state.lastFromTime endTime := by
        apply List.mem_of_mem_take
        rw [← candlesEq]
        exact List.mem_of_getLast? lastEq
      have closeNonneg := history.closeTime_nonneg_of_mem_inRange fromNonneg inside
      by_cases before : last.closeTime < endTime
      · rw [fetch_of_lt before (pages _ _ closeNonneg before)] at turn
        cases turn
      · rw [fetch_of_ge (not_lt.mp before)] at turn
        cases turn

theorem candlesTake_of_pages (pageSizePos : 1 ≤ pageSize) (startNonneg : 0 ≤ startTime)
    (before : startTime < endTime) (requests : Nat) :
    CandlesTake page requests startTime endTime
      (history.requestCount pageSize startTime endTime)
      (.ok (history.inRange startTime endTime).dropLast) := by
  rcases CandleDownload.inv_start pages startNonneg before requests with
    ⟨candles, first, inv⟩
  have ends := downloadCandles_of_pages pages pageSizePos startNonneg before requests
  unfold downloadCandles at ends
  simp only [first] at ends
  rcases ends.returns.leaves with ⟨last, leaves⟩
  refine ⟨candles, requests + 1, last, first, leaves, ?_⟩
  have counts : CandleDownload.Counts history pageSize
      (requests + history.requestCount pageSize startTime endTime) endTime
      { retVal := [], lastFromTime := startTime, candles, requests := requests + 1 } :=
    Nat.add_right_comm requests 1 _
  have kept := leaves.reached.inv
    (fun state => CandleDownload.Inv history pageSize startTime endTime state ∧
      CandleDownload.Counts history pageSize
        (requests + history.requestCount pageSize startTime endTime) endTime state)
    (fun state next both turn =>
      ⟨(CandleDownload.inv_again pages both.1 turn).1,
        CandleDownload.counts_again pages pageSizePos both.1 both.2 turn⟩)
    ⟨inv, counts⟩
  exact CandleDownload.counts_leave pages pageSizePos kept.1 kept.2 leaves.turn

end Candles

end RESTClient

theorem CandleClient.page_of_serves (client : CandleClient) (externals : Externals)
    {history : CandleHistory} {pageSize : Nat} {wire : Wire} {symbol : String}
    {interval : CandleInterval} {endTime : Int} (limit : Int)
    (serves : history.Serves pageSize client.publicApi symbol interval wire) (n : Nat)
    {fromTime : Int} (fromNonneg : 0 ≤ fromTime) (before : fromTime < endTime) :
    client.page externals wire symbol interval endTime limit n fromTime =
      .ok ((history.inRange fromTime endTime).take pageSize) := by
  cases client with
  | futures | spot =>
      apply RESTClient.P.getHistoricalPrices_of_serves externals serves n limit
      · omega
      · omega

/-- Against the endpoint of a history a download of either client takes one request for
every page that the candles of its range fill, and one more if there is none or the last
of them closes before the end of the range. -/
theorem candle_requests_exact (client : CandleClient) (externals : Externals)
    (history : CandleHistory) (pageSize : Nat) (wire : Wire) (requests : Nat)
    (symbol : String) (interval : CandleInterval) (startTime endTime limit : Int)
    (pageSizePos : 1 ≤ pageSize) (startNonneg : 0 ≤ startTime)
    (before : startTime < endTime)
    (serves : history.Serves pageSize client.publicApi symbol interval wire) :
    RESTClient.CandlesTake (client.page externals wire symbol interval endTime limit)
      requests startTime endTime (history.requestCount pageSize startTime endTime)
      (.ok (history.inRange startTime endTime).dropLast) := by
  apply RESTClient.candlesTake_of_pages _ pageSizePos startNonneg before
  intro n fromTime fromNonneg inside
  exact client.page_of_serves externals limit serves n fromNonneg inside

/-- The three candles of the sample, one to a page, take four requests to the spot
market: the last one closes before the end of the range. -/
theorem candle_requests_sample :
    RESTClient.CandlesTake
      (CandleClient.spot.page .plain (CandleHistory.sample.wire 1 "/api/v3/" "BTCUSDT" ._1m)
        "BTCUSDT" ._1m 300000 1) 0 0 300000 4 (.ok (CandleHistory.sample.candles.take 2)) :=
  candle_requests_exact .spot .plain CandleHistory.sample 1 _ 0 "BTCUSDT" ._1m 0 300000 1
    (by decide) (by decide) (by decide) (CandleHistory.sample_serves .spot)

/-! ## Statistics -/

namespace Futures

namespace RESTClient

/-- A statistics download leaves its loop with a result after so many page requests. -/
def StatisticsTake {α : Type} (timestamp : α → Int) (page : Nat → Int → List α)
    (requests : Nat) (startTime : Int) (count : Nat) (result : List α) : Prop :=
  ∃ last, Loop.Leaves (StatisticsDownload.body timestamp page)
      { retVal := [], startTime, statistics := page requests startTime,
        requests := requests + 1 } last result ∧
    last.requests = requests + count

section Statistics

variable {α : Type} {timestamp : α → Int} {history : StatisticsHistory timestamp}
  {size first : Nat} {faults : Faults α} {startTime : Int}
  {page : Nat → Int → List α}

/-- What a download has kept is part of the history, in its order, and is newer than what
it asks for.  Each request but the first follows a page with a record. -/
structure StatisticsDownload.Kept (history : StatisticsHistory timestamp) (first : Nat)
    (startTime : Int) (state : StatisticsDownload α) : Prop where
  bound : state.startTime ≤ startTime
  retVal : state.retVal.Sublist (history.records.filter fun record =>
    state.startTime + 1 ≤ timestamp record ∧ timestamp record ≤ startTime)
  statistics : state.statistics.Sublist (history.upTo state.startTime)
  requests : state.requests ≤ first + state.retVal.length + 1

theorem Faults.decoded_sublist (faults : Faults α) (n : Nat) (records : List α) :
    (faults.decoded n records).Sublist records := by
  simp only [Faults.decoded]
  split
  · exact List.nil_sublist _
  · exact List.takeWhile_sublist _

variable (pages : ∀ n endTime, endTime ≠ -1 →
  page n endTime = faults.decoded n ((history.upTo endTime).rtake size))

include pages

theorem page_sublist (n : Nat) {endTime : Int} (endSet : endTime ≠ -1) :
    (page n endTime).Sublist (history.upTo endTime) := by
  rw [pages n endTime endSet]
  exact (Faults.decoded_sublist faults n _).trans (List.drop_sublist _ _)

theorem StatisticsDownload.kept_next {state next : StatisticsDownload α}
    (kept : Kept history first startTime state)
    (turn : body timestamp page state = .again next) :
    Kept history first startTime next := by
  simp only [body] at turn
  split at turn
  · cases turn
  next front head =>
    cases turn
    rcases List.head?_eq_some_iff.mp head with ⟨rest, readEq⟩
    have frontMem : front ∈ history.upTo state.startTime :=
      kept.statistics.subset (List.mem_of_mem_head? head)
    rcases history.mem_upTo_iff.mp frontMem with ⟨recorded, asked⟩
    have positive := history.positive front recorded
    have increasing : Paging.Increasing timestamp state.statistics :=
      history.increasing.sublist (kept.statistics.trans List.filter_sublist)
    -- a page holds nothing older than its first record
    have pageKept : state.statistics.Sublist (history.records.filter fun record =>
        timestamp front ≤ timestamp record ∧ timestamp record ≤ state.startTime) := by
      have all : state.statistics.filter (fun record => timestamp front ≤ timestamp record) =
          state.statistics := by
        rw [readEq] at increasing ⊢
        apply List.filter_eq_self.mpr
        intro record membership
        rcases List.mem_cons.mp membership with rfl | later
        · simp
        · simpa using ((List.pairwise_cons.mp increasing).1 record later).le
      rw [← all]
      have filtered := kept.statistics.filter
        (fun record => decide (timestamp front ≤ timestamp record))
      simpa [StatisticsHistory.upTo, List.filter_filter, Bool.and_comm] using filtered
    have joined := history.increasing.ordered.filter_between_append
      (by omega : timestamp front ≤ state.startTime + 1) kept.bound
    constructor
    case bound =>
      change timestamp front - 1 ≤ startTime
      have bound := kept.bound
      omega
    case retVal =>
      simp only [Int.sub_add_cancel]
      rw [← joined]
      exact pageKept.append kept.retVal
    case statistics => exact page_sublist pages _ (by omega)
    case requests =>
      have requests := kept.requests
      simp only [List.length_append, readEq, List.length_cons]
      omega

theorem StatisticsDownload.kept_start (startSet : startTime ≠ -1) :
    Kept history first startTime
      { retVal := [], startTime, statistics := page first startTime,
        requests := first + 1 } where
  bound := Int.le_refl _
  retVal := List.nil_sublist _
  statistics := page_sublist pages first startSet
  requests := Nat.le_refl _

/-- The requests made and those to come, when nothing fails. -/
def StatisticsDownload.Counts (history : StatisticsHistory timestamp) (size total : Nat)
    (state : StatisticsDownload α) : Prop :=
  state.statistics = (history.upTo state.startTime).rtake size ∧
    state.requests + pageCount size (history.upTo state.startTime).length = total

theorem StatisticsDownload.counts_next {total : Nat} (sizePos : 1 ≤ size)
    (spared : ∀ n records, faults.Spares n records) {state next : StatisticsDownload α}
    (counts : Counts history size total state)
    (turn : body timestamp page state = .again next) :
    Counts history size total next := by
  rcases counts with ⟨statisticsEq, total⟩
  simp only [body] at turn
  split at turn
  · cases turn
  next front head =>
    cases turn
    rcases List.head?_eq_some_iff.mp head with ⟨rest, readEq⟩
    have split := Paging.rdrop_append_rtake (history.upTo state.startTime) size
    rw [← statisticsEq, readEq] at split
    have older := history.upTo_before split.symm
    have lengths := congrArg List.length split
    have recorded : front ∈ history.records := by
      have membership : front ∈ history.upTo state.startTime := by
        rw [← split]
        simp
      exact (history.mem_upTo_iff.mp membership).1
    have positive := history.positive front recorded
    have some : 1 ≤ (history.upTo state.startTime).length := by
      rw [← lengths, List.length_append, List.length_cons]
      omega
    rw [Paging.pageCount_of_pos sizePos some] at total
    constructor
    · change page _ (timestamp front - 1) = (history.upTo (timestamp front - 1)).rtake size
      rw [pages _ _ (by omega)]
      exact (spared _ _).decoded
    · change state.requests + 1 +
        pageCount size (history.upTo (timestamp front - 1)).length = _
      rw [older, List.rdrop, List.length_take, Nat.min_eq_left (Nat.sub_le _ _)]
      omega

omit pages in
/-- The loop leaves when nothing is left to ask for. -/
theorem StatisticsDownload.counts_leave {total : Nat} (sizePos : 1 ≤ size)
    {state : StatisticsDownload α} (counts : Counts history size total state)
    (finished : state.statistics = []) : state.requests = total := by
  rcases counts with ⟨statisticsEq, total⟩
  have none : (history.upTo state.startTime).length = 0 := by
    have short := List.drop_eq_nil_iff.mp (statisticsEq.symm.trans finished)
    omega
  rw [none, Paging.pageCount_zero sizePos] at total
  exact total

/-- What a download keeps is part of the history, in order and without repetition, and
takes one request more than the pages with a record, of which there are no more than
records kept. -/
theorem statisticsTake_of_pages (startSet : startTime ≠ -1) (requests : Nat)
    {result : List α}
    (ends : Loop.Ends (downloadStatistics timestamp page requests startTime) result) :
    ∃ count, StatisticsTake timestamp page requests startTime count result ∧
      result.Sublist (history.upTo startTime) ∧ count ≤ result.length + 1 ∧
      (1 ≤ size → (∀ n records, faults.Spares n records) →
        count = pageCount size (history.upTo startTime).length + 1) := by
  rcases ends.returns.leaves with ⟨last, leaves⟩
  have kept := leaves.reached.inv (StatisticsDownload.Kept history requests startTime)
    (fun _ _ kept turn => StatisticsDownload.kept_next pages kept turn)
    (StatisticsDownload.kept_start pages startSet)
  have more : requests + 1 ≤ last.requests := by
    apply leaves.reached.inv (fun state => requests + 1 ≤ state.requests)
    case initial => exact Nat.le_refl _
    case again =>
      intro state next above turn
      simp only [StatisticsDownload.body] at turn
      split at turn
      · cases turn
      · cases turn
        exact Nat.le_succ_of_le above
  have turn := leaves.turn
  simp only [StatisticsDownload.body] at turn
  split at turn
  next finished =>
    cases turn
    have bounded := kept.requests
    refine ⟨last.requests - requests, ⟨last, leaves, by omega⟩, ?_, by omega, ?_⟩
    · apply kept.retVal.trans
      apply List.monotone_filter_right
      intro record inside
      simp only [decide_eq_true_eq] at inside ⊢
      exact inside.2
    · intro sizePos spared
      have initial : StatisticsDownload.Counts history size
          (requests + 1 + pageCount size (history.upTo startTime).length)
          { retVal := [], startTime, statistics := page requests startTime,
            requests := requests + 1 } := by
        refine ⟨?_, rfl⟩
        change page requests startTime = _
        rw [pages _ _ startSet]
        exact (spared _ _).decoded
      have counts := leaves.reached.inv (StatisticsDownload.Counts history size _)
        (fun _ _ counts turn =>
          StatisticsDownload.counts_next pages sizePos spared counts turn) initial
      have total := StatisticsDownload.counts_leave sizePos counts
        (List.head?_eq_none_iff.mp finished)
      omega
  · cases turn

end Statistics

end RESTClient

variable {statistic : Statistic}

/-- Whatever fails, a download of statistics returns records of the exchange, in order
and none twice, and makes at most one request more than it returns records.  Without
failures it takes one request for every page, and one that comes back empty. -/
theorem statistics_faithful (externals : Externals)
    (history : StatisticsHistory statistic.timestamp) (size requests : Nat)
    (faults : Faults statistic.Record) (symbol : String) (period : StatisticsPeriod)
    (startTime : Int) (wire : Wire)
    (serves : history.Serves size faults symbol period externals wire)
    (startSet : startTime ≠ -1) :
    ∃ count result,
      Loop.Ends
        (statistic.download externals (.futures wire) requests symbol period startTime)
        result ∧
      RESTClient.StatisticsTake statistic.timestamp
        (fun n endTime => RESTClient.P.statisticsPage statistic.path
          (statistic.fromJson externals) externals (.futures wire) n symbol period
          (-1) endTime 500)
        requests startTime count result ∧
      result.Sublist (history.upTo startTime) ∧ count ≤ result.length + 1 ∧
      (1 ≤ size → (∀ n records, faults.Spares n records) →
        count = pageCount size (history.upTo startTime).length + 1) := by
  have pages : ∀ n endTime, endTime ≠ -1 →
      RESTClient.P.statisticsPage statistic.path (statistic.fromJson externals)
        externals (.futures wire) n symbol period (-1) endTime 500 =
      faults.decoded n ((history.upTo endTime).rtake size) :=
    fun n _ endSet => RESTClient.P.statisticsPage_of_serves serves n endSet
  rcases RESTClient.downloadStatistics_ends pages startSet requests with ⟨result, ends⟩
  rcases RESTClient.statisticsTake_of_pages pages startSet requests ends with
    ⟨count, takes, rest⟩
  have same := funext
    (statistic.download_eq externals (.futures wire) requests symbol period startTime)
  exact ⟨count, result, same ▸ ends, takes, rest⟩

/-- The newest volume is lost to a failure, and three requests are made for the other
two at most. -/
theorem statistics_faithful_sample :
    ∃ count result,
      Loop.Ends
        (Statistic.buySellVolume.download .plain
          (.futures (StatisticsHistory.sample.wire 2 StatisticsHistory.sampleFaults
            "BTCUSDT" ._1h StatisticsHistory.row StatisticsHistory.brokenRow))
          0 "BTCUSDT" ._1h 10800000)
        result ∧
      RESTClient.StatisticsTake BuySellVolume.timestamp
        (fun n endTime => RESTClient.P.statisticsPage
          Statistic.buySellVolume.path (Statistic.buySellVolume.fromJson .plain) .plain
          (.futures (StatisticsHistory.sample.wire 2 StatisticsHistory.sampleFaults
            "BTCUSDT" ._1h StatisticsHistory.row StatisticsHistory.brokenRow))
          n "BTCUSDT" ._1h (-1) endTime 500)
        0 10800000 count result ∧
      result.Sublist (StatisticsHistory.sample.upTo 10800000) ∧
      count ≤ result.length + 1 ∧
      (1 ≤ 2 → (∀ n records, StatisticsHistory.sampleFaults.Spares n records) →
        count = pageCount 2 (StatisticsHistory.sample.upTo 10800000).length + 1) :=
  statistics_faithful .plain .sample 2 0 StatisticsHistory.sampleFaults "BTCUSDT" ._1h
    10800000 _
    (StatisticsHistory.sample.wire_serves 2 StatisticsHistory.sampleFaults "BTCUSDT" ._1h
      StatisticsHistory.sample_decodes StatisticsHistory.brokenRow_throws)
    (by decide)

end Futures

end BinanceApi
