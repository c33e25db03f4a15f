import Mathlib
import BinanceApi.Http
import BinanceApi.Library.Loop
import BinanceApi.Library.Paging

/-!
# Candle download

The futures and the spot client download candles with the same code: a page
function that asks for the candles from a start time on, and a loop that restarts
each page at the close time of the last candle received.  The loop is stated over
an arbitrary page function, the clients instantiate it with their own sessions.

The exchange's side is a candle history in which every candle ends before the
next one begins.
-/

namespace BinanceApi

open Loop (Turn)

namespace RESTClient

/-- Target of a candle request.  A time or a limit of `-1` is not sent. -/
def klinesTarget (symbol : String) (interval : CandleInterval)
    (startTime endTime limit : Int) : Target :=
  Target.mk "klines?" [("symbol", symbol), ("interval", interval.wireName)]
    |>.appendIf (startTime ≠ -1) "startTime" startTime.repr
    |>.appendIf (endTime ≠ -1) "endTime" endTime.repr
    |>.appendIf (limit ≠ -1) "limit" limit.repr

/-- `P::getHistoricalPrices`: one page of candles. -/
def P.getHistoricalPrices (externals : Externals) (session : HTTPSession) (n : Nat)
    (symbol : String) (interval : CandleInterval) (startTime endTime limit : Int) :
    Evaluates (List Candle) := do
  let response ←
    (session.get n (klinesTarget symbol interval startTime endTime limit) true).lift
  let response ← (checkResponse externals response).lift
  CandlesResponse.fromJson (← response.json.lift)

/-- Variables of the download loop, and the number of requests made so far. -/
structure CandleDownload where
  retVal : List Candle
  lastFromTime : Int
  candles : List Candle
  requests : Nat

/-- One turn of the `while (!candles.empty())` loop.  On leaving, the last candle
is removed as not complete yet. -/
def CandleDownload.body (page : Nat → Int → Evaluates (List Candle)) (endTime : Int)
    (state : CandleDownload) : Turn CandleDownload (Evaluates (List Candle)) :=
  match state.candles.getLast? with
  | none => .leave (.ok state.retVal.dropLast)
  | some last =>
      match fetch page state.requests last.closeTime endTime with
      | .error fault => .leave (.error fault)
      | .ok (candles, requests) =>
          .again {
            retVal := state.retVal ++ state.candles
            lastFromTime := last.closeTime
            candles
            requests }

/-- The download over an arbitrary page function, within `fuel` turns. -/
def downloadCandles (page : Nat → Int → Evaluates (List Candle)) (requests : Nat)
    (startTime endTime : Int) (fuel : Nat) : Option (Evaluates (List Candle)) :=
  match fetch page requests startTime endTime with
  | .error fault => some (.error fault)
  | .ok (candles, requests) =>
      Loop.run (CandleDownload.body page endTime) fuel
        { retVal := [], lastFromTime := startTime, candles, requests }

end RESTClient

/-- `futures::RESTClient::getHistoricalPrices`, starting with the given number of
requests already made on the session. -/
def Futures.RESTClient.getHistoricalPrices (externals : Externals)
    (session : HTTPSession) (requests : Nat) (symbol : String)
    (interval : CandleInterval) (startTime endTime limit : Int) (fuel : Nat) :
    Option (Evaluates (List Candle)) :=
  RESTClient.downloadCandles
    (fun n lastFromTime => RESTClient.P.getHistoricalPrices externals session n
      symbol interval lastFromTime endTime limit)
    requests startTime endTime fuel

/-- `spot::RESTClient::getHistoricalPrices`. -/
def Spot.RESTClient.getHistoricalPrices (externals : Externals)
    (session : HTTPSession) (requests : Nat) (symbol : String)
    (interval : CandleInterval) (startTime endTime limit : Int) (fuel : Nat) :
    Option (Evaluates (List Candle)) :=
  RESTClient.downloadCandles
    (fun n lastFromTime => RESTClient.P.getHistoricalPrices externals session n
      symbol interval lastFromTime endTime limit)
    requests startTime endTime fuel

/-! ## The exchange's side -/

/-- A finite candle history: every candle has a positive duration and ends
before the next one begins.  Gaps are allowed. -/
structure CandleHistory where
  candles : List Candle
  consecutive : Paging.Consecutive Candle.openTime Candle.closeTime candles

namespace CandleHistory

/-- The candles that open in a closed range of times. -/
def inRange (history : CandleHistory) (startTime endTime : Int) : List Candle :=
  history.candles.filter fun candle =>
    startTime ≤ candle.openTime ∧ candle.openTime ≤ endTime

theorem mem_inRange_iff (history : CandleHistory) {startTime endTime : Int}
    {candle : Candle} :
    candle ∈ history.inRange startTime endTime ↔
      candle ∈ history.candles ∧
        startTime ≤ candle.openTime ∧ candle.openTime ≤ endTime := by
  simp [inRange]

theorem inRange_consecutive (history : CandleHistory) (startTime endTime : Int) :
    Paging.Consecutive Candle.openTime Candle.closeTime
      (history.inRange startTime endTime) :=
  history.consecutive.sublist List.filter_sublist

/-- A candle of a range that starts at or after zero closes after zero. -/
theorem closeTime_nonneg_of_mem_inRange (history : CandleHistory)
    {startTime endTime : Int} {candle : Candle} (startNonneg : 0 ≤ startTime)
    (inside : candle ∈ history.inRange startTime endTime) : 0 ≤ candle.closeTime := by
  rcases history.mem_inRange_iff.mp inside with ⟨recorded, opens, _⟩
  have positive := history.consecutive.1 candle recorded
  omega

/-- A range continued at the close of a candle in it is what follows that
candle. -/
theorem inRange_closeTime (history : CandleHistory) {startTime endTime : Int}
    {front back : List Candle} {last : Candle}
    (split : history.inRange startTime endTime = front ++ [last] ++ back) :
    history.inRange last.closeTime endTime = back := by
  have consecutive := history.inRange_consecutive startTime endTime
  have lastMem : last ∈ history.inRange startTime endTime := by simp [split]
  have lastStart := (history.mem_inRange_iff.mp lastMem).2.1
  have lastPositive := consecutive.1 last lastMem
  have narrowed : history.inRange last.closeTime endTime =
      (history.inRange startTime endTime).filter
        fun candle => last.closeTime ≤ candle.openTime := by
    simp only [inRange, List.filter_filter]
    apply List.filter_congr
    intro candle _
    grind
  rw [split] at consecutive
  rw [narrowed, split]
  exact consecutive.filter_stop_le

/-- Nothing follows a candle of a range that closes at or after its end. -/
theorem inRange_closeTime_of_ge (history : CandleHistory) {startTime endTime : Int}
    {front back : List Candle} {last : Candle}
    (split : history.inRange startTime endTime = front ++ [last] ++ back)
    (after : endTime ≤ last.closeTime) : back = [] := by
  apply List.eq_nil_iff_forall_not_mem.mpr
  intro candle membership
  have inside : candle ∈ history.inRange startTime endTime := by
    simp [split, membership]
  have opens := (history.mem_inRange_iff.mp inside).2.2
  have consecutive := history.inRange_consecutive startTime endTime
  rw [split] at consecutive
  have follows : last.closeTime < candle.openTime :=
    (List.pairwise_append.mp consecutive.2).2.2 last (by simp) candle membership
  omega

/-- The exchange's candle endpoint: a request for a range is answered with the
first `pageSize` candles that open in it, whatever limit it asks for. -/
def Serves (history : CandleHistory) (pageSize : Nat) (api symbol : String)
    (interval : CandleInterval) (wire : Wire) : Prop :=
  ∀ n request startTime endTime,
    request.verb = .get →
    request.api ++ request.target.path = api ++ "klines?" →
    request.param? "symbol" = some symbol →
    request.param? "interval" = some interval.wireName →
    request.param? "startTime" = some (Int.repr startTime) →
    request.param? "endTime" = some (Int.repr endTime) →
    ∃ json, wire n request = .ok ⟨httpOk, .ok json⟩ ∧
      CandlesResponse.fromJson json =
        .ok ((history.inRange startTime endTime).take pageSize)

/-- An exchange that serves a history: it reads the bounds of a candle request,
answers with rows, and rejects everything else. -/
def wire (history : CandleHistory) (pageSize : Nat) (api symbol : String)
    (interval : CandleInterval) : Wire := fun _ request =>
  if request.verb = .get ∧ request.api ++ request.target.path = api ++ "klines?" ∧
      request.param? "symbol" = some symbol ∧
      request.param? "interval" = some interval.wireName then
    match (request.param? "startTime").bind String.toInt?,
        (request.param? "endTime").bind String.toInt? with
    | some startTime, some endTime =>
        .ok ⟨httpOk, .ok (.array
          (((history.inRange startTime endTime).take pageSize).map Candle.toJson))⟩
    | _, _ => .error (.standard "bad request")
  else
    .error (.standard "bad request")

theorem wire_serves (history : CandleHistory) (pageSize : Nat) (api symbol : String)
    (interval : CandleInterval)
    (decodes : ∀ candle ∈ history.candles, Candle.fromJson candle.toJson = .ok candle) :
    history.Serves pageSize api symbol interval
      (history.wire pageSize api symbol interval) := by
  intro n request startTime endTime isGet path symbolSent intervalSent startSent endSent
  refine ⟨_, ?_, CandlesResponse.fromJson_rows ?_⟩
  · simp [wire, isGet, path, symbolSent, intervalSent, startSent, endSent]
  · intro candle membership
    apply decodes
    exact (history.mem_inRange_iff.mp (List.mem_of_mem_take membership)).1

end CandleHistory

namespace RESTClient

/-- Against the endpoint of a history, a page request with both bounds set
returns the page the endpoint answers with. -/
theorem P.getHistoricalPrices_of_serves {history : CandleHistory} {pageSize : Nat}
    {session : HTTPSession} {symbol : String} {interval : CandleInterval}
    (externals : Externals)
    (serves : history.Serves pageSize session.publicApi symbol interval session.wire)
    (n : Nat) {startTime endTime : Int} (limit : Int)
    (startSet : startTime ≠ -1) (endSet : endTime ≠ -1) :
    P.getHistoricalPrices externals session n symbol interval startTime endTime limit =
      .ok ((history.inRange startTime endTime).take pageSize) := by
  have answered := serves n
    { verb := .get, api := session.publicApi,
      target := klinesTarget symbol interval startTime endTime limit, isPublic := true }
    startTime endTime rfl (by simp [klinesTarget])
    (by simp [Request.param?, klinesTarget])
    (by simp [Request.param?, klinesTarget, List.lookup])
    (by simp [Request.param?, klinesTarget, List.lookup, startSet])
    (by simp [Request.param?, klinesTarget, List.lookup, startSet, endSet])
  rcases answered with ⟨json, answer, decoded⟩
  simp [P.getHistoricalPrices, HTTPSession.get, HTTPSession.request, answer, decoded,
    bind, Except.bind]

/-- What the download loop maintains: the candles kept so far and those still in
range from the current start time on make up the range asked for, and the
candles at hand are the next page of the latter. -/
def CandleDownload.Inv (history : CandleHistory) (pageSize : Nat)
    (startTime endTime : Int) (state : CandleDownload) : Prop :=
  state.retVal ++ history.inRange state.lastFromTime endTime =
      history.inRange startTime endTime ∧
    state.candles = (history.inRange state.lastFromTime endTime).take pageSize ∧
    0 ≤ state.lastFromTime

section Download

variable {history : CandleHistory} {pageSize : Nat} {startTime endTime : Int}
  {page : Nat → Int → Evaluates (List Candle)}

variable (pages : ∀ n fromTime, 0 ≤ fromTime → fromTime < endTime →
  page n fromTime = .ok ((history.inRange fromTime endTime).take pageSize))

include pages

/-- The first page establishes the invariant. -/
theorem CandleDownload.inv_start
    (startNonneg : 0 ≤ startTime) (before : startTime < endTime) (requests : Nat) :
    ∃ candles, fetch page requests startTime endTime = .ok (candles, requests + 1) ∧
      Inv history pageSize startTime endTime
        { retVal := [], lastFromTime := startTime, candles, requests := requests + 1 } :=
  ⟨_, fetch_of_lt before (pages requests startTime startNonneg before),
    rfl, rfl, startNonneg⟩

/-- A turn with a nonempty page keeps the invariant and leaves fewer candles in
range. -/
theorem CandleDownload.inv_again
    {state next : CandleDownload} (inv : Inv history pageSize startTime endTime state)
    (turn : body page endTime state = .again next) :
    Inv history pageSize startTime endTime next ∧
      (history.inRange next.lastFromTime endTime).length <
        (history.inRange state.lastFromTime endTime).length := by
  rcases inv with ⟨kept, candlesEq, fromNonneg⟩
  simp only [body] at turn
  cases lastEq : state.candles.getLast? with
  | none => simp [lastEq] at turn
  | some last =>
      simp only [lastEq] at turn
      rcases List.getLast?_eq_some_iff.mp lastEq with ⟨front, frontEq⟩
      have split : history.inRange state.lastFromTime endTime =
          front ++ [last] ++
            (history.inRange state.lastFromTime endTime).drop pageSize := by
        rw [← frontEq, candlesEq, List.take_append_drop]
      have rest := history.inRange_closeTime split
      have inside : last ∈ history.inRange state.lastFromTime endTime := by
        rw [split]
        simp
      have closeNonneg :=
        history.closeTime_nonneg_of_mem_inRange fromNonneg inside
      have keptNext : (state.retVal ++ state.candles) ++
          history.inRange last.closeTime endTime =
            history.inRange startTime endTime := by
        rw [← kept, rest, candlesEq, List.append_assoc, List.take_append_drop]
      have shorter : (history.inRange last.closeTime endTime).length <
          (history.inRange state.lastFromTime endTime).length := by
        have lengths := congrArg List.length split
        simp only [List.length_append, List.length_singleton] at lengths
        rw [rest]
        omega
      by_cases before : last.closeTime < endTime
      · rw [fetch_of_lt before (pages _ _ closeNonneg before)] at turn
        simp only [Turn.again.injEq] at turn
        subst turn
        exact ⟨⟨keptNext, rfl, closeNonneg⟩, shorter⟩
      · have exhausted := history.inRange_closeTime_of_ge split (not_lt.mp before)
        rw [fetch_of_ge (not_lt.mp before)] at turn
        simp only [Turn.again.injEq] at turn
        subst turn
        exact ⟨⟨keptNext, by simp [rest, exhausted], closeNonneg⟩, shorter⟩

/-- The loop leaves with the whole range but its last candle. -/
theorem CandleDownload.inv_leave
    (pageSizePos : 0 < pageSize) {state : CandleDownload}
    {result : Evaluates (List Candle)}
    (inv : Inv history pageSize startTime endTime state)
    (turn : body page endTime state = .leave result) :
    result = .ok (history.inRange startTime endTime).dropLast := by
  rcases inv with ⟨kept, candlesEq, fromNonneg⟩
  simp only [body] at turn
  cases lastEq : state.candles.getLast? with
  | none =>
      simp only [lastEq, Turn.leave.injEq] at turn
      have empty : (history.inRange state.lastFromTime endTime).take pageSize = [] := by
        rw [← candlesEq]
        exact List.getLast?_eq_none_iff.mp lastEq
      have exhausted : history.inRange state.lastFromTime endTime = [] := by
        rcases List.take_eq_nil_iff.mp empty with none | none
        · omega
        · exact none
      rw [← turn, ← kept, exhausted, List.append_nil]
  | some last =>
      simp only [lastEq] at turn
      by_cases before : last.closeTime < endTime
      · have inside : last ∈ history.inRange state.lastFromTime endTime := by
          apply List.mem_of_mem_take
          rw [← candlesEq]
          exact List.mem_of_getLast? lastEq
        have closeNonneg :=
          history.closeTime_nonneg_of_mem_inRange fromNonneg inside
        rw [fetch_of_lt before (pages _ _ closeNonneg before)] at turn
        cases turn
      · rw [fetch_of_ge (not_lt.mp before)] at turn
        cases turn

/-- Over any page function that serves a history, the download ends with the
candles in range but the last one. -/
theorem downloadCandles_of_pages
    (pageSizePos : 0 < pageSize) (startNonneg : 0 ≤ startTime)
    (before : startTime < endTime) (requests : Nat) :
    Loop.Ends (downloadCandles page requests startTime endTime)
      (.ok (history.inRange startTime endTime).dropLast) := by
  rcases CandleDownload.inv_start pages startNonneg before requests with
    ⟨candles, first, inv⟩
  rcases Loop.returns_of_variant _ _
    (fun state : CandleDownload => (history.inRange state.lastFromTime endTime).length)
    (fun state next kept turn => CandleDownload.inv_again pages kept turn)
    (fun state result kept turn => CandleDownload.inv_leave pages pageSizePos kept turn)
    inv with ⟨result, returns, exact⟩
  have ends := returns.ends
  simp only [exact] at ends
  unfold downloadCandles
  simp only [first]
  exact ends

end Download

end RESTClient

section Clients

variable {history : CandleHistory} {pageSize : Nat} {wire : Wire} {symbol : String}
  {interval : CandleInterval}

theorem Futures.RESTClient.getHistoricalPrices_of_serves (externals : Externals)
    (serves : history.Serves pageSize "/fapi/v1/" symbol interval wire) (requests : Nat)
    {startTime endTime : Int} (limit : Int) (pageSizePos : 0 < pageSize)
    (startNonneg : 0 ≤ startTime) (before : startTime < endTime) :
    Loop.Ends
      (Futures.RESTClient.getHistoricalPrices externals (.futures wire) requests
        symbol interval startTime endTime limit)
      (.ok (history.inRange startTime endTime).dropLast) := by
  apply RESTClient.downloadCandles_of_pages _ pageSizePos startNonneg before
  intro n fromTime fromNonneg _
  apply RESTClient.P.getHistoricalPrices_of_serves externals serves n limit
  · omega
  · omega

theorem Spot.RESTClient.getHistoricalPrices_of_serves (externals : Externals)
    (serves : history.Serves pageSize "/api/v3/" symbol interval wire) (requests : Nat)
    {startTime endTime : Int} (limit : Int) (pageSizePos : 0 < pageSize)
    (startNonneg : 0 ≤ startTime) (before : startTime < endTime) :
    Loop.Ends
      (Spot.RESTClient.getHistoricalPrices externals (.spot wire) requests
        symbol interval startTime endTime limit)
      (.ok (history.inRange startTime endTime).dropLast) := by
  apply RESTClient.downloadCandles_of_pages _ pageSizePos startNonneg before
  intro n fromTime fromNonneg _
  apply RESTClient.P.getHistoricalPrices_of_serves externals serves n limit
  · omega
  · omega

end Clients

/-- Both clients download a history exactly, up to the one candle they drop:
every candle that opens in the range asked for, in order and once, without the
last one. -/
theorem getHistoricalPrices_exact (externals : Externals) (history : CandleHistory)
    (pageSize requests : Nat) (symbol : String) (interval : CandleInterval)
    (startTime endTime limit : Int) (pageSizePos : 1 ≤ pageSize)
    (startNonneg : 0 ≤ startTime) (before : startTime < endTime) :
    (∀ wire, history.Serves pageSize "/fapi/v1/" symbol interval wire →
      Loop.Ends
        (Futures.RESTClient.getHistoricalPrices externals (.futures wire) requests
          symbol interval startTime endTime limit)
        (.ok (history.inRange startTime endTime).dropLast)) ∧
    (∀ wire, history.Serves pageSize "/api/v3/" symbol interval wire →
      Loop.Ends
        (Spot.RESTClient.getHistoricalPrices externals (.spot wire) requests
          symbol interval startTime endTime limit)
        (.ok (history.inRange startTime endTime).dropLast)) := by
  constructor
  · intro wire serves
    exact Futures.RESTClient.getHistoricalPrices_of_serves externals serves requests limit
      pageSizePos startNonneg before
  · intro wire serves
    exact Spot.RESTClient.getHistoricalPrices_of_serves externals serves requests limit
      pageSizePos startNonneg before

/-- A history of three one-minute candles with a gap before the last. -/
def CandleHistory.sample : CandleHistory where
  candles := [0, 60000, 180000].map fun openTime =>
    { openTime, «open» := .ofDouble 1, high := .ofDouble (3 / 2), low := .ofDouble 1,
      close := .ofDouble (5 / 4), volume := .ofDouble 10, closeTime := openTime + 59999,
      quoteVolume := .ofDouble 12, numberOfTrades := 4, takerBuyVolume := .ofDouble 6,
      takerQuoteVolume := .ofDouble 7, ignore := "0" }
  consecutive := by
    simp only [Paging.Consecutive]
    decide

theorem CandleHistory.sample_decodes :
    ∀ candle ∈ sample.candles, Candle.fromJson candle.toJson = .ok candle := by
  decide +kernel

theorem getHistoricalPrices_exact_sample :
    Loop.Ends
      (Futures.RESTClient.getHistoricalPrices .plain
        (.futures (CandleHistory.sample.wire 1 "/fapi/v1/" "BTCUSDT" ._1m)) 0
        "BTCUSDT" ._1m 0 200000 1)
      (.ok (CandleHistory.sample.candles.take 2)) ∧
    Loop.Ends
      (Spot.RESTClient.getHistoricalPrices .plain
        (.spot (CandleHistory.sample.wire 1 "/api/v3/" "BTCUSDT" ._1m)) 0
        "BTCUSDT" ._1m 0 200000 1)
      (.ok (CandleHistory.sample.candles.take 2)) := by
  have exact := getHistoricalPrices_exact .plain CandleHistory.sample 1 0 "BTCUSDT" ._1m
    0 200000 1 (by decide) (by decide) (by decide)
  constructor
  · apply exact.1
    exact CandleHistory.sample.wire_serves 1 _ _ _ CandleHistory.sample_decodes
  · apply exact.2
    exact CandleHistory.sample.wire_serves 1 _ _ _ CandleHistory.sample_decodes

end BinanceApi
