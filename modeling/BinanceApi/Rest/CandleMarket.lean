import BinanceApi.Rest.ParallelCandles

/-!
# Candles of a whole market

An exchange lists some symbols and rejects requests for others.  The download of a list
of symbols from it is the candles of each, whatever the order in which the requests of
the tasks reach the exchange, or the rejection of the first symbol that is not listed.
-/

namespace BinanceApi

/-- The candles of an exchange by symbol, and the exception that the rejection of an
unlisted symbol ends with. -/
structure CandleMarket where
  history : String → Option CandleHistory
  rejection : String → Exception

namespace CandleMarket

/-- The endpoint serves the history of every listed symbol, and answers a request for
another with what the client takes for an error. -/
structure Serves (market : CandleMarket) (pageSize : Nat) (api : String)
    (interval : CandleInterval) (externals : Externals) (wire : Wire) : Prop where
  listed : ∀ symbol history, market.history symbol = some history →
    history.Serves pageSize api symbol interval wire
  unlisted : ∀ n request symbol, market.history symbol = none →
    request.verb = .get →
    request.api ++ request.target.path = api ++ "klines?" →
    request.param? "symbol" = some symbol →
    wire n request = .error (market.rejection symbol) ∨
      ∃ response, wire n request = .ok response ∧
        checkResponse externals response = .error (market.rejection symbol)

/-- What the download of a symbol makes of the market. -/
def download (market : CandleMarket) (startTime endTime : Int) (symbol : String) :
    Throws (List Candle) :=
  match market.history symbol with
  | some history => .ok (history.inRange startTime endTime).dropLast
  | none => .error (market.rejection symbol)

variable {market : CandleMarket} {pageSize : Nat} {interval : CandleInterval}
  {externals : Externals} {wire : Wire}

/-- Requests may reach the exchange under any numbers. -/
theorem Serves.numbered {api : String}
    (serves : market.Serves pageSize api interval externals wire)
    (numbering : Nat → Nat) :
    market.Serves pageSize api interval externals (wire.numbered numbering) where
  listed := by
    intro symbol history found n
    exact serves.listed symbol history found (numbering n)
  unlisted := by
    intro n
    exact serves.unlisted (numbering n)

/-- The first page of an unlisted symbol fails. -/
theorem Serves.page_unlisted {client : CandleClient}
    (serves : market.Serves pageSize client.publicApi interval externals wire)
    {symbol : String} (unlisted : market.history symbol = none) (endTime limit : Int)
    (n : Nat) (fromTime : Int) :
    client.page externals wire symbol interval endTime limit n fromTime =
      .error (.raised (market.rejection symbol)) := by
  have answered := serves.unlisted n
    { verb := .get, api := client.publicApi,
      target := RESTClient.klinesTarget symbol interval fromTime endTime limit,
      isPublic := true }
    symbol unlisted rfl (by simp [RESTClient.klinesTarget])
    (by simp [Request.param?, RESTClient.klinesTarget])
  cases client with
  | futures | spot =>
      rcases answered with rejected | ⟨response, answer, rejected⟩
      · simp only [CandleClient.page, CandleClient.session,
          RESTClient.P.getHistoricalPrices, HTTPSession.get, HTTPSession.request,
          HTTPSession.futures, HTTPSession.spot, CandleClient.publicApi,
          if_true] at rejected ⊢
        rw [rejected]
        rfl
      · simp only [CandleClient.page, CandleClient.session,
          RESTClient.P.getHistoricalPrices, HTTPSession.get, HTTPSession.request,
          HTTPSession.futures, HTTPSession.spot, CandleClient.publicApi,
          if_true] at answer ⊢
        rw [answer]
        simp only [Throws.lift_ok, ok_bind, rejected]
        rfl

/-- Every symbol's download has a fixed outcome against the market. -/
theorem Serves.fixedOutcome {client : CandleClient}
    (serves : market.Serves pageSize client.publicApi interval externals wire)
    (pageSizePos : 1 ≤ pageSize) {startTime endTime : Int} (startNonneg : 0 ≤ startTime)
    (before : startTime < endTime) (limit : Int) :
    client.FixedOutcome externals wire interval startTime endTime limit
      (market.download startTime endTime) := by
  intro symbol numbering _
  have numbered := serves.numbered numbering
  cases found : market.history symbol with
  | some history =>
      simp only [download, found]
      exact client.getHistoricalPrices_of_serves externals
        (numbered.listed symbol history found) 0 limit pageSizePos startNonneg before
  | none =>
      simp only [download, found]
      have failed := RESTClient.Conversation.failed before
        (numbered.page_unlisted found endTime limit 0 startTime)
      have ends := failed.ends
      rw [RESTClient.received_error] at ends
      rw [client.getHistoricalPrices_eq_download]
      exact ends

end CandleMarket

/-- The download of a list of symbols from a market returns the candles that open in the
range, without the last one, of exactly these symbols, if all of them are listed, and
otherwise throws the rejection of the first that is not.  Every schedule of the tasks
comes to that end, wherever the requests of one stand among those of the others. -/
theorem market_downloaded (client : CandleClient) (externals : Externals)
    (market : CandleMarket) (pageSize : Nat) (wire : Wire) (interval : CandleInterval)
    (startTime endTime limit : Int) (symbols : List String)
    (pageSizePos : 1 ≤ pageSize) (startNonneg : 0 ≤ startTime)
    (before : startTime < endTime)
    (serves : market.Serves pageSize client.publicApi interval externals wire) :
    ∃ outcome : Evaluates SymbolCandles,
      (∀ result,
        (client.getHistoricalPricesOfSymbols externals wire symbols interval startTime
          endTime limit).Returns result → result = outcome) ∧
      (∀ actions state,
        Transition.run
          (client.getHistoricalPricesOfSymbols externals wire symbols interval startTime
            endTime limit).step .initial actions = some state →
        ∃ others final,
          Transition.run
            (client.getHistoricalPricesOfSymbols externals wire symbols interval startTime
              endTime limit).step .initial (actions ++ others) = some final ∧
          final.stage = .returned outcome) ∧
      ((∀ symbol ∈ symbols, market.history symbol ≠ none) →
        ∃ retVal : SymbolCandles, outcome = .ok retVal ∧
          ∀ symbol, retVal[symbol]? =
            if symbol ∈ symbols then
              (market.history symbol).map fun history =>
                (history.inRange startTime endTime).dropLast
            else none) ∧
      ∀ front symbol back, symbols = front ++ symbol :: back →
        (∀ earlier ∈ front, market.history earlier ≠ none) →
        market.history symbol = none →
        outcome = .error (.raised (market.rejection symbol)) := by
  have fixed := serves.fixedOutcome pageSizePos startNonneg before limit
  refine ⟨(RESTClient.downloadSymbols
      (fun wire symbolIn => client.getHistoricalPrices externals wire 0 symbolIn interval
        startTime endTime limit) wire symbols).joined
      (CandleClient.taskOutcome (market.download startTime endTime)) symbols,
    fun result returns => fixed.returns returns, ?_, ?_, ?_⟩
  · intro actions state ran
    rcases (ForkJoin.Program.run_ends (fixed.work symbols) (fixed.work_ends symbols)
      ran).2 with ⟨others, final, result, continued, returned⟩
    refine ⟨others, final, continued, ?_⟩
    rw [returned, fixed.returns ⟨_, _, continued, returned⟩]
  · intro allListed
    refine ⟨CandleClient.collected (fun symbol =>
      ((market.download startTime endTime symbol).toOption).getD []) symbols, ?_, ?_⟩
    · apply CandleClient.joined_ok
      intro symbol membership
      rcases Option.ne_none_iff_exists'.mp (allListed symbol membership) with
        ⟨history, found⟩
      simp [CandleMarket.download, found, Except.toOption]
    · intro symbol
      rw [CandleClient.getElem?_collected]
      split
      next membership =>
        rcases Option.ne_none_iff_exists'.mp (allListed symbol membership) with
          ⟨history, found⟩
        simp [CandleMarket.download, found, Except.toOption]
      · rfl
  · intro front symbol back split earlier unlisted
    rw [split]
    apply CandleClient.joined_error
    · intro other membership
      rcases Option.ne_none_iff_exists'.mp (earlier other membership) with ⟨history, found⟩
      exact ⟨_, by simp only [CandleMarket.download, found]; rfl⟩
    · simp only [CandleMarket.download, unlisted]

namespace CandleMarket

/-- A market of one symbol. -/
def sample : CandleMarket where
  history := fun symbol => if symbol = "BTCUSDT" then some CandleHistory.sample else none
  rejection := fun _ => .standard "bad request"

theorem sample_serves :
    sample.Serves 1 "/api/v3/" ._1m .plain
      (CandleHistory.sample.wire 1 "/api/v3/" "BTCUSDT" ._1m) where
  listed := by
    intro symbol history found
    simp only [sample] at found
    split at found
    next named =>
      cases found
      subst named
      exact CandleHistory.sample_serves .spot
    · cases found
  unlisted := by
    intro n request symbol unlisted _ _ symbolSent
    refine .inl ?_
    have other : symbol ≠ "BTCUSDT" := by
      intro named
      simp [sample, named] at unlisted
    simp [CandleHistory.wire, symbolSent, other, sample]

end CandleMarket

/-- Two symbols, the second of which is not listed. -/
theorem market_downloaded_sample :
    ∃ outcome,
      (∀ result,
        (CandleClient.spot.getHistoricalPricesOfSymbols .plain
          (CandleHistory.sample.wire 1 "/api/v3/" "BTCUSDT" ._1m) ["BTCUSDT", "ETHUSDT"]
          ._1m 0 200000 1).Returns result → result = outcome) ∧
      outcome = .error (.raised (.standard "bad request")) := by
  rcases market_downloaded .spot .plain .sample 1
    (CandleHistory.sample.wire 1 "/api/v3/" "BTCUSDT" ._1m) ._1m 0 200000 1
    ["BTCUSDT", "ETHUSDT"] (by decide) (by decide) (by decide) CandleMarket.sample_serves with
    ⟨outcome, same, -, -, rejected⟩
  exact ⟨outcome, same,
    rejected ["BTCUSDT"] "ETHUSDT" [] rfl (by simp [CandleMarket.sample]) rfl⟩

end BinanceApi
