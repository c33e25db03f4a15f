import Std.Data.TreeMap
import BinanceApi.Library.ForkJoin
import BinanceApi.Rest.CandleRequests

/-!
# Candles of many symbols

The clients download the candles of a list of symbols with one task for each, and take
the results in the order of the list.  Both do it with the same code.  The tasks share
the session, so the requests of one may be numbered anywhere among those of the others.
-/

namespace BinanceApi

/-- `std::map<std::string, std::vector<Candle>>`. -/
abbrev SymbolCandles := Std.TreeMap String (List Candle)

/-- The wire as one of several tasks sees it: its own requests, under the numbers that
they have on the session. -/
def Wire.numbered (wire : Wire) (numbering : Nat → Nat) : Wire := fun n => wire (numbering n)

namespace RESTClient

/-- What the schedule decides for a task: the numbers that its requests have, in the order
in which it makes them, and how many turns its loop takes. -/
structure Circumstances where
  numbering : Nat → Nat
  increasing : StrictMono numbering
  turns : Nat

/-- What `std::async` runs: the download of a symbol, and the pair it returns. -/
def downloadTask (download : Wire → String → Nat → Option (Evaluates (List Candle)))
    (wire : Wire) (symbolIn : String) (circumstances : Circumstances) :
    Option (Evaluates (String × List Candle)) :=
  (download (wire.numbered circumstances.numbering) symbolIn circumstances.turns).map
    fun result => result.map fun candles => (symbolIn, candles)

/-- The multi-symbol download over an arbitrary single-symbol one. -/
def downloadSymbols (download : Wire → String → Nat → Option (Evaluates (List Candle)))
    (wire : Wire) (symbols : List String) :
    ForkJoin.Program String Circumstances Fault (String × List Candle) SymbolCandles where
  tasks := symbols
  work := downloadTask download wire
  start := ∅
  collect := fun retVal result => retVal.insert result.1 result.2

/-- A download that came to an end does so with more turns, too. -/
theorem downloadCandles_ends {page : Nat → Int → Evaluates (List Candle)} {requests : Nat}
    {startTime endTime : Int} {turns : Nat} {result : Evaluates (List Candle)}
    (finished : downloadCandles page requests startTime endTime turns = some result) :
    Loop.Ends (downloadCandles page requests startTime endTime) result := by
  unfold downloadCandles at finished ⊢
  cases first : fetch page requests startTime endTime with
  | error fault =>
      simp only [first] at finished ⊢
      exact ⟨0, fun _ => finished⟩
  | ok answer =>
      simp only [first] at finished ⊢
      exact ⟨turns, fun _ => Loop.run_mono finished⟩

end RESTClient

/-- `futures::RESTClient::getHistoricalPrices` for several symbols. -/
def Futures.RESTClient.getHistoricalPricesOfSymbols (externals : Externals) (wire : Wire)
    (symbols : List String) (candleInterval : CandleInterval)
    (startTime endTime limit : Int) :
    ForkJoin.Program String RESTClient.Circumstances Fault (String × List Candle)
      SymbolCandles :=
  RESTClient.downloadSymbols
    (fun wire symbolIn => Futures.RESTClient.getHistoricalPrices externals (.futures wire) 0
      symbolIn candleInterval startTime endTime limit)
    wire symbols

/-- `spot::RESTClient::getHistoricalPrices` for several symbols. -/
def Spot.RESTClient.getHistoricalPricesOfSymbols (externals : Externals) (wire : Wire)
    (symbols : List String) (candleInterval : CandleInterval)
    (startTime endTime limit : Int) :
    ForkJoin.Program String RESTClient.Circumstances Fault (String × List Candle)
      SymbolCandles :=
  RESTClient.downloadSymbols
    (fun wire symbolIn => Spot.RESTClient.getHistoricalPrices externals (.spot wire) 0
      symbolIn candleInterval startTime endTime limit)
    wire symbols

namespace CandleClient

def getHistoricalPricesOfSymbols (client : CandleClient) (externals : Externals)
    (wire : Wire) (symbols : List String) (candleInterval : CandleInterval)
    (startTime endTime limit : Int) :
    ForkJoin.Program String RESTClient.Circumstances Fault (String × List Candle)
      SymbolCandles :=
  match client with
  | .futures =>
      Futures.RESTClient.getHistoricalPricesOfSymbols externals wire symbols candleInterval
        startTime endTime limit
  | .spot =>
      Spot.RESTClient.getHistoricalPricesOfSymbols externals wire symbols candleInterval
        startTime endTime limit

theorem getHistoricalPrices_ends (client : CandleClient) {externals : Externals}
    {wire : Wire} {requests turns : Nat} {symbol : String} {interval : CandleInterval}
    {startTime endTime limit : Int} {result : Evaluates (List Candle)}
    (finished : client.getHistoricalPrices externals wire requests symbol interval startTime
      endTime limit turns = some result) :
    Loop.Ends
      (client.getHistoricalPrices externals wire requests symbol interval startTime endTime
        limit) result := by
  rw [getHistoricalPrices_eq_download] at finished ⊢
  exact RESTClient.downloadCandles_ends finished

/-- The single-symbol download has a fixed outcome for every symbol, a candle list or an
exception, wherever its requests are numbered. -/
def FixedOutcome (client : CandleClient) (externals : Externals) (wire : Wire)
    (candleInterval : CandleInterval) (startTime endTime limit : Int)
    (download : String → Throws (List Candle)) : Prop :=
  ∀ symbol numbering, StrictMono numbering →
    Loop.Ends
      (client.getHistoricalPrices externals (wire.numbered numbering) 0 symbol
        candleInterval startTime endTime limit)
      (download symbol).lift

/-- What a task stores for its symbol. -/
def taskOutcome (download : String → Throws (List Candle)) (symbol : String) :
    Evaluates (String × List Candle) :=
  (download symbol).lift.map fun candles => (symbol, candles)

section Runs

variable (client : CandleClient) (externals : Externals) (wire : Wire)
  (symbols : List String) (candleInterval : CandleInterval) (startTime endTime limit : Int)

theorem getHistoricalPricesOfSymbols_eq_download :
    client.getHistoricalPricesOfSymbols externals wire symbols candleInterval startTime
        endTime limit =
      RESTClient.downloadSymbols
        (fun wire symbolIn => client.getHistoricalPrices externals wire 0 symbolIn
          candleInterval startTime endTime limit) wire symbols := by
  cases client <;> rfl

variable {client externals wire candleInterval startTime endTime limit}
variable {download : String → Throws (List Candle)}
  (fixed : client.FixedOutcome externals wire candleInterval startTime endTime limit
    download)

include fixed

/-- A task that ends stores its symbol's outcome. -/
theorem FixedOutcome.work (symbol : String) (circumstances : RESTClient.Circumstances)
    (result : Evaluates (String × List Candle))
    (worked : (client.getHistoricalPricesOfSymbols externals wire symbols candleInterval
      startTime endTime limit).work symbol circumstances = some result) :
    result = taskOutcome download symbol := by
  rw [getHistoricalPricesOfSymbols_eq_download] at worked
  rcases Option.map_eq_some_iff.mp worked with ⟨candles, finished, rfl⟩
  have ends := client.getHistoricalPrices_ends finished
  rw [ends.unique (fixed symbol circumstances.numbering circumstances.increasing)]
  rfl

theorem FixedOutcome.work_ends (symbol : String) :
    ∃ circumstances result,
      (client.getHistoricalPricesOfSymbols externals wire symbols candleInterval startTime
        endTime limit).work symbol circumstances = some result := by
  rw [getHistoricalPricesOfSymbols_eq_download]
  rcases fixed symbol id strictMono_id with ⟨turns, finished⟩
  refine ⟨⟨id, strictMono_id, turns⟩, taskOutcome download symbol, ?_⟩
  exact Option.map_eq_some_iff.mpr ⟨(download symbol).lift, finished 0, rfl⟩

end Runs

/-! ## The result map -/

/-- The map that the pairs of the symbols make when they are inserted in order. -/
def collected (candles : String → List Candle) (symbols : List String) : SymbolCandles :=
  (symbols.map fun symbol => (symbol, candles symbol)).foldl
    (fun retVal result => retVal.insert result.1 result.2) ∅

/-- Each symbol is a key, and no other string is; a repeated symbol overwrites its own
entry. -/
theorem getElem?_collected (candles : String → List Candle) (symbols : List String)
    (symbol : String) :
    (collected candles symbols)[symbol]? =
      if symbol ∈ symbols then some (candles symbol) else none := by
  induction symbols using List.reverseRecOn with
  | nil => simp [collected]
  | append_singleton front last ih =>
      have inserted : collected candles (front ++ [last]) =
          (collected candles front).insert last (candles last) := by
        simp [collected]
      rw [inserted, Std.TreeMap.getElem?_insert, ih]
      by_cases same : last = symbol
      · subst same
        simp
      · simp [same, Ne.symm same]

/-- Lists with the same symbols make the same map. -/
theorem toList_collected (candles : String → List Candle) {symbols others : List String}
    (same : ∀ symbol, symbol ∈ symbols ↔ symbol ∈ others) :
    (collected candles symbols).toList = (collected candles others).toList := by
  apply Std.TreeMap.Equiv.toList_eq
  apply Std.TreeMap.Equiv.of_forall_constGet?_eq
  intro symbol
  simp only [getElem?_collected, same]

section Joined

variable {single : Wire → String → Nat → Option (Evaluates (List Candle))} {wire : Wire}
  {symbols listed : List String} {download : String → Throws (List Candle)}

theorem joined_ok {candles : String → List Candle}
    (returned : ∀ symbol ∈ listed, download symbol = .ok (candles symbol)) :
    (RESTClient.downloadSymbols single wire symbols).joined (taskOutcome download) listed =
      .ok (collected candles listed) := by
  apply ForkJoin.Program.joined_ok
  intro symbol membership
  rw [taskOutcome, returned symbol membership]
  rfl

/-- The candles of symbols whose downloads return. -/
theorem exists_candles (returned : ∀ symbol ∈ listed, ∃ candles,
    download symbol = .ok candles) :
    ∃ candles : String → List Candle, ∀ symbol ∈ listed,
      download symbol = .ok (candles symbol) := by
  refine ⟨fun symbol => (download symbol).toOption.getD [], ?_⟩
  intro symbol membership
  rcases returned symbol membership with ⟨candles, found⟩
  simp only [found]
  rfl

theorem joined_error {front back : List String} {symbol : String} {exception : Exception}
    (earlier : ∀ other ∈ front, ∃ candles, download other = .ok candles)
    (failed : download symbol = .error exception) :
    (RESTClient.downloadSymbols single wire symbols).joined (taskOutcome download)
        (front ++ symbol :: back) = .error (.raised exception) := by
  rcases exists_candles earlier with ⟨candles, returned⟩
  apply ForkJoin.Program.joined_first_error _ _ (joined_ok returned)
  rw [taskOutcome, failed]
  rfl

theorem exists_of_joined_ok {retVal : SymbolCandles}
    (joined : (RESTClient.downloadSymbols single wire symbols).joined (taskOutcome download)
      listed = .ok retVal) :
    ∃ candles : String → List Candle,
      (∀ symbol ∈ listed, download symbol = .ok (candles symbol)) ∧
        retVal = collected candles listed := by
  have every := ForkJoin.Program.exists_of_joined_ok _ _ joined
  have returned : ∀ symbol ∈ listed, ∃ candles, download symbol = .ok candles := by
    intro symbol membership
    rcases every symbol membership with ⟨value, found⟩
    cases outcome : download symbol with
    | error exception =>
        rw [taskOutcome, outcome] at found
        cases found
    | ok candles => exact ⟨candles, rfl⟩
  rcases exists_candles returned with ⟨candles, returned⟩
  rw [joined_ok returned, Except.ok.injEq] at joined
  exact ⟨candles, returned, joined.symm⟩

end Joined

/-- Every schedule returns the outcomes of the symbols, joined in the order of their
list. -/
theorem FixedOutcome.returns {client : CandleClient} {externals : Externals} {wire : Wire}
    {candleInterval : CandleInterval} {startTime endTime limit : Int}
    {download : String → Throws (List Candle)}
    (fixed : client.FixedOutcome externals wire candleInterval startTime endTime limit
      download)
    {symbols : List String} {result : Evaluates SymbolCandles}
    (returns : (client.getHistoricalPricesOfSymbols externals wire symbols candleInterval
      startTime endTime limit).Returns result) :
    result = (RESTClient.downloadSymbols
      (fun wire symbolIn => client.getHistoricalPrices externals wire 0 symbolIn
        candleInterval startTime endTime limit) wire symbols).joined
      (taskOutcome download) symbols := by
  have joined := returns.eq_joined (fixed.work symbols)
  rw [getHistoricalPricesOfSymbols_eq_download] at joined
  exact joined

end CandleClient

/-- Whatever the order in which the tasks finish, the download of a list of symbols of
either client returns the candles of exactly these symbols, or throws what the first
failing symbol of the list throws.  Every schedule comes to an end, and a list of the same
symbols in another order or with repetitions has the same result if it succeeds. -/
theorem symbols_downloaded (client : CandleClient) (externals : Externals) (wire : Wire)
    (candleInterval : CandleInterval) (startTime endTime limit : Int)
    (download : String → Throws (List Candle))
    (fixed : client.FixedOutcome externals wire candleInterval startTime endTime limit
      download)
    (symbols : List String) :
    (∀ candles : String → List Candle,
      (∀ symbol ∈ symbols, download symbol = .ok (candles symbol)) →
      ∀ result,
        (client.getHistoricalPricesOfSymbols externals wire symbols candleInterval startTime
          endTime limit).Returns result →
        ∃ retVal : SymbolCandles, result = .ok retVal ∧
          ∀ symbol, retVal[symbol]? =
            if symbol ∈ symbols then some (candles symbol) else none) ∧
    (∀ front symbol back exception, symbols = front ++ symbol :: back →
      (∀ earlier ∈ front, ∃ candles, download earlier = .ok candles) →
      download symbol = .error exception →
      ∀ result,
        (client.getHistoricalPricesOfSymbols externals wire symbols candleInterval startTime
          endTime limit).Returns result →
        result = .error (.raised exception)) ∧
    (∀ actions state,
      Transition.run
        (client.getHistoricalPricesOfSymbols externals wire symbols candleInterval startTime
          endTime limit).step .initial actions = some state →
      actions.length ≤ 3 * symbols.length + 2 ∧
        ∃ others final result,
          Transition.run
            (client.getHistoricalPricesOfSymbols externals wire symbols candleInterval
              startTime endTime limit).step .initial (actions ++ others) = some final ∧
            final.stage = .returned result) ∧
    ∀ others retVal, (∀ symbol, symbol ∈ symbols ↔ symbol ∈ others) →
      (client.getHistoricalPricesOfSymbols externals wire symbols candleInterval startTime
        endTime limit).Returns (.ok retVal) →
      ∀ result,
        (client.getHistoricalPricesOfSymbols externals wire others candleInterval startTime
          endTime limit).Returns result →
        ∃ same : SymbolCandles, result = .ok same ∧ same.toList = retVal.toList := by
  refine ⟨?_, ?_, ?_, ?_⟩
  · intro candles returned result returns
    refine ⟨CandleClient.collected candles symbols, ?_,
      CandleClient.getElem?_collected candles symbols⟩
    rw [fixed.returns returns, CandleClient.joined_ok returned]
  · intro front symbol back exception split earlier failed result returns
    have joined := fixed.returns returns
    rw [joined, split, CandleClient.joined_error earlier failed]
  · intro actions state ran
    have ends := ForkJoin.Program.run_ends (fixed.work symbols) (fixed.work_ends symbols) ran
    have tasks : (client.getHistoricalPricesOfSymbols externals wire symbols candleInterval
        startTime endTime limit).tasks = symbols := by
      rw [CandleClient.getHistoricalPricesOfSymbols_eq_download]
      rfl
    rwa [tasks] at ends
  · intro others retVal sameSymbols returns result othersReturn
    have joined := fixed.returns returns
    rcases CandleClient.exists_of_joined_ok joined.symm with ⟨candles, returned, rfl⟩
    have othersReturned : ∀ symbol ∈ others, download symbol = .ok (candles symbol) :=
      fun symbol membership => returned symbol ((sameSymbols symbol).mpr membership)
    refine ⟨CandleClient.collected candles others, ?_,
      (CandleClient.toList_collected candles sameSymbols).symm⟩
    rw [fixed.returns othersReturn, CandleClient.joined_ok othersReturned]

/-- An exchange that lists one symbol, and what the download of a symbol makes of it. -/
def CandleHistory.sampleDownload (symbol : String) : Throws (List Candle) :=
  if symbol = "BTCUSDT" then .ok (CandleHistory.sample.candles.take 2)
  else .error (.standard "bad request")

theorem CandleHistory.sample_fixed (client : CandleClient) :
    client.FixedOutcome .plain (CandleHistory.sample.wire 1 client.publicApi "BTCUSDT" ._1m)
      ._1m 0 200000 1 CandleHistory.sampleDownload := by
  intro symbol numbering _
  by_cases listed : symbol = "BTCUSDT"
  · subst listed
    exact client.getHistoricalPrices_of_serves .plain (CandleHistory.sample_serves client) 0
      1 Nat.one_pos (by decide) (by decide)
  · have rejected : client.page .plain
        ((CandleHistory.sample.wire 1 client.publicApi "BTCUSDT" ._1m).numbered numbering)
        symbol ._1m 200000 1 0 0 = .error (.raised (.standard "bad request")) := by
      cases client <;>
        simp [CandleClient.page, CandleClient.session, RESTClient.P.getHistoricalPrices,
          HTTPSession.get, HTTPSession.request, HTTPSession.futures, HTTPSession.spot,
          Wire.numbered, CandleHistory.wire, Request.param?, RESTClient.klinesTarget, listed,
          error_bind]
    have failed := RESTClient.Conversation.failed (by decide : (0 : Int) < 200000)
      rejected
    have ends := failed.ends
    rw [RESTClient.received_error] at ends
    rw [client.getHistoricalPrices_eq_download]
    simpa [CandleHistory.sampleDownload, listed] using ends

/-- A symbol named twice is downloaded into one entry; an unlisted one throws, wherever
it stands. -/
theorem symbols_downloaded_sample :
    (∀ result,
      (CandleClient.futures.getHistoricalPricesOfSymbols .plain
        (CandleHistory.sample.wire 1 "/fapi/v1/" "BTCUSDT" ._1m) ["BTCUSDT", "BTCUSDT"] ._1m
        0 200000 1).Returns result →
      ∃ retVal : SymbolCandles, result = .ok retVal ∧
        ∀ symbol, retVal[symbol]? =
          if symbol ∈ ["BTCUSDT", "BTCUSDT"] then some (CandleHistory.sample.candles.take 2)
          else none) ∧
    ∀ result,
      (CandleClient.spot.getHistoricalPricesOfSymbols .plain
        (CandleHistory.sample.wire 1 "/api/v3/" "BTCUSDT" ._1m) ["BTCUSDT", "ETHUSDT"] ._1m
        0 200000 1).Returns result →
      result = .error (.raised (.standard "bad request")) := by
  constructor
  · exact (symbols_downloaded .futures .plain _ ._1m 0 200000 1 CandleHistory.sampleDownload
      (CandleHistory.sample_fixed .futures) ["BTCUSDT", "BTCUSDT"]).1
      (fun _ => CandleHistory.sample.candles.take 2) (by decide +kernel)
  · exact (symbols_downloaded .spot .plain _ ._1m 0 200000 1 CandleHistory.sampleDownload
      (CandleHistory.sample_fixed .spot) ["BTCUSDT", "ETHUSDT"]).2.1 ["BTCUSDT"] "ETHUSDT" []
      (.standard "bad request") rfl
      (by
        intro earlier membership
        rw [List.mem_singleton.mp membership]
        exact ⟨_, rfl⟩)
      rfl

end BinanceApi
