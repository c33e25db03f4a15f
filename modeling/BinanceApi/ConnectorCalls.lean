import BinanceApi.Connector
import BinanceApi.Library.Machine
import BinanceApi.Library.Reset
import BinanceApi.Rest.CallRuns
import BinanceApi.Rest.ServerAnswers

/-!
# The calls of the exchange connector

The connector hands each call to the client of its last login and translates what comes
back.  A login puts a new client in place, with new credentials and no exchange
information, before it downloads any; a login that throws has done so as well.
-/

namespace BinanceApi

namespace General

/-- The prices that the connector sets. -/
structure TickerPrice where
  askPrice : Double
  bidPrice : Double
  deriving DecidableEq, Repr

inductive MarketCategory where
  | Futures
  deriving DecidableEq, Repr

structure Symbol where
  marketCategory : MarketCategory
  symbol : String
  baseAsset : String
  marginAsset : String
  quoteAsset : String
  displayName : String
  deriving DecidableEq, Repr

structure Balance where
  balance : Double
  deriving DecidableEq, Repr

structure FundingRate where
  symbol : String
  fundingRate : Double
  fundingTime : Int
  deriving DecidableEq, Repr

end General

open Futures (AccountBalance BookTickerPrice Call ClientState Conduct Conducts Environment
  Exchange MarkPrice OrderResponse Uninitialised conducts_ask)
open Futures.RESTClient (ask askForSymbol decoded infoAnswer infoRequest Outcome)

/-- `RESTClient::getLastFundingRate` as a call of the client. -/
def Futures.RESTClient.askLastFundingRate (environment : Environment)
    (sorting : Sorting Futures.FundingRate.fundingTime) (symbol : String) :
    Call Futures.FundingRate :=
  askForSymbol environment symbol
    (environment.session.request .get ⟨"fundingRate?", [("symbol", symbol)]⟩ true)
    fun json => do
      let fundingRates ← (Futures.FundingRates.fromJson environment.externals json).lift
      back (sorting.run fundingRates)

theorem Futures.RESTClient.askLastFundingRate_runFrom (environment : Environment)
    (sorting : Sorting Futures.FundingRate.fundingTime) (symbol : String)
    (client : ClientState) :
    ((askLastFundingRate environment sorting symbol).runFrom client).1 =
      getLastFundingRate environment.externals sorting environment.session
        client.sent.length symbol := by
  by_cases unnamed : symbol = ""
  · subst unnamed
    rfl
  · rw [askLastFundingRate, askForSymbol_of_ne unnamed, ask_runFrom]
    simp only [getLastFundingRate, if_neg unnamed, lastFundingRates, HTTPSession.get]
    cases environment.session.wire client.sent.length
        (environment.session.request .get ⟨"fundingRate?", [("symbol", symbol)]⟩ true) with
    | error exception => rfl
    | ok response =>
        simp only [Throws.lift_ok, ok_bind, decoded]
        cases checkResponse environment.externals response with
        | error exception => rfl
        | ok response =>
            simp only [Throws.lift_ok, ok_bind]
            cases response.json <;> rfl

namespace BinanceFuturesExchangeConnector

section Calls

variable (environment : Environment)

def tickerPriceOf (bookTickerPrice : BookTickerPrice) : General.TickerPrice where
  askPrice := bookTickerPrice.askPrice
  bidPrice := bookTickerPrice.bidPrice

def getTickerPrice (symbol : String) : Call General.TickerPrice := do
  let bookTickerPrice ← Futures.RESTClient.getBookTickerPrice environment symbol
  return tickerPriceOf bookTickerPrice

/-- The perpetuals in USDT that are traded. -/
def isSearched (el : Futures.Symbol) : Bool :=
  el.contractType = "PERPETUAL" ∧ el.quoteAsset = "USDT" ∧ el.status = .TRADING

def symbolOf (el : Futures.Symbol) : General.Symbol where
  marketCategory := .Futures
  symbol := el.symbol
  baseAsset := el.baseAsset
  marginAsset := el.marginAsset
  quoteAsset := el.quoteAsset
  displayName := el.pair

/-- The two loops of `getSymbolInfo`. -/
def symbolsIn (exchangeInfo : Exchange) (symbol : String) : List General.Symbol :=
  let symbolsToSearch := exchangeInfo.symbols.filter isSearched
  (symbolsToSearch.filter fun el =>
    (symbol ≠ "" ∧ el.symbol = symbol) ∨ symbol = "").map symbolOf

def getSymbolInfo (symbol : String) : Call (List General.Symbol) := do
  let exchangeInfo ← Futures.RESTClient.getExchangeInfo environment false
  return symbolsIn exchangeInfo symbol

/-- The balance of the last entry of a currency, or that of a balance that was just
made. -/
def balanceIn (initial : General.Balance) (accountBalances : List AccountBalance)
    (currency : String) : General.Balance :=
  accountBalances.foldl
    (fun retVal el => if el.asset = currency then { balance := el.balance } else retVal)
    initial

def getAccountBalance (initial : General.Balance) (currency : String) :
    Call General.Balance := do
  let accountBalances ← Futures.RESTClient.getAccountBalances environment
  return balanceIn initial accountBalances currency

def lastRateOf (fr : Futures.FundingRate) : General.FundingRate where
  symbol := fr.symbol
  fundingRate := fr.fundingRate
  fundingTime := fr.fundingTime

def getFundingRate (sorting : Sorting Futures.FundingRate.fundingTime) (symbol : String) :
    Call General.FundingRate := do
  let fr ← Futures.RESTClient.askLastFundingRate environment sorting symbol
  return lastRateOf fr

/-- The last rate stands beside the time of the next one. -/
def fundingRateOf (mp : MarkPrice) : General.FundingRate where
  symbol := mp.symbol
  fundingRate := mp.lastFundingRate
  fundingTime := mp.nextFundingTime

def getFundingRates : Call (List General.FundingRate) := do
  let markPrices ← Futures.RESTClient.getMarkPrices environment
  return markPrices.map fundingRateOf

def getServerTime (uninitialised : Uninitialised) : Call Int :=
  Futures.RESTClient.getServerTime environment uninitialised

/-- The calls that only throw. -/
def notImplemented {α : Type} (name : String) : Evaluates α :=
  .error (.raised (.standard ("Unimplemented: BinanceFuturesExchangeConnector::" ++ name)))

end Calls

/-! ## Runs -/

/-- A call of the connector with its arguments. -/
inductive ConnectorCall where
  | login (credentials : String × String × String)
  | placeOrder (order : General.Order)
  | getTickerPrice (symbol : String)
  | getSymbolInfo (symbol : String)
  | getAccountBalance (currency : String)
  | getFundingRate (symbol : String)
  | getFundingRates
  | getServerTime
  | getPositionInfo (symbol : String)
  | getHistoricalFundingRates (symbol : String) (startTime endTime : Int)
  | getHistoricalCandles (symbol : String) (interval : CandleInterval)
      (startTime endTime : Int)

/-- The logins so far, the credentials of the last one, and its client. -/
structure Connector where
  logins : Nat
  apiKey : String
  apiSecret : String
  client : ClientState

/-- What surrounds the connector: what the client of a login meets, the order in which
rates of one time are sorted, and the balance of a balance that was just made. -/
structure Surroundings where
  connect : Nat → String → String → Environment
  sorting : Sorting Futures.FundingRate.fundingTime
  initial : General.Balance

def Connector.environment (surroundings : Surroundings) (connector : Connector) :
    Environment :=
  surroundings.connect connector.logins connector.apiKey connector.apiSecret

namespace ConnectorCall

/-- What a call returns.  The calls that are not implemented return nothing. -/
def Result : ConnectorCall → Type
  | login _ => Unit
  | placeOrder _ => General.Trade
  | getTickerPrice _ => General.TickerPrice
  | getSymbolInfo _ => List General.Symbol
  | getAccountBalance _ => General.Balance
  | getFundingRate _ => General.FundingRate
  | getFundingRates => List General.FundingRate
  | getServerTime => Int
  | getPositionInfo _ | getHistoricalFundingRates .. | getHistoricalCandles .. => Empty

/-- The connector as a call finds it, after a login has put its client in place. -/
def enter : ConnectorCall → Connector → Connector
  | login credentials, connector =>
      { logins := connector.logins + 1
        apiKey := credentials.1
        apiSecret := credentials.2.1
        client := Futures.RESTClient.constructed }
  | _, connector => connector

/-- What a call does with the client. -/
def perform (environment : Environment) (surroundings : Surroundings)
    (uninitialised : Uninitialised) : (call : ConnectorCall) → Call call.Result
  | login _ => Futures.RESTClient.updateExchangeInfo environment true
  | placeOrder order => BinanceFuturesExchangeConnector.placeOrder environment order
  | getTickerPrice symbol =>
      BinanceFuturesExchangeConnector.getTickerPrice environment symbol
  | getSymbolInfo symbol => BinanceFuturesExchangeConnector.getSymbolInfo environment symbol
  | getAccountBalance currency =>
      BinanceFuturesExchangeConnector.getAccountBalance environment surroundings.initial
        currency
  | getFundingRate symbol =>
      BinanceFuturesExchangeConnector.getFundingRate environment surroundings.sorting symbol
  | getFundingRates => BinanceFuturesExchangeConnector.getFundingRates environment
  | getServerTime =>
      BinanceFuturesExchangeConnector.getServerTime environment uninitialised
  | getPositionInfo _ => Call.lift (notImplemented "getPositionInfo")
  | getHistoricalFundingRates .. => Call.lift (notImplemented "getHistoricalFundingRates")
  | getHistoricalCandles .. => Call.lift (notImplemented "getHistoricalCandles")

/-- The credentials of a login. -/
def credentials? : ConnectorCall → Option (String × String)
  | login credentials => some (credentials.1, credentials.2.1)
  | _ => none

end ConnectorCall

/-- One call of a run: the connector as the call found it and left it. -/
structure Report where
  call : ConnectorCall
  uninitialised : Uninitialised
  entered : Connector
  after : Connector
  outcome : Evaluates call.Result

/-- One call, after which the caller goes on whatever the outcome. -/
def Connector.step (surroundings : Surroundings) (connector : Connector)
    (input : ConnectorCall × Uninitialised) : Connector × Report :=
  let entered := input.1.enter connector
  let (outcome, client) :=
    (input.1.perform (entered.environment surroundings) surroundings input.2).runFrom
      entered.client
  let after := { entered with client }
  (after, { call := input.1, uninitialised := input.2, entered, after, outcome })

/-- The connector that the constructor leaves, which has no credentials.  There is none
if the constructor throws. -/
def Connector.constructed (surroundings : Surroundings) : Evaluates Connector :=
  let (outcome, client) :=
    (Futures.RESTClient.updateExchangeInfo (surroundings.connect 0 "" "") true).runFrom
      Futures.RESTClient.constructed
  outcome.map fun _ => { logins := 0, apiKey := "", apiSecret := "", client }

def Connector.run (surroundings : Surroundings) (start : Connector)
    (inputs : List (ConnectorCall × Uninitialised)) : Connector × List Report :=
  Machine.run (Connector.step surroundings) start inputs

/-! ## Where the exchange information comes from -/

/-- The client has exchange information: the answer to a request that it sent, as it was
decoded, under the time of a reading of its clock. -/
def HasInfo (environment : Environment) (client : ClientState) : Prop :=
  ∃ n decoded stamped, client.sent[n]? = some (infoRequest environment) ∧
    infoAnswer environment n = .ok decoded ∧ stamped < client.readings ∧
    client.exchange = { decoded with lastUpdateTime := environment.clock stamped }

/-- It has such information, or none at all. -/
def Sourced (environment : Environment) (client : ClientState) : Prop :=
  client.exchange.lastUpdateTime < 0 ∨ HasInfo environment client

section Sources

variable {environment : Environment} {before after : ClientState}

/-- What has been sent and read stays so. -/
theorem HasInfo.mono (info : HasInfo environment before)
    (same : after.exchange = before.exchange) (sent : before.sent <+: after.sent)
    (later : before.readings ≤ after.readings) : HasInfo environment after := by
  rcases info with ⟨n, decoded, stamped, asked, answer, earlier, equal⟩
  refine ⟨n, decoded, stamped, ?_, answer, Nat.lt_of_lt_of_le earlier later,
    same.trans equal⟩
  rcases sent with ⟨others, split⟩
  rw [← split, List.getElem?_append_left (List.getElem?_eq_some_iff.mp asked).1, asked]

theorem Sourced.mono (sourced : Sourced environment before)
    (same : after.exchange = before.exchange) (sent : before.sent <+: after.sent)
    (later : before.readings ≤ after.readings) : Sourced environment after := by
  rcases sourced with unknown | info
  · exact .inl (same ▸ unknown)
  · exact .inr (info.mono same sent later)

/-- Once the age was judged and nothing failed, there is information. -/
theorem HasInfo.of_outcome (sourced : Sourced environment before)
    (outcome : Outcome environment before (.ok ()) after) : HasInfo environment after := by
  cases outcome with
  | kept known young =>
      have info := sourced.resolve_left (not_lt.mpr known)
      exact info.mono rfl (List.prefix_refl _) (Nat.le_succ _)
  | downloaded exchange judged later answer =>
      exact ⟨before.sent.length, exchange, judged, by simp, answer, Nat.lt_succ_self _, rfl⟩

theorem Sourced.of_outcome {done : Evaluates Unit} (sourced : Sourced environment before)
    (outcome : Outcome environment before done after) : Sourced environment after := by
  cases done with
  | ok => exact .inr (HasInfo.of_outcome sourced outcome)
  | error fault =>
      cases outcome with
      | failed fault judged later answer =>
          exact sourced.mono rfl (List.prefix_append _ _) later

end Sources

/-- From every client whose information has a source the call leads to one. -/
def KeepsSource (environment : Environment) {α : Type} (call : Call α) : Prop :=
  ∀ client, Sourced environment client → Sourced environment (call.runFrom client).2

section KeepsSource

variable {environment : Environment} {α β : Type}

theorem keepsSource_of_quiet {call : Call α} (quiet : call.Quiet) :
    KeepsSource environment call := by
  intro client sourced
  rwa [quiet client]

theorem KeepsSource.bind {call : Call α} {next : α → Call β}
    (first : KeepsSource environment call)
    (rest : ∀ value, KeepsSource environment (next value)) :
    KeepsSource environment (call >>= next) := by
  intro client sourced
  have between := first client sourced
  cases ran : call.runFrom client with
  | mk outcome after =>
      rw [ran] at between
      cases outcome with
      | ok value =>
          rw [Call.runFrom_bind_ok ran]
          exact rest value after between
      | error fault =>
          rw [Call.runFrom_bind_error ran]
          exact between

theorem keepsSource_ask (request : Request) (read : Response → Evaluates α) :
    KeepsSource environment (ask environment request read) := by
  intro client sourced
  rw [Futures.RESTClient.ask_runFrom]
  exact sourced.mono rfl (List.prefix_append _ _) (Nat.le_refl _)

theorem keepsSource_askForSymbol (symbol : String) (request : Request)
    (decode : Json → Evaluates α) :
    KeepsSource environment (askForSymbol environment symbol request decode) := by
  by_cases unnamed : symbol = ""
  · rw [askForSymbol, if_pos unnamed]
    exact keepsSource_of_quiet (Call.quiet_lift _)
  · rw [Futures.RESTClient.askForSymbol_of_ne unnamed]
    exact keepsSource_ask _ _

theorem keepsSource_lookup (type : Futures.RESTClient.PrecisionType) (symbol : String) :
    KeepsSource environment
      (Futures.RESTClient.P.findPrecisionForSymbol environment type symbol) := by
  intro client sourced
  rcases Futures.RESTClient.P.findPrecisionForSymbol_outcome environment type symbol rfl with
    ⟨done, outcome, -⟩
  exact sourced.of_outcome outcome

theorem keepsSource_sendOrder (order : Futures.Order) :
    KeepsSource environment (Futures.RESTClient.sendOrder environment order) := by
  rw [Futures.RESTClient.sendOrder_eq]
  apply (keepsSource_lookup .Quantity order.symbol).bind
  intro quantityPrecision
  apply (keepsSource_lookup .Price order.symbol).bind
  intro pricePrecision
  exact keepsSource_ask _ _

theorem keepsSource_getExchangeInfo (force : Bool) :
    KeepsSource environment (Futures.RESTClient.getExchangeInfo environment force) := by
  intro client sourced
  rcases Futures.RESTClient.getExchangeInfo_outcome environment force rfl with
    ⟨done, outcome, -⟩
  exact sourced.of_outcome outcome

variable (environment) in
/-- A call that translates what another one returns keeps what that one keeps. -/
theorem ConnectorCall.keepsSource_perform (surroundings : Surroundings)
    (uninitialised : Uninitialised) (call : ConnectorCall) :
    KeepsSource environment (call.perform environment surroundings uninitialised) := by
  have translated : ∀ {α β : Type} (translate : α → β) (value : α),
      KeepsSource environment (pure (translate value) : Call β) :=
    fun _ _ => keepsSource_of_quiet (Futures.RESTClient.quiet_pure _)
  cases call with
  | login credentials =>
      intro client sourced
      exact sourced.of_outcome
        (Futures.RESTClient.updateExchangeInfo_outcome environment true client)
  | placeOrder order =>
      exact (keepsSource_sendOrder (binanceOrder order)).bind (translated tradeOf)
  | getTickerPrice symbol =>
      exact (keepsSource_askForSymbol symbol _ _).bind (translated _)
  | getSymbolInfo symbol =>
      exact (keepsSource_getExchangeInfo false).bind (translated (symbolsIn · symbol))
  | getAccountBalance currency => exact (keepsSource_ask _ _).bind (translated _)
  | getFundingRate symbol => exact (keepsSource_askForSymbol symbol _ _).bind (translated _)
  | getFundingRates => exact (keepsSource_ask _ _).bind (translated _)
  | getServerTime => exact keepsSource_ask _ _
  | getPositionInfo | getHistoricalFundingRates | getHistoricalCandles =>
      exact keepsSource_of_quiet (Call.quiet_lift _)

end KeepsSource

/-! ## What a call does -/

namespace ConnectorCall

/-- The symbol of the calls that refuse an empty one. -/
def symbol? : ConnectorCall → Option String
  | getTickerPrice symbol | getFundingRate symbol => some symbol
  | _ => none

/-- How often a call looks a precision up. -/
def lookups : ConnectorCall → Nat
  | placeOrder _ => 2
  | _ => 0

/-- The request of a call of the client, and what is made of the answer: a translation of
what that call makes of it. -/
def Translates {α β : Type} (environment : Environment) (call : Call α) (translate : α → β)
    (request : Request) (read : Response → Evaluates β) : Prop :=
  ∃ answer, call = ask environment request answer ∧
    read = fun response => (answer response).map translate

/-- The request that a call sends on its own account, and what it makes of the answer.  For
an order these depend on the precisions that were looked up. -/
def Own (environment : Environment) (surroundings : Surroundings)
    (uninitialised : Uninitialised) :
    (call : ConnectorCall) → Request → (Response → Evaluates call.Result) → Prop
  | placeOrder order, request, read => ∃ quantityPrecision pricePrecision,
      request = environment.session.request .post
        (Futures.RESTClient.orderTarget environment.externals quantityPrecision
          pricePrecision (binanceOrder order)) false ∧
      read = fun response => (decoded environment.externals (fun json =>
        (OrderResponse.fromJson environment.externals json).lift) response).map tradeOf
  | getTickerPrice symbol, request, read =>
      Translates environment (Futures.RESTClient.getBookTickerPrice environment symbol)
        tickerPriceOf request read
  | getAccountBalance currency, request, read =>
      Translates environment (Futures.RESTClient.getAccountBalances environment)
        (balanceIn surroundings.initial · currency) request read
  | getFundingRate symbol, request, read =>
      Translates environment
        (Futures.RESTClient.askLastFundingRate environment surroundings.sorting symbol)
        lastRateOf request read
  | getFundingRates, request, read =>
      Translates environment (Futures.RESTClient.getMarkPrices environment)
        (List.map fundingRateOf) request read
  | getServerTime, request, read =>
      Futures.RESTClient.getServerTime environment uninitialised =
        ask environment request read
  | login _, _, _ | getSymbolInfo _, _, _ | getPositionInfo _, _, _
  | getHistoricalFundingRates .., _, _ | getHistoricalCandles .., _, _ => False

end ConnectorCall

/-- Symbols that were made of one answer of the exchange to a request that the client
sent.  At each reading of the clock since the call began the answer was at most an hour
old. -/
def MadeOfInfo (environment : Environment) (symbol : String) (before after : ClientState)
    (symbols : List General.Symbol) : Prop :=
  ∃ n info stamped, after.sent[n]? = some (infoRequest environment) ∧
    infoAnswer environment n = .ok info ∧ stamped < after.readings ∧
    (∀ reading, before.readings ≤ reading → reading < after.readings →
      environment.clock reading - environment.clock stamped ≤
        Futures.RESTClient.EXCHANGE_DATA_MAX_AGE_S) ∧
    symbols = (info.symbols.filter fun el =>
      isSearched el ∧ (symbol = "" ∨ el.symbol = symbol)).map symbolOf

section Right

variable (surroundings : Surroundings)

/-- What a call does, between the connector that it finds and the one that it leaves. -/
def ConnectorCall.Right (uninitialised : Uninitialised) (entered after : Connector) :
    (call : ConnectorCall) → Evaluates call.Result → Prop
  | login _, outcome =>
      after.client.sent = [infoRequest (entered.environment surroundings)] ∧
        outcome = (infoAnswer (entered.environment surroundings) 0).map fun _ => ()
  | getSymbolInfo symbol, outcome =>
      (∃ downloads ≤ 1, after.client.sent = entered.client.sent ++
        List.replicate downloads (infoRequest (entered.environment surroundings))) ∧
      ∀ symbols, outcome = .ok symbols → MadeOfInfo (entered.environment surroundings)
        symbol entered.client after.client symbols
  | getPositionInfo _, outcome =>
      after = entered ∧ outcome = notImplemented "getPositionInfo"
  | getHistoricalFundingRates .., outcome =>
      after = entered ∧ outcome = notImplemented "getHistoricalFundingRates"
  | getHistoricalCandles .., outcome =>
      after = entered ∧ outcome = notImplemented "getHistoricalCandles"
  | call, outcome =>
      (call.symbol? = some "" → after = entered ∧ outcome =
        .error (.raised (.standard "Invalid parameter, symbol must be specified"))) ∧
      (call.symbol? ≠ some "" →
        Conduct (entered.environment surroundings) call.lookups
          (call.Own (entered.environment surroundings) surroundings uninitialised)
          entered.client outcome after.client)

def Report.Right (report : Report) : Prop :=
  report.call.Right surroundings report.uninitialised report.entered report.after
    report.outcome

end Right

section Conducts

variable {environment : Environment} {lookups : Nat} {α β : Type} {call : Call α}
  {translate : α → β}

theorem runFrom_translate (before : ClientState) :
    (call >>= fun value => pure (translate value)).runFrom before =
      ((call.runFrom before).1.map translate, (call.runFrom before).2) := by
  cases ran : call.runFrom before with
  | mk outcome after =>
      cases outcome with
      | ok value => exact Call.runFrom_bind_ok ran
      | error fault => exact Call.runFrom_bind_error ran

/-- A translation sends what the call sends, and translates what the call reads. -/
theorem conduct_translate {own : Request → (Response → Evaluates α) → Prop}
    {mine : Request → (Response → Evaluates β) → Prop} {before after : ClientState}
    {outcome : Evaluates α}
    (conduct : Conduct environment lookups own before outcome after)
    (translates : ∀ request answer, own request answer →
      mine request fun response => (answer response).map translate) :
    Conduct environment lookups mine before (outcome.map translate) after := by
  cases conduct with
  | asked downloads few own sent =>
      have read : ∀ (answer : Evaluates Response) (next : Response → Evaluates α),
          (answer >>= next).map translate =
            answer >>= fun response => (next response).map translate := by
        intro answer next
        cases answer <;> rfl
      rw [read]
      exact .asked downloads few (translates _ _ own) sent
  | failed downloads few answer sent => exact .failed downloads few answer sent

theorem conducts_translate {own : Request → (Response → Evaluates α) → Prop}
    {mine : Request → (Response → Evaluates β) → Prop}
    (conducts : Conducts environment lookups own call)
    (translates : ∀ request answer, own request answer →
      mine request fun response => (answer response).map translate) :
    Conducts environment lookups mine (call >>= fun value => pure (translate value)) := by
  intro before
  rw [runFrom_translate]
  exact conduct_translate (conducts before) translates

theorem conducts_translates {request : Request} {answer : Response → Evaluates α}
    (asks : call = ask environment request answer) :
    Conducts environment lookups (ConnectorCall.Translates environment call translate)
      (call >>= fun value => pure (translate value)) := by
  have conducts : Conducts environment lookups
      (fun request answer => call = ask environment request answer) call := by
    rw [asks]
    exact conducts_ask rfl
  exact conducts_translate conducts fun _ answer same => ⟨answer, same, rfl⟩

/-- Both precisions of an order are looked up before it is sent. -/
theorem conducts_sendOrder (order : Futures.Order) :
    Conducts environment 2
      (fun request answer => ∃ quantityPrecision pricePrecision,
        request = environment.session.request .post
          (Futures.RESTClient.orderTarget environment.externals quantityPrecision
            pricePrecision order) false ∧
        answer = decoded environment.externals fun json =>
          (OrderResponse.fromJson environment.externals json).lift)
      (Futures.RESTClient.sendOrder environment order) := by
  rw [Futures.RESTClient.sendOrder_eq]
  apply Conducts.after_lookup
  intro quantityPrecision
  apply Conducts.after_lookup
  intro pricePrecision
  exact conducts_ask ⟨quantityPrecision, pricePrecision, rfl, rfl⟩

end Conducts

/-! ## What every call does -/

section Calls

variable {surroundings : Surroundings} {entered : Connector}

/-- A new client knows nothing. -/
theorem constructed_unknown : Futures.RESTClient.constructed.exchange.lastUpdateTime < 0 := by
  decide

/-- The first download of a new client is its first request. -/
theorem updateExchangeInfo_constructed (environment : Environment) :
    let (outcome, client) := (Futures.RESTClient.updateExchangeInfo environment true).runFrom
      Futures.RESTClient.constructed
    client.sent = [infoRequest environment] ∧
      outcome = (infoAnswer environment 0).map fun _ => () := by
  have outcome := Futures.RESTClient.updateExchangeInfo_outcome environment true
    Futures.RESTClient.constructed
  generalize (Futures.RESTClient.updateExchangeInfo environment true).runFrom
    Futures.RESTClient.constructed = result at outcome ⊢
  rcases result with ⟨done, after⟩
  cases outcome with
  | kept known young => exact absurd constructed_unknown (not_lt.mpr known)
  | downloaded exchange judged later answer =>
      exact ⟨rfl, (congrArg (Except.map fun _ => ()) answer).symm⟩
  | failed fault judged later answer =>
      exact ⟨rfl, (congrArg (Except.map fun _ => ()) answer).symm⟩

/-- The symbols come from the information that the client has once its age was judged. -/
theorem madeOfInfo_of_outcome {environment : Environment} {before after : ClientState}
    (steady : Monotone environment.clock) (sourced : Sourced environment before)
    (outcome : Outcome environment before (.ok ()) after) (symbol : String) :
    MadeOfInfo environment symbol before after (symbolsIn after.exchange symbol) := by
  have recent := (outcome.recent steady).1
  rcases HasInfo.of_outcome sourced outcome with
    ⟨n, info, stamped, asked, answer, earlier, same⟩
  rw [same] at recent ⊢
  refine ⟨n, info, stamped, asked, answer, earlier, recent, ?_⟩
  simp only [symbolsIn, List.filter_filter]
  congr 1
  apply List.filter_congr
  intro el _
  by_cases empty : symbol = "" <;> simp [empty, and_comm]

theorem getSymbolInfo_made {environment : Environment} {before after : ClientState}
    {symbol : String} {outcome : Evaluates (List General.Symbol)}
    (steady : Monotone environment.clock) (sourced : Sourced environment before)
    (got : (getSymbolInfo environment symbol).runFrom before = (outcome, after)) :
    (∃ downloads ≤ 1,
      after.sent = before.sent ++ List.replicate downloads (infoRequest environment)) ∧
      ∀ symbols, outcome = .ok symbols →
        MadeOfInfo environment symbol before after symbols := by
  rw [getSymbolInfo, runFrom_translate] at got
  cases asked : (Futures.RESTClient.getExchangeInfo environment false).runFrom before with
  | mk result between =>
      rcases Futures.RESTClient.getExchangeInfo_outcome environment false asked with
        ⟨done, judged, rfl⟩
      rw [asked] at got
      cases got
      refine ⟨judged.sent, ?_⟩
      intro symbols returned
      cases done with
      | ok =>
          cases returned
          exact madeOfInfo_of_outcome steady sourced judged symbol
      | error fault => cases returned

/-- Every call does what it is there for, once the information of the client that it finds
has a source. -/
theorem step_right (call : ConnectorCall) (uninitialised : Uninitialised)
    {before : Connector}
    (steady : Monotone ((call.enter before).environment surroundings).clock)
    (sourced : Sourced ((call.enter before).environment surroundings)
      (call.enter before).client) :
    (Connector.step surroundings before (call, uninitialised)).2.Right surroundings := by
  cases call with
  | login credentials => exact updateExchangeInfo_constructed _
  | getSymbolInfo symbol => exact getSymbolInfo_made steady sourced rfl
  | placeOrder order =>
      refine ⟨fun unnamed => (by cases unnamed), fun _ => ?_⟩
      apply conducts_translate (conducts_sendOrder (binanceOrder order))
      rintro request answer ⟨quantityPrecision, pricePrecision, same, rfl⟩
      exact ⟨quantityPrecision, pricePrecision, same, rfl⟩
  | getTickerPrice symbol | getFundingRate symbol =>
      constructor
      · intro unnamed
        cases unnamed
        exact ⟨rfl, rfl⟩
      · intro named
        have specified : symbol ≠ "" := fun empty => named (congrArg some empty)
        exact conducts_translates (Futures.RESTClient.askForSymbol_of_ne specified _ _) _
  | getAccountBalance | getFundingRates =>
      exact ⟨fun unnamed => (by cases unnamed), fun _ => conducts_translates rfl _⟩
  | getServerTime =>
      exact ⟨fun unnamed => (by cases unnamed), fun _ => conducts_ask rfl _⟩
  | getPositionInfo | getHistoricalFundingRates | getHistoricalCandles => exact ⟨rfl, rfl⟩

end Calls

/-! ## Every run -/

/-- The connector after the calls of a log. -/
def Connector.left (start : Connector) (log : List Report) : Connector :=
  (log.getLast?.map Report.after).getD start

/-- What a report says about its place behind other reports. -/
structure Report.Told (surroundings : Surroundings) (start : Connector)
    (front : List Report) (report : Report) : Prop where
  /-- The call found what the call before it left, or its own new client. -/
  found : report.entered = report.call.enter (start.left front)
  /-- A call changes nothing but the client. -/
  kept : report.after = { report.entered with client := report.after.client }
  /-- The credentials are those of the last login, if there was one. -/
  credentials : (report.entered.apiKey, report.entered.apiSecret) =
    Reset.lastSet ConnectorCall.credentials? ("", "")
      ((front ++ [report]).map Report.call)
  right : report.Right surroundings

/-- What holds between the calls of a run. -/
structure Connector.Sound (surroundings : Surroundings) (start : Connector)
    (connector : Connector) (log : List Report) : Prop where
  left : connector = start.left log
  credentials : (connector.apiKey, connector.apiSecret) =
    Reset.lastSet ConnectorCall.credentials? ("", "") (log.map Report.call)
  sourced : Sourced (connector.environment surroundings) connector.client

section Run

variable {surroundings : Surroundings} {start connector : Connector} {log : List Report}

/-- A login sets the credentials and no other call does. -/
theorem ConnectorCall.credentials_enter (call : ConnectorCall) (connector : Connector) :
    ((call.enter connector).apiKey, (call.enter connector).apiSecret) =
      call.credentials?.getD (connector.apiKey, connector.apiSecret) := by
  cases call <;> rfl

/-- A new client has no information. -/
theorem Connector.Sound.sourced_enter (sound : Sound surroundings start connector log)
    (call : ConnectorCall) :
    Sourced ((call.enter connector).environment surroundings)
      (call.enter connector).client := by
  cases call with
  | login credentials => exact .inl constructed_unknown
  | _ => exact sound.sourced

theorem Connector.Sound.credentials_concat
    (sound : Sound surroundings start connector log) (report : Report) :
    ((report.call.enter connector).apiKey, (report.call.enter connector).apiSecret) =
      Reset.lastSet ConnectorCall.credentials? ("", "")
        ((log ++ [report]).map Report.call) := by
  rw [List.map_append, List.map_singleton, Reset.lastSet_concat, ← sound.credentials]
  exact report.call.credentials_enter connector

theorem Connector.Sound.step (sound : Sound surroundings start connector log)
    (input : ConnectorCall × Uninitialised) :
    Sound surroundings start (connector.step surroundings input).1
      (log ++ [(connector.step surroundings input).2]) where
  left := by simp [Connector.left]; rfl
  credentials := sound.credentials_concat (connector.step surroundings input).2
  sourced := by
    exact ConnectorCall.keepsSource_perform _ surroundings input.2 input.1 _
      (sound.sourced_enter input.1)

theorem Connector.Sound.told
    (steady : ∀ logins apiKey apiSecret,
      Monotone (surroundings.connect logins apiKey apiSecret).clock)
    (sound : Sound surroundings start connector log)
    (input : ConnectorCall × Uninitialised) :
    (connector.step surroundings input).2.Told surroundings start log where
  found := congrArg input.1.enter sound.left
  kept := rfl
  credentials := sound.credentials_concat (connector.step surroundings input).2
  right := step_right input.1 input.2 (steady _ _ _) (sound.sourced_enter input.1)

theorem Connector.sound_constructed
    (constructed : Connector.constructed surroundings = .ok start) :
    Sound surroundings start start [] := by
  have outcome := Futures.RESTClient.updateExchangeInfo_outcome
    (surroundings.connect 0 "" "") true Futures.RESTClient.constructed
  simp only [Connector.constructed] at constructed
  generalize (Futures.RESTClient.updateExchangeInfo (surroundings.connect 0 "" "")
    true).runFrom Futures.RESTClient.constructed = result at outcome constructed
  rcases result with ⟨done, client⟩
  cases done with
  | ok =>
      cases constructed
      exact ⟨rfl, rfl, .of_outcome (.inl constructed_unknown) outcome⟩
  | error fault => cases constructed

end Run

end BinanceFuturesExchangeConnector

open BinanceFuturesExchangeConnector (Connector ConnectorCall Report Surroundings)

/-- In every run of calls on a connector, whether they return or throw, each call finds
the client that the call before it left, and a login a new one, with the credentials of
the last login.  A call asks that client for what it translates, once, and an order after
its lookups; symbols come from exchange information that the client itself downloaded and
that is at most an hour old, also after a login that threw. -/
theorem connector_reports (surroundings : Surroundings)
    (steady : ∀ logins apiKey apiSecret,
      Monotone (surroundings.connect logins apiKey apiSecret).clock)
    (start : Connector) (constructed : Connector.constructed surroundings = .ok start)
    (inputs : List (ConnectorCall × Futures.Uninitialised)) :
    let (connector, reports) := Connector.run surroundings start inputs
    reports.map Report.call = inputs.map Prod.fst ∧
      connector = start.left reports ∧
      ∀ front report back, reports = front ++ report :: back →
        report.Told surroundings start front := by
  have initial := Connector.sound_constructed constructed
  refine ⟨?_, ?_, ?_⟩
  · have tells : ∀ connector input,
        (Connector.step surroundings connector input).2.call = input.1 := fun _ _ => rfl
    exact Machine.run_map tells start inputs
  · exact (Machine.run_invariant (Connector.Sound surroundings start)
      (fun _ _ input sound => sound.step input) initial inputs).left
  · exact Machine.run_each (Connector.Sound surroundings start)
      (fun front report => report.Told surroundings start front)
      (fun _ _ input sound => sound.step input)
      (fun _ _ input sound => sound.told steady input) initial inputs

/-- An exchange that answers each request, also those of other clients, alike. -/
def sampleSurroundings : Surroundings where
  connect _ _ _ := Futures.infoEnvironment
  sorting := .stable Futures.FundingRate.fundingTime
  initial := { balance := 0 }

def sampleConnector : Connector where
  logins := 0
  apiKey := ""
  apiSecret := ""
  client :=
    { exchange := { Futures.Exchange.empty with lastUpdateTime := 1700000000 }
      sent := [infoRequest Futures.infoEnvironment]
      readings := 1 }

/-- A login between two calls that need exchange information. -/
def sampleCalls : List (ConnectorCall × Futures.Uninitialised) :=
  [(.getSymbolInfo "", ⟨0, false, 0⟩), (.login ("key", "secret", ""), ⟨0, false, 0⟩),
    (.placeOrder marketOrder, ⟨0, false, 0⟩)]

theorem connector_reports_sample :
    let (connector, reports) :=
      Connector.run sampleSurroundings sampleConnector sampleCalls
    reports.map Report.call = sampleCalls.map Prod.fst ∧
      connector = sampleConnector.left reports ∧
      ∀ front report back, reports = front ++ report :: back →
        report.Told sampleSurroundings sampleConnector front := by
  have steady : Monotone Futures.infoEnvironment.clock := by
    intro earlier later before
    simp only [Futures.infoEnvironment]
    omega
  exact connector_reports sampleSurroundings (fun _ _ _ => steady) sampleConnector rfl
    sampleCalls

end BinanceApi
