import BinanceApi.Models.Answers
import BinanceApi.Rest.ExchangeInfo
import BinanceApi.Rest.Queries

/-!
# The calls of the futures client

Next to the downloads that page through a history, the client has calls that send one
request and decode one answer, and calls that look precisions up before they do so.  The
exchange information is the only state that any of them changes.
-/

namespace BinanceApi.Futures

/-- What the variables hold that a call declares without a value. -/
structure Uninitialised where
  time : Int
  isDualMode : Bool
  targetLeverage : Int

end BinanceApi.Futures

namespace BinanceApi

/-- `operator[]` with a key on a variable: a member that is missing is added as `null`,
and `null` becomes an object.  On anything else the library throws. -/
def Json.subscript : Json → String → Throws Json
  | .object members, key => .ok ((members.lookup key).getD .null)
  | .null, _ => .ok .null
  | _, _ => .error (.json "type_error.305")

/-- `json == value` for an integer. -/
def Json.equalsInt : Json → Int → Bool
  | .integer whole, value => whole = value
  | .number decimal, value => decimal = value
  | _, _ => false

namespace Futures.RESTClient

/-! ## One request and its answer -/

section Asking

variable {α : Type}

/-- Send a request, and make a value of the answer. -/
def ask (environment : Environment) (request : Request)
    (read : Response → Evaluates α) : Call α := do
  let response ← send environment request
  Call.lift (read response)

/-- Decode the body of an answer that is good. -/
def decoded (externals : Externals) (decode : Json → Evaluates α) (response : Response) :
    Evaluates α := do
  let response ← (checkResponse externals response).lift
  let json ← response.json.lift
  decode json

/-- Check an answer without a look at its body. -/
def acknowledged (externals : Externals) (response : Response) : Evaluates Unit := do
  let _ ← (checkResponse externals response).lift
  return ()

/-- `HTTPSession::getV2` of a futures session. -/
def getV2 (target : Target) (isPublic : Bool) : Request where
  verb := .get
  api := "/fapi/v2/"
  target := target
  isPublic := isPublic

end Asking

section Prices

variable (environment : Environment)

/-- The calls for one symbol refuse an empty one. -/
def askForSymbol {α : Type} (symbol : String) (request : Request)
    (decode : Json → Evaluates α) : Call α :=
  if symbol = "" then
    Call.lift (.error (.raised (.standard "Invalid parameter, symbol must be specified")))
  else ask environment request (decoded environment.externals decode)

def getMarkPrice (symbol : String) : Call MarkPrice :=
  askForSymbol environment symbol
    (environment.session.request .get ⟨"premiumIndex?", [("symbol", symbol)]⟩ true)
    fun json => (MarkPrice.fromJson environment.externals json).lift

def getTickerPrice (symbol : String) : Call TickerPrice :=
  askForSymbol environment symbol
    (environment.session.request .get ⟨"ticker/price?", [("symbol", symbol)]⟩ true)
    fun json => (TickerPrice.fromJson environment.externals json).lift

def getBookTickerPrice (symbol : String) : Call BookTickerPrice :=
  askForSymbol environment symbol
    (environment.session.request .get ⟨"ticker/bookTicker?", [("symbol", symbol)]⟩ true)
    fun json => (BookTickerPrice.fromJson environment.externals json).lift

def getMarkPrices : Call (List MarkPrice) :=
  ask environment (environment.session.request .get ⟨"premiumIndex", []⟩ true)
    (decoded environment.externals fun json =>
      (MarkPrices.fromJson environment.externals json).lift)

def getOpenInterest (symbol : String) : Call OpenInterest :=
  ask environment
    (environment.session.request .get ⟨"openInterest?", [("symbol", symbol)]⟩ true)
    (decoded environment.externals fun json =>
      (OpenInterest.fromJson environment.externals json).lift)

def getHistoricalPricesSingle (symbol : String) (interval : CandleInterval)
    (startTime endTime limit : Int) : Call (List Candle) :=
  ask environment
    (environment.session.request .get
      (RESTClient.klinesTarget symbol interval startTime endTime limit) true)
    (decoded environment.externals CandlesResponse.fromJson)

/-- `readValue` may leave the time as it is. -/
def getServerTime (uninitialised : Uninitialised) : Call Int :=
  ask environment (environment.session.request .get ⟨"time?", []⟩ true)
    (decoded environment.externals fun json =>
      (environment.externals.readInt json "serverTime" uninitialised.time).lift)

end Prices

section AccountCalls

variable (environment : Environment)

def getAccountInfo : Call Account :=
  ask environment (getV2 ⟨"account?", []⟩ false)
    (decoded environment.externals (Account.fromJson environment.externals))

def getAccountBalances : Call (List AccountBalance) :=
  ask environment (getV2 ⟨"balance?", []⟩ false)
    (decoded environment.externals fun json =>
      (json.values.mapM (AccountBalance.fromJson environment.externals)).lift)

def getPosition (readers : PositionReaders) (symbol : String) : Call (List Position) :=
  ask environment (getV2 (positionTarget symbol) false)
    (decoded environment.externals fun json =>
      (json.values.mapM (Position.fromJson environment.externals readers)).lift)

def getPositionRisk (readers : PositionReaders) (symbol : String) :
    Call (List PositionRisk) :=
  ask environment
    (environment.session.request .get ⟨"positionRisk?", [("symbol", symbol)]⟩ false)
    (decoded environment.externals fun json =>
      (json.values.mapM (PositionRisk.fromJson environment.externals readers)).lift)

/-- `readValue` may leave the mode as it is. -/
def getPositionMode (uninitialised : Uninitialised) : Call PositionMode :=
  ask environment (environment.session.request .get ⟨"positionSide/dual?", []⟩ false)
    (decoded environment.externals fun json => do
      let isDualMode ←
        (environment.externals.readBool json "dualSidePosition"
          uninitialised.isDualMode).lift
      return if isDualMode then .Hedge else .OneWay)

def getIncome (symbol : String) (startTime endTime : Int) (incomeType : IncomeType) :
    Call (List Income) :=
  ask environment
    (environment.session.request .get
      (incomeTarget symbol startTime endTime incomeType) false)
    (decoded environment.externals fun json =>
      (Incomes.fromJson environment.externals json).lift)

def getDownloadId (startTime endTime : Int) : Call DownloadId :=
  ask environment
    (environment.session.request .get
      ⟨"income/asyn?", [("startTime", startTime.repr), ("endTime", endTime.repr)]⟩ false)
    (decoded environment.externals fun json =>
      (DownloadId.fromJson environment.externals json).lift)

def getDownloadUrl (downloadId : DownloadId) : Call String :=
  ask environment
    (environment.session.request .get
      ⟨"income/asyn/id?", [("downloadId", downloadId.downloadId)]⟩ false)
    (decoded environment.externals fun json =>
      (do (← json.subscript "url").getString : Throws String).lift)

/-- The answer's notional value is text.  `readValue` may leave the leverage as it is. -/
def changeInitialLeverage (uninitialised : Uninitialised) (symbol : String)
    (leverage : Int) : Call (Int × AnyDouble) :=
  ask environment
    (environment.session.request .post
      ⟨"leverage?", [("symbol", symbol), ("leverage", leverage.repr)]⟩ false)
    (decoded environment.externals fun json => do
      let targetLeverage ←
        (environment.externals.readInt json "leverage" uninitialised.targetLeverage).lift
      let maxNotionalValue ←
        (environment.externals.readString json "maxNotionalValue" "").lift
      return (targetLeverage, ← (stod maxNotionalValue).lift))

def startUserDataStream : Call String :=
  ask environment (environment.session.request .post ⟨"listenKey?", []⟩ false)
    (decoded environment.externals fun json =>
      (environment.externals.readString json "listenKey" "").lift)

def keepAliveUserDataStream : Call Unit :=
  ask environment (environment.session.request .put ⟨"listenKey?", []⟩ false)
    (acknowledged environment.externals)

def closeUserDataStream : Call Unit :=
  ask environment (environment.session.request .delete ⟨"listenKey?", []⟩ false)
    (acknowledged environment.externals)

end AccountCalls

section OrderCalls

variable (environment : Environment)

def cancelOrder (symbol clientId : String) (orderId : Int) : Call OrderResponse :=
  ask environment
    (environment.session.request .delete (cancelOrderTarget symbol clientId orderId) false)
    (decoded environment.externals fun json =>
      (OrderResponse.fromJson environment.externals json).lift)

def queryOrder (symbol clientId : String) (orderId : Int) : Call OrderResponse :=
  ask environment
    (environment.session.request .get (queryOrderTarget symbol clientId orderId) false)
    (decoded environment.externals fun json =>
      (OrderResponse.fromJson environment.externals json).lift)

def getAllOpenOrders (symbol : String) : Call (List Order) :=
  ask environment
    (environment.session.request .get ⟨"openOrders?", [("symbol", symbol)]⟩ false)
    (decoded environment.externals fun json =>
      (json.values.mapM (Order.fromJson environment.externals)).lift)

/-- What becomes of the caller's message is part of the result: it is replaced only if
the answer has another code than 200. -/
def cancelAllOpenOrders (symbol errorMsg : String) : Call (Bool × String) :=
  ask environment
    (environment.session.request .delete ⟨"allOpenOrders?", [("symbol", symbol)]⟩ false)
    (decoded environment.externals fun json => (do
      if (← json.subscript "code").equalsInt 200 then return (true, errorMsg)
      else return (false, ← (← json.subscript "msg").getString) : Throws _).lift)

end OrderCalls

end Futures.RESTClient

end BinanceApi
