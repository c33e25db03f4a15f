import BinanceApi.Rest.Precisions

/-!
# Exchange connector

The connector translates orders of the common library into orders of the futures
market, and the exchange's answers into trades.  The common library's types are not
part of this repository: an order has the fields that the connector copies, and the
limit and stop prices that its types need.
-/

namespace BinanceApi

namespace General

inductive Side where
  | Buy | Sell
  deriving DecidableEq, Repr

inductive OrderType where
  | Market | Limit | Stop | StopLimit
  deriving DecidableEq, Repr

inductive TimeInForce where
  | GTC | IOC | FOK
  deriving DecidableEq, Repr

/-- The statuses that the connector reports. -/
inductive OrderStatus where
  | New | Filled | Cancelled | Rejected | Expired
  deriving DecidableEq, Repr

structure Order where
  symbol : String
  side : Side
  type : OrderType
  timeInForce : TimeInForce
  quantity : Double
  price : Double
  stopPrice : Double
  clientOrderId : String
  deriving DecidableEq, Repr

structure Trade where
  fillTime : Int
  orderStatus : OrderStatus
  averagePrice : Double
  filledQuantity : Double
  deriving DecidableEq, Repr

end General

open Futures (Call ClientState Environment OrderResponse RESTClient.Looked queryPairs)

namespace BinanceFuturesExchangeConnector

def P.generalOrderSideToBinanceOrderSide : General.Side → Side
  | .Buy => .BUY
  | .Sell => .SELL

def P.generalOrderTypeToBinanceOrderType : General.OrderType → Futures.OrderType
  | .Market => .MARKET
  | .Limit => .LIMIT
  | .Stop => .STOP_MARKET
  | .StopLimit => .STOP

def P.generalTImeInForceToBinanceTimeInForce : General.TimeInForce → TimeInForce
  | .GTC => .GTC
  | .IOC => .IOC
  | .FOK => .FOK

def P.binanceOrderStatusToGeneralOrderStatus :
    Futures.OrderStatus → General.OrderStatus
  | .NEW => .New
  | .PARTIALLY_FILLED | .FILLED => .Filled
  | .CANCELED | .PENDING_CANCEL => .Cancelled
  | .REJECTED => .Rejected
  | .EXPIRED => .Expired
  -- the source's default
  | .EXPIRED_IN_MATCH => .Filled

/-- The order that `placeOrder` sends; the fields that it does not set keep their
defaults. -/
def binanceOrder (order : General.Order) : Futures.Order where
  symbol := order.symbol
  side := P.generalOrderSideToBinanceOrderSide order.side
  type := P.generalOrderTypeToBinanceOrderType order.type
  timeInForce := P.generalTImeInForceToBinanceTimeInForce order.timeInForce
  quantity := order.quantity
  newOrderRespType := .RESULT
  newClientOrderId := order.clientOrderId

/-- The trade that `placeOrder` makes of the answer. -/
def tradeOf (orderResponse : OrderResponse) : General.Trade where
  fillTime := orderResponse.timestamp
  orderStatus := P.binanceOrderStatusToGeneralOrderStatus orderResponse.orderStatus
  averagePrice := orderResponse.avgPrice
  filledQuantity := orderResponse.executedQty

def placeOrder (environment : Environment) (order : General.Order) :
    Call General.Trade := do
  let orderResponse ← Futures.RESTClient.sendOrder environment (binanceOrder order)
  return tradeOf orderResponse

/-! ## The answer to an order -/

/-- An order that was answered was sent, and the answer decoded. -/
theorem answer_of_sendOrder {environment : Environment} {order : Futures.Order}
    {client after : ClientState} {orderResponse : OrderResponse}
    (sent : (Futures.RESTClient.sendOrder environment order).runFrom client =
      (.ok orderResponse, after)) :
    ∃ target before response json,
      after.sent = before ++ [environment.session.request .post target false] ∧
      environment.session.wire before.length
        (environment.session.request .post target false) = .ok response ∧
      response.status = httpOk ∧ response.json = .ok json ∧
      OrderResponse.fromJson environment.externals json = .ok orderResponse := by
  rcases Call.bind_ok sent with ⟨target, between, -, rest⟩
  rcases Call.bind_ok rest with ⟨response, posted, answered, rest⟩
  rcases Call.bind_ok rest with ⟨checked, same, passed, rest⟩
  rcases Call.bind_ok rest with ⟨json, again, parsed, decoded⟩
  simp only [Futures.RESTClient.runFrom_send, Prod.mk.injEq, Throws.lift_eq_ok_iff]
    at answered
  simp only [Call.runFrom_lift, Prod.mk.injEq, Throws.lift_eq_ok_iff]
    at passed parsed decoded
  rcases answered with ⟨answered, rfl⟩
  rcases passed with ⟨passed, rfl⟩
  rcases parsed with ⟨parsed, rfl⟩
  rcases decoded with ⟨decoded, rfl⟩
  rcases checkResponse_eq_ok passed with ⟨rfl, good⟩
  exact ⟨target, between.sent, _, json, rfl, answered, good, parsed, decoded⟩

/-- The status and the executed quantity of an answer are read independently. -/
theorem status_of_fromJson {externals : Externals} {json : Json}
    {orderResponse : OrderResponse}
    (decoded : OrderResponse.fromJson externals json = .ok orderResponse) :
    externals.readMagicEnum json "status" Futures.OrderStatus.NEW =
        .ok orderResponse.orderStatus ∧
      externals.readStringAsDouble json "executedQty" = .ok orderResponse.executedQty := by
  rcases exists_of_bind_ok decoded with ⟨order, -, rest⟩
  rcases exists_of_bind_ok rest with ⟨responseOrderId, -, rest⟩
  rcases exists_of_bind_ok rest with ⟨clientOrderId, -, rest⟩
  rcases exists_of_bind_ok rest with ⟨orderStatus, status, rest⟩
  rcases exists_of_bind_ok rest with ⟨avgPrice, -, rest⟩
  rcases exists_of_bind_ok rest with ⟨origQty, -, rest⟩
  rcases exists_of_bind_ok rest with ⟨executedQty, executed, rest⟩
  rcases exists_of_bind_ok rest with ⟨cumQty, -, rest⟩
  rcases exists_of_bind_ok rest with ⟨cumQuote, -, rest⟩
  rcases exists_of_bind_ok rest with ⟨origType, -, rest⟩
  rcases exists_of_bind_ok rest with ⟨errCode, -, rest⟩
  rcases exists_of_bind_ok rest with ⟨errMsg, -, built⟩
  cases built
  exact ⟨status, executed⟩

/-- An answer with a status, which says that the order is filled exactly when the
executed quantity is the ordered one. -/
structure StatusAnswer (externals : Externals) (quantity : Double) (json : Json)
    (wireStatus : String) : Prop where
  status : json.find? "status" = some (.string wireStatus)
  filled : ∀ executed, externals.readStringAsDouble json "executedQty" = .ok executed →
    (wireStatus = "FILLED" ↔ executed = quantity)

/-- Which statuses on the wire are reported as filled: an unknown one is taken for the
default, which is not. -/
theorem filled_of_status {externals : Externals}
    (reads : externals.ReadsEnum Futures.OrderStatus) {json : Json} {wireStatus : String}
    {decoded : Futures.OrderStatus}
    (found : json.find? "status" = some (.string wireStatus))
    (read : externals.readMagicEnum json "status" Futures.OrderStatus.NEW = .ok decoded)
    (filled : P.binanceOrderStatusToGeneralOrderStatus decoded = .Filled) :
    wireStatus = "FILLED" ∨ wireStatus = "PARTIALLY_FILLED" ∨
      wireStatus = "EXPIRED_IN_MATCH" := by
  by_cases named : ∃ value : Futures.OrderStatus, MagicEnum.enumName value = wireStatus
  · rcases named with ⟨value, rfl⟩
    rw [reads.named json "status" value .NEW found, Except.ok.injEq] at read
    subst read
    cases value with
    | FILLED => exact .inl rfl
    | PARTIALLY_FILLED => exact .inr (.inl rfl)
    | EXPIRED_IN_MATCH => exact .inr (.inr rfl)
    | NEW | CANCELED | PENDING_CANCEL | REJECTED | EXPIRED => cases filled
  · have unnamed : ∀ value : Futures.OrderStatus, MagicEnum.enumName value ≠ wireStatus :=
      fun value same => named ⟨value, same⟩
    rw [reads.unnamed json "status" wireStatus .NEW decoded found unnamed read] at filled
    cases filled

/-- What a trade says about the answer to its order, the last request sent: it repeats
the executed quantity, and calls an order filled if it is partially filled.  Nothing is
said about an order that expired in match. -/
def Reports (environment : Environment) (order : General.Order) (trade : General.Trade)
    (after : ClientState) : Prop :=
  ∃ target before response json wireStatus,
    after.sent = before ++ [environment.session.request .post target false] ∧
    environment.session.wire before.length
      (environment.session.request .post target false) = .ok response ∧
    response.json = .ok json ∧ json.find? "status" = some (.string wireStatus) ∧
    environment.externals.readStringAsDouble json "executedQty" =
      .ok trade.filledQuantity ∧
    (wireStatus = "PARTIALLY_FILLED" → trade.orderStatus = .Filled) ∧
    (trade.orderStatus = .Filled → wireStatus ≠ "EXPIRED_IN_MATCH" →
      wireStatus = "FILLED" ∧ trade.filledQuantity = order.quantity ∨
        wireStatus = "PARTIALLY_FILLED")

end BinanceFuturesExchangeConnector

open BinanceFuturesExchangeConnector (Reports StatusAnswer binanceOrder placeOrder)

/-- A trade that calls its order filled is of an order that is filled or partially
filled, unless the order expired in match. -/
theorem placeOrder_filled (environment : Environment) (order : General.Order)
    (trade : General.Trade) (client after : ClientState)
    (reads : environment.externals.ReadsEnum Futures.OrderStatus)
    (answers : ∀ n target response json,
      environment.session.wire n (environment.session.request .post target false) =
        .ok response → response.status = httpOk → response.json = .ok json →
      ∃ wireStatus, StatusAnswer environment.externals order.quantity json wireStatus)
    (placed : (placeOrder environment order).runFrom client = (.ok trade, after)) :
    Reports environment order trade after := by
  rcases Call.bind_ok placed with ⟨orderResponse, between, sent, reported⟩
  cases reported
  rcases BinanceFuturesExchangeConnector.answer_of_sendOrder sent with
    ⟨target, before, response, json, posted, answered, good, parsed, decoded⟩
  rcases answers before.length target response json answered good parsed with
    ⟨wireStatus, found, filled⟩
  rcases BinanceFuturesExchangeConnector.status_of_fromJson decoded with ⟨status, executed⟩
  refine ⟨target, before, response, json, wireStatus, posted, answered, parsed, found,
    executed, ?_, ?_⟩
  · rintro rfl
    have read := reads.named json "status" Futures.OrderStatus.PARTIALLY_FILLED .NEW found
    rw [read, Except.ok.injEq] at status
    simp only [BinanceFuturesExchangeConnector.tradeOf, ← status]
    rfl
  · intro reported notExpired
    rcases BinanceFuturesExchangeConnector.filled_of_status reads found status reported with
      full | part | expired
    · exact .inl ⟨full, (filled _ executed).mp full⟩
    · exact .inr part
    · exact absurd expired notExpired

/-- An exchange that has executed a tenth of the asset. -/
def partialJson : Json :=
  .object [("executedQty", .string "0.1"), ("status", .string "PARTIALLY_FILLED")]

def partialEnvironment : Environment where
  externals := .plain
  session := .futures fun _ _ => .ok ⟨httpOk, .ok partialJson⟩
  clock := fun _ => 1700000060

/-- An order for half of the asset. -/
def marketOrder : General.Order where
  symbol := "BTCUSDT"
  side := .Buy
  type := .Market
  timeInForce := .GTC
  quantity := 1 / 2
  price := 61000
  stopPrice := 60000
  clientOrderId := ""

theorem statusAnswer_partialJson :
    StatusAnswer .plain marketOrder.quantity partialJson "PARTIALLY_FILLED" where
  status := rfl
  filled := by
    intro executed read
    have tenth : Externals.plain.readStringAsDouble partialJson "executedQty" =
        .ok (1 / 10) := by decide +kernel
    rw [tenth, Except.ok.injEq] at read
    rw [← read]
    decide +kernel

theorem partialEnvironment_answers (n : Nat) (target : Target) (response : Response)
    (json : Json)
    (answered : partialEnvironment.session.wire n
      (partialEnvironment.session.request .post target false) = .ok response)
    (parsed : response.json = .ok json) :
    ∃ wireStatus, StatusAnswer .plain marketOrder.quantity json wireStatus := by
  cases answered
  cases parsed
  exact ⟨_, statusAnswer_partialJson⟩

theorem placeOrder_filled_sample :
    Reports partialEnvironment marketOrder
      { fillTime := 0
        orderStatus := .Filled
        averagePrice := 0
        filledQuantity := 1 / 10 }
      ((placeOrder partialEnvironment marketOrder).runFrom Futures.listedClient).2 :=
  placeOrder_filled partialEnvironment marketOrder _ Futures.listedClient _
    (Externals.plain_readsEnum Futures.OrderStatus)
    (fun n target response json answered _ parsed =>
      partialEnvironment_answers n target response json answered parsed)
    (Prod.ext (by decide +kernel) rfl)

/-- A tenth of the order's half was executed, and the trade is reported as filled. -/
theorem partially_filled_sample :
    StatusAnswer .plain marketOrder.quantity partialJson "PARTIALLY_FILLED" ∧
      ((placeOrder partialEnvironment marketOrder).runFrom Futures.listedClient).1 =
        .ok { fillTime := 0
              orderStatus := .Filled
              averagePrice := 0
              filledQuantity := 1 / 10 } ∧
      (1 / 10 : Double) ≠ marketOrder.quantity :=
  ⟨statusAnswer_partialJson, by decide +kernel, by decide +kernel⟩

namespace BinanceFuturesExchangeConnector

/-! ## The prices of an order -/

/-- The price parameters among those that a type of order is sent with. -/
def priceParams : Futures.OrderType → List String
  | .LIMIT => ["price"]
  | .STOP | .TAKE_PROFIT => ["price", "stopPrice"]
  | .STOP_MARKET | .TAKE_PROFIT_MARKET => ["stopPrice"]
  | .MARKET | .TRAILING_STOP_MARKET | .LIMIT_MAKER => []

/-- What the caller specified for a price parameter. -/
def callerPrice (order : General.Order) (name : String) : Double :=
  if name = "price" then order.price else order.stopPrice

/-- Each price parameter of the request has the caller's value with the digits of the
precision, and none is the default of the field. -/
def CarriesPrices (externals : Externals) (order : General.Order) (precision : Int)
    (pairs : Set (String × String)) : Prop :=
  ∀ name ∈ priceParams (P.generalOrderTypeToBinanceOrderType order.type),
    (name, externals.formatDouble precision (callerPrice order name)) ∈ pairs ∧
      (name, externals.formatDouble precision 0) ∉ pairs

/-- What is sent for an order in the place of its prices is the default, since the
translation leaves both fields out. -/
theorem default_mem_query (externals : Externals) (order : General.Order)
    (quantityPrecision pricePrecision : Int) {name : String}
    (priced : name ∈ priceParams (P.generalOrderTypeToBinanceOrderType order.type)) :
    (name, externals.formatDouble pricePrecision 0) ∈ queryPairs
      (Futures.RESTClient.orderTarget externals quantityPrecision pricePrecision
        (binanceOrder order)) := by
  have typed : (name, externals.formatDouble pricePrecision 0) ∈
      Futures.RESTClient.typeParams externals quantityPrecision pricePrecision
        (binanceOrder order) := by
    simp only [Futures.RESTClient.typeParams, binanceOrder]
    cases type : order.type with
    | Market =>
        rw [type] at priced
        cases priced
    | Limit | Stop | StopLimit =>
        simp only [type, P.generalOrderTypeToBinanceOrderType, priceParams] at priced ⊢
        simp only [List.mem_cons, List.not_mem_nil, or_false] at priced
        simp [priced]
  simp [queryPairs, Futures.RESTClient.orderTarget, typed]

theorem carriesPrices_iff (externals : Externals) (order : General.Order)
    (quantityPrecision pricePrecision : Int) :
    CarriesPrices externals order pricePrecision (queryPairs
        (Futures.RESTClient.orderTarget externals quantityPrecision pricePrecision
          (binanceOrder order))) ↔
      order.type = .Market := by
  constructor
  · intro carries
    by_contra priced
    have some : ∃ name, name ∈
        priceParams (P.generalOrderTypeToBinanceOrderType order.type) := by
      cases type : order.type with
      | Market => exact absurd type priced
      | Limit | StopLimit => exact ⟨"price", List.mem_cons_self⟩
      | Stop => exact ⟨"stopPrice", List.mem_cons_self⟩
    rcases some with ⟨name, member⟩
    exact (carries name member).2
      (default_mem_query externals order quantityPrecision pricePrecision member)
  · intro market name member
    rw [market] at member
    cases member

/-- Once the precisions are known, the order is sent. -/
theorem placeOrder_sent {environment : Environment} {order : General.Order}
    {client after : ClientState} {quantityPrecision pricePrecision : Int}
    (looked : RESTClient.Looked environment (binanceOrder order) client
      quantityPrecision pricePrecision after) :
    ((placeOrder environment order).runFrom client).2.sent =
      after.sent ++ [environment.session.request .post
        (Futures.RESTClient.orderTarget environment.externals quantityPrecision
          pricePrecision (binanceOrder order)) false] := by
  have prepared : (Futures.RESTClient.prepareTarget environment
      (binanceOrder order)).runFrom client =
        (.ok (Futures.RESTClient.orderTarget environment.externals quantityPrecision
          pricePrecision (binanceOrder order)), after) := by
    rcases looked.lookups with ⟨between, quantity, -, price⟩
    rw [Futures.RESTClient.prepareTarget, Call.runFrom_bind_ok quantity,
      Call.runFrom_bind_ok price]
    rfl
  rw [placeOrder, Call.state_bind_of_quiet]
  · exact Futures.RESTClient.sendOrder_sent prepared
  · intro orderResponse
    exact Futures.RESTClient.quiet_pure _

end BinanceFuturesExchangeConnector

open BinanceFuturesExchangeConnector (CarriesPrices)

/-- An order with known precisions is sent with its prices exactly if it is a market
order, which has none. -/
theorem placeOrder_prices_iff (environment : Environment) (order : General.Order)
    (client after : ClientState) (quantityPrecision pricePrecision : Int)
    (looked : RESTClient.Looked environment (binanceOrder order) client
      quantityPrecision pricePrecision after) :
    let target := Futures.RESTClient.orderTarget environment.externals quantityPrecision
      pricePrecision (binanceOrder order)
    ((placeOrder environment order).runFrom client).2.sent =
        after.sent ++ [environment.session.request .post target false] ∧
      (CarriesPrices environment.externals order pricePrecision (queryPairs target) ↔
        order.type = .Market) := by
  intro target
  exact ⟨BinanceFuturesExchangeConnector.placeOrder_sent looked,
    BinanceFuturesExchangeConnector.carriesPrices_iff environment.externals order
      quantityPrecision pricePrecision⟩

/-- A limit order for half of the asset. -/
def limitOrder : General.Order :=
  { marketOrder with type := .Limit }

/-- Both orders are written with the precisions of their symbol. -/
theorem looked_listedClient (order : General.Order) (symbol : order.symbol = "BTCUSDT") :
    RESTClient.Looked Futures.sampleEnvironment (binanceOrder order)
      Futures.listedClient 3 1 { Futures.listedClient with readings := 2 } := by
  have looked := Futures.RESTClient.looked_of_fresh Futures.listedClient_fresh
    (binanceOrder order)
  simp only [binanceOrder, symbol] at looked ⊢
  exact looked

theorem placeOrder_prices_sample :
    CarriesPrices .plain marketOrder 1 (queryPairs
        (Futures.RESTClient.orderTarget .plain 3 1 (binanceOrder marketOrder))) ↔
      marketOrder.type = .Market :=
  (placeOrder_prices_iff Futures.sampleEnvironment marketOrder Futures.listedClient _ 3 1
    (looked_listedClient marketOrder rfl)).2

/-- The limit order goes out with a price of zero. -/
theorem limit_price_lost_sample :
    let target := Futures.RESTClient.orderTarget .plain 3 1 (binanceOrder limitOrder)
    ((placeOrder Futures.sampleEnvironment limitOrder).runFrom Futures.listedClient).2.sent =
        [Futures.sampleEnvironment.session.request .post target false] ∧
      limitOrder.price = 61000 ∧ ("price", "0.0") ∈ queryPairs target ∧
      ¬CarriesPrices .plain limitOrder 1 (queryPairs target) := by
  intro target
  refine ⟨?_, rfl, ?_, ?_⟩
  · exact BinanceFuturesExchangeConnector.placeOrder_sent
      (looked_listedClient limitOrder rfl)
  · change ("price", "0.0") ∈ target.params
    decide +kernel
  · intro carries
    have priceless :=
      (BinanceFuturesExchangeConnector.carriesPrices_iff .plain limitOrder 3 1).mp carries
    cases priceless

end BinanceApi
