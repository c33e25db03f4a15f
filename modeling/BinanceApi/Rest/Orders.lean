import BinanceApi.Models.Order
import BinanceApi.Rest.Client

/-!
# Sending orders

A single order is written into the query of its request, a batch into a JSON
array.  The two encoders are separate code: they agree on most parameters, and
the batch encoder sends some that the other one never sends.
-/

namespace BinanceApi.Futures

open MagicEnum (enumName)

namespace RESTClient

/-- The parameters `sendOrder` appends for the type of an order. -/
def typeParams (externals : Externals) (quantityPrecision pricePrecision : Int)
    (order : Order) : List (String × String) :=
  let quantity := externals.formatDouble quantityPrecision order.quantity
  let price := externals.formatDouble pricePrecision order.price
  let stopPrice := externals.formatDouble pricePrecision order.stopPrice
  match order.type with
  | .LIMIT =>
      [("timeInForce", enumName order.timeInForce), ("quantity", quantity),
        ("price", price)]
  | .MARKET => [("quantity", quantity)]
  | .STOP | .TAKE_PROFIT =>
      [("quantity", quantity), ("price", price), ("stopPrice", stopPrice)]
  | .STOP_MARKET | .TAKE_PROFIT_MARKET =>
      [("quantity", quantity), ("stopPrice", stopPrice)]
  | .TRAILING_STOP_MARKET =>
      [("quantity", quantity), ("callbackRate", order.callbackRate.toString),
        ("activationPrice",
          externals.formatDouble pricePrecision order.activationPrice)]
  | .LIMIT_MAKER => []

/-- Target of a single order, before it is signed. -/
def orderTarget (externals : Externals) (quantityPrecision pricePrecision : Int)
    (order : Order) : Target where
  path := "order?"
  params :=
    [("symbol", order.symbol), ("side", enumName order.side),
      ("positionSide", enumName order.positionSide), ("type", enumName order.type)] ++
    typeParams externals quantityPrecision pricePrecision order ++
    (if order.positionSide = .BOTH then [("reduceOnly", formatBool order.reduceOnly)]
      else []) ++
    (if order.newClientOrderId = "" then []
      else [("newClientOrderId", order.newClientOrderId)]) ++
    [("newOrderRespType", enumName order.newOrderRespType)]

/-- The first half of `sendOrder`: look the precisions up and write the target. -/
def prepareTarget (environment : Environment) (order : Order) : Call Target := do
  let quantityPrecision ←
    P.findPrecisionForSymbol environment .Quantity order.symbol
  let pricePrecision ← P.findPrecisionForSymbol environment .Price order.symbol
  return orderTarget environment.externals quantityPrecision pricePrecision order

def sendOrder (environment : Environment) (order : Order) : Call OrderResponse := do
  let target ← prepareTarget environment order
  let response ← send environment (environment.session.request .post target false)
  let response ← Call.lift (checkResponse environment.externals response).lift
  let json ← Call.lift response.json.lift
  Call.lift (OrderResponse.fromJson environment.externals json).lift

/-- The precisions `sendOrders` stores in an order before it encodes it. -/
def prepareOrder (environment : Environment) (order : Order) : Call Order := do
  let quantityPrecision ←
    P.findPrecisionForSymbol environment .Quantity order.symbol
  let pricePrecision ← P.findPrecisionForSymbol environment .Price order.symbol
  return { order with quantityPrecision, pricePrecision }

def prepareOrders (environment : Environment) (orders : List Order) :
    Call (List Order) :=
  orders.mapM (prepareOrder environment)

/-- Target of a batch of orders, before it is signed. -/
def batchTarget (externals : Externals) (orders : List Order) : Target where
  path := "batchOrders?"
  params := [("batchOrders",
    externals.dump (.array (orders.map (Order.toJson externals))))]

/-- `sendOrders`; it also leaves the precisions in the caller's orders. -/
def sendOrders (environment : Environment) (orders : List Order) :
    Call (List Order × List OrderResponse) := do
  let orders ← prepareOrders environment orders
  let target := batchTarget environment.externals orders
  let response ← send environment (environment.session.request .post target false)
  let response ← Call.lift (checkResponse environment.externals response).lift
  let json ← Call.lift response.json.lift
  let responses ←
    Call.lift (OrdersResponse.fromJson environment.externals json).lift
  return (orders, responses)

end RESTClient

/-! ## What the two encoders send -/

/-- The parameters of a target, as a set of names and values. -/
def queryPairs (target : Target) : Set (String × String) :=
  { pair | pair ∈ target.params }

/-- The members of a JSON element, as a set of keys and string values. -/
def elementPairs : Json → Set (String × String)
  | .object members => { pair | (pair.1, Json.string pair.2) ∈ members }
  | _ => ∅

theorem Order.elementPairs_toJson (externals : Externals) (order : Order) :
    elementPairs (order.toJson externals) =
      { pair | pair ∈ order.members externals } := by
  ext pair
  have distinct : (((order.members externals).map
      fun member => (member.1, Json.string member.2)).map Prod.fst).Nodup := by
    rw [List.map_map]
    exact order.members_nodup externals
  simp only [elementPairs, toJson, Set.mem_ofPred_eq,
    Json.Members.mem_ofAssignments_iff distinct, List.mem_map]
  constructor
  · intro encoded
    rcases encoded with ⟨member, membership, equal⟩
    simp only [Prod.mk.injEq, Json.string.injEq] at equal
    rwa [← Prod.ext equal.1 equal.2]
  · intro membership
    exact ⟨pair, membership, rfl⟩

namespace RESTClient

/-- The keys whose presence or value depends on the encoder. -/
def divergentKeys : List String :=
  ["orderId", "selfTradePreventionMode", "priceProtect", "closePosition", "reduceOnly"]

/-- On every other key the encoders agree about the type of an order. -/
theorem typeParams_agrees (externals : Externals)
    (quantityPrecision pricePrecision : Int) (order : Order) {key : String}
    (common : key ∉ divergentKeys) (value : String) :
    (key, value) ∈ typeParams externals quantityPrecision pricePrecision order ↔
      (key, value) ∈ Order.typeMembers externals
        { order with quantityPrecision, pricePrecision } := by
  simp only [divergentKeys, List.mem_cons, List.not_mem_nil, or_false, not_or] at common
  rcases common with ⟨_, _, notProtect, notClose, _⟩
  simp only [typeParams, Order.typeMembers]
  cases order.type <;> simp [notProtect, notClose]

/-- On every other key the two encoders agree, given the same precisions. -/
theorem orderTarget_agrees (externals : Externals)
    (quantityPrecision pricePrecision : Int) (order : Order) {key value : String}
    (common : key ∉ divergentKeys) :
    (key, value) ∈
        queryPairs (orderTarget externals quantityPrecision pricePrecision order) ↔
      (key, value) ∈ elementPairs
        (Order.toJson externals { order with quantityPrecision, pricePrecision }) := by
  have types := typeParams_agrees externals quantityPrecision pricePrecision order
    common value
  simp only [divergentKeys, List.mem_cons, List.not_mem_nil, or_false, not_or] at common
  rcases common with ⟨notId, notMode, _, _, notReduce⟩
  rw [Order.elementPairs_toJson]
  simp only [queryPairs, orderTarget, Order.members, Set.mem_ofPred_eq, List.mem_append,
    List.mem_cons, types, Prod.mk.injEq]
  grind

/-- The keys that depend on the type of an order. -/
def typeKeys : List String :=
  ["timeInForce", "quantity", "price", "stopPrice", "priceProtect", "closePosition",
    "callbackRate", "activationPrice"]

theorem not_mem_typeParams {externals : Externals}
    {quantityPrecision pricePrecision : Int} {order : Order} {key value : String}
    (absent : key ∉ typeKeys) :
    (key, value) ∉ typeParams externals quantityPrecision pricePrecision order := by
  simp only [typeKeys, List.mem_cons, List.not_mem_nil, or_false, not_or] at absent
  simp only [typeParams]
  cases order.type <;> simp [absent]

theorem not_mem_typeMembers {externals : Externals} {order : Order}
    {key value : String} (absent : key ∉ typeKeys) :
    (key, value) ∉ order.typeMembers externals := by
  simp only [typeKeys, List.mem_cons, List.not_mem_nil, or_false, not_or] at absent
  simp only [Order.typeMembers]
  cases order.type <;> simp [absent]

/-- The query carries `reduceOnly` in one-way mode only, the element whenever the
order does not close the position. -/
theorem reduceOnly_pairs (externals : Externals)
    (quantityPrecision pricePrecision : Int) (order : Order) (value : String) :
    (("reduceOnly", value) ∈
        queryPairs (orderTarget externals quantityPrecision pricePrecision order) ↔
      order.positionSide = .BOTH ∧ value = formatBool order.reduceOnly) ∧
    (("reduceOnly", value) ∈ elementPairs (order.toJson externals) ↔
      order.closePosition = false ∧ value = formatBool order.reduceOnly) := by
  have notParam : ("reduceOnly", value) ∉
      typeParams externals quantityPrecision pricePrecision order :=
    not_mem_typeParams (by decide)
  have notMember : ("reduceOnly", value) ∉ order.typeMembers externals :=
    not_mem_typeMembers (by decide)
  rw [Order.elementPairs_toJson]
  simp only [queryPairs, orderTarget, Order.members, Set.mem_ofPred_eq, List.mem_append]
  constructor
  · split <;> simp [*]
  · split <;> simp [*]

/-- The query never carries an order id. -/
theorem orderId_not_mem_query (externals : Externals)
    (quantityPrecision pricePrecision : Int) (order : Order) (value : String) :
    ("orderId", value) ∉
      queryPairs (orderTarget externals quantityPrecision pricePrecision order) := by
  have notParam : ("orderId", value) ∉
      typeParams externals quantityPrecision pricePrecision order :=
    not_mem_typeParams (by decide)
  simp [queryPairs, orderTarget, notParam]

/-- The element always carries one. -/
theorem orderId_mem_element (externals : Externals) (order : Order) :
    ("orderId", order.orderId.repr) ∈ elementPairs (order.toJson externals) := by
  rw [Order.elementPairs_toJson]
  simp [Order.members]

/-! ## The two calls -/

/-- With fresh information both calls use the precisions of the cache. -/
theorem prepare_of_fresh {environment : Environment} {client : ClientState}
    (fresh : Fresh environment client) (order : Order) :
    let quantityPrecision := precisionIn client.exchange.symbols .Quantity order.symbol
    let pricePrecision := precisionIn client.exchange.symbols .Price order.symbol
    (prepareTarget environment order).runFrom client =
        (.ok (orderTarget environment.externals quantityPrecision pricePrecision order),
          { client with readings := client.readings + 2 }) ∧
      (prepareOrder environment order).runFrom client =
        (.ok { order with quantityPrecision, pricePrecision },
          { client with readings := client.readings + 2 }) := by
  have first := P.findPrecisionForSymbol_of_fresh fresh .Quantity order.symbol
  have later : Fresh environment { client with readings := client.readings + 1 } :=
    ⟨fresh.1, fun n after => fresh.2 n (Nat.le_of_succ_le after)⟩
  have second := P.findPrecisionForSymbol_of_fresh later .Price order.symbol
  constructor
  · simp only [prepareTarget]
    rw [Call.runFrom_bind_ok first, Call.runFrom_bind_ok second]
    rfl
  · simp only [prepareOrder]
    rw [Call.runFrom_bind_ok first, Call.runFrom_bind_ok second]
    rfl

theorem prepareOrders_of_fresh {environment : Environment} {client : ClientState}
    (fresh : Fresh environment client) (order : Order) :
    (prepareOrders environment [order]).runFrom client =
      (.ok [{ order with
          quantityPrecision := precisionIn client.exchange.symbols .Quantity order.symbol
          pricePrecision := precisionIn client.exchange.symbols .Price order.symbol }],
        { client with readings := client.readings + 2 }) := by
  rw [prepareOrders, List.mapM_cons,
    Call.runFrom_bind_ok (prepare_of_fresh fresh order).2]
  rfl

/-- Whatever the lookups find, the target comes from the encoder of queries. -/
theorem exists_orderTarget_of_prepareTarget {environment : Environment} {order : Order}
    {client after : ClientState} {target : Target}
    (prepared : (prepareTarget environment order).runFrom client = (.ok target, after)) :
    ∃ quantityPrecision pricePrecision,
      target =
        orderTarget environment.externals quantityPrecision pricePrecision order := by
  rcases Call.bind_ok prepared with ⟨quantityPrecision, between, _, rest⟩
  rcases Call.bind_ok rest with ⟨pricePrecision, last, _, written⟩
  simp only [Call.runFrom_pure, Prod.mk.injEq, Except.ok.injEq] at written
  exact ⟨quantityPrecision, pricePrecision, written.1.symm⟩

/-- Whatever the lookups find, a batch of one order holds that order with some
precisions. -/
theorem exists_precisions_of_prepareOrders {environment : Environment}
    {order prepared : Order} {client after : ClientState}
    (batch : (prepareOrders environment [order]).runFrom client =
      (.ok [prepared], after)) :
    ∃ quantityPrecision pricePrecision,
      prepared = { order with quantityPrecision, pricePrecision } := by
  rw [prepareOrders, List.mapM_cons] at batch
  rcases Call.bind_ok batch with ⟨head, middle, single, rest⟩
  rcases Call.bind_ok rest with ⟨tail, last, _, listed⟩
  simp only [Call.runFrom_pure, Prod.mk.injEq, Except.ok.injEq, List.cons.injEq] at listed
  rcases Call.bind_ok single with ⟨quantityPrecision, between, _, price⟩
  rcases Call.bind_ok price with ⟨pricePrecision, done, _, stored⟩
  simp only [Call.runFrom_pure, Prod.mk.injEq, Except.ok.injEq] at stored
  exact ⟨quantityPrecision, pricePrecision, listed.1.1.symm.trans stored.1.symm⟩

/-- Once its target is written, `sendOrder` sends it and nothing else. -/
theorem sendOrder_sent {environment : Environment} {order : Order}
    {client after : ClientState} {target : Target}
    (prepared : (prepareTarget environment order).runFrom client = (.ok target, after)) :
    ((sendOrder environment order).runFrom client).2.sent =
      after.sent ++ [environment.session.request .post target false] := by
  rw [sendOrder, Call.runFrom_bind_ok prepared, Call.state_bind_of_quiet]
  · rfl
  · intro response
    apply (Call.quiet_lift _).bind
    intro checked
    apply (Call.quiet_lift _).bind
    intro json
    exact Call.quiet_lift _

/-- Once the orders hold their precisions, `sendOrders` sends them and nothing
else. -/
theorem sendOrders_sent {environment : Environment} {orders prepared : List Order}
    {client after : ClientState}
    (batch : (prepareOrders environment orders).runFrom client = (.ok prepared, after)) :
    ((sendOrders environment orders).runFrom client).2.sent =
      after.sent ++ [environment.session.request .post
        (batchTarget environment.externals prepared) false] := by
  rw [sendOrders, Call.runFrom_bind_ok batch, Call.state_bind_of_quiet]
  · rfl
  · intro response
    apply (Call.quiet_lift _).bind
    intro checked
    apply (Call.quiet_lift _).bind
    intro json
    apply (Call.quiet_lift _).bind
    intro responses client
    rfl

end RESTClient

/-- A single order and a batch of that one order never carry the same parameters:
only the batch identifies the order. -/
theorem sendOrder_sendOrders_differ (environment : Environment) (client : ClientState)
    (order prepared : Order) (target : Target) (afterSingle afterBatch : ClientState)
    (single : (RESTClient.prepareTarget environment order).runFrom client =
      (.ok target, afterSingle))
    (batch : (RESTClient.prepareOrders environment [order]).runFrom client =
      (.ok [prepared], afterBatch)) :
    ((RESTClient.sendOrder environment order).runFrom client).2.sent =
        afterSingle.sent ++ [environment.session.request .post target false] ∧
      ((RESTClient.sendOrders environment [order]).runFrom client).2.sent =
        afterBatch.sent ++ [environment.session.request .post
          (RESTClient.batchTarget environment.externals [prepared]) false] ∧
      queryPairs target ≠ elementPairs (prepared.toJson environment.externals) := by
  refine ⟨RESTClient.sendOrder_sent single, RESTClient.sendOrders_sent batch, ?_⟩
  intro same
  rcases RESTClient.exists_orderTarget_of_prepareTarget single with
    ⟨quantityPrecision, pricePrecision, targetEq⟩
  rcases RESTClient.exists_precisions_of_prepareOrders batch with
    ⟨batchQuantity, batchPrice, preparedEq⟩
  have element := RESTClient.orderId_mem_element environment.externals prepared
  rw [← same, targetEq, preparedEq] at element
  exact RESTClient.orderId_not_mem_query environment.externals quantityPrecision
    pricePrecision order _ element

/-- A protected order of a symbol with two digits. -/
def sampleOrder : Order where
  symbol := "BTCUSDT"
  type := .STOP_MARKET
  quantity := 1 / 2
  stopPrice := 61000
  priceProtect := true
  selfTradePreventionMode := .EXPIRE_TAKER

/-- A client that downloaded no symbols a minute ago. -/
def sampleClient : ClientState where
  exchange := { Exchange.empty with lastUpdateTime := 1700000000 }
  sent := []
  readings := 0

def sampleEnvironment : Environment where
  externals := .plain
  session := .futures fun _ _ => .error (.standard "no connection")
  clock := fun _ => 1700000060

theorem sampleClient_fresh : RESTClient.Fresh sampleEnvironment sampleClient := by
  constructor
  · decide
  · intro _ _
    change (1700000060 : Int) - 1700000000 ≤ 3600
    decide

theorem sendOrder_sendOrders_differ_sample :
    queryPairs (RESTClient.orderTarget .plain 1 1 sampleOrder) ≠
      elementPairs (Order.toJson .plain
        { sampleOrder with quantityPrecision := 1, pricePrecision := 1 }) :=
  (sendOrder_sendOrders_differ sampleEnvironment sampleClient sampleOrder _ _ _ _
    (RESTClient.prepare_of_fresh sampleClient_fresh sampleOrder).1
    (RESTClient.prepareOrders_of_fresh sampleClient_fresh sampleOrder)).2.2

/-- The batch protects the price and prevents self-trades, the single order does
neither. -/
theorem sendOrder_unprotected_sample :
    let target := RESTClient.orderTarget .plain 1 1 sampleOrder
    let prepared := { sampleOrder with quantityPrecision := 1, pricePrecision := 1 }
    ((RESTClient.sendOrder sampleEnvironment sampleOrder).runFrom sampleClient).2.sent =
      [sampleEnvironment.session.request .post target false] ∧
    ((RESTClient.sendOrders sampleEnvironment [sampleOrder]).runFrom
        sampleClient).2.sent =
      [sampleEnvironment.session.request .post
        (RESTClient.batchTarget .plain [prepared]) false] ∧
    (∀ pair ∈ [("priceProtect", "true"), ("selfTradePreventionMode", "EXPIRE_TAKER")],
      pair ∈ elementPairs (prepared.toJson .plain) ∧ pair ∉ queryPairs target) ∧
    queryPairs target ≠ elementPairs (prepared.toJson .plain) := by
  intro target prepared
  have fields : ∀ pair ∈
      [("priceProtect", "true"), ("selfTradePreventionMode", "EXPIRE_TAKER")],
      pair ∈ elementPairs (prepared.toJson .plain) ∧ pair ∉ queryPairs target := by
    rw [Order.elementPairs_toJson]
    change ∀ pair ∈ [("priceProtect", "true"), ("selfTradePreventionMode", "EXPIRE_TAKER")],
      pair ∈ prepared.members .plain ∧ pair ∉ target.params
    decide +kernel
  have single := RESTClient.prepare_of_fresh sampleClient_fresh sampleOrder
  have batch := RESTClient.prepareOrders_of_fresh sampleClient_fresh sampleOrder
  refine ⟨RESTClient.sendOrder_sent single.1, RESTClient.sendOrders_sent batch, fields, ?_⟩
  intro same
  have protect := fields ("priceProtect", "true") (by simp)
  rw [← same] at protect
  exact protect.2 protect.1

end BinanceApi.Futures
