import BinanceApi.Rest.Precisions

/-!
# Documented constraints of orders

An order that closes the position is sent without a quantity, and `reduceOnly` is
neither sent with it nor in hedge mode.  Of the two encoders one heeds the position
side and the other one `closePosition`, and both write a quantity for every type.
-/

namespace BinanceApi.Futures

open MagicEnum (enumName)

/-- The order asks to close all, by a type for which it may. -/
def Order.ClosesAll (order : Order) : Prop :=
  order.closePosition = true ∧
    (order.type = .STOP_MARKET ∨ order.type = .TAKE_PROFIT_MARKET)

/-- Some value is sent under a key. -/
def Sends (pairs : Set (String × String)) (key : String) : Prop :=
  ∃ value, (key, value) ∈ pairs

/-- What is documented for the parameters of an order. -/
structure MeetsConstraints (order : Order) (pairs : Set (String × String)) :
    Prop where
  closeAll : order.ClosesAll →
    ("closePosition", "true") ∈ pairs ∧ ¬Sends pairs "quantity" ∧
      ¬Sends pairs "reduceOnly"
  hedgeMode : order.positionSide ≠ .BOTH → ¬Sends pairs "reduceOnly"

namespace RESTClient

theorem sends_reduceOnly_query (externals : Externals)
    (quantityPrecision pricePrecision : Int) (order : Order) :
    Sends (queryPairs (orderTarget externals quantityPrecision pricePrecision order))
      "reduceOnly" ↔ order.positionSide = .BOTH := by
  have pairs := fun value =>
    (reduceOnly_pairs externals quantityPrecision pricePrecision order value).1
  constructor
  · intro sends
    rcases sends with ⟨value, sent⟩
    exact ((pairs value).mp sent).1
  · intro both
    exact ⟨_, (pairs _).mpr ⟨both, rfl⟩⟩

theorem sends_reduceOnly_element (externals : Externals) (order : Order) :
    Sends (elementPairs (order.toJson externals)) "reduceOnly" ↔
      order.closePosition = false := by
  -- the element does not depend on the precisions of a query
  have pairs := fun value => (reduceOnly_pairs externals 0 0 order value).2
  constructor
  · intro sends
    rcases sends with ⟨value, sent⟩
    exact ((pairs value).mp sent).1
  · intro sized
    exact ⟨_, (pairs _).mpr ⟨sized, rfl⟩⟩

/-- Both encoders size an order that closes all. -/
theorem sends_quantity_query {externals : Externals}
    {quantityPrecision pricePrecision : Int} {order : Order} (closes : order.ClosesAll) :
    Sends (queryPairs (orderTarget externals quantityPrecision pricePrecision order))
      "quantity" := by
  refine ⟨externals.formatDouble quantityPrecision order.quantity, ?_⟩
  rcases closes with ⟨-, stop | profit⟩
  · simp [queryPairs, orderTarget, typeParams, stop]
  · simp [queryPairs, orderTarget, typeParams, profit]

theorem sends_quantity_element {externals : Externals} {order : Order}
    (closes : order.ClosesAll) :
    Sends (elementPairs (order.toJson externals)) "quantity" := by
  refine ⟨externals.formatDouble order.quantityPrecision order.quantity, ?_⟩
  rw [Order.elementPairs_toJson]
  rcases closes with ⟨-, stop | profit⟩
  · simp [Order.members, Order.typeMembers, stop]
  · simp [Order.members, Order.typeMembers, profit]

/-- The query meets the constraints of every order but one that closes all. -/
theorem meetsConstraints_query_iff (externals : Externals)
    (quantityPrecision pricePrecision : Int) (order : Order) :
    MeetsConstraints order
        (queryPairs (orderTarget externals quantityPrecision pricePrecision order)) ↔
      ¬order.ClosesAll := by
  constructor
  · intro meets closes
    exact (meets.closeAll closes).2.1 (sends_quantity_query closes)
  · intro sized
    refine ⟨fun closes => absurd closes sized, ?_⟩
    intro hedge
    rwa [sends_reduceOnly_query]

/-- The element meets them if moreover the order is in one-way mode, or asks to close
the position although its type cannot. -/
theorem meetsConstraints_element_iff (externals : Externals)
    (quantityPrecision pricePrecision : Int) (order : Order) :
    MeetsConstraints order (elementPairs (Order.toJson externals
        { order with quantityPrecision, pricePrecision })) ↔
      ¬order.ClosesAll ∧ (order.positionSide = .BOTH ∨ order.closePosition = true) := by
  have reduceOnly : Sends (elementPairs (Order.toJson externals
      { order with quantityPrecision, pricePrecision })) "reduceOnly" ↔
        order.closePosition = false :=
    sends_reduceOnly_element externals _
  constructor
  · intro meets
    constructor
    · intro closes
      exact (meets.closeAll closes).2.1 (sends_quantity_element closes)
    · by_cases oneWay : order.positionSide = .BOTH
      · exact .inl oneWay
      · have silent := meets.hedgeMode oneWay
        rw [reduceOnly, Bool.not_eq_false] at silent
        exact .inr silent
  · intro both
    rcases both with ⟨sized, mode⟩
    refine ⟨fun closes => absurd closes sized, ?_⟩
    intro hedge
    rw [reduceOnly, Bool.not_eq_false]
    exact mode.resolve_left hedge

/-- A prepared order differs from the caller's in its precisions only. -/
theorem meetsConstraints_prepared {environment : Environment}
    {orders prepared : List Order} {client after : ClientState}
    (batch : Prepared environment client orders prepared after) :
    List.Forall₂ (fun order element =>
        MeetsConstraints order (elementPairs (element.toJson environment.externals)) ↔
          ¬order.ClosesAll ∧ (order.positionSide = .BOTH ∨ order.closePosition = true))
      orders prepared := by
  induction batch with
  | nil => exact .nil
  | cons _ stored _ _ ih =>
      refine .cons ?_ ih
      subst stored
      exact meetsConstraints_element_iff environment.externals _ _ _

end RESTClient

/-- Whatever the lookups find, what `sendOrder` sends meets the documented constraints
exactly when the order does not close all; an order in a batch has to be in one-way
mode besides, or ask in vain to close the position. -/
theorem orders_meet_constraints_iff (environment : Environment) (client : ClientState) :
    (∀ order target after,
      (RESTClient.prepareTarget environment order).runFrom client =
        (.ok target, after) →
      ((RESTClient.sendOrder environment order).runFrom client).2.sent =
        after.sent ++ [environment.session.request .post target false] ∧
      (MeetsConstraints order (queryPairs target) ↔ ¬order.ClosesAll)) ∧
    ∀ orders prepared after,
      (RESTClient.prepareOrders environment orders).runFrom client =
        (.ok prepared, after) →
      ((RESTClient.sendOrders environment orders).runFrom client).2.sent =
        after.sent ++ [environment.session.request .post
          (RESTClient.batchTarget environment.externals prepared) false] ∧
      List.Forall₂ (fun order element =>
          MeetsConstraints order (elementPairs (element.toJson environment.externals)) ↔
            ¬order.ClosesAll ∧
              (order.positionSide = .BOTH ∨ order.closePosition = true))
        orders prepared := by
  constructor
  · intro order target after single
    refine ⟨RESTClient.sendOrder_sent single, ?_⟩
    rcases RESTClient.exists_orderTarget_of_prepareTarget single with
      ⟨quantityPrecision, pricePrecision, targetEq⟩
    rw [targetEq]
    exact RESTClient.meetsConstraints_query_iff environment.externals quantityPrecision
      pricePrecision order
  · intro orders prepared after batch
    exact ⟨RESTClient.sendOrders_sent batch,
      RESTClient.meetsConstraints_prepared (RESTClient.prepared_of_prepareOrders batch)⟩

/-- A market order in hedge mode. -/
def hedgeOrder : Order where
  symbol := "BTCUSDT"
  positionSide := .LONG
  type := .MARKET
  quantity := 1 / 8

/-- An order that closes a position at a stop price. -/
def closeAllOrder : Order where
  symbol := "BTCUSDT"
  type := .STOP_MARKET
  stopPrice := 61000
  closePosition := true

theorem orders_meet_constraints_sample :
    MeetsConstraints hedgeOrder
      (queryPairs (RESTClient.orderTarget .plain 1 1 hedgeOrder)) :=
  ((orders_meet_constraints_iff sampleEnvironment sampleClient).1 hedgeOrder _ _
    (RESTClient.prepare_of_fresh sampleClient_fresh hedgeOrder).1).2.mpr
    (by simp [Order.ClosesAll, hedgeOrder])

/-- A close-all order is sent as a plain order of quantity zero, without
`closePosition` by the one encoder; the other encoder sends `reduceOnly` in hedge
mode. -/
theorem constraints_broken_sample :
    let target := RESTClient.orderTarget .plain 1 1 closeAllOrder
    let prepared := { hedgeOrder with quantityPrecision := 1, pricePrecision := 1 }
    ((RESTClient.sendOrder sampleEnvironment closeAllOrder).runFrom
        sampleClient).2.sent =
      [sampleEnvironment.session.request .post target false] ∧
    target.params = [("symbol", "BTCUSDT"), ("side", "BUY"), ("positionSide", "BOTH"),
      ("type", "STOP_MARKET"), ("quantity", "0.0"), ("stopPrice", "61000.0"),
      ("reduceOnly", "false"), ("newOrderRespType", "ACK")] ∧
    ¬MeetsConstraints closeAllOrder (queryPairs target) ∧
    ((RESTClient.sendOrders sampleEnvironment [hedgeOrder]).runFrom
        sampleClient).2.sent =
      [sampleEnvironment.session.request .post
        (RESTClient.batchTarget .plain [prepared]) false] ∧
    ("reduceOnly", "false") ∈ elementPairs (prepared.toJson .plain) ∧
    ¬MeetsConstraints hedgeOrder (elementPairs (prepared.toJson .plain)) := by
  intro target prepared
  have reduceOnly : ("reduceOnly", "false") ∈ elementPairs (prepared.toJson .plain) := by
    rw [Order.elementPairs_toJson]
    change ("reduceOnly", "false") ∈ prepared.members .plain
    decide +kernel
  refine ⟨?_, by decide +kernel, ?_, ?_, reduceOnly, ?_⟩
  · exact RESTClient.sendOrder_sent
      (RESTClient.prepare_of_fresh sampleClient_fresh closeAllOrder).1
  · intro meets
    have closes : closeAllOrder.ClosesAll := ⟨rfl, .inl rfl⟩
    exact (meets.closeAll closes).2.1 (RESTClient.sends_quantity_query closes)
  · exact RESTClient.sendOrders_sent
      (RESTClient.prepareOrders_of_fresh sampleClient_fresh hedgeOrder)
  · intro meets
    exact meets.hedgeMode (by decide) ⟨"false", reduceOnly⟩

end BinanceApi.Futures
