import BinanceApi.Rest.ExchangeInfo

/-!
# Precisions of orders

Which precision a number in an order is written with.  It is the one that the
exchange information lists for the order's own symbol, or one digit if it does not
list the symbol; the order is sent in either case.
-/

namespace BinanceApi.Futures

namespace RESTClient

/-- The precision of a kind that a symbol is listed with. -/
def PrecisionType.listed : PrecisionType → Symbol → Int
  | .Quantity, symbolEl => symbolEl.quantityPrecision
  | .Price, symbolEl => symbolEl.pricePrecision
  | .Quote, symbolEl => symbolEl.quotePrecision

/-- The information lists the symbol with the precision, or it does not list the
symbol and the precision is the lookup's default. -/
def OwnPrecision (exchange : Exchange) (type : PrecisionType) (symbol : String)
    (precision : Int) : Prop :=
  (∃ symbolEl ∈ exchange.symbols,
      symbolEl.symbol = symbol ∧ precision = type.listed symbolEl) ∨
    (∀ symbolEl ∈ exchange.symbols, symbolEl.symbol ≠ symbol) ∧ precision = 1

theorem ownPrecision_precisionIn (exchange : Exchange) (type : PrecisionType)
    (symbol : String) :
    OwnPrecision exchange type symbol (precisionIn exchange.symbols type symbol) := by
  simp only [precisionIn]
  split
  next symbolEl found =>
    have named : symbolEl.symbol = symbol := by simpa using List.find?_some found
    exact .inl ⟨symbolEl, List.mem_of_find?_eq_some found, named, by cases type <;> rfl⟩
  next missing =>
    refine .inr ⟨?_, rfl⟩
    intro symbolEl member named
    have unequal := List.find?_eq_none.mp missing symbolEl member
    exact unequal (decide_eq_true named)

/-- A lookup finds the precision of its symbol in the information that is cached after
it. -/
theorem ownPrecision_of_lookup {environment : Environment} {type : PrecisionType}
    {symbol : String} {client after : ClientState} {precision : Int}
    (looked : (P.findPrecisionForSymbol environment type symbol).runFrom client =
      (.ok precision, after)) :
    OwnPrecision after.exchange type symbol precision := by
  rcases P.findPrecisionForSymbol_outcome environment type symbol looked with
    ⟨done, -, result⟩
  cases done with
  | error fault => cases result
  | ok =>
      cases result
      exact ownPrecision_precisionIn after.exchange type symbol

/-- The two lookups for an order, each in the information that is in use then. -/
structure Looked (environment : Environment) (order : Order) (client : ClientState)
    (quantityPrecision pricePrecision : Int) (after : ClientState) : Prop where
  lookups : ∃ between,
    (P.findPrecisionForSymbol environment .Quantity order.symbol).runFrom client =
      (.ok quantityPrecision, between) ∧
    OwnPrecision between.exchange .Quantity order.symbol quantityPrecision ∧
    (P.findPrecisionForSymbol environment .Price order.symbol).runFrom between =
      (.ok pricePrecision, after)
  price : OwnPrecision after.exchange .Price order.symbol pricePrecision

/-- The quantity and the prices among the parameters of an order are its own, with the
digits of the two precisions. -/
structure WritesAmounts (externals : Externals) (order : Order)
    (quantityPrecision pricePrecision : Int) (pairs : Set (String × String)) :
    Prop where
  quantity : ∀ text, ("quantity", text) ∈ pairs →
    text = externals.formatDouble quantityPrecision order.quantity
  price : ∀ text, ("price", text) ∈ pairs →
    text = externals.formatDouble pricePrecision order.price
  stopPrice : ∀ text, ("stopPrice", text) ∈ pairs →
    text = externals.formatDouble pricePrecision order.stopPrice
  activationPrice : ∀ text, ("activationPrice", text) ∈ pairs →
    text = externals.formatDouble pricePrecision order.activationPrice

/-- Only the parameters for its type carry an order's amounts. -/
theorem mem_typeParams_of_mem_query {externals : Externals}
    {quantityPrecision pricePrecision : Int} {order : Order} {key text : String}
    (amount : key ∈ ["quantity", "price", "stopPrice", "activationPrice"])
    (member : (key, text) ∈
      queryPairs (orderTarget externals quantityPrecision pricePrecision order)) :
    (key, text) ∈ typeParams externals quantityPrecision pricePrecision order := by
  simp only [queryPairs, orderTarget, Set.mem_ofPred_eq, List.mem_append] at member
  simp only [List.mem_cons, List.not_mem_nil, or_false] at amount
  rcases member with (((front | typed) | reduceOnly) | clientId) | respType
  · rcases amount with rfl | rfl | rfl | rfl <;> simp at front
  · exact typed
  · split at reduceOnly <;> rcases amount with rfl | rfl | rfl | rfl <;>
      simp at reduceOnly
  · split at clientId <;> rcases amount with rfl | rfl | rfl | rfl <;> simp at clientId
  · rcases amount with rfl | rfl | rfl | rfl <;> simp at respType

theorem writesAmounts_query (externals : Externals)
    (quantityPrecision pricePrecision : Int) (order : Order) :
    WritesAmounts externals order quantityPrecision pricePrecision
      (queryPairs (orderTarget externals quantityPrecision pricePrecision order)) := by
  constructor <;> intro text member
  all_goals
    have typed := mem_typeParams_of_mem_query (by simp) member
    simp only [typeParams] at typed
    cases type : order.type <;> simp [type] at typed <;> exact typed

/-- The encoder of batches writes the same amounts. -/
theorem writesAmounts_element (externals : Externals)
    (quantityPrecision pricePrecision : Int) (order : Order) :
    WritesAmounts externals order quantityPrecision pricePrecision
      (elementPairs (Order.toJson externals
        { order with quantityPrecision, pricePrecision })) := by
  have query := writesAmounts_query externals quantityPrecision pricePrecision order
  have agrees : ∀ {key text}, key ∉ divergentKeys →
      (key, text) ∈ elementPairs (Order.toJson externals
        { order with quantityPrecision, pricePrecision }) →
      (key, text) ∈
        queryPairs (orderTarget externals quantityPrecision pricePrecision order) :=
    fun common =>
      (orderTarget_agrees externals quantityPrecision pricePrecision order common).mpr
  constructor
  · exact fun text member => query.quantity text (agrees (by decide) member)
  · exact fun text member => query.price text (agrees (by decide) member)
  · exact fun text member => query.stopPrice text (agrees (by decide) member)
  · exact fun text member => query.activationPrice text (agrees (by decide) member)

theorem looked_of_lookups {environment : Environment} {order : Order}
    {client between after : ClientState} {quantityPrecision pricePrecision : Int}
    (quantity : (P.findPrecisionForSymbol environment .Quantity order.symbol).runFrom
      client = (.ok quantityPrecision, between))
    (price : (P.findPrecisionForSymbol environment .Price order.symbol).runFrom between =
      (.ok pricePrecision, after)) :
    Looked environment order client quantityPrecision pricePrecision after where
  lookups := ⟨between, quantity, ownPrecision_of_lookup quantity, price⟩
  price := ownPrecision_of_lookup price

/-- With fresh information both lookups read the cache. -/
theorem looked_of_fresh {environment : Environment} {client : ClientState}
    (fresh : Fresh environment client) (order : Order) :
    Looked environment order client
      (precisionIn client.exchange.symbols .Quantity order.symbol)
      (precisionIn client.exchange.symbols .Price order.symbol)
      { client with readings := client.readings + 2 } := by
  have later : Fresh environment { client with readings := client.readings + 1 } :=
    ⟨fresh.1, fun n after => fresh.2 n (Nat.le_of_succ_le after)⟩
  exact looked_of_lookups (P.findPrecisionForSymbol_of_fresh fresh .Quantity order.symbol)
    (P.findPrecisionForSymbol_of_fresh later .Price order.symbol)

/-- The orders of a batch after their lookups, one order after the other. -/
inductive Prepared (environment : Environment) :
    ClientState → List Order → List Order → ClientState → Prop where
  | nil (client : ClientState) : Prepared environment client [] [] client
  | cons {client between after : ClientState} {order prepared : Order}
      {orders rest : List Order} {quantityPrecision pricePrecision : Int}
      (looked : Looked environment order client quantityPrecision pricePrecision between)
      (stored : prepared = { order with quantityPrecision, pricePrecision })
      (writes : WritesAmounts environment.externals order quantityPrecision pricePrecision
        (elementPairs (prepared.toJson environment.externals)))
      (others : Prepared environment between orders rest after) :
      Prepared environment client (order :: orders) (prepared :: rest) after

theorem prepared_of_prepareOrders {environment : Environment}
    {orders prepared : List Order} {client after : ClientState}
    (batch : (prepareOrders environment orders).runFrom client = (.ok prepared, after)) :
    Prepared environment client orders prepared after := by
  induction orders generalizing client prepared with
  | nil =>
      cases batch
      exact .nil _
  | cons order orders ih =>
      rw [prepareOrders, List.mapM_cons] at batch
      rcases Call.bind_ok batch with ⟨head, between, single, rest⟩
      rcases Call.bind_ok rest with ⟨tail, last, others, listed⟩
      rcases Call.bind_ok single with ⟨quantityPrecision, middle, quantity, rest⟩
      rcases Call.bind_ok rest with ⟨pricePrecision, done, price, stored⟩
      cases listed
      cases stored
      exact .cons (looked_of_lookups quantity price) rfl
        (writesAmounts_element environment.externals quantityPrecision pricePrecision order)
        (ih others)

end RESTClient

/-- Every amount that `sendOrder` or `sendOrders` sends has the precision that is listed
for the order's own symbol when it is looked up, or one digit if none is. -/
theorem orders_use_own_precisions (environment : Environment) (client : ClientState) :
    (∀ order target after,
      (RESTClient.prepareTarget environment order).runFrom client =
        (.ok target, after) →
      (∃ quantityPrecision pricePrecision,
        RESTClient.Looked environment order client quantityPrecision pricePrecision after ∧
        RESTClient.WritesAmounts environment.externals order quantityPrecision
          pricePrecision (queryPairs target)) ∧
      ((RESTClient.sendOrder environment order).runFrom client).2.sent =
        after.sent ++ [environment.session.request .post target false]) ∧
    ∀ orders prepared after,
      (RESTClient.prepareOrders environment orders).runFrom client =
        (.ok prepared, after) →
      RESTClient.Prepared environment client orders prepared after ∧
      ((RESTClient.sendOrders environment orders).runFrom client).2.sent =
        after.sent ++ [environment.session.request .post
          (RESTClient.batchTarget environment.externals prepared) false] := by
  constructor
  · intro order target after single
    refine ⟨?_, RESTClient.sendOrder_sent single⟩
    rcases Call.bind_ok single with ⟨quantityPrecision, between, quantity, rest⟩
    rcases Call.bind_ok rest with ⟨pricePrecision, done, price, written⟩
    cases written
    exact ⟨quantityPrecision, pricePrecision, RESTClient.looked_of_lookups quantity price,
      RESTClient.writesAmounts_query environment.externals quantityPrecision
        pricePrecision order⟩
  · intro orders prepared after batch
    exact ⟨RESTClient.prepared_of_prepareOrders batch, RESTClient.sendOrders_sent batch⟩

/-- A symbol whose quantities have three digits and whose prices have one. -/
def listedSymbol : Symbol where
  symbol := "BTCUSDT"
  pair := "BTCUSDT"
  contractType := "PERPETUAL"
  deliveryDate := 4133404800000
  onboardDate := 1569398400000
  status := .TRADING
  maintMarginPercent := 5 / 2
  requiredMarginPercent := 5
  baseAsset := "BTC"
  quoteAsset := "USDT"
  marginAsset := "USDT"
  pricePrecision := 1
  quantityPrecision := 3
  baseAssetPrecision := 8
  quotePrecision := 8
  underlyingType := "COIN"
  underlyingSubType := ["PoW"]
  filters := []
  settlePlan := 0
  triggerProtect := 1 / 20

/-- A client that downloaded that symbol a minute ago. -/
def listedClient : ClientState :=
  { sampleClient with exchange := { sampleClient.exchange with symbols := [listedSymbol] } }

theorem listedClient_fresh : RESTClient.Fresh sampleEnvironment listedClient :=
  ⟨sampleClient_fresh.1, sampleClient_fresh.2⟩

theorem orders_use_own_precisions_sample :
    ∃ quantityPrecision pricePrecision,
      RESTClient.Looked sampleEnvironment sampleOrder listedClient quantityPrecision
        pricePrecision { listedClient with readings := 2 } ∧
      RESTClient.WritesAmounts .plain sampleOrder quantityPrecision pricePrecision
        (queryPairs (RESTClient.orderTarget .plain 3 1 sampleOrder)) :=
  ((orders_use_own_precisions sampleEnvironment listedClient).1 sampleOrder _ _
    (RESTClient.prepare_of_fresh listedClient_fresh sampleOrder).1).1

/-- An order for a contract that was listed after the last refresh is sent, and an
eighth of it becomes a tenth. -/
theorem unlisted_symbol_sent_sample :
    let order : Order := { symbol := "NEWUSDT", type := .MARKET, quantity := 1 / 8 }
    let target := RESTClient.orderTarget .plain 1 1 order
    (∀ symbolEl ∈ listedClient.exchange.symbols, symbolEl.symbol ≠ order.symbol) ∧
      ((RESTClient.sendOrder sampleEnvironment order).runFrom listedClient).2.sent =
        [sampleEnvironment.session.request .post target false] ∧
      ("quantity", "0.1") ∈ queryPairs target := by
  intro order target
  refine ⟨by decide, ?_, ?_⟩
  · exact RESTClient.sendOrder_sent
      (RESTClient.prepare_of_fresh listedClient_fresh order).1
  · change ("quantity", "0.1") ∈ target.params
    decide +kernel

end BinanceApi.Futures
