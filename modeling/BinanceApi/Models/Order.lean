import BinanceApi.Models.Enums

/-!
# Orders

An order, its JSON encoding for the batch endpoint, and the answer to it.
-/

namespace BinanceApi.Futures

open MagicEnum (enumName)

structure Order where
  symbol : String := ""
  side : Side := .BUY
  positionSide : PositionSide := .BOTH
  type : OrderType := .LIMIT
  timeInForce : TimeInForce := .GTC
  orderId : Int := 0
  /-- Cannot be sent with `closePosition`. -/
  quantity : Double := 0
  /-- Cannot be sent in hedge mode, nor with `closePosition`. -/
  reduceOnly : Bool := false
  newClientOrderId : String := ""
  price : Double := 0
  stopPrice : Double := 0
  timestamp : Int := 0
  /-- Close all, used with `STOP_MARKET` or `TAKE_PROFIT_MARKET`. -/
  closePosition : Bool := false
  activationPrice : Double := 0
  callbackRate : Double := 0
  workingType : WorkingType := .CONTRACT_PRICE
  priceProtect : Bool := false
  newOrderRespType : OrderRespType := .ACK
  /-- The precisions serve for formatting only. -/
  quantityPrecision : Int := 2
  pricePrecision : Int := 2
  selfTradePreventionMode : SelfTradePreventionMode := .NONE
  deriving DecidableEq, Repr

/-- `fmt::format("{}", value)`. -/
def formatBool (value : Bool) : String :=
  if value then "true" else "false"

namespace Order

/-- The members `toJson` assigns for the type of an order. -/
def typeMembers (externals : Externals) (order : Order) : List (String × String) :=
  let quantity := externals.formatDouble order.quantityPrecision order.quantity
  let price := externals.formatDouble order.pricePrecision order.price
  let stopPrice := externals.formatDouble order.pricePrecision order.stopPrice
  match order.type with
  | .LIMIT =>
      [("timeInForce", enumName order.timeInForce), ("quantity", quantity),
        ("price", price)]
  | .MARKET => [("quantity", quantity)]
  | .STOP | .TAKE_PROFIT =>
      [("quantity", quantity), ("price", price), ("stopPrice", stopPrice)]
  | .STOP_MARKET | .TAKE_PROFIT_MARKET =>
      [("quantity", quantity), ("stopPrice", stopPrice),
        ("priceProtect", formatBool order.priceProtect),
        ("closePosition", formatBool order.closePosition)]
  | .TRAILING_STOP_MARKET =>
      [("quantity", quantity), ("callbackRate", order.callbackRate.toString),
        ("activationPrice",
          externals.formatDouble order.pricePrecision order.activationPrice)]
  | .LIMIT_MAKER => []

/-- The string members `toJson` assigns, in order. -/
def members (externals : Externals) (order : Order) : List (String × String) :=
  [("symbol", order.symbol), ("side", enumName order.side),
    ("positionSide", enumName order.positionSide), ("type", enumName order.type),
    ("orderId", order.orderId.repr)] ++
  (if order.newClientOrderId = "" then []
    else [("newClientOrderId", order.newClientOrderId)]) ++
  [("newOrderRespType", enumName order.newOrderRespType)] ++
  (if order.closePosition then [] else [("reduceOnly", formatBool order.reduceOnly)]) ++
  order.typeMembers externals ++
  [("selfTradePreventionMode", enumName order.selfTradePreventionMode)]

def toJson (externals : Externals) (order : Order) : Json :=
  .object (Json.Members.ofAssignments
    ((order.members externals).map fun member => (member.1, .string member.2)))

/-- No member is assigned twice. -/
theorem members_nodup (externals : Externals) (order : Order) :
    ((order.members externals).map Prod.fst).Nodup := by
  simp only [members, typeMembers]
  cases order.type <;> split <;> split <;> simp

/-- Decode an order into a fresh value. -/
def fromJson (externals : Externals) (json : Json) : Throws Order := do
  let symbol ← externals.readString json "symbol" ""
  let side ← externals.readMagicEnum json "side" Side.BUY
  let price ← externals.readStringAsDouble json "price"
  let positionSide ← externals.readMagicEnum json "positionSide" PositionSide.BOTH
  let type ← externals.readMagicEnum json "type" OrderType.LIMIT
  let timeInForce ← externals.readMagicEnum json "timeInForce" TimeInForce.GTC
  let quantity ← externals.readStringAsDouble json "quantity"
  let newClientOrderId ← externals.readString json "newClientOrderId" ""
  let stopPrice ← externals.readStringAsDouble json "stopPrice"
  let timestamp ← externals.readInt json "timestamp" 0
  let orderId ← externals.readInt json "orderId" 0
  let reduceOnly ← externals.readBool json "reduceOnly" false
  let closePosition ← externals.readBool json "closePosition" false
  let activationPrice ← externals.readStringAsDouble json "activationPrice"
  let callbackRate ← externals.readStringAsDouble json "callbackRate"
  let workingType ←
    externals.readMagicEnum json "workingType" WorkingType.CONTRACT_PRICE
  let priceProtect ← externals.readBool json "priceProtect" false
  let newOrderRespType ←
    externals.readMagicEnum json "newOrderRespType" OrderRespType.ACK
  let selfTradePreventionMode ←
    externals.readMagicEnum json "selfTradePreventionMode" SelfTradePreventionMode.NONE
  return { symbol, side, price, positionSide, type, timeInForce, quantity,
           newClientOrderId, stopPrice, timestamp, orderId, reduceOnly, closePosition,
           activationPrice, callbackRate, workingType, priceProtect, newOrderRespType,
           selfTradePreventionMode }

end Order

/-- The answer to an order: the order as the exchange repeats it, and what became
of it.  Its own `orderId` hides that of the order. -/
structure OrderResponse extends order : Order where
  responseOrderId : Int
  clientOrderId : String
  orderStatus : OrderStatus
  avgPrice : Double
  origQty : Double
  executedQty : Double
  cumQty : Double
  cumQuote : Double
  origType : OrderType
  errCode : Int
  errMsg : String
  deriving DecidableEq, Repr

def OrderResponse.fromJson (externals : Externals) (json : Json) :
    Throws OrderResponse := do
  let order ← Order.fromJson externals json
  let responseOrderId ← externals.readInt json "orderId" 0
  let clientOrderId ← externals.readString json "clientOrderId" ""
  let orderStatus ← externals.readMagicEnum json "status" OrderStatus.NEW
  let avgPrice ← externals.readStringAsDouble json "avgPrice"
  let origQty ← externals.readStringAsDouble json "origQty"
  let executedQty ← externals.readStringAsDouble json "executedQty"
  let cumQty ← externals.readStringAsDouble json "cumQty"
  let cumQuote ← externals.readStringAsDouble json "cumQuote"
  let origType ← externals.readMagicEnum json "origType" OrderType.LIMIT
  let errCode ← externals.readInt json "code" 0
  let errMsg ← externals.readString json "msg" ""
  return { order, responseOrderId, clientOrderId, orderStatus, avgPrice, origQty,
           executedQty, cumQty, cumQuote, origType, errCode, errMsg }

def OrdersResponse.fromJson (externals : Externals) (json : Json) :
    Throws (List OrderResponse) :=
  json.values.mapM (OrderResponse.fromJson externals)

end BinanceApi.Futures
