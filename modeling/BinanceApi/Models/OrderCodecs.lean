import BinanceApi.Models.Answers
import BinanceApi.Models.EventCodecs
import BinanceApi.Models.Order

/-!
# Encoders of orders, responses and positions

The encoder of an order writes the text that the exchange's query takes, so its number
and its flags are strings; the decoder reads what the exchange answers, where they are
not.  The encoder of a response writes its number as one again, but not the flags.
-/

namespace BinanceApi

open MagicEnum (enumName)

/-- `readValue` for integers and for flags throws for text, and leaves a flag alone that
is absent. -/
structure Externals.TakesNoText (externals : Externals) : Prop where
  int : ∀ (json : Json) (key text : String) (previous : Int),
    json.find? key = some (.string text) →
    ∃ exception, externals.readInt json key previous = .error exception
  bool : ∀ (json : Json) (key text : String) (previous : Bool),
    json.find? key = some (.string text) →
    ∃ exception, externals.readBool json key previous = .error exception
  absent : ∀ (json : Json) (key : String) (previous : Bool), json.find? key = none →
    externals.readBool json key previous = .ok previous

theorem Externals.plain_takesNoText : plain.TakesNoText where
  int := by
    intro json key text previous found
    exact ⟨_, by simp only [plain, readMember, found, Json.getInt]; rfl⟩
  bool := by
    intro json key text previous found
    exact ⟨_, by simp only [plain, readMember, found]; rfl⟩
  absent := by
    intro json key previous missing
    simp only [plain, readMember, missing]

namespace Futures

namespace OrderResponse

/-- The members that `toJson` assigns behind those of the order, the order's number once
more. -/
def ownMembers (response : OrderResponse) : List (String × Json) :=
  [("orderId", .integer response.responseOrderId),
    ("clientOrderId", .string response.clientOrderId),
    ("status", .string (enumName response.orderStatus)),
    ("avgPrice", .amount response.avgPrice), ("origQty", .amount response.origQty),
    ("executedQty", .amount response.executedQty), ("cumQty", .amount response.cumQty),
    ("cumQuote", .amount response.cumQuote),
    ("origType", .string (enumName response.origType))]

def members (externals : Externals) (response : OrderResponse) : List (String × Json) :=
  (response.order.members externals).map (fun member => (member.1, .string member.2)) ++
    response.ownMembers

def toJson (externals : Externals) (response : OrderResponse) : Json :=
  .object (Json.Members.ofAssignments (response.members externals))

end OrderResponse

/-- The members that `PositionRisk::toJson` assigns: amounts as numbers. -/
def PositionRisk.members (risk : PositionRisk) : List (String × Json) :=
  [("symbol", .string risk.symbol), ("entryPrice", .number risk.entryPrice),
    ("marginType", .string (enumName risk.marginType)),
    ("isAutoAddMargin", .boolean risk.isAutoAddMargin),
    ("isolatedMargin", .number risk.isolatedMargin), ("leverage", .integer risk.leverage),
    ("liquidationPrice", .number risk.liquidationPrice),
    ("markPrice", .number risk.markPrice),
    ("maxNotionalValue", .number risk.maxNotionalValue),
    ("positionAmt", .number risk.positionAmt), ("notional", .number risk.notional),
    ("isolatedWallet", .number risk.isolatedWallet),
    ("unRealizedProfit", .number risk.unRealizedProfit),
    ("positionSide", .string (enumName risk.positionSide)),
    ("updateTime", .integer risk.updateTime)]

def PositionRisk.toJson (risk : PositionRisk) : Json :=
  .object (Json.Members.ofAssignments risk.members)

/-! ## What the decoders make of it -/

variable {externals : Externals}

/-- The number and the flags of a decoded order are what their readers returned. -/
theorem Order.reads {json : Json} {order : Order}
    (decoded : fromJson externals json = .ok order) :
    externals.readInt json "orderId" 0 = .ok order.orderId ∧
      externals.readBool json "reduceOnly" false = .ok order.reduceOnly ∧
      externals.readBool json "closePosition" false = .ok order.closePosition ∧
      externals.readBool json "priceProtect" false = .ok order.priceProtect := by
  rcases exists_of_bind_ok decoded with ⟨symbol, -, decoded⟩
  rcases exists_of_bind_ok decoded with ⟨side, -, decoded⟩
  rcases exists_of_bind_ok decoded with ⟨price, -, decoded⟩
  rcases exists_of_bind_ok decoded with ⟨positionSide, -, decoded⟩
  rcases exists_of_bind_ok decoded with ⟨type, -, decoded⟩
  rcases exists_of_bind_ok decoded with ⟨timeInForce, -, decoded⟩
  rcases exists_of_bind_ok decoded with ⟨quantity, -, decoded⟩
  rcases exists_of_bind_ok decoded with ⟨newClientOrderId, -, decoded⟩
  rcases exists_of_bind_ok decoded with ⟨stopPrice, -, decoded⟩
  rcases exists_of_bind_ok decoded with ⟨timestamp, -, decoded⟩
  rcases exists_of_bind_ok decoded with ⟨orderId, number, decoded⟩
  rcases exists_of_bind_ok decoded with ⟨reduceOnly, reduces, decoded⟩
  rcases exists_of_bind_ok decoded with ⟨closePosition, closes, decoded⟩
  rcases exists_of_bind_ok decoded with ⟨activationPrice, -, decoded⟩
  rcases exists_of_bind_ok decoded with ⟨callbackRate, -, decoded⟩
  rcases exists_of_bind_ok decoded with ⟨workingType, -, decoded⟩
  rcases exists_of_bind_ok decoded with ⟨priceProtect, protects, decoded⟩
  rcases exists_of_bind_ok decoded with ⟨newOrderRespType, -, decoded⟩
  rcases exists_of_bind_ok decoded with ⟨selfTradePreventionMode, -, decoded⟩
  cases decoded
  exact ⟨number, reduces, closes, protects⟩

theorem Order.members_keys_nodup (externals : Externals) (order : Order) :
    (((order.members externals).map fun member =>
      (member.1, Json.string member.2)).map Prod.fst).Nodup := by
  simpa [List.map_map, Function.comp_def] using order.members_nodup externals

/-- Only two types of order write that the position is closed. -/
theorem Order.closePosition_unwritten {order : Order} (notStop : order.type ≠ .STOP_MARKET)
    (notTake : order.type ≠ .TAKE_PROFIT_MARKET) :
    "closePosition" ∉ (order.members externals).map Prod.fst := by
  have typed : "closePosition" ∉ (order.typeMembers externals).map Prod.fst := by
    cases type : order.type with
    | STOP_MARKET => exact absurd type notStop
    | TAKE_PROFIT_MARKET => exact absurd type notTake
    | LIMIT | MARKET | STOP | TAKE_PROFIT | TRAILING_STOP_MARKET | LIMIT_MAKER =>
        simp [typeMembers, type]
  simp only [members, List.map_append, List.mem_append, not_or]
  refine ⟨⟨⟨⟨⟨by simp, ?_⟩, by simp⟩, ?_⟩, typed⟩, by simp⟩ <;> split <;> simp

/-- An order's own number is text where the decoder wants an integer. -/
theorem Order.fromJson_toJson (takes : externals.TakesNoText) (order decoded : Order) :
    fromJson externals (order.toJson externals) ≠ .ok decoded := by
  intro returns
  have found : (order.toJson externals).find? "orderId" =
      some (.string order.orderId.repr) :=
    Json.find?_ofAssignments (order.members_keys_nodup externals) (by simp [members])
  rcases takes.int _ _ _ 0 found with ⟨exception, thrown⟩
  rw [(Order.reads returns).1] at thrown
  cases thrown

/-- A member of the order that the response does not assign again stays. -/
theorem OrderResponse.find?_toJson {response : OrderResponse} {key text : String}
    (member : (key, text) ∈ response.order.members externals)
    (other : key ∉ response.ownMembers.map Prod.fst) :
    (response.toJson externals).find? key = some (.string text) := by
  rcases List.append_of_mem (List.mem_map_of_mem
    (f := fun member : String × String => (member.1, Json.string member.2)) member) with
    ⟨front, back, split⟩
  have distinct := response.order.members_keys_nodup externals
  rw [split, List.map_append, List.map_cons] at distinct
  have fresh := (List.nodup_cons.mp (List.nodup_append.mp distinct).2.1).1
  rw [toJson, members, split, List.append_assoc, List.cons_append]
  apply Json.find?_ofAssignments_last
  rw [List.map_append, List.mem_append, not_or]
  exact ⟨fresh, other⟩

/-- A flag written as text keeps a response from being decoded. -/
theorem OrderResponse.readBool_toJson (takes : externals.TakesNoText)
    {response : OrderResponse} {key : String} (text : String) {flag : Bool}
    (member : (key, text) ∈ response.order.members externals)
    (other : key ∉ response.ownMembers.map Prod.fst) :
    externals.readBool (response.toJson externals) key false ≠ .ok flag := by
  intro read
  rcases takes.bool _ _ _ false (find?_toJson member other) with ⟨exception, thrown⟩
  rw [thrown] at read
  cases read

/-- A response is decoded from its own encoding at most if neither flag was written: it
closes the position, and its type does not write the flags. -/
theorem OrderResponse.of_fromJson_toJson (takes : externals.TakesNoText)
    {response decoded : OrderResponse}
    (returns : fromJson externals (response.toJson externals) = .ok decoded) :
    response.closePosition = true ∧ response.type ≠ .STOP_MARKET ∧
      response.type ≠ .TAKE_PROFIT_MARKET ∧ decoded.closePosition = false := by
  rcases exists_of_bind_ok returns with ⟨order, orderRead, returns⟩
  have sameOrder : decoded.order = order := by
    rcases exists_of_bind_ok returns with ⟨responseOrderId, -, returns⟩
    rcases exists_of_bind_ok returns with ⟨clientOrderId, -, returns⟩
    rcases exists_of_bind_ok returns with ⟨orderStatus, -, returns⟩
    rcases exists_of_bind_ok returns with ⟨avgPrice, -, returns⟩
    rcases exists_of_bind_ok returns with ⟨origQty, -, returns⟩
    rcases exists_of_bind_ok returns with ⟨executedQty, -, returns⟩
    rcases exists_of_bind_ok returns with ⟨cumQty, -, returns⟩
    rcases exists_of_bind_ok returns with ⟨cumQuote, -, returns⟩
    rcases exists_of_bind_ok returns with ⟨origType, -, returns⟩
    rcases exists_of_bind_ok returns with ⟨errCode, -, returns⟩
    rcases exists_of_bind_ok returns with ⟨errMsg, -, returns⟩
    cases returns
    rfl
  rcases Order.reads orderRead with ⟨-, reduces, closes, protects⟩
  have closing : response.closePosition = true := by
    by_contra keeps
    refine readBool_toJson takes (formatBool response.reduceOnly) ?_ ?_ reduces
    · simp [Order.members, keeps]
    · simp [ownMembers]
  have flags : response.type ≠ .STOP_MARKET ∧ response.type ≠ .TAKE_PROFIT_MARKET := by
    constructor <;>
    · intro type
      refine readBool_toJson takes (formatBool response.priceProtect) ?_ ?_ protects
      · simp [Order.members, Order.typeMembers, type]
      · simp [ownMembers]
  have missing : (response.toJson externals).find? "closePosition" = none := by
    apply Json.find?_ofAssignments_none
    rw [members, List.map_append, List.mem_append, not_or, List.map_map]
    exact ⟨Order.closePosition_unwritten flags.1 flags.2, by simp [ownMembers]⟩
  refine ⟨closing, flags.1, flags.2, ?_⟩
  rw [takes.absent _ _ false missing] at closes
  rw [sameOrder]
  exact (Except.ok.inj closes).symm

theorem PositionRisk.members_nodup (risk : PositionRisk) :
    (risk.members.map Prod.fst).Nodup := by
  simp [members]

theorem PositionRisk.fromJson_toJson (takes : externals.TakesStrings)
    (readers : PositionReaders) (risk decoded : PositionRisk) :
    fromJson externals readers risk.toJson ≠ .ok decoded := by
  intro returns
  have found : risk.toJson.find? "entryPrice" = some (.number risk.entryPrice) :=
    Json.find?_ofAssignments risk.members_nodup (by simp [members])
  rcases exists_of_bind_ok returns with ⟨symbol, -, rest⟩
  rcases exists_of_bind_ok rest with ⟨entryPrice, read, -⟩
  rcases takes.double _ "entryPrice" _ found (by simp) with ⟨exception, thrown⟩
  rw [thrown] at read
  cases read

/-- No order and no position is decoded from what its own encoder writes.  A response is
at most if it closes the position and its type does not write so; it then comes back as
one that does not. -/
theorem orders_never_round_trip (externals : Externals) (readers : PositionReaders)
    (takesNoText : externals.TakesNoText) (takesStrings : externals.TakesStrings) :
    (∀ order decoded : Order,
      Order.fromJson externals (order.toJson externals) ≠ .ok decoded) ∧
    (∀ response decoded : OrderResponse,
      OrderResponse.fromJson externals (response.toJson externals) = .ok decoded →
      response.closePosition = true ∧ response.type ≠ .STOP_MARKET ∧
        response.type ≠ .TAKE_PROFIT_MARKET ∧ decoded.closePosition = false) ∧
    ∀ risk decoded : PositionRisk,
      PositionRisk.fromJson externals readers risk.toJson ≠ .ok decoded :=
  ⟨Order.fromJson_toJson takesNoText, fun _ _ => OrderResponse.of_fromJson_toJson takesNoText,
    PositionRisk.fromJson_toJson takesStrings readers⟩

/-- A market order that closes the position. -/
def closingResponse : OrderResponse where
  symbol := "BTCUSDT"
  type := .MARKET
  quantity := 1
  closePosition := true
  responseOrderId := 7
  clientOrderId := "a"
  orderStatus := .NEW
  avgPrice := 0
  origQty := 1
  executedQty := 0
  cumQty := 0
  cumQuote := 0
  origType := .MARKET
  errCode := 0
  errMsg := ""

/-- The response that closes the position is decoded, as one that does not. -/
theorem orders_never_round_trip_sample :
    (OrderResponse.fromJson .plain (closingResponse.toJson .plain) =
        .ok { closingResponse with closePosition := false, orderId := 7 }) ∧
      OrderResponse.fromJson .plain
          ({ closingResponse with closePosition := false }.toJson .plain) ≠
        .ok { closingResponse with closePosition := false } := by
  refine ⟨by decide +kernel, fun returns => ?_⟩
  have never := orders_never_round_trip .plain .plain Externals.plain_takesNoText
    Externals.plain_takesStrings
  exact absurd (never.2.1 _ _ returns).1 (by decide)

end Futures

end BinanceApi
