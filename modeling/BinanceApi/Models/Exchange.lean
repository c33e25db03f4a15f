import BinanceApi.Models.Enums

/-!
# Exchange information and accounts

The rules the exchange publishes for its symbols, and the state of an account.  The
decoders of symbols and of the whole answers index a constant value without looking
whether the member is there, so they may have undefined behaviour.
-/

namespace BinanceApi

structure RateLimit where
  interval : RateLimitInterval
  intervalNum : Int
  limit : Int
  rateLimitType : RateLimitType
  deriving DecidableEq, Repr

def RateLimit.fromJson (externals : Externals) (json : Json) : Throws RateLimit := do
  let interval ← externals.readMagicEnum json "interval" RateLimitInterval.MINUTE
  let intervalNum ← externals.readInt json "intervalNum" 0
  let limit ← externals.readInt json "limit" 0
  let rateLimitType ←
    externals.readMagicEnum json "rateLimitType" RateLimitType.REQUEST_WEIGHT
  return { interval, intervalNum, limit, rateLimitType }

namespace Spot

structure Symbol where
  symbol : String
  status : ContractStatus
  baseAsset : String
  quoteAsset : String
  deriving DecidableEq, Repr

def Symbol.fromJson (externals : Externals) (json : Json) : Throws Symbol := do
  let symbol ← externals.readString json "symbol" ""
  let status ← externals.readMagicEnum json "status" ContractStatus.TRADING
  let baseAsset ← externals.readString json "baseAsset" ""
  let quoteAsset ← externals.readString json "quoteAsset" ""
  return { symbol, status, baseAsset, quoteAsset }

/-- What the spot exchange says about itself.  `lastUpdateTime` is the client's own. -/
structure Exchange where
  rateLimits : List RateLimit := []
  symbols : List Symbol := []
  lastUpdateTime : Int := -1
  deriving DecidableEq, Repr

/-- Decode an answer into a fresh value.  A missing list is undefined behaviour. -/
def Exchange.fromJson (externals : Externals) (json : Json) : Evaluates Exchange := do
  let rateLimits ← (← json.member "rateLimits").values.mapM
    fun element => (RateLimit.fromJson externals element).lift
  let symbols ← (← json.member "symbols").values.mapM
    fun element => (Symbol.fromJson externals element).lift
  return { rateLimits, symbols }

end Spot

namespace Futures

structure Asset where
  asset : String
  walletBalance : Double
  unrealizedProfit : Double
  marginBalance : Double
  maintMargin : Double
  initialMargin : Double
  positionInitialMargin : Double
  openOrderInitialMargin : Double
  crossWalletBalance : Double
  crossUnPnl : Double
  availableBalance : Double
  maxWithdrawAmount : Double
  marginAvailable : Bool
  updateTime : Int
  autoAssetExchange : Double
  deriving DecidableEq, Repr

def Asset.fromJson (externals : Externals) (json : Json) : Throws Asset := do
  let asset ← externals.readString json "asset" ""
  let walletBalance ← externals.readStringAsDouble json "walletBalance"
  let unrealizedProfit ← externals.readStringAsDouble json "unrealizedProfit"
  let marginBalance ← externals.readStringAsDouble json "marginBalance"
  let maintMargin ← externals.readStringAsDouble json "maintMargin"
  let initialMargin ← externals.readStringAsDouble json "initialMargin"
  let positionInitialMargin ←
    externals.readStringAsDouble json "positionInitialMargin"
  let openOrderInitialMargin ←
    externals.readStringAsDouble json "openOrderInitialMargin"
  let crossWalletBalance ← externals.readStringAsDouble json "crossWalletBalance"
  let crossUnPnl ← externals.readStringAsDouble json "crossUnPnl"
  let availableBalance ← externals.readStringAsDouble json "availableBalance"
  let maxWithdrawAmount ← externals.readStringAsDouble json "maxWithdrawAmount"
  let marginAvailable ← externals.readBool json "marginAvailable" false
  let updateTime ← externals.readInt json "updateTime" 0
  let autoAssetExchange ← externals.readStringAsDouble json "autoAssetExchange"
  return { asset, walletBalance, unrealizedProfit, marginBalance, maintMargin,
           initialMargin, positionInitialMargin, openOrderInitialMargin,
           crossWalletBalance, crossUnPnl, availableBalance, maxWithdrawAmount,
           marginAvailable, updateTime, autoAssetExchange }

structure Filter where
  filterType : SymbolFilter
  maxPrice : Double
  minPrice : Double
  tickSize : Double
  minQty : Double
  maxQty : Double
  stepSize : Double
  limit : Int
  multiplierUp : Double
  multiplierDown : Double
  multiplierDecimal : Double
  notional : Double
  deriving DecidableEq, Repr

def Filter.fromJson (externals : Externals) (json : Json) : Throws Filter := do
  let filterType ← externals.readMagicEnum json "filterType" SymbolFilter.PRICE_FILTER
  let maxPrice ← externals.readStringAsDouble json "maxPrice"
  let minPrice ← externals.readStringAsDouble json "minPrice"
  let tickSize ← externals.readStringAsDouble json "tickSize"
  let minQty ← externals.readStringAsDouble json "minQty"
  let maxQty ← externals.readStringAsDouble json "maxQty"
  let stepSize ← externals.readStringAsDouble json "stepSize"
  let limit ← externals.readInt json "limit" 0
  let multiplierUp ← externals.readStringAsDouble json "multiplierUp"
  let multiplierDown ← externals.readStringAsDouble json "multiplierDown"
  let multiplierDecimal ← externals.readStringAsDouble json "multiplierDecimal"
  let notional ← externals.readStringAsDouble json "notional"
  return { filterType, maxPrice, minPrice, tickSize, minQty, maxQty, stepSize, limit,
           multiplierUp, multiplierDown, multiplierDecimal, notional }

/-- A symbol; its order types and times in force are never read from an answer and
have no field here. -/
structure Symbol where
  symbol : String
  pair : String
  contractType : String
  deliveryDate : Int
  onboardDate : Int
  status : ContractStatus
  maintMarginPercent : Double
  requiredMarginPercent : Double
  baseAsset : String
  quoteAsset : String
  marginAsset : String
  pricePrecision : Int
  quantityPrecision : Int
  baseAssetPrecision : Int
  quotePrecision : Int
  underlyingType : String
  underlyingSubType : List String
  filters : List Filter
  settlePlan : Int
  triggerProtect : Double
  deriving DecidableEq, Repr

/-- Decode a symbol.  A missing `underlyingSubType` or `filters` is undefined
behaviour. -/
def Symbol.fromJson (externals : Externals) (json : Json) : Evaluates Symbol := do
  let symbol ← (externals.readString json "symbol" "").lift
  let pair ← (externals.readString json "pair" "").lift
  let contractType ← (externals.readString json "contractType" "").lift
  let deliveryDate ← (externals.readInt json "deliveryDate" 0).lift
  let onboardDate ← (externals.readInt json "onboardDate" 0).lift
  let status ← (externals.readMagicEnum json "status" ContractStatus.TRADING).lift
  let maintMarginPercent ← (externals.readStringAsDouble json "maintMarginPercent").lift
  let requiredMarginPercent ←
    (externals.readStringAsDouble json "requiredMarginPercent").lift
  let baseAsset ← (externals.readString json "baseAsset" "").lift
  let quoteAsset ← (externals.readString json "quoteAsset" "").lift
  let marginAsset ← (externals.readString json "marginAsset" "").lift
  let pricePrecision ← (externals.readInt json "pricePrecision" 0).lift
  let quantityPrecision ← (externals.readInt json "quantityPrecision" 0).lift
  let baseAssetPrecision ← (externals.readInt json "baseAssetPrecision" 0).lift
  let quotePrecision ← (externals.readInt json "quotePrecision" 0).lift
  let underlyingType ← (externals.readString json "underlyingType" "").lift
  let underlyingSubType ← (← json.member "underlyingSubType").values.mapM
    fun element => element.getString.lift
  let filters ← (← json.member "filters").values.mapM
    fun element => (Filter.fromJson externals element).lift
  let settlePlan ← (externals.readInt json "settlePlan" 0).lift
  let triggerProtect ← (externals.readStringAsDouble json "triggerProtect").lift
  return { symbol, pair, contractType, deliveryDate, onboardDate, status,
           maintMarginPercent, requiredMarginPercent, baseAsset, quoteAsset,
           marginAsset, pricePrecision, quantityPrecision, baseAssetPrecision,
           quotePrecision, underlyingType, underlyingSubType, filters, settlePlan,
           triggerProtect }

/-- What the exchange says about itself.  `lastUpdateTime` is the client's own: the
time of the download in seconds, negative as long as there was none. -/
structure Exchange where
  rateLimits : List RateLimit
  assets : List Asset
  symbols : List Symbol
  serverTime : Int
  timezone : String
  lastUpdateTime : Int
  deriving DecidableEq, Repr

/-- A default-constructed value. -/
def Exchange.empty : Exchange where
  rateLimits := []
  assets := []
  symbols := []
  serverTime := 0
  timezone := ""
  lastUpdateTime := -1

/-- Decode an answer into a fresh value.  A missing list is undefined behaviour. -/
def Exchange.fromJson (externals : Externals) (json : Json) : Evaluates Exchange := do
  let rateLimits ← (← json.member "rateLimits").values.mapM
    fun element => (RateLimit.fromJson externals element).lift
  let assets ← (← json.member "assets").values.mapM
    fun element => (Asset.fromJson externals element).lift
  let symbols ← (← json.member "symbols").values.mapM (Symbol.fromJson externals)
  let serverTime ← (externals.readInt json "serverTime" 0).lift
  let timezone ← (externals.readString json "timezone" "").lift
  return { Exchange.empty with rateLimits, assets, symbols, serverTime, timezone }

/-- The state of an account. -/
structure Account where
  feeTier : Int
  canTrade : Bool
  canDeposit : Bool
  canWithdraw : Bool
  updateTime : Int
  totalInitialMargin : Double
  totalMaintMargin : Double
  totalWalletBalance : Double
  totalUnrealizedProfit : Double
  totalMarginBalance : Double
  totalPositionInitialMargin : Double
  totalOpenOrderInitialMargin : Double
  totalCrossWalletBalance : Double
  totalCrossUnPnl : Double
  availableBalance : Double
  maxWithdrawAmount : Double
  tradeGroupId : Int
  assets : List Asset
  deriving DecidableEq, Repr

/-- Decode an answer into a fresh value.  A missing `assets` is undefined behaviour. -/
def Account.fromJson (externals : Externals) (json : Json) : Evaluates Account := do
  let feeTier ← (externals.readInt json "feeTier" 0).lift
  let canTrade ← (externals.readBool json "canTrade" false).lift
  let canDeposit ← (externals.readBool json "canDeposit" false).lift
  let canWithdraw ← (externals.readBool json "canWithdraw" false).lift
  let updateTime ← (externals.readInt json "updateTime" 0).lift
  let totalInitialMargin ← (externals.readStringAsDouble json "totalInitialMargin").lift
  let totalMaintMargin ← (externals.readStringAsDouble json "totalMaintMargin").lift
  let totalWalletBalance ← (externals.readStringAsDouble json "totalWalletBalance").lift
  let totalUnrealizedProfit ←
    (externals.readStringAsDouble json "totalUnrealizedProfit").lift
  let totalMarginBalance ← (externals.readStringAsDouble json "totalMarginBalance").lift
  let totalPositionInitialMargin ←
    (externals.readStringAsDouble json "totalPositionInitialMargin").lift
  let totalOpenOrderInitialMargin ←
    (externals.readStringAsDouble json "totalOpenOrderInitialMargin").lift
  let totalCrossWalletBalance ←
    (externals.readStringAsDouble json "totalCrossWalletBalance").lift
  let totalCrossUnPnl ← (externals.readStringAsDouble json "totalCrossUnPnl").lift
  let availableBalance ← (externals.readStringAsDouble json "availableBalance").lift
  let maxWithdrawAmount ← (externals.readStringAsDouble json "maxWithdrawAmount").lift
  let tradeGroupId ← (externals.readInt json "tradeGroupId" (-1)).lift
  let assets ← (← json.member "assets").values.mapM
    fun element => (Asset.fromJson externals element).lift
  return { feeTier, canTrade, canDeposit, canWithdraw, updateTime, totalInitialMargin,
           totalMaintMargin, totalWalletBalance, totalUnrealizedProfit,
           totalMarginBalance, totalPositionInitialMargin, totalOpenOrderInitialMargin,
           totalCrossWalletBalance, totalCrossUnPnl, availableBalance, maxWithdrawAmount,
           tradeGroupId, assets }

end Futures

end BinanceApi
