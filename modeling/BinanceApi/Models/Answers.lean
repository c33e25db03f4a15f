import BinanceApi.Models.Enums

/-!
# Answers of the account and price endpoints

The records that the remaining calls of the futures client decode.  A position says
whether margin is added to it in text, and its leverage is text as well: two more readers
of the common library turn these into values.
-/

namespace BinanceApi.Futures

/-- The external functions that only positions need. -/
structure PositionReaders where
  string2bool : String → Bool
  readStringAsInt : Json → String → Throws Int

/-- The concrete readers of closed inputs. -/
def PositionReaders.plain : PositionReaders where
  string2bool text := text = "true"
  readStringAsInt := fun json key =>
    Externals.readMember (fun value => do stoi (← value.getString)) json key 0

inductive PositionMode where
  | Hedge | OneWay
  deriving DecidableEq, Repr

inductive MarginType where
  | ISOLATED | CROSS
  deriving DecidableEq, Repr

instance : MagicEnum MarginType where
  enumerators := [.ISOLATED, .CROSS]
  enumName
    | .ISOLATED => "ISOLATED"
    | .CROSS => "CROSS"
  mem_enumerators := by
    intro value
    cases value <;> decide
  names_nodup := by decide

structure TickerPrice where
  symbol : String
  price : Double
  time : Int
  deriving DecidableEq, Repr

def TickerPrice.fromJson (externals : Externals) (json : Json) : Throws TickerPrice := do
  let symbol ← externals.readString json "symbol" ""
  let price ← externals.readStringAsDouble json "price"
  let time ← externals.readInt json "time" 0
  return { symbol, price, time }

structure BookTickerPrice where
  symbol : String
  bidPrice : Double
  askPrice : Double
  bidQty : Double
  askQty : Double
  time : Int
  deriving DecidableEq, Repr

def BookTickerPrice.fromJson (externals : Externals) (json : Json) :
    Throws BookTickerPrice := do
  let symbol ← externals.readString json "symbol" ""
  let bidPrice ← externals.readStringAsDouble json "bidPrice"
  let askPrice ← externals.readStringAsDouble json "askPrice"
  let bidQty ← externals.readStringAsDouble json "bidQty"
  let askQty ← externals.readStringAsDouble json "askQty"
  let time ← externals.readInt json "time" 0
  return { symbol, bidPrice, askPrice, bidQty, askQty, time }

structure MarkPrice where
  symbol : String
  markPrice : Double
  indexPrice : Double
  estimatedSettlePrice : Double
  lastFundingRate : Double
  nextFundingTime : Int
  interestRate : Double
  time : Int
  deriving DecidableEq, Repr

def MarkPrice.fromJson (externals : Externals) (json : Json) : Throws MarkPrice := do
  let symbol ← externals.readString json "symbol" ""
  let nextFundingTime ← externals.readInt json "nextFundingTime" 0
  let time ← externals.readInt json "time" 0
  let markPrice ← externals.readStringAsDouble json "markPrice"
  let indexPrice ← externals.readStringAsDouble json "indexPrice"
  let estimatedSettlePrice ← externals.readStringAsDouble json "estimatedSettlePrice"
  let lastFundingRate ← externals.readStringAsDouble json "lastFundingRate"
  let interestRate ← externals.readStringAsDouble json "interestRate"
  return { symbol, markPrice, indexPrice, estimatedSettlePrice, lastFundingRate,
           nextFundingTime, interestRate, time }

def MarkPrices.fromJson (externals : Externals) (json : Json) : Throws (List MarkPrice) :=
  json.values.mapM (MarkPrice.fromJson externals)

structure AccountBalance where
  accountAlias : String
  asset : String
  balance : Double
  crossWalletBalance : Double
  crossUnPnl : Double
  availableBalance : Double
  maxWithdrawAmount : Double
  marginAvailable : Bool
  updateTime : Int
  deriving DecidableEq, Repr

def AccountBalance.fromJson (externals : Externals) (json : Json) :
    Throws AccountBalance := do
  let accountAlias ← externals.readString json "accountAlias" ""
  let asset ← externals.readString json "asset" ""
  let balance ← externals.readStringAsDouble json "balance"
  let crossWalletBalance ← externals.readStringAsDouble json "crossWalletBalance"
  let crossUnPnl ← externals.readStringAsDouble json "crossUnPnl"
  let availableBalance ← externals.readStringAsDouble json "availableBalance"
  let maxWithdrawAmount ← externals.readStringAsDouble json "maxWithdrawAmount"
  let marginAvailable ← externals.readBool json "marginAvailable" true
  let updateTime ← externals.readInt json "updateTime" 0
  return { accountAlias, asset, balance, crossWalletBalance, crossUnPnl, availableBalance,
           maxWithdrawAmount, marginAvailable, updateTime }

structure Position where
  entryPrice : Double
  marginType : String
  isAutoAddMargin : Bool
  isolatedMargin : Double
  leverage : Double
  liquidationPrice : Double
  markPrice : Double
  maxNotionalValue : Double
  positionAmt : Double
  symbol : String
  unRealizedProfit : Double
  positionSide : PositionSide
  updateTime : Int
  deriving DecidableEq, Repr

def Position.fromJson (externals : Externals) (readers : PositionReaders)
    (json : Json) : Throws Position := do
  let entryPrice ← externals.readStringAsDouble json "entryPrice"
  let marginType ← externals.readString json "marginType" ""
  let isAutoAddMarginStr ← externals.readString json "isAutoAddMargin" ""
  let isAutoAddMargin := readers.string2bool isAutoAddMarginStr
  let isolatedMargin ← externals.readStringAsDouble json "isolatedMargin"
  let leverage ← externals.readStringAsDouble json "leverage"
  let liquidationPrice ← externals.readStringAsDouble json "liquidationPrice"
  let markPrice ← externals.readStringAsDouble json "markPrice"
  let maxNotionalValue ← externals.readStringAsDouble json "maxNotionalValue"
  let positionAmt ← externals.readStringAsDouble json "positionAmt"
  let symbol ← externals.readString json "symbol" ""
  let unRealizedProfit ← externals.readStringAsDouble json "unRealizedProfit"
  let positionSide ← externals.readMagicEnum json "positionSide" PositionSide.BOTH
  let updateTime ← externals.readInt json "updateTime" 0
  return { entryPrice, marginType, isAutoAddMargin, isolatedMargin, leverage,
           liquidationPrice, markPrice, maxNotionalValue, positionAmt, symbol,
           unRealizedProfit, positionSide, updateTime }

structure PositionRisk where
  symbol : String
  entryPrice : Double
  marginType : MarginType
  isAutoAddMargin : Bool
  isolatedMargin : Double
  leverage : Int
  liquidationPrice : Double
  markPrice : Double
  maxNotionalValue : Double
  positionAmt : Double
  notional : Double
  isolatedWallet : Double
  unRealizedProfit : Double
  positionSide : PositionSide
  updateTime : Int
  deriving DecidableEq, Repr

def PositionRisk.fromJson (externals : Externals) (readers : PositionReaders)
    (json : Json) : Throws PositionRisk := do
  let symbol ← externals.readString json "symbol" ""
  let entryPrice ← externals.readStringAsDouble json "entryPrice"
  let marginType ← externals.readMagicEnum json "marginType" MarginType.ISOLATED
  let isAutoAddMarginStr ← externals.readString json "isAutoAddMargin" ""
  let isAutoAddMargin := readers.string2bool isAutoAddMarginStr
  let isolatedMargin ← externals.readStringAsDouble json "isolatedMargin"
  let leverage ← readers.readStringAsInt json "leverage"
  let liquidationPrice ← externals.readStringAsDouble json "liquidationPrice"
  let markPrice ← externals.readStringAsDouble json "markPrice"
  let maxNotionalValue ← externals.readStringAsDouble json "maxNotionalValue"
  let positionAmt ← externals.readStringAsDouble json "positionAmt"
  let notional ← externals.readStringAsDouble json "notional"
  let isolatedWallet ← externals.readStringAsDouble json "isolatedWallet"
  let unRealizedProfit ← externals.readStringAsDouble json "unRealizedProfit"
  let positionSide ← externals.readMagicEnum json "positionSide" PositionSide.BOTH
  let updateTime ← externals.readInt json "updateTime" 0
  return { symbol, entryPrice, marginType, isAutoAddMargin, isolatedMargin, leverage,
           liquidationPrice, markPrice, maxNotionalValue, positionAmt, notional,
           isolatedWallet, unRealizedProfit, positionSide, updateTime }

structure DownloadId where
  avgCostTimestampOfLast30d : Int
  downloadId : String
  deriving DecidableEq, Repr

def DownloadId.fromJson (externals : Externals) (json : Json) : Throws DownloadId := do
  let avgCostTimestampOfLast30d ← externals.readInt json "avgCostTimestampOfLast30d" 0
  let downloadId ← externals.readString json "downloadId" ""
  return { avgCostTimestampOfLast30d, downloadId }

structure Income where
  symbol : String
  incomeType : IncomeType
  income : Double
  asset : String
  info : String
  time : Int
  tranId : Int
  tradeId : String
  deriving DecidableEq, Repr

def Income.fromJson (externals : Externals) (json : Json) : Throws Income := do
  let symbol ← externals.readString json "symbol" ""
  let incomeType ← externals.readMagicEnum json "incomeType" IncomeType.TRANSFER
  let income ← externals.readStringAsDouble json "income"
  let asset ← externals.readString json "asset" ""
  let info ← externals.readString json "info" ""
  let time ← externals.readInt json "time" 0
  let tranId ← externals.readInt json "tranId" 0
  let tradeId ← externals.readString json "tradeId" ""
  return { symbol, incomeType, income, asset, info, time, tranId, tradeId }

def Incomes.fromJson (externals : Externals) (json : Json) : Throws (List Income) :=
  json.values.mapM (Income.fromJson externals)

structure OpenInterest where
  symbol : String
  openInterest : Double
  time : Int
  deriving DecidableEq, Repr

def OpenInterest.fromJson (externals : Externals) (json : Json) :
    Throws OpenInterest := do
  let symbol ← externals.readString json "symbol" ""
  let openInterest ← externals.readStringAsDouble json "openInterest"
  let time ← externals.readInt json "time" 0
  return { symbol, openInterest, time }

end BinanceApi.Futures
