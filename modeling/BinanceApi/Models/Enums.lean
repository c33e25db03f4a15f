import BinanceApi.Common

/-!
# Enumerations of the exchange's API

Every enumeration lists its enumerators in the order of the source, which the
case-insensitive cast depends on.
-/

namespace BinanceApi

inductive CandleInterval where
  | _1m | _3m | _5m | _15m | _30m | _1h | _2h | _4h | _6h | _8h | _12h | _1d | _3d
  | _1w | _1M
  deriving DecidableEq, Repr

instance : MagicEnum CandleInterval where
  enumerators := [._1m, ._3m, ._5m, ._15m, ._30m, ._1h, ._2h, ._4h, ._6h, ._8h, ._12h,
    ._1d, ._3d, ._1w, ._1M]
  enumName
    | ._1m => "_1m"
    | ._3m => "_3m"
    | ._5m => "_5m"
    | ._15m => "_15m"
    | ._30m => "_30m"
    | ._1h => "_1h"
    | ._2h => "_2h"
    | ._4h => "_4h"
    | ._6h => "_6h"
    | ._8h => "_8h"
    | ._12h => "_12h"
    | ._1d => "_1d"
    | ._3d => "_3d"
    | ._1w => "_1w"
    | ._1M => "_1M"
  mem_enumerators := by
    intro value
    cases value <;> decide
  names_nodup := by decide

inductive Side where
  | SELL | BUY
  deriving DecidableEq, Repr

instance : MagicEnum Side where
  enumerators := [.SELL, .BUY]
  enumName
    | .SELL => "SELL"
    | .BUY => "BUY"
  mem_enumerators := by
    intro value
    cases value <;> decide
  names_nodup := by decide

/-- GTC - good till canceled, IOC - immediate or cancel, FOK - fill or kill. -/
inductive TimeInForce where
  | GTC | IOC | FOK
  deriving DecidableEq, Repr

instance : MagicEnum TimeInForce where
  enumerators := [.GTC, .IOC, .FOK]
  enumName
    | .GTC => "GTC"
    | .IOC => "IOC"
    | .FOK => "FOK"
  mem_enumerators := by
    intro value
    cases value <;> decide
  names_nodup := by decide

inductive OrderRespType where
  | ACK | RESULT
  deriving DecidableEq, Repr

instance : MagicEnum OrderRespType where
  enumerators := [.ACK, .RESULT]
  enumName
    | .ACK => "ACK"
    | .RESULT => "RESULT"
  mem_enumerators := by
    intro value
    cases value <;> decide
  names_nodup := by decide

inductive RateLimitType where
  | RAW_REQUEST | ORDERS | REQUEST_WEIGHT
  deriving DecidableEq, Repr

instance : MagicEnum RateLimitType where
  enumerators := [.RAW_REQUEST, .ORDERS, .REQUEST_WEIGHT]
  enumName
    | .RAW_REQUEST => "RAW_REQUEST"
    | .ORDERS => "ORDERS"
    | .REQUEST_WEIGHT => "REQUEST_WEIGHT"
  mem_enumerators := by
    intro value
    cases value <;> decide
  names_nodup := by decide

inductive RateLimitInterval where
  | MONTH | WEEK | DAY | HOUR | MINUTE | SECOND
  deriving DecidableEq, Repr

instance : MagicEnum RateLimitInterval where
  enumerators := [.MONTH, .WEEK, .DAY, .HOUR, .MINUTE, .SECOND]
  enumName
    | .MONTH => "MONTH"
    | .WEEK => "WEEK"
    | .DAY => "DAY"
    | .HOUR => "HOUR"
    | .MINUTE => "MINUTE"
    | .SECOND => "SECOND"
  mem_enumerators := by
    intro value
    cases value <;> decide
  names_nodup := by decide

/-- Trading status of a symbol; the last six are those of the spot market. -/
inductive ContractStatus where
  | PENDING_TRADING | TRADING | PRE_DELIVERING | DELIVERING | DELIVERED | PRE_SETTLE
  | SETTLING | CLOSE | PRE_TRADING | POST_TRADING | END_OF_DAY | HALT | AUCTION_MATCH
  | BREAK
  deriving DecidableEq, Repr

instance : MagicEnum ContractStatus where
  enumerators := [.PENDING_TRADING, .TRADING, .PRE_DELIVERING, .DELIVERING, .DELIVERED,
    .PRE_SETTLE, .SETTLING, .CLOSE, .PRE_TRADING, .POST_TRADING, .END_OF_DAY, .HALT,
    .AUCTION_MATCH, .BREAK]
  enumName
    | .PENDING_TRADING => "PENDING_TRADING"
    | .TRADING => "TRADING"
    | .PRE_DELIVERING => "PRE_DELIVERING"
    | .DELIVERING => "DELIVERING"
    | .DELIVERED => "DELIVERED"
    | .PRE_SETTLE => "PRE_SETTLE"
    | .SETTLING => "SETTLING"
    | .CLOSE => "CLOSE"
    | .PRE_TRADING => "PRE_TRADING"
    | .POST_TRADING => "POST_TRADING"
    | .END_OF_DAY => "END_OF_DAY"
    | .HALT => "HALT"
    | .AUCTION_MATCH => "AUCTION_MATCH"
    | .BREAK => "BREAK"
  mem_enumerators := by
    intro value
    cases value <;> decide
  names_nodup := by decide

namespace CandleInterval

instance : LinearOrder CandleInterval :=
  LinearOrder.lift' MagicEnum.position MagicEnum.position_injective

/-- The exchange's spelling of an interval: the enumerator's name without its
underscore. -/
def wireName (interval : CandleInterval) : String :=
  String.ofList ((MagicEnum.enumName interval).toList.drop 1)

/-- The name under which a decoder looks an interval up: the exchange's spelling
with an underscore put in front. -/
theorem underscore_wireName (interval : CandleInterval) :
    "_" ++ interval.wireName = MagicEnum.enumName interval := by
  cases interval <;> decide

theorem wireName_injective : Function.Injective wireName := by
  intro left right equal
  apply MagicEnum.enumName_injective
  rw [← underscore_wireName left, ← underscore_wireName right, equal]

end CandleInterval

namespace Futures

inductive OrderStatus where
  | NEW | PARTIALLY_FILLED | FILLED | CANCELED | PENDING_CANCEL | REJECTED | EXPIRED
  | EXPIRED_IN_MATCH
  deriving DecidableEq, Repr

instance : MagicEnum OrderStatus where
  enumerators := [.NEW, .PARTIALLY_FILLED, .FILLED, .CANCELED, .PENDING_CANCEL,
    .REJECTED, .EXPIRED, .EXPIRED_IN_MATCH]
  enumName
    | .NEW => "NEW"
    | .PARTIALLY_FILLED => "PARTIALLY_FILLED"
    | .FILLED => "FILLED"
    | .CANCELED => "CANCELED"
    | .PENDING_CANCEL => "PENDING_CANCEL"
    | .REJECTED => "REJECTED"
    | .EXPIRED => "EXPIRED"
    | .EXPIRED_IN_MATCH => "EXPIRED_IN_MATCH"
  mem_enumerators := by
    intro value
    cases value <;> decide
  names_nodup := by decide

inductive OrderType where
  | LIMIT | MARKET | STOP | STOP_MARKET | TAKE_PROFIT | TAKE_PROFIT_MARKET
  | TRAILING_STOP_MARKET | LIMIT_MAKER
  deriving DecidableEq, Repr

instance : MagicEnum OrderType where
  enumerators := [.LIMIT, .MARKET, .STOP, .STOP_MARKET, .TAKE_PROFIT,
    .TAKE_PROFIT_MARKET, .TRAILING_STOP_MARKET, .LIMIT_MAKER]
  enumName
    | .LIMIT => "LIMIT"
    | .MARKET => "MARKET"
    | .STOP => "STOP"
    | .STOP_MARKET => "STOP_MARKET"
    | .TAKE_PROFIT => "TAKE_PROFIT"
    | .TAKE_PROFIT_MARKET => "TAKE_PROFIT_MARKET"
    | .TRAILING_STOP_MARKET => "TRAILING_STOP_MARKET"
    | .LIMIT_MAKER => "LIMIT_MAKER"
  mem_enumerators := by
    intro value
    cases value <;> decide
  names_nodup := by decide

/-- BOTH for one-way mode, LONG or SHORT for hedge mode. -/
inductive PositionSide where
  | BOTH | LONG | SHORT
  deriving DecidableEq, Repr

instance : MagicEnum PositionSide where
  enumerators := [.BOTH, .LONG, .SHORT]
  enumName
    | .BOTH => "BOTH"
    | .LONG => "LONG"
    | .SHORT => "SHORT"
  mem_enumerators := by
    intro value
    cases value <;> decide
  names_nodup := by decide

/-- The price that triggers a stop order. -/
inductive WorkingType where
  | REQUEST_WEIGHT | CONTRACT_PRICE | MARK_PRICE
  deriving DecidableEq, Repr

instance : MagicEnum WorkingType where
  enumerators := [.REQUEST_WEIGHT, .CONTRACT_PRICE, .MARK_PRICE]
  enumName
    | .REQUEST_WEIGHT => "REQUEST_WEIGHT"
    | .CONTRACT_PRICE => "CONTRACT_PRICE"
    | .MARK_PRICE => "MARK_PRICE"
  mem_enumerators := by
    intro value
    cases value <;> decide
  names_nodup := by decide

inductive SymbolFilter where
  | PRICE_FILTER | LOT_SIZE | MARKET_LOT_SIZE | MAX_NUM_ORDERS | MAX_NUM_ALGO_ORDERS
  | PERCENT_PRICE | MIN_NOTIONAL | POSITION_RISK_CONTROL
  deriving DecidableEq, Repr

instance : MagicEnum SymbolFilter where
  enumerators := [.PRICE_FILTER, .LOT_SIZE, .MARKET_LOT_SIZE, .MAX_NUM_ORDERS,
    .MAX_NUM_ALGO_ORDERS, .PERCENT_PRICE, .MIN_NOTIONAL, .POSITION_RISK_CONTROL]
  enumName
    | .PRICE_FILTER => "PRICE_FILTER"
    | .LOT_SIZE => "LOT_SIZE"
    | .MARKET_LOT_SIZE => "MARKET_LOT_SIZE"
    | .MAX_NUM_ORDERS => "MAX_NUM_ORDERS"
    | .MAX_NUM_ALGO_ORDERS => "MAX_NUM_ALGO_ORDERS"
    | .PERCENT_PRICE => "PERCENT_PRICE"
    | .MIN_NOTIONAL => "MIN_NOTIONAL"
    | .POSITION_RISK_CONTROL => "POSITION_RISK_CONTROL"
  mem_enumerators := by
    intro value
    cases value <;> decide
  names_nodup := by decide

inductive StatisticsPeriod where
  | _5m | _15m | _30m | _1h | _2h | _4h | _6h | _12h | _1d
  deriving DecidableEq, Repr

instance : MagicEnum StatisticsPeriod where
  enumerators := [._5m, ._15m, ._30m, ._1h, ._2h, ._4h, ._6h, ._12h, ._1d]
  enumName
    | ._5m => "_5m"
    | ._15m => "_15m"
    | ._30m => "_30m"
    | ._1h => "_1h"
    | ._2h => "_2h"
    | ._4h => "_4h"
    | ._6h => "_6h"
    | ._12h => "_12h"
    | ._1d => "_1d"
  mem_enumerators := by
    intro value
    cases value <;> decide
  names_nodup := by decide

inductive SelfTradePreventionMode where
  | NONE | EXPIRE_TAKER | EXPIRE_BOTH | EXPIRE_MAKER
  deriving DecidableEq, Repr

instance : MagicEnum SelfTradePreventionMode where
  enumerators := [.NONE, .EXPIRE_TAKER, .EXPIRE_BOTH, .EXPIRE_MAKER]
  enumName
    | .NONE => "NONE"
    | .EXPIRE_TAKER => "EXPIRE_TAKER"
    | .EXPIRE_BOTH => "EXPIRE_BOTH"
    | .EXPIRE_MAKER => "EXPIRE_MAKER"
  mem_enumerators := by
    intro value
    cases value <;> decide
  names_nodup := by decide

inductive ExecutionType where
  | NEW | CANCELED | CALCULATED | EXPIRED | TRADE
  deriving DecidableEq, Repr

instance : MagicEnum ExecutionType where
  enumerators := [.NEW, .CANCELED, .CALCULATED, .EXPIRED, .TRADE]
  enumName
    | .NEW => "NEW"
    | .CANCELED => "CANCELED"
    | .CALCULATED => "CALCULATED"
    | .EXPIRED => "EXPIRED"
    | .TRADE => "TRADE"
  mem_enumerators := by
    intro value
    cases value <;> decide
  names_nodup := by decide

/-- WebSocket events; some are upper case, some not. -/
inductive EventType where
  | UNDEFINED | MARGIN_CALL | ACCOUNT_UPDATE | ORDER_TRADE_UPDATE
  | ACCOUNT_CONFIG_UPDATE | listenKeyExpired | bookTicker | aggTrade | kline
  deriving DecidableEq, Repr

instance : MagicEnum EventType where
  enumerators := [.UNDEFINED, .MARGIN_CALL, .ACCOUNT_UPDATE, .ORDER_TRADE_UPDATE,
    .ACCOUNT_CONFIG_UPDATE, .listenKeyExpired, .bookTicker, .aggTrade, .kline]
  enumName
    | .UNDEFINED => "UNDEFINED"
    | .MARGIN_CALL => "MARGIN_CALL"
    | .ACCOUNT_UPDATE => "ACCOUNT_UPDATE"
    | .ORDER_TRADE_UPDATE => "ORDER_TRADE_UPDATE"
    | .ACCOUNT_CONFIG_UPDATE => "ACCOUNT_CONFIG_UPDATE"
    | .listenKeyExpired => "listenKeyExpired"
    | .bookTicker => "bookTicker"
    | .aggTrade => "aggTrade"
    | .kline => "kline"
  mem_enumerators := by
    intro value
    cases value <;> decide
  names_nodup := by decide

/-- The exchange's spelling of a statistics period. -/
def StatisticsPeriod.wireName (period : StatisticsPeriod) : String :=
  String.ofList ((MagicEnum.enumName period).toList.drop 1)

theorem StatisticsPeriod.wireName_injective : Function.Injective wireName := by
  have underscore : ∀ period : StatisticsPeriod,
      "_" ++ period.wireName = MagicEnum.enumName period := by
    intro period
    cases period <;> decide
  intro left right equal
  apply MagicEnum.enumName_injective
  rw [← underscore left, ← underscore right, equal]

inductive IncomeType where
  | TRANSFER | WELCOME_BONUS | REALIZED_PNL | FUNDING_FEE | COMMISSION | INSURANCE_CLEAR
  | REFERRAL_KICKBACK | COMMISSION_REBATE | DELIVERED_SETTLEMENT | COIN_SWAP_DEPOSIT
  | COIN_SWAP_WITHDRAW | ALL
  deriving DecidableEq, Repr

instance : MagicEnum IncomeType where
  enumerators := [.TRANSFER, .WELCOME_BONUS, .REALIZED_PNL, .FUNDING_FEE, .COMMISSION,
    .INSURANCE_CLEAR, .REFERRAL_KICKBACK, .COMMISSION_REBATE, .DELIVERED_SETTLEMENT,
    .COIN_SWAP_DEPOSIT, .COIN_SWAP_WITHDRAW, .ALL]
  enumName
    | .TRANSFER => "TRANSFER"
    | .WELCOME_BONUS => "WELCOME_BONUS"
    | .REALIZED_PNL => "REALIZED_PNL"
    | .FUNDING_FEE => "FUNDING_FEE"
    | .COMMISSION => "COMMISSION"
    | .INSURANCE_CLEAR => "INSURANCE_CLEAR"
    | .REFERRAL_KICKBACK => "REFERRAL_KICKBACK"
    | .COMMISSION_REBATE => "COMMISSION_REBATE"
    | .DELIVERED_SETTLEMENT => "DELIVERED_SETTLEMENT"
    | .COIN_SWAP_DEPOSIT => "COIN_SWAP_DEPOSIT"
    | .COIN_SWAP_WITHDRAW => "COIN_SWAP_WITHDRAW"
    | .ALL => "ALL"
  mem_enumerators := by
    intro value
    cases value <;> decide
  names_nodup := by decide

end Futures

end BinanceApi
