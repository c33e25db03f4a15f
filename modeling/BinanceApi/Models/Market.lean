import BinanceApi.Models.Enums

/-!
# Market data records and their decoders

Every decoder starts from a freshly constructed record, so a reader that leaves
its output alone leaves the member's default.
-/

namespace BinanceApi

/-- The body of an answer whose status is not OK. -/
structure ErrorResponse where
  code : Int
  msg : String
  deriving DecidableEq, Repr

def ErrorResponse.fromJson (externals : Externals) (json : Json) :
    Throws ErrorResponse := do
  let code ← externals.readInt json "code" 0
  let msg ← externals.readString json "msg" ""
  return { code, msg }

/-- One candle.  Times are in milliseconds. -/
structure Candle where
  openTime : Int
  «open» : AnyDouble
  high : AnyDouble
  low : AnyDouble
  close : AnyDouble
  volume : AnyDouble
  closeTime : Int
  quoteVolume : AnyDouble
  numberOfTrades : Int
  takerBuyVolume : AnyDouble
  takerQuoteVolume : AnyDouble
  ignore : String
  deriving DecidableEq, Repr

namespace Candle

/-- `json[index]` converted to an integer. -/
def readInt (json : Json) (index : Nat) : Evaluates Int := do
  (← json.element index).getInt.lift

/-- `json[index].get<std::string>()`. -/
def readString (json : Json) (index : Nat) : Evaluates String := do
  (← json.element index).getString.lift

/-- `stod(json[index].get<std::string>())`. -/
def readDouble (json : Json) (index : Nat) : Evaluates AnyDouble := do
  (stod (← readString json index)).lift

def fromJson (json : Json) : Evaluates Candle := do
  let openTime ← readInt json 0
  let «open» ← readDouble json 1
  let high ← readDouble json 2
  let low ← readDouble json 3
  let close ← readDouble json 4
  let volume ← readDouble json 5
  let closeTime ← readInt json 6
  let quoteVolume ← readDouble json 7
  let numberOfTrades ← readInt json 8
  let takerBuyVolume ← readDouble json 9
  let takerQuoteVolume ← readDouble json 10
  let ignore ← readString json 11
  return { openTime, «open», high, low, close, volume, closeTime, quoteVolume,
           numberOfTrades, takerBuyVolume, takerQuoteVolume, ignore }

/-- The row of the exchange's answer that encodes a candle. -/
def toJson (candle : Candle) : Json :=
  .array [
    .integer candle.openTime,
    .string candle.open.toString,
    .string candle.high.toString,
    .string candle.low.toString,
    .string candle.close.toString,
    .string candle.volume.toString,
    .integer candle.closeTime,
    .string candle.quoteVolume.toString,
    .integer candle.numberOfTrades,
    .string candle.takerBuyVolume.toString,
    .string candle.takerQuoteVolume.toString,
    .string candle.ignore]

end Candle

/-- Decode every row of an answer; the first row that fails ends the decoding. -/
def CandlesResponse.fromJson (json : Json) : Evaluates (List Candle) :=
  json.values.mapM Candle.fromJson

/-- Rows that decode one by one decode as an answer. -/
theorem CandlesResponse.fromJson_rows {rows : List Candle}
    (decodes : ∀ row ∈ rows, Candle.fromJson row.toJson = .ok row) :
    fromJson (.array (rows.map Candle.toJson)) = .ok rows :=
  mapM_map_ok decodes

namespace Futures

structure FundingRate where
  symbol : String
  fundingRate : Double
  fundingTime : Int
  deriving DecidableEq, Repr

def FundingRate.fromJson (externals : Externals) (json : Json) :
    Throws FundingRate := do
  let symbol ← externals.readString json "symbol" ""
  let fundingTime ← externals.readInt json "fundingTime" 0
  let fundingRate ← externals.readStringAsDouble json "fundingRate"
  return { symbol, fundingRate, fundingTime }

def FundingRates.fromJson (externals : Externals) (json : Json) :
    Throws (List FundingRate) :=
  json.values.mapM (FundingRate.fromJson externals)

theorem FundingRates.fromJson_rows {externals : Externals}
    (encode : FundingRate → Json) {rows : List FundingRate}
    (decodes : ∀ row ∈ rows, FundingRate.fromJson externals (encode row) = .ok row) :
    fromJson externals (.array (rows.map encode)) = .ok rows :=
  mapM_map_ok decodes

structure LongShortRatio where
  symbol : String
  longShortRatio : Double
  longAccount : Double
  shortAccount : Double
  timestamp : Int
  deriving DecidableEq, Repr

def LongShortRatio.fromJson (externals : Externals) (json : Json) :
    Throws LongShortRatio := do
  let symbol ← externals.readString json "symbol" ""
  let longShortRatio ← externals.readStringAsDouble json "longShortRatio"
  let longAccount ← externals.readStringAsDouble json "longAccount"
  let shortAccount ← externals.readStringAsDouble json "shortAccount"
  let timestamp ← externals.readInt json "timestamp" 0
  return { symbol, longShortRatio, longAccount, shortAccount, timestamp }

structure OpenInterestStatistics where
  symbol : String
  sumOpenInterest : Double
  sumOpenInterestValue : Double
  timestamp : Int
  deriving DecidableEq, Repr

def OpenInterestStatistics.fromJson (externals : Externals) (json : Json) :
    Throws OpenInterestStatistics := do
  let symbol ← externals.readString json "symbol" ""
  let sumOpenInterest ← externals.readStringAsDouble json "sumOpenInterest"
  let sumOpenInterestValue ← externals.readStringAsDouble json "sumOpenInterestValue"
  let timestamp ← externals.readInt json "timestamp" 0
  return { symbol, sumOpenInterest, sumOpenInterestValue, timestamp }

structure BuySellVolume where
  buySellRatio : Double
  buyVol : Double
  sellVol : Double
  timestamp : Int
  deriving DecidableEq, Repr

def BuySellVolume.fromJson (externals : Externals) (json : Json) :
    Throws BuySellVolume := do
  let buySellRatio ← externals.readStringAsDouble json "buySellRatio"
  let buyVol ← externals.readStringAsDouble json "buyVol"
  let sellVol ← externals.readStringAsDouble json "sellVol"
  let timestamp ← externals.readInt json "timestamp" 0
  return { buySellRatio, buyVol, sellVol, timestamp }

end Futures

end BinanceApi
