import BinanceApi.Decimals
import BinanceApi.Models.Market

/-!
# Rows of candles

A candle is written as the row that the exchange's answers have, and read back from
one.  The amounts are written with `std::to_string`, so only decimals of six digits
survive.
-/

namespace BinanceApi

namespace Candle

/-- The prices and volumes. -/
def amounts (candle : Candle) : List AnyDouble :=
  [candle.open, candle.high, candle.low, candle.close, candle.volume, candle.quoteVolume,
    candle.takerBuyVolume, candle.takerQuoteVolume]

/-- The candle that the digits of its row make. -/
def printed (candle : Candle) : Candle :=
  { candle with
    «open» := candle.open.printed
    high := candle.high.printed
    low := candle.low.printed
    close := candle.close.printed
    volume := candle.volume.printed
    quoteVolume := candle.quoteVolume.printed
    takerBuyVolume := candle.takerBuyVolume.printed
    takerQuoteVolume := candle.takerQuoteVolume.printed }

theorem readInt_array {elements : List Json} (index : Nat) {value : Int}
    (written : elements[index]? = some (.integer value)) :
    readInt (.array elements) index = .ok value := by
  simp [readInt, Json.element, written, Json.getInt, bind, Except.bind]

theorem readString_array {elements : List Json} (index : Nat) {value : String}
    (written : elements[index]? = some (.string value)) :
    readString (.array elements) index = .ok value := by
  simp [readString, Json.element, written, Json.getString, bind, Except.bind]

/-- A printed amount is read as it was printed. -/
theorem readDouble_array {elements : List Json} (index : Nat) {value : AnyDouble}
    (written : elements[index]? = some (.string value.toString)) :
    readDouble (.array elements) index = .ok value.printed := by
  simp [readDouble, readString_array index written, stod_toString, bind, Except.bind]

/-- Writer and reader agree on the twelve positions. -/
theorem fromJson_toJson (candle : Candle) :
    fromJson candle.toJson = .ok candle.printed := by
  simp only [fromJson, toJson]
  rw [readInt_array 0 rfl, ok_bind, readDouble_array 1 rfl, ok_bind,
    readDouble_array 2 rfl, ok_bind, readDouble_array 3 rfl, ok_bind,
    readDouble_array 4 rfl, ok_bind, readDouble_array 5 rfl, ok_bind,
    readInt_array 6 rfl, ok_bind, readDouble_array 7 rfl, ok_bind,
    readInt_array 8 rfl, ok_bind, readDouble_array 9 rfl, ok_bind,
    readDouble_array 10 rfl, ok_bind, readString_array 11 rfl, ok_bind]
  rfl

/-- Printing changes a candle unless all its amounts are decimals of six digits. -/
theorem printed_eq_self_iff (candle : Candle) :
    candle.printed = candle ↔ ∀ amount ∈ candle.amounts, amount.HasDigits 6 := by
  rcases candle with ⟨openTime, «open», high, low, close, volume, closeTime, quoteVolume,
    numberOfTrades, takerBuyVolume, takerQuoteVolume, ignore⟩
  simp [printed, amounts, AnyDouble.printed_eq_self_iff]

end Candle

/-- A candle is read back from its row exactly when its amounts are decimals of six
digits, and then no other such candle has the same row. -/
theorem candle_row_round_trip_iff (candle : Candle) :
    (Candle.fromJson candle.toJson = .ok candle ↔
      ∀ amount ∈ candle.amounts, amount.HasDigits 6) ∧
    ((∀ amount ∈ candle.amounts, amount.HasDigits 6) →
      ∀ other : Candle, (∀ amount ∈ other.amounts, amount.HasDigits 6) →
        candle.toJson = other.toJson → candle = other) := by
  constructor
  · rw [candle.fromJson_toJson, Except.ok.injEq, candle.printed_eq_self_iff]
  · intro sixDigits other otherSix same
    rw [← candle.printed_eq_self_iff] at sixDigits
    rw [← other.printed_eq_self_iff] at otherSix
    have read := congrArg Candle.fromJson same
    rw [candle.fromJson_toJson, other.fromJson_toJson, Except.ok.injEq, sixDigits,
      otherSix] at read
    exact read

/-- A minute of a coin that is worth a hundredth of a millionth more at its end. -/
def Candle.lowPriced (close : Double) : Candle where
  openTime := 0
  «open» := .ofDouble (1234 / 10 ^ 8)
  high := .ofDouble (1235 / 10 ^ 8)
  low := .ofDouble (1234 / 10 ^ 8)
  close := .ofDouble close
  volume := .ofDouble 1000
  closeTime := 59999
  quoteVolume := .ofDouble (1234 / 10 ^ 5)
  numberOfTrades := 4
  takerBuyVolume := .ofDouble 500
  takerQuoteVolume := .ofDouble (617 / 10 ^ 5)
  ignore := "0"

/-- The same minute at prices of six digits. -/
def Candle.sixDigits : Candle :=
  { Candle.lowPriced (1 / 8) with
    «open» := .ofDouble (1 / 8)
    high := .ofDouble (1 / 4)
    low := .ofDouble (1 / 8)
    quoteVolume := .ofDouble (1234 / 10 ^ 6)
    takerQuoteVolume := .ofDouble (617 / 10 ^ 6) }

theorem candle_row_round_trip_sample :
    Candle.fromJson Candle.sixDigits.toJson = .ok Candle.sixDigits :=
  (candle_row_round_trip_iff Candle.sixDigits).1.mpr (by decide +kernel)

/-- The prices of eight digits come back with six, and two candles have one row. -/
theorem candle_row_rounded_sample :
    (∀ close ∈ [(1234 : Double) / 10 ^ 8, 1235 / 10 ^ 8],
      (∀ amount ∈ (Candle.lowPriced close).amounts, amount.HasDigits 8) ∧
      Candle.fromJson (Candle.lowPriced close).toJson =
        .ok { Candle.lowPriced close with
          «open» := .ofDouble (12 / 10 ^ 6), high := .ofDouble (12 / 10 ^ 6),
          low := .ofDouble (12 / 10 ^ 6), close := .ofDouble (12 / 10 ^ 6) }) ∧
    (Candle.lowPriced (1234 / 10 ^ 8)).toJson =
      (Candle.lowPriced (1235 / 10 ^ 8)).toJson ∧
    Candle.lowPriced (1234 / 10 ^ 8) ≠ Candle.lowPriced (1235 / 10 ^ 8) := by
  have encodes : (Candle.lowPriced (1234 / 10 ^ 8)).close.toString =
      (Candle.lowPriced (1235 / 10 ^ 8)).close.toString := by
    decide +kernel
  refine ⟨by decide +kernel, ?_, by decide +kernel⟩
  simp only [Candle.toJson]
  rw [encodes]
  rfl

end BinanceApi
