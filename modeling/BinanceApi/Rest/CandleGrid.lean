import Mathlib.Data.List.Intervals
import BinanceApi.Rest.RequestCounts

/-!
# Downloads of candles without gaps

The candles of an interval open at times that are one length apart; those of a week open
on Mondays, which are no multiples of it.  Where the exchange has one for each of these
places, the places of a range say which candles a download returns and how many requests
it makes.
-/

namespace BinanceApi

open Paging (pageCount)

namespace Binance

/-- The milliseconds of a candle; a month counts as thirty days. -/
def numberOfMsForCandleInterval : CandleInterval → Int
  | ._1m => 60000
  | ._3m => 60000 * 3
  | ._5m => 60000 * 5
  | ._15m => 60000 * 15
  | ._30m => 60000 * 30
  | ._1h => 60000 * 60
  | ._2h => 60000 * 120
  | ._4h => 60000 * 240
  | ._6h => 60000 * 360
  | ._8h => 60000 * 480
  | ._12h => 60000 * 720
  | ._1d => 86400000
  | ._3d => 86400000 * 3
  | ._1w => 86400000 * 7
  | ._1M => 86400000 * 30

/-- Whether the exchange has candles of so many minutes, and the new content of
`candleInterval`. -/
def isValidCandleResolution (resolution : Int) (candleInterval : CandleInterval) :
    Bool × CandleInterval :=
  match resolution with
  | 1 => (true, ._1m)
  | 3 => (true, ._3m)
  | 5 => (true, ._5m)
  | 15 => (true, ._15m)
  | 30 => (true, ._30m)
  | 60 => (true, ._1h)
  | 120 => (true, ._2h)
  | 240 => (true, ._4h)
  | 360 => (true, ._6h)
  | 480 => (true, ._8h)
  | 720 => (true, ._12h)
  | 1440 => (true, ._1d)
  | 4320 => (true, ._3d)
  | 10080 => (true, ._1w)
  | _ => (false, candleInterval)

theorem numberOfMs_pos (interval : CandleInterval) :
    0 < numberOfMsForCandleInterval interval := by
  cases interval <;> decide

/-- An accepted resolution is the length of its interval in minutes. -/
theorem numberOfMs_of_valid {resolution : Int} {previous interval : CandleInterval}
    (valid : isValidCandleResolution resolution previous = (true, interval)) :
    numberOfMsForCandleInterval interval = resolution * 60000 := by
  unfold isValidCandleResolution at valid
  split at valid <;> cases valid <;> decide

end Binance

namespace CandleHistory

/-- Candles of one length without a gap: from an origin on one opens after every length,
and closes right before the next one opens. -/
structure Gapless (history : CandleHistory) (length origin : Int) : Prop where
  opens : history.candles.map Candle.openTime =
    (List.range history.candles.length).map fun place : Nat => origin + place * length
  closes : ∀ candle ∈ history.candles, candle.closeTime + 1 = candle.openTime + length

/-- How many places, from the origin on, are before a time. -/
def placesBefore (length origin time : Int) : Nat :=
  ((time - origin + length - 1) / length).toNat

theorem lt_placesBefore_iff {length : Int} (positive : 0 < length) (origin time : Int)
    (place : Nat) :
    place < placesBefore length origin time ↔ origin + place * length < time := by
  have multiple : (place + 1 : Int) ≤ (time - origin + length - 1) / length ↔
      (place + 1 : Int) * length ≤ time - origin + length - 1 :=
    Int.le_ediv_iff_mul_le positive
  have expanded : (place + 1 : Int) * length = place * length + length := by
    ring
  rw [placesBefore]
  omega

variable {history : CandleHistory} {length origin startTime endTime : Int}

/-- The places of the candles of a range. -/
theorem Gapless.map_inRange (gapless : history.Gapless length origin)
    (positive : 0 < length) (startTime endTime : Int) :
    (history.inRange startTime endTime).map Candle.openTime =
      (List.Ico (placesBefore length origin startTime)
        (min history.candles.length (placesBefore length origin (endTime + 1)))).map
          fun place : Nat => origin + place * length := by
  have places : (List.range history.candles.length).filter
      ((fun openTime : Int => decide (startTime ≤ openTime ∧ openTime ≤ endTime)) ∘
        fun place : Nat => origin + place * length) =
      List.Ico (placesBefore length origin startTime)
        (min history.candles.length (placesBefore length origin (endTime + 1))) := by
    rw [← Paging.filter_range_between]
    apply List.filter_congr
    intro place _
    have later := lt_placesBefore_iff positive origin startTime place
    have earlier := lt_placesBefore_iff positive origin (endTime + 1) place
    simp only [Function.comp_apply, decide_eq_decide]
    omega
  rw [← places, ← List.filter_map, ← gapless.opens, List.filter_map]
  rfl

/-- The last candle of a range closes right before the next place. -/
theorem Gapless.closeTime_last (gapless : history.Gapless length origin)
    (positive : 0 < length) {last : Candle}
    (ends : (history.inRange startTime endTime).getLast? = some last) :
    last.closeTime + 1 = origin + (min history.candles.length
      (placesBefore length origin (endTime + 1)) : Nat) * length := by
  have places := gapless.map_inRange positive startTime endTime
  have inside := (history.mem_inRange_iff.mp (List.mem_of_getLast? ends)).1
  have opens : ((history.inRange startTime endTime).map Candle.openTime).getLast? =
      some last.openTime := by
    rw [List.getLast?_map, ends]
    rfl
  rw [places] at opens
  rcases Nat.lt_or_ge (placesBefore length origin startTime) (min history.candles.length
    (placesBefore length origin (endTime + 1))) with some | none
  · obtain ⟨final, equal⟩ := Nat.exists_eq_add_one_of_ne_zero (Nat.ne_zero_of_lt some)
    rw [equal] at opens some ⊢
    rw [List.Ico.succ_top (Nat.le_of_lt_succ some), List.map_append, List.map_singleton,
      List.getLast?_concat, Option.some.injEq] at opens
    rw [gapless.closes last inside, ← opens]
    push_cast
    ring
  · rw [List.Ico.eq_nil_of_le none] at opens
    cases opens

/-- The requests that the candles of a range take, from the places of its bounds. -/
theorem Gapless.requestCount_eq (gapless : history.Gapless length origin)
    (positive : 0 < length) (pageSize : Nat) :
    let skipped := placesBefore length origin startTime
    let reached := min history.candles.length (placesBefore length origin (endTime + 1))
    history.requestCount pageSize startTime endTime =
      if reached ≤ skipped then 1
      else pageCount pageSize (reached - skipped) +
        if origin + reached * length ≤ endTime then 1 else 0 := by
  intro skipped reached
  have places := gapless.map_inRange positive startTime endTime
  have count : (history.inRange startTime endTime).length = reached - skipped := by
    rw [← List.length_map Candle.openTime, places, List.length_map, List.Ico.length]
  cases ends : (history.inRange startTime endTime).getLast? with
  | none =>
      have empty := List.getLast?_eq_none_iff.mp ends
      rw [empty, List.length_nil] at count
      rw [history.requestCount_of_none empty, if_pos (by omega)]
  | some last =>
      have some : 0 < (history.inRange startTime endTime).length :=
        List.length_pos_of_mem (List.mem_of_getLast? ends)
      have closes : last.closeTime + 1 = origin + reached * length :=
        gapless.closeTime_last positive ends
      have before : last.closeTime < endTime ↔ origin + reached * length ≤ endTime := by
        omega
      rw [if_neg (by omega), requestCount, ends]
      simp only [count, before]

end CandleHistory

/-- A caller that knows the minutes of a candle gets from either client, over any range of
a market without gaps, the candles at all places of the range but the last, each so many
minutes after the one before it.  The bounds of the range, the origin and the number of
the candles, and the page size say how many requests that takes: one if the range has none
of the places, else one for each page that they fill and, if the market ends before the
range does, one more. -/
theorem gapless_downloaded (client : CandleClient) (externals : Externals)
    (history : CandleHistory) (pageSize : Nat) (wire : Wire) (requests : Nat)
    (symbol : String) (resolution : Int) (previous interval : CandleInterval)
    (origin startTime endTime limit : Int)
    (valid : Binance.isValidCandleResolution resolution previous = (true, interval))
    (gapless : history.Gapless (Binance.numberOfMsForCandleInterval interval) origin)
    (pageSizePos : 1 ≤ pageSize) (startNonneg : 0 ≤ startTime)
    (before : startTime < endTime)
    (serves : history.Serves pageSize client.publicApi symbol interval wire) :
    let length := resolution * 60000
    let skipped := CandleHistory.placesBefore length origin startTime
    let reached := min history.candles.length
      (CandleHistory.placesBefore length origin (endTime + 1))
    ∃ result,
      Loop.Ends (client.getHistoricalPrices externals wire requests symbol interval
        startTime endTime limit) (.ok result) ∧
      RESTClient.CandlesTake (client.page externals wire symbol interval endTime limit)
        requests startTime endTime
        (if reached ≤ skipped then 1
          else pageCount pageSize (reached - skipped) +
            if origin + reached * length ≤ endTime then 1 else 0)
        (.ok result) ∧
      result.map Candle.openTime =
        (List.Ico skipped (reached - 1)).map
          fun place : Nat => origin + place * length := by
  intro length skipped reached
  have positive := Binance.numberOfMs_pos interval
  rw [Binance.numberOfMs_of_valid valid] at gapless positive
  refine ⟨(history.inRange startTime endTime).dropLast, ?_, ?_, ?_⟩
  · exact client.getHistoricalPrices_of_serves externals serves requests limit pageSizePos
      startNonneg before
  · rw [← gapless.requestCount_eq positive pageSize]
    apply RESTClient.candlesTake_of_pages _ pageSizePos startNonneg before
    intro n fromTime fromNonneg inside
    exact client.page_of_serves externals limit serves n fromNonneg inside
  · rw [List.map_dropLast, gapless.map_inRange positive, ← List.map_dropLast,
      Paging.dropLast_Ico]

/-- Three weeks, the first of which opens on the first Monday. -/
def CandleHistory.weeklySample : CandleHistory where
  candles := [345600000, 950400000, 1555200000].map fun openTime =>
    { openTime, «open» := .ofDouble 1, high := .ofDouble (3 / 2), low := .ofDouble 1,
      close := .ofDouble (5 / 4), volume := .ofDouble 10,
      closeTime := openTime + 604799999, quoteVolume := .ofDouble 12, numberOfTrades := 4,
      takerBuyVolume := .ofDouble 6, takerQuoteVolume := .ofDouble 7, ignore := "0" }
  consecutive := by
    simp only [Paging.Consecutive]
    decide

theorem CandleHistory.weeklySample_gapless :
    weeklySample.Gapless 604800000 345600000 where
  opens := by decide
  closes := by decide

theorem CandleHistory.weeklySample_decodes :
    ∀ candle ∈ weeklySample.candles, Candle.fromJson candle.toJson = .ok candle := by
  decide +kernel

/-- The weeks from the second one on, one to a page: the first of them after three
requests, since the market ends before the range does. -/
theorem gapless_downloaded_sample :
    ∃ result,
      RESTClient.CandlesTake
        (CandleClient.spot.page .plain
          (CandleHistory.weeklySample.wire 1 "/api/v3/" "BTCUSDT" ._1w) "BTCUSDT" ._1w
          2200000000 1) 0 345600001 2200000000 3 (.ok result) ∧
      result.map Candle.openTime = [950400000] := by
  rcases gapless_downloaded .spot .plain CandleHistory.weeklySample 1 _ 0 "BTCUSDT" 10080
    ._1M ._1w 345600000 345600001 2200000000 1 rfl CandleHistory.weeklySample_gapless
    (by decide) (by decide) (by decide) (CandleHistory.weeklySample.wire_serves 1 _ _ _
      CandleHistory.weeklySample_decodes) with ⟨result, -, takes, opens⟩
  exact ⟨result, takes, opens⟩

end BinanceApi
