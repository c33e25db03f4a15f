import BinanceApi.Rest.FundingRates

/-!
# What a funding-rate download returns

Every page after the first begins with the last record of the page before it.  The loop
keeps both, so a download of several pages has each record at a seam twice, and with a
limit of one it takes the repetition for the end.
-/

namespace BinanceApi.Futures

open BinanceApi.RESTClient (fetch_of_lt fetch_of_ge)

namespace RESTClient

section Download

variable {history : FundingHistory} {endTime limit : Int}
  {page : Nat → Int → Throws (List FundingRate)}

variable (pages : ∀ n fromTime, 0 ≤ fromTime → fromTime < endTime →
  page n fromTime = .ok ((history.inRange fromTime endTime).take limit.toNat))

include pages

/-- On a page with the whole rest of the range the loop keeps it and returns: what comes
next is the last record alone, or nothing. -/
theorem FundingDownload.returns_of_rest (limitPos : 1 ≤ limit) {fromTime : Int}
    (fromNonneg : 0 ≤ fromTime) (retVal : List FundingRate)
    (lastFromTime : Int) (requests : Nat) :
    Loop.Returns (body page endTime)
      { retVal, lastFromTime, fr := history.inRange fromTime endTime, requests }
      (.ok (retVal ++ history.inRange fromTime endTime)) := by
  rcases List.eq_nil_or_concat' (history.inRange fromTime endTime) with
    none | ⟨front, last, split⟩
  · apply Loop.returns_of_leave
    simp [body, none]
  · have rest : history.inRange last.fundingTime endTime = [last] :=
      history.inRange_fundingTime (split.trans (List.append_nil _).symm)
    have bounds := history.mem_inRange_iff.mp
      (by simp [split] : last ∈ history.inRange fromTime endTime)
    by_cases earlier : last.fundingTime < endTime
    · have again := fetch_of_lt earlier (pages requests last.fundingTime (by omega) earlier)
      rw [rest, List.take_of_length_le (by simp; omega)] at again
      apply Loop.returns_of_leave
      simp [body, split, again]
    · have turn : body page endTime
          { retVal, lastFromTime, fr := history.inRange fromTime endTime, requests } =
          .again {
            retVal := retVal ++ history.inRange fromTime endTime
            lastFromTime := last.fundingTime
            fr := []
            requests } := by
        simp [body, split, fetch_of_ge (not_lt.mp earlier)]
      apply (Loop.returns_again_iff turn).mpr
      apply Loop.returns_of_leave
      simp [body]

/-- On a first page of a range that goes on, the loop keeps the page and asks for the
range from the last record of the page on. -/
theorem FundingDownload.again_of_exceeds (limitTwo : 2 ≤ limit) {fromTime : Int}
    (fromNonneg : 0 ≤ fromTime)
    (exceeds : limit.toNat < (history.inRange fromTime endTime).length)
    (retVal : List FundingRate) (lastFromTime : Int) (requests : Nat) :
    ∃ last : FundingRate, 0 ≤ last.fundingTime ∧
      history.inRange last.fundingTime endTime =
        (history.inRange fromTime endTime).drop (limit.toNat - 1) ∧
      body page endTime
          { retVal, lastFromTime, fr := (history.inRange fromTime endTime).take limit.toNat,
            requests } =
        .again {
          retVal := retVal ++ (history.inRange fromTime endTime).take limit.toNat
          lastFromTime := last.fundingTime
          fr := (history.inRange last.fundingTime endTime).take limit.toNat
          requests := requests + 1 } := by
  rcases history.exists_split_of_exceeds (by omega) exceeds with
    ⟨front, last, next, rest, pageEq, split⟩
  have increasing := history.inRange_increasing fromTime endTime
  rw [split] at increasing
  have later : last.fundingTime < next.fundingTime :=
    (List.pairwise_append.mp increasing).2.2 last (by simp) next (by simp)
  have lastBounds := history.mem_inRange_iff.mp
    (by simp [split] : last ∈ history.inRange fromTime endTime)
  have nextBounds := history.mem_inRange_iff.mp
    (by simp [split] : next ∈ history.inRange fromTime endTime)
  have earlier : last.fundingTime < endTime := by omega
  have remaining := history.inRange_fundingTime split
  have frontLength : front.length = limit.toNat - 1 := by
    have lengths := congrArg List.length pageEq
    rw [List.length_take, List.length_append, List.length_singleton] at lengths
    omega
  have again := fetch_of_lt earlier (pages requests last.fundingTime (by omega) earlier)
  have longer : ((history.inRange last.fundingTime endTime).take limit.toNat).length ≠ 1 := by
    rw [remaining, List.length_take, List.length_cons, List.length_cons]
    omega
  refine ⟨last, by omega, ?_, ?_⟩
  · rw [remaining, split, ← frontLength, List.append_assoc, List.drop_left,
      List.singleton_append]
  · rw [pageEq]
    simp only [body, List.getLast?_concat, again, longer, false_and, if_false]

/-- From the first page of a range on, the loop returns what it has and the range with
the records at the seams twice. -/
theorem FundingDownload.returns_seamed (limitTwo : 2 ≤ limit) {fromTime : Int}
    (fromNonneg : 0 ≤ fromTime) (retVal : List FundingRate) (lastFromTime : Int)
    (requests : Nat) :
    Loop.Returns (body page endTime)
      { retVal, lastFromTime, fr := (history.inRange fromTime endTime).take limit.toNat,
        requests }
      (.ok (retVal ++
        Paging.seamed (limit.toNat - 1) (history.inRange fromTime endTime))) := by
  induction counted : (history.inRange fromTime endTime).length using
    Nat.strong_induction_on generalizing fromTime retVal lastFromTime requests with
  | _ count ih =>
      have stride : limit.toNat - 1 + 1 = limit.toNat := by omega
      rcases Nat.lt_or_ge limit.toNat (history.inRange fromTime endTime).length with
        exceeds | fits
      · rcases FundingDownload.again_of_exceeds pages limitTwo fromNonneg exceeds retVal
          lastFromTime requests with ⟨last, lastNonneg, remaining, turn⟩
        have shorter : (history.inRange last.fundingTime endTime).length < count := by
          rw [remaining, List.length_drop]
          omega
        have rest := ih _ shorter lastNonneg
          (retVal ++ (history.inRange fromTime endTime).take limit.toNat)
          last.fundingTime (requests + 1) rfl
        rw [remaining, List.append_assoc] at rest
        have seamed : Paging.seamed (limit.toNat - 1) (history.inRange fromTime endTime) =
            (history.inRange fromTime endTime).take (limit.toNat - 1 + 1) ++
              Paging.seamed (limit.toNat - 1)
                ((history.inRange fromTime endTime).drop (limit.toNat - 1)) :=
          Paging.seamed_of_lt (by omega) (by omega)
        rw [stride] at seamed
        rw [seamed]
        refine (Loop.returns_again_iff turn).mpr ?_
        rw [remaining]
        exact rest
      · rw [Paging.seamed_of_le (by omega), List.take_of_length_le fits]
        exact FundingDownload.returns_of_rest pages (by omega) fromNonneg retVal lastFromTime
          requests

/-- With a limit of one the first record comes again and ends the loop. -/
theorem FundingDownload.returns_of_one {fromTime : Int} (fromNonneg : 0 ≤ fromTime)
    (one : limit = 1) (lastFromTime : Int) (requests : Nat) :
    Loop.Returns (body page endTime)
      { retVal := [], lastFromTime,
        fr := (history.inRange fromTime endTime).take limit.toNat, requests }
      (.ok ((history.inRange fromTime endTime).take 1)) := by
  subst one
  rcases inside : history.inRange fromTime endTime with _ | ⟨first, rest⟩
  · apply Loop.returns_of_leave
    simp [body]
  · have split : history.inRange fromTime endTime = [] ++ [first] ++ rest := inside
    have remaining := history.inRange_fundingTime split
    have bounds := history.mem_inRange_iff.mp
      (by simp [inside] : first ∈ history.inRange fromTime endTime)
    by_cases earlier : first.fundingTime < endTime
    · have again := fetch_of_lt earlier (pages requests first.fundingTime (by omega) earlier)
      rw [remaining] at again
      apply Loop.returns_of_leave
      simp [body, again]
    · refine (Loop.returns_again_iff
        (by simp [body, fetch_of_ge (not_lt.mp earlier)]; rfl)).mpr ?_
      apply Loop.returns_of_leave
      simp [body]

/-- The first page starts the loop. -/
theorem downloadFundingRates_of_returns {startTime : Int} (startNonneg : 0 ≤ startTime)
    (before : startTime < endTime) {requests : Nat} {result : List FundingRate}
    (returns : Loop.Returns (FundingDownload.body page endTime)
      { retVal := [], lastFromTime := startTime,
        fr := (history.inRange startTime endTime).take limit.toNat,
        requests := requests + 1 } (.ok result)) :
    Loop.Ends (downloadFundingRates page requests startTime endTime) (.ok result) := by
  have first := fetch_of_lt before (pages requests startTime startNonneg before)
  unfold downloadFundingRates
  simp only [first]
  exact returns.ends

end Download

end RESTClient

/-- A download from the endpoint of a history returns the records of its range in order.
With a limit of one it returns the first alone; with a larger limit it misses none, and
returns a second time, right after the first, each record with which a page begins that
is not the first page: every `limit - 1`th but the last. -/
theorem funding_rates_content (externals : Externals) (history : FundingHistory)
    (requests : Nat) (symbol : String) (startTime endTime limit : Int) (wire : Wire)
    (serves : history.Serves symbol externals wire) (limitPos : 1 ≤ limit)
    (startNonneg : 0 ≤ startTime) (before : startTime < endTime) :
    ∃ result,
      Loop.Ends
        (RESTClient.getFundingRates externals (.futures wire) requests symbol
          startTime endTime limit) (.ok result) ∧
      (limit = 1 → result = (history.inRange startTime endTime).take 1) ∧
      (2 ≤ limit →
        result = Paging.seamed (limit.toNat - 1) (history.inRange startTime endTime) ∧
        result.dedup = history.inRange startTime endTime ∧
        result.length = (history.inRange startTime endTime).length +
          ((history.inRange startTime endTime).length - 2) / (limit.toNat - 1)) := by
  have pages : ∀ n fromTime, 0 ≤ fromTime → fromTime < endTime →
      RESTClient.P.getFundingRates externals (.futures wire) n symbol fromTime
        endTime limit = .ok ((history.inRange fromTime endTime).take limit.toNat) := by
    intro n fromTime fromNonneg _
    apply RESTClient.P.getFundingRates_of_serves serves <;> omega
  rcases limitPos.eq_or_lt with one | limitTwo
  · have returns := RESTClient.FundingDownload.returns_of_one pages startNonneg one.symm
      startTime (requests + 1)
    exact ⟨_, RESTClient.downloadFundingRates_of_returns pages startNonneg before returns,
      fun _ => rfl, fun two => by omega⟩
  · have returns := RESTClient.FundingDownload.returns_seamed pages (by omega) startNonneg []
      startTime (requests + 1)
    refine ⟨_, RESTClient.downloadFundingRates_of_returns pages startNonneg before returns,
      fun one => by omega, fun _ => ⟨rfl, ?_, ?_⟩⟩
    · have increasing := history.inRange_increasing startTime endTime
      apply Paging.dedup_repeating
      exact List.Pairwise.imp (fun apart same => by rw [same] at apart; omega) increasing
    · exact Paging.length_seamed (by omega) _

/-- With pages of two the three records of the sample come as four. -/
theorem funding_rates_content_sample :
    ∃ result,
      Loop.Ends
        (RESTClient.getFundingRates .plain
          (.futures (FundingHistory.sample.wire "BTCUSDT" FundingHistory.row)) 0
          "BTCUSDT" 0 60000000 2) (.ok result) ∧
      result.dedup = FundingHistory.sample.inRange 0 60000000 ∧ result.length = 4 := by
  rcases funding_rates_content .plain .sample 0 "BTCUSDT" 0 60000000 2 _
    (FundingHistory.sample.wire_serves "BTCUSDT" FundingHistory.sample_decodes)
    (by decide) (by decide) (by decide) with ⟨result, ends, -, content⟩
  rcases content (by decide) with ⟨-, dedup, length⟩
  exact ⟨result, ends, dedup, length.trans (by decide)⟩

end BinanceApi.Futures
