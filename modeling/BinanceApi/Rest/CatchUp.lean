import Mathlib.Data.List.Chain
import BinanceApi.Rest.CandleRequests

/-!
# Candle series that are kept up to date

A caller that keeps a candle series downloads again and again, each time from the close
of the last candle it has.  The candle that a download drops is the first one that the
next download asks for, and by then it may have other prices.
-/

namespace BinanceApi

namespace CandleHistory

theorem openTime_increasing (history : CandleHistory) :
    Paging.Increasing Candle.openTime history.candles := by
  apply history.consecutive.2.imp_of_mem
  intro earlier later earlierMem _ apart
  exact (history.consecutive.1 earlier earlierMem).trans apart

/-- What a later look at a history finds: the candle that was the last one may have
changed, those before it have not, and more may have followed. -/
def Extends (later earlier : CandleHistory) : Prop :=
  earlier.candles = [] ∨
    ∃ front last changed, earlier.candles = front ++ [last] ∧
      changed.openTime = last.openTime ∧ front ++ [changed] <+: later.candles

/-- What a download of the earlier history keeps, a longer range of the later one begins
with, and at least one candle follows. -/
theorem Extends.inRange {later earlier : CandleHistory} (grown : later.Extends earlier)
    {startTime middle endTime : Int} (after : middle ≤ endTime)
    (some : earlier.inRange startTime middle ≠ []) :
    ∃ rest, rest ≠ [] ∧
      later.inRange startTime endTime =
        (earlier.inRange startTime middle).dropLast ++ rest := by
  rcases grown with empty | ⟨front, last, changed, split, sameStart, more, whole⟩
  · exact absurd (by simp [CandleHistory.inRange, empty]) some
  · have increasing := earlier.openTime_increasing
    simp only [CandleHistory.inRange, ← whole, split] at increasing some ⊢
    exact increasing.filter_between_seen_again sameStart after some

end CandleHistory

/-- Where a caller goes on that has these candles: at the close of the last one. -/
def CandleClient.resumeTime (startTime : Int) (series : List Candle) : Int :=
  (series.getLast?.map Candle.closeTime).getD startTime

open CandleClient (resumeTime)

@[simp] theorem CandleClient.resumeTime_concat (startTime : Int) (front : List Candle)
    (last : Candle) : resumeTime startTime (front ++ [last]) = last.closeTime := by
  simp [resumeTime]

namespace CandleHistory

/-- What is kept of a candle series, and a range that goes on where it ends, are the whole
range. -/
theorem inRange_resumeTime (history : CandleHistory) {startTime endTime : Int}
    {series rest : List Candle} (startNonneg : 0 ≤ startTime) (some : rest ≠ [])
    (split : history.inRange startTime endTime = series ++ rest) :
    0 ≤ resumeTime startTime series ∧
      (startTime < endTime → resumeTime startTime series < endTime) ∧
      history.inRange (resumeTime startTime series) endTime = rest := by
  rcases List.eq_nil_or_concat' series with rfl | ⟨front, last, rfl⟩
  · exact ⟨startNonneg, id, split⟩
  · have lastMem : last ∈ history.inRange startTime endTime := by simp [split]
    rw [CandleClient.resumeTime_concat]
    refine ⟨history.closeTime_nonneg_of_mem_inRange startNonneg lastMem, ?_,
      history.inRange_closeTime split⟩
    intro _
    by_contra after
    exact some (history.inRange_closeTime_of_ge split (not_lt.mp after))

end CandleHistory

/-- One of the downloads of a caller: the server it reaches then, the history and the page
size the server has then, the requests made before, and the end of the range asked for. -/
structure CandleRound where
  wire : Wire
  history : CandleHistory
  pageSize : Nat
  requests : Nat
  endTime : Int

/-- The later download asks for no earlier end, of a history that has grown. -/
def CandleRound.Follows (earlier later : CandleRound) : Prop :=
  earlier.endTime ≤ later.endTime ∧ later.history.Extends earlier.history

/-- The server answers from its history, and the range asked for is not empty. -/
structure CandleRound.Served (round : CandleRound) (client : CandleClient)
    (symbol : String) (interval : CandleInterval) (startTime : Int) : Prop where
  pageSizePos : 1 ≤ round.pageSize
  before : startTime < round.endTime
  serves : round.history.Serves round.pageSize client.publicApi symbol interval round.wire

namespace CandleClient

section CatchUp

variable (client : CandleClient) (externals : Externals) (symbol : String)
  (interval : CandleInterval) (startTime limit : Int)

/-- The series of a caller after some downloads, each of which goes on where the series
so far has ended. -/
inductive CatchUp : List CandleRound → List Candle → Prop where
  | start : CatchUp [] []
  | round {rounds : List CandleRound} {series candles : List Candle} {round : CandleRound}
      (before : CatchUp rounds series)
      (downloaded : Loop.Ends
        (client.getHistoricalPrices externals round.wire round.requests symbol interval
          (resumeTime startTime series) round.endTime limit) (.ok candles)) :
      CatchUp (rounds ++ [round]) (series ++ candles)

/-- What one download of the last server would have kept. -/
def lastSeries (rounds : List CandleRound) : List Candle :=
  match rounds.getLast? with
  | some round => (round.history.inRange startTime round.endTime).dropLast
  | none => []

variable {client externals symbol interval startTime limit}

theorem catchUp_nil_iff {series : List Candle} :
    CatchUp client externals symbol interval startTime limit [] series ↔ series = [] := by
  constructor
  · intro caughtUp
    generalize rounds : ([] : List CandleRound) = none at caughtUp
    cases caughtUp with
    | start => rfl
    | round => simp at rounds
  · rintro rfl
    exact .start

theorem catchUp_concat_iff {rounds : List CandleRound} {round : CandleRound}
    {series : List Candle} :
    CatchUp client externals symbol interval startTime limit (rounds ++ [round]) series ↔
      ∃ earlier candles, series = earlier ++ candles ∧
        CatchUp client externals symbol interval startTime limit rounds earlier ∧
        Loop.Ends
          (client.getHistoricalPrices externals round.wire round.requests symbol interval
            (resumeTime startTime earlier) round.endTime limit) (.ok candles) := by
  constructor
  · intro caughtUp
    generalize whole : rounds ++ [round] = all at caughtUp
    cases caughtUp with
    | start => simp at whole
    | round before downloaded =>
        rcases List.append_inj' whole rfl with ⟨rfl, single⟩
        cases single
        exact ⟨_, _, rfl, before, downloaded⟩
  · rintro ⟨earlier, candles, rfl, before, downloaded⟩
    exact .round before downloaded

@[simp] theorem lastSeries_concat (rounds : List CandleRound) (round : CandleRound) :
    lastSeries startTime (rounds ++ [round]) =
      (round.history.inRange startTime round.endTime).dropLast := by
  simp [lastSeries]

/-- A download that goes on from a series asks for a range, and what it returns makes the
series that one download of the whole range would. -/
structure Completes (startTime : Int) (series : List Candle) (round : CandleRound) :
    Prop where
  nonneg : 0 ≤ resumeTime startTime series
  inside : resumeTime startTime series < round.endTime
  whole : series ++
      (round.history.inRange (resumeTime startTime series) round.endTime).dropLast =
    (round.history.inRange startTime round.endTime).dropLast

theorem completes_nil {round : CandleRound} (startNonneg : 0 ≤ startTime)
    (before : startTime < round.endTime) : Completes startTime [] round where
  nonneg := startNonneg
  inside := before
  whole := List.nil_append _

theorem completes_lastSeries {rounds : List CandleRound} {round : CandleRound}
    (followed : (rounds ++ [round]).IsChain CandleRound.Follows)
    (startNonneg : 0 ≤ startTime) (before : startTime < round.endTime) :
    Completes startTime (lastSeries startTime rounds) round := by
  rcases List.eq_nil_or_concat' rounds with rfl | ⟨front, previous, rfl⟩
  · exact completes_nil startNonneg before
  · have follows : previous.Follows round :=
      (List.isChain_append.mp followed).2.2 previous (by simp) round (by simp)
    rw [lastSeries_concat]
    by_cases none : previous.history.inRange startTime previous.endTime = []
    · rw [none, List.dropLast_nil]
      exact completes_nil startNonneg before
    · rcases follows.2.inRange follows.1 none with ⟨rest, some, split⟩
      rcases round.history.inRange_resumeTime startNonneg some split with
        ⟨nonneg, inside, remaining⟩
      refine ⟨nonneg, inside before, ?_⟩
      rw [remaining, split, List.dropLast_append_of_ne_nil some]

/-- After every list of downloads the caller has what the last download alone would have
given it. -/
theorem catchUp_iff_lastSeries (startNonneg : 0 ≤ startTime) {rounds : List CandleRound}
    (followed : rounds.IsChain CandleRound.Follows)
    (served : ∀ round ∈ rounds, round.Served client symbol interval startTime)
    {series : List Candle} :
    CatchUp client externals symbol interval startTime limit rounds series ↔
      series = lastSeries startTime rounds := by
  induction rounds using List.reverseRecOn generalizing series with
  | nil => exact catchUp_nil_iff
  | append_singleton rounds round ih =>
      have server := served round (by simp)
      have completes := completes_lastSeries followed startNonneg server.before
      have downloaded := client.getHistoricalPrices_of_serves externals server.serves
        round.requests limit server.pageSizePos completes.nonneg completes.inside
      have earlierServed : ∀ other ∈ rounds,
          other.Served client symbol interval startTime :=
        fun other membership => served other (List.mem_append_left _ membership)
      rw [catchUp_concat_iff, lastSeries_concat]
      constructor
      · rintro ⟨earlier, candles, rfl, caughtUp, ends⟩
        rw [(ih followed.left_of_append earlierServed).mp caughtUp] at ends ⊢
        rw [← completes.whole, Except.ok.inj (ends.unique downloaded)]
      · rintro rfl
        exact ⟨_, _, completes.whole.symm,
          (ih followed.left_of_append earlierServed).mpr rfl, downloaded⟩

end CatchUp

end CandleClient

/-- A caller that goes on downloading a growing history, with whatever ends and however
often, always has exactly what one download of the whole range from the last server gives:
no candle is lost, repeated or kept in an unfinished state. -/
theorem catchUp_iff_download (client : CandleClient) (externals : Externals)
    (symbol : String) (interval : CandleInterval) (startTime limit : Int)
    (rounds : List CandleRound) (last : CandleRound) (series : List Candle)
    (startNonneg : 0 ≤ startTime)
    (followed : (rounds ++ [last]).IsChain CandleRound.Follows)
    (served : ∀ round ∈ rounds ++ [last],
      round.Served client symbol interval startTime) :
    CandleClient.CatchUp client externals symbol interval startTime limit
        (rounds ++ [last]) series ↔
      Loop.Ends
        (client.getHistoricalPrices externals last.wire last.requests symbol interval
          startTime last.endTime limit) (.ok series) := by
  have server := served last (by simp)
  have whole := client.getHistoricalPrices_of_serves externals server.serves last.requests
    limit server.pageSizePos startNonneg server.before
  rw [CandleClient.catchUp_iff_lastSeries startNonneg followed served,
    CandleClient.lastSeries_concat]
  constructor
  · rintro rfl
    exact whole
  · intro ends
    exact Except.ok.inj (ends.unique whole)

/-- The sample at an earlier time: its second candle is still running, and has another
volume. -/
def CandleHistory.runningSample : CandleHistory where
  candles := [(0, 10), (60000, 3)].map fun candle =>
    { openTime := candle.1, «open» := .ofDouble 1, high := .ofDouble (3 / 2),
      low := .ofDouble 1, close := .ofDouble (5 / 4), volume := .ofDouble candle.2,
      closeTime := candle.1 + 59999, quoteVolume := .ofDouble 12, numberOfTrades := 4,
      takerBuyVolume := .ofDouble 6, takerQuoteVolume := .ofDouble 7, ignore := "0" }
  consecutive := by
    simp only [Paging.Consecutive]
    decide

theorem CandleHistory.runningSample_decodes :
    ∀ candle ∈ runningSample.candles, Candle.fromJson candle.toJson = .ok candle := by
  decide +kernel

/-- Downloads of the sample: one while its second candle is running, one at the end. -/
def sampleRounds (client : CandleClient) : CandleRound × CandleRound :=
  let serve := fun history : CandleHistory =>
    history.wire 1 client.publicApi "BTCUSDT" ._1m
  ({ wire := serve .runningSample, history := .runningSample, pageSize := 1,
     requests := 0, endTime := 90000 },
    { wire := serve .sample, history := .sample, pageSize := 1, requests := 3,
      endTime := 200000 })

/-- The second candle is kept with the volume it has in the end. -/
theorem catchUp_sample :
    CandleClient.CatchUp .futures .plain "BTCUSDT" ._1m 0 1
      [(sampleRounds .futures).1, (sampleRounds .futures).2]
      (CandleHistory.sample.candles.take 2) := by
  have grown : CandleHistory.sample.Extends .runningSample := by
    refine .inr ⟨CandleHistory.sample.candles.take 1, _, _, rfl, ?_,
      (List.take_prefix 2 CandleHistory.sample.candles)⟩
    rfl
  refine (catchUp_iff_download .futures .plain "BTCUSDT" ._1m 0 1
    [(sampleRounds .futures).1] (sampleRounds .futures).2 _ (by decide) ?_ ?_).mpr ?_
  · simp [CandleRound.Follows, grown, sampleRounds]
  · intro round membership
    simp only [List.singleton_append, List.mem_cons, List.not_mem_nil, or_false]
      at membership
    rcases membership with rfl | rfl
    · exact ⟨by decide, by decide,
        CandleHistory.runningSample.wire_serves 1 _ _ _
          CandleHistory.runningSample_decodes⟩
    · exact ⟨by decide, by decide, CandleHistory.sample_serves .futures⟩
  · exact CandleClient.futures.getHistoricalPrices_of_serves .plain
      (CandleHistory.sample_serves .futures) 3 1 Nat.one_pos (by decide) (by decide)

end BinanceApi
