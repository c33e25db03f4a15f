import BinanceApi.Rest.Statistics

/-!
# Requests of the statistics downloads

The download goes on below the oldest record of a page.  Below the time zero that is
`-1`, which is not sent, so the exchange answers with its newest records again.
-/

namespace BinanceApi.Futures

open Loop (Turn)
open BinanceApi.RESTClient (sent sent_of_ne)

/-- Records in the order of their timestamps, none of which is negative.  A record
without a timestamp is read as one of the time zero. -/
structure StatisticsRecords {α : Type} (timestamp : α → Int) where
  records : List α
  ordered : Paging.Ordered timestamp records
  nonneg : ∀ record ∈ records, 0 ≤ timestamp record

namespace StatisticsRecords

variable {α : Type} {timestamp : α → Int}

/-- The records up to a time, or all of them if no end is sent. -/
def upTo (statistics : StatisticsRecords timestamp) (endTime : Option Int) : List α :=
  statistics.records.filter fun record => endTime.all (timestamp record ≤ ·)

theorem mem_upTo_iff (statistics : StatisticsRecords timestamp) {endTime : Option Int}
    {record : α} :
    record ∈ statistics.upTo endTime ↔
      record ∈ statistics.records ∧ ∀ stop ∈ endTime, timestamp record ≤ stop := by
  cases endTime <;> simp [upTo]

variable {statistic : Statistic}

/-- The endpoint of a statistic: the newest `size` records up to the request's end,
oldest first. -/
def Serves (statistics : StatisticsRecords statistic.timestamp) (size : Nat)
    (symbol : String) (period : StatisticsPeriod) (externals : Externals)
    (wire : Wire) : Prop :=
  ∀ n request (endTime : Option Int),
    request.verb = .get →
    request.api ++ request.target.path = statistic.path →
    request.param? "symbol" = some symbol →
    request.param? "period" = some period.wireName →
    request.param? "startTime" = none →
    request.param? "endTime" = endTime.map Int.repr →
    request.param? "limit" = some (Int.repr 500) →
    ∃ rows, wire n request = .ok ⟨httpOk, .ok (.array rows)⟩ ∧
      List.Forall₂ (fun record row => statistic.fromJson externals row = .ok record)
        ((statistics.upTo endTime).rtake size) rows

/-- An exchange that serves the records under a given encoding. -/
def wire (statistics : StatisticsRecords statistic.timestamp) (size : Nat)
    (symbol : String) (period : StatisticsPeriod)
    (encode : statistic.Record → Json) : Wire := fun _ request =>
  if request.verb = .get ∧ request.api ++ request.target.path = statistic.path ∧
      request.param? "symbol" = some symbol ∧
      request.param? "period" = some period.wireName ∧
      request.param? "startTime" = none then
    .ok ⟨httpOk, .ok (.array (((statistics.upTo
      ((request.param? "endTime").bind String.toInt?)).rtake size).map encode))⟩
  else
    .error (.standard "bad request")

theorem wire_serves (statistics : StatisticsRecords statistic.timestamp) (size : Nat)
    (symbol : String) (period : StatisticsPeriod) {externals : Externals}
    {encode : statistic.Record → Json}
    (decodes : ∀ record ∈ statistics.records,
      statistic.fromJson externals (encode record) = .ok record) :
    statistics.Serves size symbol period externals
      (statistics.wire size symbol period encode) := by
  intro n request endTime isGet path symbolSent periodSent startUnsent endSent _
  have readBack : (endTime.map Int.repr).bind String.toInt? = endTime := by
    cases endTime <;> simp
  refine ⟨((statistics.upTo endTime).rtake size).map encode, ?_, ?_⟩
  · simp only [wire, isGet, path, symbolSent, periodSent, startUnsent, endSent, readBack,
      and_self, if_true]
  · apply List.forall₂_map_right_iff.mpr
    apply List.forall₂_same.mpr
    intro record membership
    exact decodes record (statistics.mem_upTo_iff.mp (List.drop_subset _ _ membership)).1

end StatisticsRecords

namespace RESTClient

theorem decodeUntilThrow_of_decodes {α : Type} {fromJson : Json → Throws α}
    {page : List α} {rows : List Json}
    (decodes : List.Forall₂ (fun record row => fromJson row = .ok record) page rows) :
    decodeUntilThrow fromJson rows = page := by
  induction decodes with
  | nil => rfl
  | cons head _ ih => simp [decodeUntilThrow, head, ih]

/-- A page request on its way to the exchange. -/
def statisticsRequest (path symbol : String) (period : StatisticsPeriod)
    (endTime : Int) : Request where
  verb := .get
  api := ""
  target := statisticsTarget path symbol period (-1) endTime 500
  isPublic := true

theorem statisticsRequest_path (path symbol : String) (period : StatisticsPeriod)
    (endTime : Int) :
    (statisticsRequest path symbol period endTime).api ++
        (statisticsRequest path symbol period endTime).target.path = path := by
  simp [statisticsRequest, statisticsTarget]

theorem statisticsRequest_params (path symbol : String) (period : StatisticsPeriod)
    (endTime : Int) :
    let request := statisticsRequest path symbol period endTime
    request.param? "symbol" = some symbol ∧
      request.param? "period" = some period.wireName ∧
      request.param? "startTime" = none ∧
      request.param? "endTime" = (sent endTime).map Int.repr ∧
      request.param? "limit" = some (Int.repr 500) := by
  intro request
  simp only [request, Request.param?, statisticsRequest, statisticsTarget, sent,
    Target.appendIf_params]
  by_cases endTime = -1 <;> simp [List.lookup, *]

theorem P.statisticsPage_of_records {statistic : Statistic}
    {statistics : StatisticsRecords statistic.timestamp} {size : Nat} {symbol : String}
    {period : StatisticsPeriod} {externals : Externals} {wire : Wire}
    (serves : statistics.Serves size symbol period externals wire) (n : Nat)
    (endTime : Int) :
    P.statisticsPage statistic.path (statistic.fromJson externals) externals
        (.futures wire) n symbol period (-1) endTime 500 =
      (statistics.upTo (sent endTime)).rtake size := by
  rcases statisticsRequest_params statistic.path symbol period endTime with
    ⟨symbolSent, periodSent, startUnsent, endSent, limitSent⟩
  rcases serves n _ (sent endTime) rfl (statisticsRequest_path ..) symbolSent periodSent
    startUnsent endSent limitSent with ⟨rows, answer, encodes⟩
  have got : (HTTPSession.futures wire).getFutures n
      (statisticsTarget statistic.path symbol period (-1) endTime 500) =
        .ok ⟨httpOk, .ok (.array rows)⟩ := answer
  have parsed : receive externals (.ok ⟨httpOk, .ok (.array rows)⟩) =
      .ok (.array rows) := by
    simp [receive, bind, Except.bind]
  simp only [P.statisticsPage, got, parsed, Json.values]
  exact decodeUntilThrow_of_decodes encodes

section Requests

variable {α : Type} {timestamp : α → Int} {statistics : StatisticsRecords timestamp}
  {size : Nat} {startTime : Int} {page : Nat → Int → List α}

/-- The download makes a bounded number of requests. -/
def FiniteStatisticsRequests (timestamp : α → Int) (page : Nat → Int → List α)
    (requests : Nat) (startTime : Int) : Prop :=
  ∃ bound, ∀ state,
    Loop.Reaches (StatisticsDownload.body timestamp page)
      { retVal := [], startTime, statistics := page requests startTime,
        requests := requests + 1 } state →
    state.requests ≤ bound

theorem finiteStatisticsRequests_of_ends {requests : Nat} {result : List α}
    (ends : Loop.Ends (downloadStatistics timestamp page requests startTime) result) :
    FiniteStatisticsRequests timestamp page requests startTime :=
  ends.returns.bounded StatisticsDownload.requests

/-- The page at hand answers a request that a record of the time zero is within. -/
def Circling (statistics : StatisticsRecords timestamp) (size : Nat)
    (state : StatisticsDownload α) : Prop :=
  ∃ endTime, -1 ≤ endTime ∧
    state.statistics = (statistics.upTo (sent endTime)).rtake size

/-- The page at hand holds records of the exchange. -/
def Recorded (statistics : StatisticsRecords timestamp) (state : StatisticsDownload α) :
    Prop :=
  ∀ record ∈ state.statistics, record ∈ statistics.records

/-- How far the download still has to go down. -/
def descent (timestamp : α → Int) (state : StatisticsDownload α) : Nat :=
  match state.statistics.head? with
  | none => 0
  | some front => (timestamp front).toNat + 1

variable (pages : ∀ n endTime,
  page n endTime = (statistics.upTo (sent endTime)).rtake size)

include pages

/-- A record of the time zero is within every request, so the loop asks again. -/
theorem Circling.again (sizePos : 1 ≤ size) {zero : α} (recorded : zero ∈ statistics.records)
    (atZero : timestamp zero = 0) {state : StatisticsDownload α}
    (circling : Circling statistics size state) :
    ∃ next, StatisticsDownload.body timestamp page state = .again next ∧
      Circling statistics size next ∧ state.requests < next.requests := by
  rcases circling with ⟨endTime, endBound, pageEq⟩
  have inside : zero ∈ statistics.upTo (sent endTime) := by
    rw [statistics.mem_upTo_iff]
    refine ⟨recorded, ?_⟩
    intro stop stopSent
    simp only [sent, Option.mem_def] at stopSent
    split at stopSent
    · cases stopSent
    · cases stopSent
      omega
  have nonempty : (statistics.upTo (sent endTime)).rtake size ≠ [] := by
    have positive := List.length_pos_of_mem inside
    rw [List.rtake, ne_eq, List.drop_eq_nil_iff]
    omega
  cases head : state.statistics.head? with
  | none =>
      rw [pageEq, List.head?_eq_none_iff] at head
      exact absurd head nonempty
  | some front =>
      have frontMem := List.mem_of_mem_head? head
      rw [pageEq] at frontMem
      have frontNonneg := statistics.nonneg front
        (statistics.mem_upTo_iff.mp (List.mem_of_mem_drop frontMem)).1
      refine ⟨{
          retVal := state.statistics ++ state.retVal
          startTime := timestamp front - 1
          statistics := page state.requests (timestamp front - 1)
          requests := state.requests + 1 },
        ?_, ⟨timestamp front - 1, by omega, pages _ _⟩, Nat.lt_succ_self _⟩
      simp only [StatisticsDownload.body, head]

/-- The next page is of records of the exchange that are older than the one at hand. -/
theorem Recorded.again (positive : ∀ record ∈ statistics.records, timestamp record ≠ 0)
    {state next : StatisticsDownload α} (recorded : Recorded statistics state)
    (turn : StatisticsDownload.body timestamp page state = .again next) :
    Recorded statistics next ∧ descent timestamp next < descent timestamp state := by
  simp only [StatisticsDownload.body] at turn
  cases head : state.statistics.head? with
  | none => simp [head] at turn
  | some front =>
      simp only [head, Turn.again.injEq] at turn
      subst turn
      have frontMem := recorded front (List.mem_of_mem_head? head)
      have frontNonneg := statistics.nonneg front frontMem
      have frontNonzero := positive front frontMem
      -- the end is sent, since the time zero is not reached
      have endSent := sent_of_ne (by omega : timestamp front - 1 ≠ -1)
      have older : ∀ record ∈ page state.requests (timestamp front - 1),
          record ∈ statistics.records ∧ timestamp record ≤ timestamp front - 1 := by
        intro record membership
        rw [pages, endSent] at membership
        rcases statistics.mem_upTo_iff.mp (List.mem_of_mem_drop membership) with
          ⟨member, below⟩
        exact ⟨member, below _ rfl⟩
      refine ⟨fun record membership => (older record membership).1, ?_⟩
      simp only [descent, head]
      cases nextHead : (page state.requests (timestamp front - 1)).head? with
      | none => exact Nat.succ_pos _
      | some oldest =>
          have below := (older oldest (List.mem_of_mem_head? nextHead)).2
          simp only
          omega

/-- Without a record of the time zero the download ends. -/
theorem downloadStatistics_ends_of_positive
    (positive : ∀ record ∈ statistics.records, timestamp record ≠ 0) (requests : Nat) :
    ∃ result,
      Loop.Ends (downloadStatistics timestamp page requests startTime) result := by
  have start : Recorded statistics (StatisticsDownload.mk [] startTime
      (page requests startTime) (requests + 1)) := by
    intro record membership
    rw [pages] at membership
    exact (statistics.mem_upTo_iff.mp (List.mem_of_mem_drop membership)).1
  rcases Loop.returns_of_variant (Recorded statistics) (fun _ : List α => True)
      (descent timestamp) (fun _ _ recorded turn => recorded.again pages positive turn)
      (fun _ _ _ _ => trivial) start with ⟨result, returns, -⟩
  exact ⟨result, returns.ends⟩

/-- A download of empty pages ends, and so does one that asks for times before any
record's. -/
theorem downloadStatistics_ends_of_empty (empty : size = 0 ∨ startTime < -1)
    (requests : Nat) :
    Loop.Ends (downloadStatistics timestamp page requests startTime) [] := by
  have none : page requests startTime = [] := by
    rw [pages]
    rcases empty with rfl | below
    · simp
    · have old : statistics.upTo (sent startTime) = [] := by
        apply List.eq_nil_iff_forall_not_mem.mpr
        intro record membership
        rcases statistics.mem_upTo_iff.mp membership with ⟨member, inside⟩
        have nonneg := statistics.nonneg record member
        have late := inside startTime (sent_of_ne (by omega : startTime ≠ -1))
        omega
      simp [old]
  apply Loop.Returns.ends
  apply Loop.returns_of_leave
  simp [StatisticsDownload.body, none]

/-- A record of the time zero keeps the loop asking for pages. -/
theorem not_finiteStatisticsRequests (sizePos : 1 ≤ size) {zero : α}
    (recorded : zero ∈ statistics.records) (atZero : timestamp zero = 0)
    (start : -1 ≤ startTime) (requests : Nat) :
    ¬FiniteStatisticsRequests timestamp page requests startTime := by
  intro finite
  rcases finite with ⟨bound, below⟩
  have circling : Circling statistics size (StatisticsDownload.mk [] startTime
      (page requests startTime) (requests + 1)) :=
    ⟨startTime, start, pages requests startTime⟩
  rcases Loop.unbounded_of_progress (Circling statistics size)
      StatisticsDownload.requests
      (fun _ circling => circling.again pages sizePos recorded atZero) circling
      (bound + 1) with ⟨state, reaches, -, above⟩
  have small := below state reaches
  omega

/-- The downloads that end, and those that make finitely many requests. -/
theorem finiteStatisticsRequests_iff (requests : Nat) :
    (FiniteStatisticsRequests timestamp page requests startTime ↔
      size = 0 ∨ startTime < -1 ∨
        ∀ record ∈ statistics.records, timestamp record ≠ 0) ∧
    ((∃ result,
        Loop.Ends (downloadStatistics timestamp page requests startTime) result) ↔
      size = 0 ∨ startTime < -1 ∨
        ∀ record ∈ statistics.records, timestamp record ≠ 0) := by
  have needed : FiniteStatisticsRequests timestamp page requests startTime →
      size = 0 ∨ startTime < -1 ∨
        ∀ record ∈ statistics.records, timestamp record ≠ 0 := by
    intro finite
    by_contra neither
    simp only [not_or, not_lt, not_forall, not_not] at neither
    rcases neither with ⟨sizeNonzero, start, zero, recorded, atZero⟩
    exact not_finiteStatisticsRequests pages (Nat.pos_of_ne_zero sizeNonzero) recorded
      atZero start requests finite
  have enough : (size = 0 ∨ startTime < -1 ∨
      ∀ record ∈ statistics.records, timestamp record ≠ 0) →
      ∃ result,
        Loop.Ends (downloadStatistics timestamp page requests startTime) result := by
    rintro (none | below | positive)
    · exact ⟨[], downloadStatistics_ends_of_empty pages (.inl none) requests⟩
    · exact ⟨[], downloadStatistics_ends_of_empty pages (.inr below) requests⟩
    · exact downloadStatistics_ends_of_positive pages positive requests
  have bounded : (∃ result,
      Loop.Ends (downloadStatistics timestamp page requests startTime) result) →
      FiniteStatisticsRequests timestamp page requests startTime := by
    rintro ⟨result, ends⟩
    exact finiteStatisticsRequests_of_ends ends
  exact ⟨⟨needed, fun condition => bounded (enough condition)⟩,
    ⟨fun ends => needed (bounded ends), enough⟩⟩

end Requests

end RESTClient

variable {statistic : Statistic}

/-- A download of statistics ends, and makes finitely many requests, exactly when no
record is of the time zero, or the first page is empty anyway. -/
theorem statistics_finite_iff (externals : Externals)
    (statistics : StatisticsRecords statistic.timestamp) (size requests : Nat)
    (symbol : String) (period : StatisticsPeriod) (startTime : Int) (wire : Wire)
    (serves : statistics.Serves size symbol period externals wire) :
    (RESTClient.FiniteStatisticsRequests statistic.timestamp
        (fun n endTime => RESTClient.P.statisticsPage statistic.path
          (statistic.fromJson externals) externals (.futures wire) n symbol period (-1)
          endTime 500)
        requests startTime ↔
      size = 0 ∨ startTime < -1 ∨
        ∀ record ∈ statistics.records, statistic.timestamp record ≠ 0) ∧
    ((∃ result, Loop.Ends
        (statistic.download externals (.futures wire) requests symbol period startTime)
        result) ↔
      size = 0 ∨ startTime < -1 ∨
        ∀ record ∈ statistics.records, statistic.timestamp record ≠ 0) := by
  rw [funext (statistic.download_eq externals (.futures wire) requests symbol period
    startTime)]
  exact RESTClient.finiteStatisticsRequests_iff
    (fun n endTime => RESTClient.P.statisticsPage_of_records serves n endTime) requests

namespace StatisticsRecords

/-- Two volumes, the older of which has no timestamp. -/
def sample : StatisticsRecords Statistic.buySellVolume.timestamp where
  records := [StatisticsHistory.sampleVolume 0, StatisticsHistory.sampleVolume 3600000]
  ordered := by
    simp only [Paging.Ordered]
    decide
  nonneg := by decide

/-- The exchange's encoding of a volume, which leaves a timestamp of zero out. -/
def row (volume : BuySellVolume) : Json :=
  .object ([("buySellRatio", .string volume.buySellRatio.toString),
    ("buyVol", .string volume.buyVol.toString),
    ("sellVol", .string volume.sellVol.toString)] ++
    if volume.timestamp = 0 then [] else [("timestamp", .integer volume.timestamp)])

theorem sample_decodes : ∀ volume ∈ sample.records,
    Statistic.buySellVolume.fromJson .plain (row volume) = .ok volume := by
  decide +kernel

/-- Positive and increasing timestamps are ordered and not negative. -/
def ofHistory {α : Type} {timestamp : α → Int} (history : StatisticsHistory timestamp) :
    StatisticsRecords timestamp where
  records := history.records
  ordered := history.increasing.ordered
  nonneg := by
    intro record membership
    exact (Int.zero_lt_one.trans_le (history.positive record membership)).le

theorem sample_serves :
    sample.Serves 500 "BTCUSDT" ._1h .plain (sample.wire 500 "BTCUSDT" ._1h row) :=
  sample.wire_serves 500 "BTCUSDT" ._1h sample_decodes

end StatisticsRecords

/-- Three volumes of positive times, in pages of two. -/
theorem statistics_finite_sample :
    ∃ result, Loop.Ends
      (Statistic.buySellVolume.download .plain
        (.futures ((StatisticsRecords.ofHistory StatisticsHistory.sample).wire 2
          "BTCUSDT" ._1h StatisticsHistory.row)) 0 "BTCUSDT" ._1h (-1)) result :=
  (statistics_finite_iff .plain (.ofHistory StatisticsHistory.sample) 2 0 "BTCUSDT" ._1h
    (-1) _ (StatisticsRecords.wire_serves _ 2 "BTCUSDT" ._1h
      StatisticsHistory.sample_decodes)).2.mpr (.inr (.inr (by decide)))

/-- A record without a timestamp brings the newest page again and again. -/
theorem statistics_endless_sample :
    ¬RESTClient.FiniteStatisticsRequests BuySellVolume.timestamp
        (fun n endTime => RESTClient.P.getBuySellVolume .plain
          (.futures (StatisticsRecords.sample.wire 500 "BTCUSDT" ._1h
            StatisticsRecords.row)) n "BTCUSDT" ._1h (-1) endTime 500)
        0 10800000 :=
  RESTClient.not_finiteStatisticsRequests
    (fun n endTime => RESTClient.P.statisticsPage_of_records
      StatisticsRecords.sample_serves n endTime)
    (by decide) List.mem_cons_self (by decide) (by decide) 0

end BinanceApi.Futures
