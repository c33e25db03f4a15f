import Mathlib
import BinanceApi.Http
import BinanceApi.Library.Loop
import BinanceApi.Library.Paging

/-!
# Statistics downloads

Open-interest statistics, long/short ratios and buy/sell volumes are read from
the newest page to the oldest, each page in front of what has been read.  The
page function catches every exception and returns what it has decoded so far, so
the caller cannot tell a page that was cut short from a whole one.
-/

namespace BinanceApi.Futures

open Loop (Turn)

namespace RESTClient

/-- Target of a statistics request.  A time or a limit of `-1` is not sent. -/
def statisticsTarget (path symbol : String) (period : StatisticsPeriod)
    (startTime endTime limit : Int) : Target :=
  Target.mk path [("symbol", symbol), ("period", period.wireName)]
    |>.appendIf (startTime ≠ -1) "startTime" startTime.repr
    |>.appendIf (endTime ≠ -1) "endTime" endTime.repr
    |>.appendIf (limit ≠ -1) "limit" limit.repr

/-- Decode elements in order and keep what was decoded before the first
exception. -/
def decodeUntilThrow {α : Type} (fromJson : Json → Throws α) : List Json → List α
  | [] => []
  | element :: rest =>
      match fromJson element with
      | .ok value => value :: decodeUntilThrow fromJson rest
      | .error _ => []

/-- The parsed body of an answer, or the exception that an exchange of messages
ends with. -/
def receive (externals : Externals) (answer : Throws Response) : Throws Json := do
  let response ← checkResponse externals (← answer)
  response.json

/-- One page of statistics.  The exception is logged and swallowed. -/
def P.statisticsPage {α : Type} (path : String) (fromJson : Json → Throws α)
    (externals : Externals) (session : HTTPSession) (n : Nat) (symbol : String)
    (period : StatisticsPeriod) (startTime endTime limit : Int) : List α :=
  let target := statisticsTarget path symbol period startTime endTime limit
  match receive externals (session.getFutures n target) with
  | .ok json => decodeUntilThrow fromJson json.values
  | .error _ => []

/-- Variables of a download loop, and the number of requests made so far. -/
structure StatisticsDownload (α : Type) where
  retVal : List α
  startTime : Int
  statistics : List α
  requests : Nat

/-- One turn of the `while (!statistics.empty())` loop. -/
def StatisticsDownload.body {α : Type} (timestamp : α → Int)
    (page : Nat → Int → List α) (state : StatisticsDownload α) :
    Turn (StatisticsDownload α) (List α) :=
  match state.statistics.head? with
  | none => .leave state.retVal
  | some front =>
      .again {
        retVal := state.statistics ++ state.retVal
        startTime := timestamp front - 1
        statistics := page state.requests (timestamp front - 1)
        requests := state.requests + 1 }

/-- A download over an arbitrary page function, within `fuel` turns. -/
def downloadStatistics {α : Type} (timestamp : α → Int) (page : Nat → Int → List α)
    (requests : Nat) (startTime : Int) (fuel : Nat) : Option (List α) :=
  Loop.run (StatisticsDownload.body timestamp page) fuel
    { retVal := [], startTime, statistics := page requests startTime,
      requests := requests + 1 }

/-! ### Open-interest statistics -/

def P.getOpenInterestStatistics (externals : Externals) (session : HTTPSession)
    (n : Nat) (symbol : String) (period : StatisticsPeriod)
    (startTime endTime limit : Int) : List OpenInterestStatistics :=
  statisticsPage "/futures/data/openInterestHist?"
    (OpenInterestStatistics.fromJson externals) externals session n symbol period
    startTime endTime limit

def getOpenInterestStatistics (externals : Externals) (session : HTTPSession)
    (requests : Nat) (symbol : String) (period : StatisticsPeriod) (startTime : Int)
    (fuel : Nat) : Option (List OpenInterestStatistics) :=
  downloadStatistics OpenInterestStatistics.timestamp
    (fun n endTime => P.getOpenInterestStatistics externals session n symbol period
      (-1) endTime 500)
    requests startTime fuel

/-! ### Long/short ratio -/

def P.getLongShortRatio (externals : Externals) (session : HTTPSession)
    (n : Nat) (symbol : String) (period : StatisticsPeriod)
    (startTime endTime limit : Int) : List LongShortRatio :=
  statisticsPage "/futures/data/globalLongShortAccountRatio?"
    (LongShortRatio.fromJson externals) externals session n symbol period
    startTime endTime limit

def getLongShortRatio (externals : Externals) (session : HTTPSession)
    (requests : Nat) (symbol : String) (period : StatisticsPeriod) (startTime : Int)
    (fuel : Nat) : Option (List LongShortRatio) :=
  downloadStatistics LongShortRatio.timestamp
    (fun n endTime => P.getLongShortRatio externals session n symbol period
      (-1) endTime 500)
    requests startTime fuel

/-! ### Buy/sell volume -/

def P.getBuySellVolume (externals : Externals) (session : HTTPSession)
    (n : Nat) (symbol : String) (period : StatisticsPeriod)
    (startTime endTime limit : Int) : List BuySellVolume :=
  statisticsPage "/futures/data/takerlongshortRatio?"
    (BuySellVolume.fromJson externals) externals session n symbol period
    startTime endTime limit

def getBuySellVolume (externals : Externals) (session : HTTPSession)
    (requests : Nat) (symbol : String) (period : StatisticsPeriod) (startTime : Int)
    (fuel : Nat) : Option (List BuySellVolume) :=
  downloadStatistics BuySellVolume.timestamp
    (fun n endTime => P.getBuySellVolume externals session n symbol period
      (-1) endTime 500)
    requests startTime fuel

end RESTClient

/-! ## The exchange's side -/

/-- The statistics that are downloaded from the newest page to the oldest. -/
inductive Statistic where
  | openInterestStatistics | longShortRatio | buySellVolume
  deriving DecidableEq, Repr

namespace Statistic

abbrev Record : Statistic → Type
  | openInterestStatistics => OpenInterestStatistics
  | longShortRatio => LongShortRatio
  | buySellVolume => BuySellVolume

/-- The endpoint of a statistic. -/
def path : Statistic → String
  | openInterestStatistics => "/futures/data/openInterestHist?"
  | longShortRatio => "/futures/data/globalLongShortAccountRatio?"
  | buySellVolume => "/futures/data/takerlongshortRatio?"

def timestamp : (statistic : Statistic) → statistic.Record → Int
  | openInterestStatistics => OpenInterestStatistics.timestamp
  | longShortRatio => LongShortRatio.timestamp
  | buySellVolume => BuySellVolume.timestamp

def fromJson : (statistic : Statistic) → Externals → Json → Throws statistic.Record
  | openInterestStatistics => OpenInterestStatistics.fromJson
  | longShortRatio => LongShortRatio.fromJson
  | buySellVolume => BuySellVolume.fromJson

/-- The client's download of a statistic. -/
def download : (statistic : Statistic) → Externals → HTTPSession → Nat → String →
    StatisticsPeriod → Int → Nat → Option (List statistic.Record)
  | openInterestStatistics => RESTClient.getOpenInterestStatistics
  | longShortRatio => RESTClient.getLongShortRatio
  | buySellVolume => RESTClient.getBuySellVolume

/-- The three downloads are one loop over one page function. -/
theorem download_eq (statistic : Statistic) (externals : Externals)
    (session : HTTPSession) (requests : Nat) (symbol : String)
    (period : StatisticsPeriod) (startTime : Int) (fuel : Nat) :
    statistic.download externals session requests symbol period startTime fuel =
      RESTClient.downloadStatistics statistic.timestamp
        (fun n endTime => RESTClient.P.statisticsPage statistic.path
          (statistic.fromJson externals) externals session n symbol period
          (-1) endTime 500)
        requests startTime fuel := by
  cases statistic <;> rfl

end Statistic

/-- Records with positive and increasing timestamps. -/
structure StatisticsHistory {α : Type} (timestamp : α → Int) where
  records : List α
  increasing : Paging.Increasing timestamp records
  positive : ∀ record ∈ records, 1 ≤ timestamp record

namespace StatisticsHistory

variable {α : Type} {timestamp : α → Int}

/-- The records up to a time, that time included. -/
def upTo (history : StatisticsHistory timestamp) (endTime : Int) : List α :=
  history.records.filter fun record => timestamp record ≤ endTime

theorem mem_upTo_iff (history : StatisticsHistory timestamp) {endTime : Int}
    {record : α} :
    record ∈ history.upTo endTime ↔
      record ∈ history.records ∧ timestamp record ≤ endTime := by
  simp [upTo]

/-- No record is that old. -/
theorem upTo_neg (history : StatisticsHistory timestamp) {endTime : Int}
    (negative : endTime < 1) : history.upTo endTime = [] := by
  apply List.filter_eq_nil_iff.mpr
  intro record membership
  have positive := history.positive record membership
  simp only [decide_eq_true_eq]
  omega

/-- Going on before the first record of a page leaves what precedes the page. -/
theorem upTo_before (history : StatisticsHistory timestamp) {endTime : Int}
    {front back : List α} {first : α}
    (split : history.upTo endTime = front ++ first :: back) :
    history.upTo (timestamp first - 1) = front := by
  have increasing : Paging.Increasing timestamp (history.upTo endTime) :=
    history.increasing.sublist List.filter_sublist
  have firstMem : first ∈ history.upTo endTime := by simp [split]
  have firstBound := (history.mem_upTo_iff.mp firstMem).2
  have narrowed : history.upTo (timestamp first - 1) =
      (history.upTo endTime).filter
        fun record => timestamp record < timestamp first := by
    simp only [upTo, List.filter_filter]
    apply List.filter_congr
    intro record _
    grind
  rw [split] at increasing
  rw [narrowed, split]
  exact increasing.filter_key_lt

/-- A list of records without a hole below a time: with a record of the history
it has every later one. -/
def Contiguous (history : StatisticsHistory timestamp) (startTime : Int)
    (result : List α) : Prop :=
  ∀ record ∈ result, record ∈ history.records →
    ∀ later ∈ history.records, timestamp record ≤ timestamp later →
      timestamp later ≤ startTime → later ∈ result

end StatisticsHistory

/-- Which requests fail, and which records of the answer to a request fail to
decode. -/
structure Faults (α : Type) where
  request : Nat → Bool
  record : Nat → α → Bool

namespace Faults

variable {α : Type}

/-- Nothing fails. -/
def none : Faults α where
  request := fun _ => false
  record := fun _ _ => false

/-- What the client gets from the answer to request `n`. -/
def decoded (faults : Faults α) (n : Nat) (page : List α) : List α :=
  if faults.request n then [] else page.takeWhile fun record => !faults.record n record

/-- Neither request `n` nor a record of its page fails. -/
def Spares (faults : Faults α) (n : Nat) (page : List α) : Prop :=
  faults.request n = false ∧ ∀ record ∈ page, faults.record n record = false

/-- Request `n` succeeds and the oldest record of its page is decoded, but a
later one is not. -/
def CutsShort (faults : Faults α) (n : Nat) (page : List α) : Prop :=
  faults.request n = false ∧
    (∃ oldest, page.head? = some oldest ∧ faults.record n oldest = false) ∧
    ∃ record ∈ page, faults.record n record = true

/-- The first page that a failure touches is not cut short: it fails as a whole,
or at its oldest record.  Pages are counted from the newest, and the page with
number `k` answers request `first + k`. -/
def Benign (faults : Faults α) (first size : Nat) (records : List α) : Prop :=
  ∀ k, (∀ j < k, faults.Spares (first + j) (Paging.pageBefore records size j)) →
    ¬faults.CutsShort (first + k) (Paging.pageBefore records size k)

end Faults

namespace StatisticsHistory

variable {statistic : Statistic}

/-- The endpoint of a statistic: a request without a start answers with the
newest `size` records up to its end, oldest first, unless it fails. -/
def Serves (history : StatisticsHistory statistic.timestamp)
    (size : Nat) (faults : Faults statistic.Record) (symbol : String)
    (period : StatisticsPeriod) (externals : Externals) (wire : Wire) : Prop :=
  ∀ n request endTime,
    request.verb = .get →
    request.api ++ request.target.path = statistic.path →
    request.param? "symbol" = some symbol →
    request.param? "period" = some period.wireName →
    request.param? "startTime" = none →
    request.param? "endTime" = some (Int.repr endTime) →
    request.param? "limit" = some (Int.repr 500) →
    if faults.request n then
      ∃ exception, RESTClient.receive externals (wire n request) = .error exception
    else
      ∃ rows, wire n request = .ok ⟨httpOk, .ok (.array rows)⟩ ∧
        List.Forall₂
          (fun record row =>
            if faults.record n record then
              ∃ exception, statistic.fromJson externals row = .error exception
            else statistic.fromJson externals row = .ok record)
          ((history.upTo endTime).rtake size) rows

/-- An exchange that serves a history under a given encoding of its records, with
`broken` in place of a record that is to fail. -/
def wire (history : StatisticsHistory statistic.timestamp) (size : Nat)
    (faults : Faults statistic.Record) (symbol : String) (period : StatisticsPeriod)
    (encode : statistic.Record → Json) (broken : Json) : Wire := fun n request =>
  if request.verb = .get ∧ request.api ++ request.target.path = statistic.path ∧
      request.param? "symbol" = some symbol ∧
      request.param? "period" = some period.wireName ∧
      request.param? "startTime" = none ∧ faults.request n = false then
    match (request.param? "endTime").bind String.toInt? with
    | some endTime =>
        .ok ⟨httpOk, .ok (.array (((history.upTo endTime).rtake size).map
          fun record => if faults.record n record then broken else encode record))⟩
    | none => .error (.standard "bad request")
  else
    .error (.standard "bad request")

theorem wire_serves (history : StatisticsHistory statistic.timestamp) (size : Nat)
    (faults : Faults statistic.Record) (symbol : String) (period : StatisticsPeriod)
    {externals : Externals} {encode : statistic.Record → Json} {broken : Json}
    (decodes : ∀ record ∈ history.records,
      statistic.fromJson externals (encode record) = .ok record)
    (throws : ∃ exception, statistic.fromJson externals broken = .error exception) :
    history.Serves size faults symbol period externals
      (history.wire size faults symbol period encode broken) := by
  intro n request endTime isGet path symbolSent periodSent startUnsent endSent _
  split
  next fails =>
    exact ⟨.standard "bad request", by
      simp [wire, fails, RESTClient.receive, bind, Except.bind]⟩
  next succeeds =>
    have succeeds : faults.request n = false := by simpa using succeeds
    refine ⟨((history.upTo endTime).rtake size).map
        fun record => if faults.record n record then broken else encode record, ?_, ?_⟩
    · simp [wire, isGet, path, symbolSent, periodSent, startUnsent, endSent, succeeds]
    · apply List.forall₂_map_right_iff.mpr
      apply List.forall₂_same.mpr
      intro record membership
      split
      · exact throws
      · exact decodes record
          (history.mem_upTo_iff.mp (List.drop_subset _ _ membership)).1

/-- The buy/sell volume of one time. -/
def sampleVolume (timestamp : Int) : BuySellVolume :=
  { buySellRatio := 3 / 2, buyVol := 3, sellVol := 2, timestamp }

/-- Three volumes, an hour apart. -/
def sample : StatisticsHistory Statistic.buySellVolume.timestamp where
  records := [sampleVolume 3600000, sampleVolume 7200000, sampleVolume 10800000]
  increasing := by
    simp only [Paging.Increasing]
    decide
  positive := by decide

/-- The exchange's encoding of a volume. -/
def row (volume : BuySellVolume) : Json :=
  .object [("buySellRatio", .string volume.buySellRatio.toString),
    ("buyVol", .string volume.buyVol.toString),
    ("sellVol", .string volume.sellVol.toString),
    ("timestamp", .integer volume.timestamp)]

/-- A row without a valid timestamp. -/
def brokenRow : Json :=
  .object [("timestamp", .null)]

/-- The newest volume cannot be decoded in the answer to the first request. -/
def sampleFaults : Faults BuySellVolume where
  request := fun _ => false
  record := fun n volume => n = 0 ∧ volume.timestamp = 10800000

theorem sample_decodes : ∀ volume ∈ sample.records,
    Statistic.buySellVolume.fromJson .plain (row volume) = .ok volume := by
  decide +kernel

theorem brokenRow_throws : ∃ exception,
    Statistic.buySellVolume.fromJson .plain brokenRow = .error exception :=
  ⟨.json "type_error.302", by decide +kernel⟩

end StatisticsHistory

/-! ## One page -/

namespace Faults

variable {α : Type} {faults : Faults α} {n : Nat} {page : List α}

theorem Spares.decoded (spares : faults.Spares n page) :
    faults.decoded n page = page := by
  rw [Faults.decoded, spares.1, if_neg Bool.false_ne_true]
  apply List.takeWhile_eq_self_iff.mpr
  intro record membership
  simp [spares.2 record membership]

theorem mem_decoded {record : α} (membership : record ∈ faults.decoded n page) :
    record ∈ page ∧ faults.record n record = false := by
  simp only [Faults.decoded] at membership
  split at membership
  · cases membership
  · exact ⟨(List.takeWhile_prefix _).subset membership,
      by simpa using List.mem_takeWhile_imp membership⟩

/-- A page of which something is decoded is whole or cut short, and starts with
the oldest record. -/
theorem decoded_cons {front : α} {rest : List α}
    (decoded : faults.decoded n page = front :: rest) :
    page.head? = some front ∧ (faults.Spares n page ∨ faults.CutsShort n page) := by
  have frontDecoded : front ∈ faults.decoded n page := by simp [decoded]
  have frontSpared := (mem_decoded frontDecoded).2
  simp only [Faults.decoded] at decoded
  split at decoded
  · cases decoded
  next succeeds =>
    have succeeds : faults.request n = false := by simpa using succeeds
    have head : page.head? = some front := by
      cases page with
      | nil => cases decoded
      | cons first others =>
          simp only [List.takeWhile_cons] at decoded
          split at decoded
          · simpa using (List.cons.inj decoded).1
          · cases decoded
    refine ⟨head, ?_⟩
    by_cases whole : ∀ record ∈ page, faults.record n record = false
    · exact .inl ⟨succeeds, whole⟩
    · push Not at whole
      rcases whole with ⟨lost, membership, fails⟩
      exact .inr ⟨succeeds, ⟨front, head, frontSpared⟩, lost, membership,
        by simpa using fails⟩

/-- A page that is cut short is not empty to the client. -/
theorem CutsShort.decoded_ne_nil (cut : faults.CutsShort n page) :
    faults.decoded n page ≠ [] := by
  rcases cut with ⟨succeeds, ⟨oldest, head, spared⟩, _⟩
  rcases List.head?_eq_some_iff.mp head with ⟨rest, rfl⟩
  simp [Faults.decoded, succeeds, spared]

theorem Spares.not_cutsShort (spares : faults.Spares n page) :
    ¬faults.CutsShort n page := by
  intro cut
  rcases cut with ⟨_, _, record, membership, fails⟩
  simp [spares.2 record membership] at fails

@[simp] theorem none_spares (n : Nat) (page : List α) :
    (none : Faults α).Spares n page :=
  ⟨rfl, fun _ _ => rfl⟩

end Faults

namespace RESTClient

theorem decodeUntilThrow_rows {α : Type} {fromJson : Json → Throws α}
    {fails : α → Bool} {page : List α} {rows : List Json}
    (encodes : List.Forall₂
      (fun record row =>
        if fails record then ∃ exception, fromJson row = .error exception
        else fromJson row = .ok record)
      page rows) :
    decodeUntilThrow fromJson rows = page.takeWhile fun record => !fails record := by
  induction encodes with
  | nil => rfl
  | @cons record row page rows head _ ih =>
      cases outcome : fails record with
      | true =>
          simp only [outcome, if_true] at head
          rcases head with ⟨exception, thrown⟩
          simp [decodeUntilThrow, thrown, outcome]
      | false =>
          simp only [outcome, Bool.false_eq_true, if_false] at head
          simp [decodeUntilThrow, head, outcome, ih]

/-- Against the endpoint of a history, a page holds the records that are decoded
before the first failure. -/
theorem P.statisticsPage_of_serves {statistic : Statistic}
    {history : StatisticsHistory statistic.timestamp} {size : Nat}
    {faults : Faults statistic.Record} {symbol : String} {period : StatisticsPeriod}
    {externals : Externals} {wire : Wire}
    (serves : history.Serves size faults symbol period externals wire) (n : Nat)
    {endTime : Int} (endSet : endTime ≠ -1) :
    P.statisticsPage statistic.path (statistic.fromJson externals) externals
        (.futures wire) n symbol period (-1) endTime 500 =
      faults.decoded n ((history.upTo endTime).rtake size) := by
  have answered := serves n
    { verb := .get, api := "",
      target := statisticsTarget statistic.path symbol period (-1) endTime 500,
      isPublic := true }
    endTime rfl (by simp [statisticsTarget])
    (by simp [Request.param?, statisticsTarget])
    (by simp [Request.param?, statisticsTarget, List.lookup])
    (by simp [Request.param?, statisticsTarget, List.lookup, endSet])
    (by simp [Request.param?, statisticsTarget, List.lookup, endSet])
    (by simp [Request.param?, statisticsTarget, List.lookup, endSet])
  simp only [Faults.decoded]
  split at answered
  next fails =>
    rcases answered with ⟨exception, thrown⟩
    simp [P.statisticsPage, HTTPSession.getFutures, HTTPSession.futures, fails, thrown]
  next succeeds =>
    rcases answered with ⟨rows, answer, encodes⟩
    have parsed : receive externals (.ok ⟨httpOk, .ok (.array rows)⟩) =
        .ok (.array rows) := by
      simp [receive, bind, Except.bind]
    simp only [P.statisticsPage, HTTPSession.getFutures, HTTPSession.futures, answer,
      parsed, Json.values, succeeds, Bool.false_eq_true, if_false]
    exact decodeUntilThrow_rows encodes

/-! ## The whole download -/

section Download

open Paging (older newest pageBefore)

variable {α : Type} {timestamp : α → Int} {history : StatisticsHistory timestamp}
  {size first : Nat} {faults : Faults α} {startTime : Int}
  {page : Nat → Int → List α}

/-- Every page before the `k`-th has been read whole, and the `k`-th is the
current one. -/
structure ReadWhole (history : StatisticsHistory timestamp) (size first : Nat)
    (faults : Faults α) (startTime : Int) (k : Nat) (state : StatisticsDownload α) :
    Prop where
  spared : ∀ j < k,
    faults.Spares (first + j) (pageBefore (history.upTo startTime) size j)
  retVal : state.retVal = newest (history.upTo startTime) size k
  remaining : history.upTo state.startTime = older (history.upTo startTime) size k
  statistics : state.statistics =
    faults.decoded (first + k) (pageBefore (history.upTo startTime) size k)
  requests : state.requests = first + k + 1

/-- A record has been skipped: an older one has been read, and all that is still
to come is older than that one. -/
def Skipped (history : StatisticsHistory timestamp) (startTime : Int)
    (state : StatisticsDownload α) : Prop :=
  ∃ kept lost, kept ∈ history.records ∧ lost ∈ history.records ∧
    timestamp kept ≤ timestamp lost ∧ timestamp lost ≤ startTime ∧
    kept ∈ state.retVal ∧ lost ∉ state.retVal ∧
    ∀ record ∈ state.statistics,
      record ∈ history.records ∧ timestamp record < timestamp kept

/-- Invariant of the loop: nothing has been skipped, or a page was cut short and
a record is lost for good. -/
def Progress (history : StatisticsHistory timestamp) (size first : Nat)
    (faults : Faults α) (startTime : Int) (state : StatisticsDownload α) : Prop :=
  (∃ k, ReadWhole history size first faults startTime k state) ∨
    ¬faults.Benign first size (history.upTo startTime) ∧
      Skipped history startTime state

/-- The current page holds nothing newer than what was asked for. -/
def StatisticsDownload.Asked (history : StatisticsHistory timestamp)
    (state : StatisticsDownload α) : Prop :=
  ∀ record ∈ state.statistics, record ∈ history.upTo state.startTime

/-- What is read whole has no hole. -/
theorem contiguous_newest (history : StatisticsHistory timestamp) (startTime : Int)
    (size k : Nat) :
    history.Contiguous startTime (newest (history.upTo startTime) size k) := by
  intro record membership _ later recorded order bound
  have all := Paging.older_append_newest (history.upTo startTime) size k
  have laterMem : later ∈ history.upTo startTime :=
    history.mem_upTo_iff.mpr ⟨recorded, bound⟩
  have increasing : Paging.Increasing timestamp (history.upTo startTime) :=
    history.increasing.sublist List.filter_sublist
  rw [← all] at laterMem increasing
  rcases List.mem_append.mp laterMem with old | new
  · have before := (List.pairwise_append.mp increasing).2.2 later old record membership
    omega
  · exact new

/-- An empty page ends a download whose pages were all read whole: no page was
cut short. -/
theorem ReadWhole.benign (sizePos : 1 ≤ size) {k : Nat} {state : StatisticsDownload α}
    (whole : ReadWhole history size first faults startTime k state)
    (finished : state.statistics = []) :
    faults.Benign first size (history.upTo startTime) := by
  intro i spared cut
  have empty := whole.statistics.symm.trans finished
  rcases Nat.lt_trichotomy i k with earlier | rfl | later
  · exact (whole.spared i earlier).not_cutsShort cut
  · exact cut.decoded_ne_nil empty
  · -- the history is exhausted, so there is no later page
    rw [(spared k later).decoded] at empty
    have exhausted := Paging.older_eq_nil_of_le later.le
      (Paging.older_eq_nil_of_pageBefore sizePos empty)
    rcases cut with ⟨_, _, record, membership, _⟩
    simp [pageBefore, exhausted] at membership

/-- What was read whole up to an empty page has no hole, and is everything if nothing
fails. -/
theorem ReadWhole.outcome (sizePos : 1 ≤ size) {k : Nat} {state : StatisticsDownload α}
    (whole : ReadWhole history size first faults startTime k state)
    (finished : state.statistics = []) :
    (history.Contiguous startTime state.retVal ↔
        faults.Benign first size (history.upTo startTime)) ∧
      ((∀ n records, faults.Spares n records) →
        state.retVal = history.upTo startTime) := by
  have contiguous := contiguous_newest history startTime size k
  rw [← whole.retVal] at contiguous
  refine ⟨⟨fun _ => whole.benign sizePos finished, fun _ => contiguous⟩, ?_⟩
  intro spares
  have empty := whole.statistics.symm.trans finished
  rw [(spares _ _).decoded] at empty
  have all := Paging.older_append_newest (history.upTo startTime) size k
  rw [Paging.older_eq_nil_of_pageBefore sizePos empty] at all
  rw [whole.retVal]
  exact all

/-- A lost record is a hole between one that was read and the end of the range. -/
theorem Skipped.not_contiguous {state : StatisticsDownload α}
    (skipped : Skipped history startTime state) :
    ¬history.Contiguous startTime state.retVal := by
  intro contiguous
  rcases skipped with ⟨kept, lost, keptRecorded, lostRecorded, order, bound, keptRead,
    lostUnread, _⟩
  exact lostUnread
    (contiguous kept keptRead keptRecorded lost lostRecorded order bound)

/-- Whichever way a download went, what it has at an empty page. -/
theorem Progress.outcome (sizePos : 1 ≤ size) {state : StatisticsDownload α}
    (progress : Progress history size first faults startTime state)
    (finished : state.statistics = []) :
    (history.Contiguous startTime state.retVal ↔
        faults.Benign first size (history.upTo startTime)) ∧
      ((∀ n records, faults.Spares n records) →
        state.retVal = history.upTo startTime) := by
  rcases progress with whole | lost
  · rcases whole with ⟨k, whole⟩
    exact whole.outcome sizePos finished
  · rcases lost with ⟨notBenign, skipped⟩
    refine ⟨iff_of_false skipped.not_contiguous notBenign, ?_⟩
    intro spares
    exact absurd (fun k _ => (spares _ _).not_cutsShort) notBenign

variable (pages : ∀ n endTime, endTime ≠ -1 →
  page n endTime = faults.decoded n ((history.upTo endTime).rtake size))

include pages

/-- Nothing has been read before the first page. -/
theorem readWhole_start (startSet : startTime ≠ -1) (requests : Nat) :
    ReadWhole history size requests faults startTime 0
      { retVal := [], startTime, statistics := page requests startTime,
        requests := requests + 1 } := by
  constructor
  case spared =>
    intro j inside
    exact absurd inside (Nat.not_lt_zero j)
  case retVal => simp
  case remaining => simp
  case statistics =>
    simp only [pages requests startTime startSet, pageBefore, Paging.older_zero,
      Nat.add_zero]
  case requests => rfl

/-- A page read whole moves the download one page on. -/
theorem ReadWhole.next
    {k : Nat} {state : StatisticsDownload α} {front : α}
    (whole : ReadWhole history size first faults startTime k state)
    (spares : faults.Spares (first + k) (pageBefore (history.upTo startTime) size k))
    (head : (pageBefore (history.upTo startTime) size k).head? = some front) :
    ReadWhole history size first faults startTime (k + 1) {
      retVal := state.statistics ++ state.retVal
      startTime := timestamp front - 1
      statistics := page state.requests (timestamp front - 1)
      requests := state.requests + 1 } := by
  rcases List.head?_eq_some_iff.mp head with ⟨rest, pageEq⟩
  have split : history.upTo state.startTime =
      older (history.upTo startTime) size (k + 1) ++ front :: rest := by
    rw [whole.remaining, ← Paging.older_succ_append_pageBefore, pageEq]
  have remaining := history.upTo_before split
  have frontMem : front ∈ history.upTo state.startTime := by simp [split]
  have frontPositive :=
    history.positive front (history.mem_upTo_iff.mp frontMem).1
  constructor
  case spared =>
    intro j inside
    rcases Nat.lt_succ_iff_lt_or_eq.mp inside with earlier | rfl
    · exact whole.spared j earlier
    · exact spares
  case retVal =>
    rw [Paging.newest_succ, whole.statistics, whole.retVal, spares.decoded]
  case remaining =>
    exact remaining
  case statistics =>
    rw [whole.requests, pages _ _ (by omega), remaining]
    rfl
  case requests =>
    simp [whole.requests, Nat.add_assoc]

/-- What a page holds is old enough to have been asked for. -/
theorem mem_of_mem_page
    {n : Nat} {endTime : Int} (endSet : endTime ≠ -1) {record : α}
    (membership : record ∈ page n endTime) :
    record ∈ history.records ∧ timestamp record ≤ endTime := by
  rw [pages n endTime endSet] at membership
  apply history.mem_upTo_iff.mp
  exact List.drop_subset _ _ (Faults.mem_decoded membership).1

/-- A page cut short loses a record that is newer than its oldest one. -/
theorem ReadWhole.skipped
    {k : Nat} {state : StatisticsDownload α} {front : α}
    (whole : ReadWhole history size first faults startTime k state)
    (cut : faults.CutsShort (first + k) (pageBefore (history.upTo startTime) size k))
    (head : (pageBefore (history.upTo startTime) size k).head? = some front)
    (frontRead : front ∈ state.statistics) :
    Skipped history startTime {
      retVal := state.statistics ++ state.retVal
      startTime := timestamp front - 1
      statistics := page state.requests (timestamp front - 1)
      requests := state.requests + 1 } := by
  rcases cut with ⟨_, _, lost, lostMem, fails⟩
  rcases List.head?_eq_some_iff.mp head with ⟨rest, pageEq⟩
  have inside : ∀ record ∈ pageBefore (history.upTo startTime) size k,
      record ∈ history.records ∧ timestamp record ≤ startTime := by
    intro record membership
    exact history.mem_upTo_iff.mp (Paging.pageBefore_subset _ _ _ membership)
  have increasing : Paging.Increasing timestamp
      (pageBefore (history.upTo startTime) size k ++
        newest (history.upTo startTime) size k) := by
    rw [← Paging.newest_succ]
    exact history.increasing.sublist ((List.drop_sublist _ _).trans List.filter_sublist)
  rcases List.pairwise_append.mp increasing with ⟨pageIncreasing, _, apart⟩
  have oldest : timestamp front ≤ timestamp lost := by
    rw [pageEq] at pageIncreasing lostMem
    rcases List.mem_cons.mp lostMem with rfl | tail
    · exact le_refl _
    · exact ((List.pairwise_cons.mp pageIncreasing).1 lost tail).le
  have frontMem : front ∈ pageBefore (history.upTo startTime) size k := by
    simp [pageEq]
  have frontPositive := history.positive front (inside front frontMem).1
  refine ⟨front, lost, (inside front frontMem).1, (inside lost lostMem).1, oldest,
    (inside lost lostMem).2, List.mem_append_left _ frontRead, ?_, ?_⟩
  · intro membership
    rcases List.mem_append.mp membership with current | earlier
    · rw [whole.statistics] at current
      simp [(Faults.mem_decoded current).2] at fails
    · rw [whole.retVal] at earlier
      exact lt_irrefl _ (apart lost lostMem lost earlier)
  · intro record membership
    rcases mem_of_mem_page pages (by omega) membership with ⟨recorded, bound⟩
    exact ⟨recorded, by omega⟩

/-- A lost record stays lost. -/
theorem Skipped.next
    {state : StatisticsDownload α} {front : α} (skipped : Skipped history startTime state)
    (head : state.statistics.head? = some front) :
    Skipped history startTime {
      retVal := state.statistics ++ state.retVal
      startTime := timestamp front - 1
      statistics := page state.requests (timestamp front - 1)
      requests := state.requests + 1 } := by
  rcases skipped with ⟨kept, lost, keptRecorded, lostRecorded, order, bound, keptRead,
    lostUnread, coming⟩
  have frontComing := coming front (List.mem_of_mem_head? head)
  have frontPositive := history.positive front frontComing.1
  refine ⟨kept, lost, keptRecorded, lostRecorded, order, bound,
    List.mem_append_right _ keptRead, ?_, ?_⟩
  · intro membership
    rcases List.mem_append.mp membership with current | earlier
    · have older := (coming lost current).2
      omega
    · exact lostUnread earlier
  · intro record membership
    rcases mem_of_mem_page pages (by omega) membership with ⟨recorded, inside⟩
    exact ⟨recorded, by omega⟩

/-- Every turn keeps the invariant. -/
theorem Progress.next
    {state next : StatisticsDownload α}
    (progress : Progress history size first faults startTime state)
    (turn : StatisticsDownload.body timestamp page state = .again next) :
    Progress history size first faults startTime next := by
  simp only [StatisticsDownload.body] at turn
  split at turn
  · cases turn
  next front head =>
    cases turn
    rcases progress with whole | lost
    · rcases whole with ⟨k, whole⟩
      rcases List.head?_eq_some_iff.mp head with ⟨rest, readEq⟩
      have decoded := whole.statistics.symm.trans readEq
      rcases Faults.decoded_cons decoded with ⟨pageHead, spares | cut⟩
      · exact .inl ⟨k + 1, whole.next pages spares pageHead⟩
      · refine .inr ⟨fun benign => benign k whole.spared cut, ?_⟩
        exact whole.skipped pages cut pageHead (by simp [readEq])
    · exact .inr ⟨lost.1, lost.2.next pages head⟩

/-- Every turn asks for less of the history. -/
theorem StatisticsDownload.Asked.next
    {state next : StatisticsDownload α} (asked : Asked history state)
    (turn : StatisticsDownload.body timestamp page state = .again next) :
    Asked history next ∧
      (history.upTo next.startTime).length < (history.upTo state.startTime).length := by
  simp only [StatisticsDownload.body] at turn
  split at turn
  · cases turn
  next front head =>
    cases turn
    have frontAsked := asked front (List.mem_of_mem_head? head)
    have frontPositive :=
      history.positive front (history.mem_upTo_iff.mp frontAsked).1
    have endSet : timestamp front - 1 ≠ -1 := by omega
    constructor
    · intro record membership
      exact history.mem_upTo_iff.mpr (mem_of_mem_page pages endSet membership)
    · rcases List.append_of_mem frontAsked with ⟨older, newer, split⟩
      rw [history.upTo_before split, split]
      simp

/-- The download ends, whatever fails: every page is older than the one before. -/
theorem downloadStatistics_ends
    (startSet : startTime ≠ -1) (requests : Nat) :
    ∃ result,
      Loop.Ends (downloadStatistics timestamp page requests startTime) result := by
  have start : StatisticsDownload.Asked history
      { retVal := [], startTime, statistics := page requests startTime,
        requests := requests + 1 } := by
    intro record membership
    exact history.mem_upTo_iff.mpr (mem_of_mem_page pages startSet membership)
  rcases Loop.returns_of_variant (StatisticsDownload.Asked history)
    (fun _ : List α => True) (fun state => (history.upTo state.startTime).length)
    (fun state next asked turn => asked.next pages turn) (fun _ _ _ _ => trivial)
    start with ⟨result, returns, _⟩
  exact ⟨result, returns.ends⟩

/-- The result has no hole exactly when no page was cut short, and is complete
when nothing fails. -/
theorem downloadStatistics_outcome
    (sizePos : 1 ≤ size) (startSet : startTime ≠ -1) {requests : Nat}
    {result : List α}
    (ends : Loop.Ends (downloadStatistics timestamp page requests startTime) result) :
    (history.Contiguous startTime result ↔
        faults.Benign requests size (history.upTo startTime)) ∧
      ((∀ n records, faults.Spares n records) → result = history.upTo startTime) := by
  have post := ends.returns.post
    (Progress history size requests faults startTime)
    (fun result => (history.Contiguous startTime result ↔
        faults.Benign requests size (history.upTo startTime)) ∧
      ((∀ n records, faults.Spares n records) → result = history.upTo startTime))
    (fun state next progress turn => progress.next pages turn)
  apply post
  case leave =>
    intro state value progress turn
    simp only [StatisticsDownload.body] at turn
    split at turn
    next finished =>
      cases turn
      exact progress.outcome sizePos (List.head?_eq_none_iff.mp finished)
    · cases turn
  case start => exact .inl ⟨0, readWhole_start pages startSet requests⟩

end Download

end RESTClient

variable {statistic : Statistic}

/-- Without failures every download returns the whole history up to the given
time, in order and each record once. -/
theorem statistics_complete (externals : Externals)
    (history : StatisticsHistory statistic.timestamp) (size requests : Nat)
    (symbol : String) (period : StatisticsPeriod) (startTime : Int) (wire : Wire)
    (serves : history.Serves size .none symbol period externals wire)
    (sizePos : 1 ≤ size) (startNonneg : 0 ≤ startTime) :
    Loop.Ends
      (statistic.download externals (.futures wire) requests symbol period startTime)
      (history.upTo startTime) := by
  have startSet : startTime ≠ -1 := by omega
  have pages : ∀ n endTime, endTime ≠ -1 →
      RESTClient.P.statisticsPage statistic.path (statistic.fromJson externals)
        externals (.futures wire) n symbol period (-1) endTime 500 =
      Faults.none.decoded n ((history.upTo endTime).rtake size) :=
    fun n _ endSet => RESTClient.P.statisticsPage_of_serves serves n endSet
  rcases RESTClient.downloadStatistics_ends pages startSet requests with ⟨result, ends⟩
  have outcome := RESTClient.downloadStatistics_outcome pages sizePos startSet ends
  rw [outcome.2 Faults.none_spares] at ends
  have same := funext
    (statistic.download_eq externals (.futures wire) requests symbol period startTime)
  rw [same]
  exact ends

theorem statistics_complete_sample :
    Loop.Ends
      (Statistic.buySellVolume.download .plain
        (.futures (StatisticsHistory.sample.wire 2 .none "BTCUSDT" ._1h
          StatisticsHistory.row StatisticsHistory.brokenRow))
        0 "BTCUSDT" ._1h 10800000)
      (StatisticsHistory.sample.upTo 10800000) :=
  statistics_complete .plain .sample 2 0 "BTCUSDT" ._1h 10800000 _
    (StatisticsHistory.sample.wire_serves 2 .none "BTCUSDT" ._1h
      StatisticsHistory.sample_decodes StatisticsHistory.brokenRow_throws)
    (by decide) (by decide)

/-- Whatever fails, every download ends, and its result has no hole exactly when
the first page that a failure touches fails as a whole or at its oldest record. -/
theorem statistics_contiguous_iff (externals : Externals)
    (history : StatisticsHistory statistic.timestamp) (size requests : Nat)
    (faults : Faults statistic.Record) (symbol : String) (period : StatisticsPeriod)
    (startTime : Int) (wire : Wire)
    (serves : history.Serves size faults symbol period externals wire)
    (sizePos : 1 ≤ size) :
    (startTime ≠ -1 → ∃ result, Loop.Ends
        (statistic.download externals (.futures wire) requests symbol period startTime)
        result) ∧
      ∀ result, Loop.Ends
          (statistic.download externals (.futures wire) requests symbol period
            startTime)
          result →
        (history.Contiguous startTime result ↔
          faults.Benign requests size (history.upTo startTime)) := by
  have pages : ∀ n endTime, endTime ≠ -1 →
      RESTClient.P.statisticsPage statistic.path (statistic.fromJson externals)
        externals (.futures wire) n symbol period (-1) endTime 500 =
      faults.decoded n ((history.upTo endTime).rtake size) :=
    fun n _ endSet => RESTClient.P.statisticsPage_of_serves serves n endSet
  have same := funext
    (statistic.download_eq externals (.futures wire) requests symbol period startTime)
  rw [same]
  constructor
  · intro startSet
    exact RESTClient.downloadStatistics_ends pages startSet requests
  · intro result ends
    by_cases startSet : startTime = -1
    · -- no bound is sent, and no record is older than it
      have empty : history.upTo startTime = [] := history.upTo_neg (by omega)
      rw [empty]
      constructor
      · intro _ k _ cut
        rcases cut with ⟨_, _, record, membership, _⟩
        simp [Paging.pageBefore, Paging.older] at membership
      · intro _ record _ recorded later laterRecorded _ bound
        have laterPositive := history.positive later laterRecorded
        omega
    · exact (RESTClient.downloadStatistics_outcome pages sizePos startSet ends).1

theorem statistics_contiguous_sample :
    ((10800000 : Int) ≠ -1 → ∃ result, Loop.Ends
        (Statistic.buySellVolume.download .plain
          (.futures (StatisticsHistory.sample.wire 2 StatisticsHistory.sampleFaults
            "BTCUSDT" ._1h StatisticsHistory.row StatisticsHistory.brokenRow))
          0 "BTCUSDT" ._1h 10800000)
        result) ∧
      ∀ result, Loop.Ends
          (Statistic.buySellVolume.download .plain
            (.futures (StatisticsHistory.sample.wire 2 StatisticsHistory.sampleFaults
              "BTCUSDT" ._1h StatisticsHistory.row StatisticsHistory.brokenRow))
            0 "BTCUSDT" ._1h 10800000)
          result →
        (StatisticsHistory.sample.Contiguous 10800000 result ↔
          StatisticsHistory.sampleFaults.Benign 0 2
            (StatisticsHistory.sample.upTo 10800000)) :=
  statistics_contiguous_iff .plain .sample 2 0 StatisticsHistory.sampleFaults "BTCUSDT"
    ._1h 10800000 _
    (StatisticsHistory.sample.wire_serves 2 StatisticsHistory.sampleFaults "BTCUSDT" ._1h
      StatisticsHistory.sample_decodes StatisticsHistory.brokenRow_throws)
    (by decide)

/-- The newest of three volumes fails to decode in the first page: the two older
ones are returned without it. -/
theorem statistics_hole_sample :
    ∃ result, Loop.Ends
        (Statistic.buySellVolume.download .plain
          (.futures (StatisticsHistory.sample.wire 2 StatisticsHistory.sampleFaults
            "BTCUSDT" ._1h StatisticsHistory.row StatisticsHistory.brokenRow))
          0 "BTCUSDT" ._1h 10800000)
        result ∧
      result = [3600000, 7200000].map StatisticsHistory.sampleVolume ∧
      ¬StatisticsHistory.sample.Contiguous 10800000 result := by
  have pages : ∀ n endTime, endTime ≠ -1 →
      RESTClient.P.getBuySellVolume .plain
        (.futures (StatisticsHistory.sample.wire 2 StatisticsHistory.sampleFaults
          "BTCUSDT" ._1h StatisticsHistory.row StatisticsHistory.brokenRow))
        n "BTCUSDT" ._1h (-1) endTime 500 =
      StatisticsHistory.sampleFaults.decoded n
        ((StatisticsHistory.sample.upTo endTime).rtake 2) :=
    fun n _ endSet => RESTClient.P.statisticsPage_of_serves
      (StatisticsHistory.sample.wire_serves 2 StatisticsHistory.sampleFaults "BTCUSDT"
        ._1h StatisticsHistory.sample_decodes StatisticsHistory.brokenRow_throws)
      n endSet
  have first := (pages 0 10800000 (by decide)).trans
    (by decide +kernel : _ = [StatisticsHistory.sampleVolume 7200000])
  have second := (pages 1 7199999 (by decide)).trans
    (by decide +kernel : _ = [StatisticsHistory.sampleVolume 3600000])
  have third := (pages 2 3599999 (by decide)).trans (by decide +kernel : _ = [])
  refine ⟨_, ?_, rfl, ?_⟩
  · change Loop.Ends (RESTClient.getBuySellVolume _ _ _ _ _ _) _
    unfold RESTClient.getBuySellVolume RESTClient.downloadStatistics
    generalize RESTClient.P.getBuySellVolume .plain
      (.futures (StatisticsHistory.sample.wire 2 StatisticsHistory.sampleFaults
        "BTCUSDT" ._1h StatisticsHistory.row StatisticsHistory.brokenRow)) = page at *
    apply Loop.Returns.ends
    refine ⟨3, ?_⟩
    simp [Loop.run, RESTClient.StatisticsDownload.body, StatisticsHistory.sampleVolume,
      first, second, third]
  · intro contiguous
    have newest := contiguous (StatisticsHistory.sampleVolume 7200000)
      (by decide +kernel) (by decide +kernel) (StatisticsHistory.sampleVolume 10800000)
      (by decide +kernel) (by decide) (by decide)
    revert newest
    decide +kernel

end BinanceApi.Futures
