import BinanceApi.Rest.FundingRates

/-!
# Requests of the funding-rate download

How long the loop goes on asking for pages.  A request includes the funding time of
the last record received, so records that share their funding time can fill a page
whose successor is that page again.  The loop is first studied against any exchange
that answers with the first records from the requested time on.
-/

namespace BinanceApi.Futures

open Loop (Turn)
open BinanceApi.RESTClient (fetch fetch_of_lt fetch_of_ge sent sent_of_ne)

namespace RESTClient

/-- What an exchange has from a time on. -/
def recordsFrom (rates : List FundingRate) (fromTime : Int) : List FundingRate :=
  rates.filter fun rate => fromTime ≤ rate.fundingTime

/-- The records that share a funding time. -/
def recordsAt (rates : List FundingRate) (time : Int) : List FundingRate :=
  rates.filter fun rate => rate.fundingTime = time

/-- A request from this time on is answered with a page that ends at the same time
and is more than one record. -/
def Stalls (rates : List FundingRate) (limit : Nat) (time : Int) : Prop :=
  2 ≤ limit ∧
    (limit ≤ (recordsAt rates time).length ∨
      recordsFrom rates (time + 1) = [] ∧ 2 ≤ (recordsAt rates time).length)

/-- The download makes a bounded number of requests. -/
def FinitelyManyRequests (page : Nat → Int → Throws (List FundingRate))
    (requests : Nat) (startTime endTime : Int) : Prop :=
  ∃ bound, ∀ fr made, fetch page requests startTime endTime = .ok (fr, made) →
    ∀ state,
      Loop.Reaches (FundingDownload.body page endTime)
        { retVal := [], lastFromTime := startTime, fr, requests := made } state →
      state.requests ≤ bound

theorem mem_recordsFrom_iff {rates : List FundingRate} {fromTime : Int}
    {rate : FundingRate} :
    rate ∈ recordsFrom rates fromTime ↔ rate ∈ rates ∧ fromTime ≤ rate.fundingTime := by
  simp [recordsFrom]

/-- From a later time on, a record of an earlier time is missing. -/
theorem length_recordsFrom_lt {rates : List FundingRate} {rate : FundingRate}
    {time : Int} (member : rate ∈ rates) (later : rate.fundingTime < time) :
    (recordsFrom rates time).length < (recordsFrom rates rate.fundingTime).length := by
  have narrowed : recordsFrom rates time =
      (recordsFrom rates rate.fundingTime).filter
        fun record => time ≤ record.fundingTime := by
    simp only [recordsFrom, List.filter_filter]
    apply List.filter_congr
    intro record _
    grind
  rw [narrowed, List.length_filter_lt_length_iff_exists]
  exact ⟨rate, mem_recordsFrom_iff.mpr ⟨member, le_refl _⟩, by simpa using later⟩

/-- From an earlier time on, the records up to some time come first. -/
theorem recordsFrom_split {rates : List FundingRate}
    (ordered : Paging.Ordered FundingRate.fundingTime rates) {fromTime time : Int}
    (earlier : fromTime ≤ time + 1) :
    recordsFrom rates fromTime =
      (recordsFrom rates fromTime).filter (fun rate => rate.fundingTime ≤ time) ++
        recordsFrom rates (time + 1) := by
  have fromOrdered : Paging.Ordered FundingRate.fundingTime
      (recordsFrom rates fromTime) := ordered.sublist List.filter_sublist
  have split := fromOrdered.filter_le_append time
  have later : (recordsFrom rates fromTime).filter
      (fun rate => time < rate.fundingTime) = recordsFrom rates (time + 1) := by
    simp only [recordsFrom, List.filter_filter]
    apply List.filter_congr
    intro rate _
    grind
  rw [later] at split
  exact split.symm

/-- From a time on, the records of that time come first. -/
theorem recordsFrom_eq {rates : List FundingRate}
    (ordered : Paging.Ordered FundingRate.fundingTime rates) (time : Int) :
    recordsFrom rates time = recordsAt rates time ++ recordsFrom rates (time + 1) := by
  have now : (recordsFrom rates time).filter (fun rate => rate.fundingTime ≤ time) =
      recordsAt rates time := by
    simp only [recordsFrom, recordsAt, List.filter_filter]
    apply List.filter_congr
    intro rate _
    grind
  have split := recordsFrom_split ordered (by omega : time ≤ time + 1)
  rwa [now] at split

section Requests

variable {rates : List FundingRate} {limit : Nat} {startTime endTime : Int}
  {page : Nat → Int → Throws (List FundingRate)}

/-- Before a time that stalls, every page has more than one record and none of a later
time. -/
theorem page_of_stalls (ordered : Paging.Ordered FundingRate.fundingTime rates)
    {fromTime time : Int} (stalls : Stalls rates limit time) (earlier : fromTime ≤ time) :
    2 ≤ ((recordsFrom rates fromTime).take limit).length ∧
      ∀ rate ∈ (recordsFrom rates fromTime).take limit, rate.fundingTime ≤ time := by
  have split := recordsFrom_split ordered (by omega : fromTime ≤ time + 1)
  have shared : (recordsAt rates time).length ≤
      ((recordsFrom rates fromTime).filter
        fun rate => rate.fundingTime ≤ time).length := by
    apply List.Sublist.length_le
    simp only [recordsAt, recordsFrom, List.filter_filter]
    apply List.monotone_filter_right
    intro rate
    grind
  have lengths := congrArg List.length split
  rw [List.length_append] at lengths
  rcases stalls with ⟨many, full | ⟨none, several⟩⟩
  · constructor
    · rw [List.length_take]
      omega
    · intro rate membership
      -- the page does not get beyond the records of the stalling time
      rw [split, List.take_append_of_le_length (by omega)] at membership
      have inside := (List.mem_filter.mp (List.mem_of_mem_take membership)).2
      simpa using inside
  · constructor
    · rw [List.length_take]
      omega
    · intro rate membership
      rw [split, none, List.append_nil] at membership
      have inside := (List.mem_filter.mp (List.mem_of_mem_take membership)).2
      simpa using inside

/-- At a time that does not stall, the page is the one record of that time or ends
later. -/
theorem page_of_not_stalls (ordered : Paging.Ordered FundingRate.fundingTime rates)
    (limitPos : 1 ≤ limit) {time : Int} (moves : ¬Stalls rates limit time)
    {last : FundingRate}
    (lastEq : ((recordsFrom rates time).take limit).getLast? = some last) :
    ((recordsFrom rates time).take limit).length = 1 ∨ time < last.fundingTime := by
  have nonempty : (recordsFrom rates time).take limit ≠ [] := by
    intro empty
    rw [empty] at lastEq
    cases lastEq
  have positive := List.length_pos_of_ne_nil nonempty
  have split := recordsFrom_eq ordered time
  by_cases single : limit = 1
  · left
    rw [List.length_take] at positive ⊢
    omega
  · have many : 2 ≤ limit := by omega
    have room : (recordsAt rates time).length < limit := by
      by_contra full
      exact moves ⟨many, .inl (not_lt.mp full)⟩
    rw [split, List.take_append, List.take_of_length_le room.le] at lastEq
    cases rest : recordsFrom rates (time + 1) with
    | nil =>
        left
        have few : (recordsAt rates time).length < 2 := by
          by_contra several
          exact moves ⟨many, .inr ⟨rest, not_lt.mp several⟩⟩
        rw [List.length_take, split, rest, List.append_nil] at positive ⊢
        omega
    | cons next others =>
        right
        rcases Nat.exists_eq_succ_of_ne_zero (Nat.sub_ne_zero_of_lt room) with
          ⟨size, sizeEq⟩
        -- the page has room for a record of a later time, and ends with one
        have inRest : last ∈ recordsFrom rates (time + 1) := by
          rw [rest, sizeEq, List.take_succ_cons,
            List.getLast?_append_of_ne_nil _ (List.cons_ne_nil _ _),
            ← List.take_succ_cons] at lastEq
          rw [rest]
          exact List.mem_of_mem_take (List.mem_of_getLast? lastEq)
        have later := (mem_recordsFrom_iff.mp inRest).2
        omega

theorem finitelyManyRequests_of_ends {requests : Nat}
    {result : Throws (List FundingRate)}
    (ends : Loop.Ends (downloadFundingRates page requests startTime endTime) result) :
    FinitelyManyRequests page requests startTime endTime := by
  unfold downloadFundingRates at ends
  cases first : fetch page requests startTime endTime with
  | error exception =>
      refine ⟨0, ?_⟩
      intro fr made got
      rw [first] at got
      cases got
  | ok fetched =>
      rcases fetched with ⟨fr, made⟩
      simp only [first] at ends
      rcases ends.returns.bounded FundingDownload.requests with ⟨bound, below⟩
      refine ⟨bound, ?_⟩
      intro sameFr sameMade got state reaches
      rw [first] at got
      cases got
      exact below state reaches

/-- The page at hand begins and ends before some time. -/
def BeforeStall (rates : List FundingRate) (limit : Nat) (startTime time : Int)
    (state : FundingDownload) : Prop :=
  ∃ fromTime, startTime ≤ fromTime ∧ fromTime ≤ time ∧
    state.fr = (recordsFrom rates fromTime).take limit

/-- The last record at hand is one of the exchange's. -/
def Asking (rates : List FundingRate) (startTime : Int) (state : FundingDownload) :
    Prop :=
  ∀ last, state.fr.getLast? = some last → last ∈ rates ∧ startTime ≤ last.fundingTime

/-- How many records the exchange has from the last one at hand on. -/
def ahead (rates : List FundingRate) (state : FundingDownload) : Nat :=
  match state.fr.getLast? with
  | none => 0
  | some last => (recordsFrom rates last.fundingTime).length

variable (pages : ∀ n fromTime, startTime ≤ fromTime → fromTime < endTime →
  page n fromTime = .ok ((recordsFrom rates fromTime).take limit))

include pages

/-- One turn before a time that stalls: another request, and the loop is still before
that time. -/
theorem BeforeStall.again (ordered : Paging.Ordered FundingRate.fundingTime rates)
    {time : Int} (stalls : Stalls rates limit time) (before : time < endTime)
    {state : FundingDownload} (stalling : BeforeStall rates limit startTime time state) :
    ∃ next, FundingDownload.body page endTime state = .again next ∧
      BeforeStall rates limit startTime time next ∧ state.requests < next.requests := by
  rcases stalling with ⟨fromTime, fromStart, fromBefore, frEq⟩
  rcases page_of_stalls ordered stalls fromBefore with ⟨several, bounded⟩
  cases lastEq : state.fr.getLast? with
  | none =>
      rw [frEq, List.getLast?_eq_none_iff] at lastEq
      rw [lastEq] at several
      cases several
  | some last =>
      have lastMem := List.mem_of_getLast? lastEq
      rw [frEq] at lastMem
      have lastBefore := bounded last lastMem
      have lastStart := (mem_recordsFrom_iff.mp (List.mem_of_mem_take lastMem)).2
      have again := fetch_of_lt (lt_of_le_of_lt lastBefore before)
        (pages state.requests last.fundingTime (by omega) (by omega))
      have longer := (page_of_stalls ordered stalls lastBefore).1
      refine ⟨{
          retVal := state.retVal ++ state.fr
          lastFromTime := last.fundingTime
          fr := (recordsFrom rates last.fundingTime).take limit
          requests := state.requests + 1 },
        ?_, ⟨last.fundingTime, by omega, lastBefore, rfl⟩, Nat.lt_succ_self _⟩
      simp only [FundingDownload.body, lastEq, again]
      rw [if_neg (by omega)]

/-- A time that stalls keeps the loop asking for pages. -/
theorem unbounded_of_stalls (ordered : Paging.Ordered FundingRate.fundingTime rates)
    {time : Int} (stalls : Stalls rates limit time) (start : startTime ≤ time)
    (before : time < endTime) (requests bound : Nat) :
    ∃ fr, fetch page requests startTime endTime = .ok (fr, requests + 1) ∧
      ∃ state, Loop.Reaches (FundingDownload.body page endTime)
          { retVal := [], lastFromTime := startTime, fr, requests := requests + 1 }
          state ∧
        bound ≤ state.requests := by
  have inside : startTime < endTime := lt_of_le_of_lt start before
  have stalling : BeforeStall rates limit startTime time
      { retVal := [], lastFromTime := startTime,
        fr := (recordsFrom rates startTime).take limit, requests := requests + 1 } :=
    ⟨startTime, le_refl _, start, rfl⟩
  rcases Loop.unbounded_of_progress (BeforeStall rates limit startTime time)
      FundingDownload.requests
      (fun _ stalling => stalling.again pages ordered stalls before) stalling bound with
    ⟨state, reaches, -, above⟩
  exact ⟨_, fetch_of_lt inside (pages requests startTime (le_refl _) inside), state,
    reaches, above⟩

/-- What the loop keeps where no time stalls: the last record received is one of the
exchange's. -/
theorem Asking.again (ordered : Paging.Ordered FundingRate.fundingTime rates)
    (limitPos : 1 ≤ limit)
    (moves : ∀ time, startTime ≤ time → time < endTime → ¬Stalls rates limit time)
    {state next : FundingDownload} (asking : Asking rates startTime state)
    (turn : FundingDownload.body page endTime state = .again next) :
    Asking rates startTime next ∧ ahead rates next < ahead rates state := by
  simp only [FundingDownload.body] at turn
  cases lastEq : state.fr.getLast? with
  | none => simp [lastEq] at turn
  | some last =>
      rcases asking last lastEq with ⟨lastMem, lastStart⟩
      have here : last ∈ recordsFrom rates last.fundingTime :=
        mem_recordsFrom_iff.mpr ⟨lastMem, le_refl _⟩
      simp only [lastEq] at turn
      by_cases before : last.fundingTime < endTime
      · rw [fetch_of_lt before (pages _ _ lastStart before)] at turn
        simp only at turn
        split at turn
        · cases turn
        next repeated =>
          cases turn
          constructor
          · intro newest newestEq
            have newestMem := mem_recordsFrom_iff.mp
              (List.mem_of_mem_take (List.mem_of_getLast? newestEq))
            exact ⟨newestMem.1, lastStart.trans newestMem.2⟩
          · simp only [ahead, lastEq]
            cases newestEq :
                ((recordsFrom rates last.fundingTime).take limit).getLast? with
            | none => exact List.length_pos_of_mem here
            | some newest =>
                have moved := page_of_not_stalls ordered limitPos
                  (moves last.fundingTime lastStart before) newestEq
                apply length_recordsFrom_lt lastMem
                rcases moved with single | later
                · -- a page of one record of another time is of a later time
                  have notBefore := (mem_recordsFrom_iff.mp
                    (List.mem_of_mem_take (List.mem_of_getLast? newestEq))).2
                  apply lt_of_le_of_ne notBefore
                  intro same
                  apply repeated
                  exact ⟨single, by rw [newestEq, same, Option.map_some]⟩
                · exact later
      · rw [fetch_of_ge (not_lt.mp before)] at turn
        simp only [List.length_nil, Nat.zero_ne_one, false_and, if_false,
          Turn.again.injEq] at turn
        subst turn
        refine ⟨fun last lastEq => by simp at lastEq, ?_⟩
        simp only [ahead, lastEq]
        exact List.length_pos_of_mem here

theorem Asking.leave {state : FundingDownload} {value : Throws (List FundingRate)}
    (asking : Asking rates startTime state)
    (turn : FundingDownload.body page endTime state = .leave value) :
    ∃ result, value = .ok result := by
  simp only [FundingDownload.body] at turn
  cases lastEq : state.fr.getLast? with
  | none =>
      simp only [lastEq, Turn.leave.injEq] at turn
      exact ⟨_, turn.symm⟩
  | some last =>
      simp only [lastEq] at turn
      by_cases before : last.fundingTime < endTime
      · rw [fetch_of_lt before (pages _ _ (asking last lastEq).2 before)] at turn
        simp only at turn
        split at turn
        · simp only [Turn.leave.injEq] at turn
          exact ⟨_, turn.symm⟩
        · cases turn
      · rw [fetch_of_ge (not_lt.mp before)] at turn
        simp at turn

/-- If no time stalls, every page but a last one brings the loop to a later time. -/
theorem ends_of_moves (ordered : Paging.Ordered FundingRate.fundingTime rates)
    (limitPos : 1 ≤ limit) (before : startTime < endTime)
    (moves : ∀ time, startTime ≤ time → time < endTime → ¬Stalls rates limit time)
    (requests : Nat) :
    ∃ result, Loop.Ends (downloadFundingRates page requests startTime endTime)
        (.ok result) ∧
      (recordsFrom rates startTime).take limit <+: result := by
  have first := fetch_of_lt before (pages requests startTime (le_refl _) before)
  have asking : Asking rates startTime
      { retVal := [], lastFromTime := startTime,
        fr := (recordsFrom rates startTime).take limit, requests := requests + 1 } := by
    intro last lastEq
    exact mem_recordsFrom_iff.mp (List.mem_of_mem_take (List.mem_of_getLast? lastEq))
  rcases Loop.returns_of_variant (Asking rates startTime)
      (fun value => ∃ result, value = .ok result) (ahead rates)
      (fun _ _ asking turn => asking.again pages ordered limitPos moves turn)
      (fun _ _ asking turn => asking.leave pages turn) asking with
    ⟨_, returns, result, rfl⟩
  refine ⟨result, ?_, ?_⟩
  · have ends := returns.ends
    unfold downloadFundingRates
    simp only [first]
    exact ends
  · exact FundingDownload.prefix_of_returns (by simp) returns

/-- The download makes finitely many requests exactly when no time stalls. -/
theorem finitelyManyRequests_iff
    (ordered : Paging.Ordered FundingRate.fundingTime rates) (limitPos : 1 ≤ limit)
    (before : startTime < endTime) (requests : Nat) :
    FinitelyManyRequests page requests startTime endTime ↔
      ∀ time, startTime ≤ time → time < endTime → ¬Stalls rates limit time := by
  constructor
  · intro finite time start timeBefore stalls
    rcases finite with ⟨bound, below⟩
    rcases unbounded_of_stalls pages ordered stalls start timeBefore requests (bound + 1)
      with ⟨fr, first, state, reaches, above⟩
    have small := below fr (requests + 1) first state reaches
    omega
  · intro moves
    rcases ends_of_moves pages ordered limitPos before moves requests with
      ⟨result, ends, -⟩
    exact finitelyManyRequests_of_ends ends

/-- It ends under the same condition. -/
theorem ends_iff (ordered : Paging.Ordered FundingRate.fundingTime rates)
    (limitPos : 1 ≤ limit) (before : startTime < endTime) (requests : Nat) :
    (∃ result, Loop.Ends (downloadFundingRates page requests startTime endTime)
        result) ↔
      ∀ time, startTime ≤ time → time < endTime → ¬Stalls rates limit time := by
  constructor
  · intro ends
    rcases ends with ⟨result, ends⟩
    rw [← finitelyManyRequests_iff pages ordered limitPos before requests]
    exact finitelyManyRequests_of_ends ends
  · intro moves
    rcases ends_of_moves pages ordered limitPos before moves requests with
      ⟨result, ends, -⟩
    exact ⟨_, ends⟩

end Requests

end RESTClient

/-! ## Records that share a funding time -/

/-- Funding rates in the order of their times, of one symbol or of all: several may
have the same time. -/
structure FundingRecords where
  rates : List FundingRate
  ordered : Paging.Ordered FundingRate.fundingTime rates

namespace FundingRecords

/-- The records of a closed range of times. -/
def inRange (records : FundingRecords) (startTime endTime : Int) : List FundingRate :=
  records.rates.filter fun rate =>
    startTime ≤ rate.fundingTime ∧ rate.fundingTime ≤ endTime

/-- The records that a request with this end can see. -/
def upTo (records : FundingRecords) (endTime : Int) : List FundingRate :=
  records.rates.filter fun rate => rate.fundingTime ≤ endTime

theorem upTo_ordered (records : FundingRecords) (endTime : Int) :
    Paging.Ordered FundingRate.fundingTime (records.upTo endTime) :=
  records.ordered.sublist List.filter_sublist

theorem recordsFrom_upTo (records : FundingRecords) (fromTime endTime : Int) :
    RESTClient.recordsFrom (records.upTo endTime) fromTime =
      records.inRange fromTime endTime := by
  simp only [RESTClient.recordsFrom, upTo, inRange, List.filter_filter]
  apply List.filter_congr
  intro rate _
  grind

theorem recordsAt_upTo (records : FundingRecords) {time endTime : Int}
    (before : time ≤ endTime) :
    RESTClient.recordsAt (records.upTo endTime) time = records.inRange time time := by
  simp only [RESTClient.recordsAt, upTo, inRange, List.filter_filter]
  apply List.filter_congr
  intro rate _
  grind

/-- The exchange's funding-rate endpoint: the first records of the range, as many as
the limit allows. -/
def Serves (records : FundingRecords) (symbol : String) (externals : Externals)
    (wire : Wire) : Prop :=
  ∀ n request startTime endTime limit,
    request.verb = .get →
    request.api ++ request.target.path = "/fapi/v1/fundingRate?" →
    request.param? "symbol" = some symbol →
    request.param? "startTime" = some (Int.repr startTime) →
    request.param? "endTime" = some (Int.repr endTime) →
    request.param? "limit" = some (Int.repr limit) →
    ∃ json, wire n request = .ok ⟨httpOk, .ok json⟩ ∧
      FundingRates.fromJson externals json =
        .ok ((records.inRange startTime endTime).take limit.toNat)

/-- An exchange that serves the records under a given encoding. -/
def wire (records : FundingRecords) (symbol : String) (encode : FundingRate → Json) :
    Wire := fun _ request =>
  if request.verb = .get ∧
      request.api ++ request.target.path = "/fapi/v1/fundingRate?" ∧
      request.param? "symbol" = some symbol then
    match (request.param? "startTime").bind String.toInt?,
        (request.param? "endTime").bind String.toInt?,
        (request.param? "limit").bind String.toInt? with
    | some startTime, some endTime, some limit =>
        .ok ⟨httpOk, .ok (.array
          (((records.inRange startTime endTime).take limit.toNat).map encode))⟩
    | _, _, _ => .error (.standard "bad request")
  else
    .error (.standard "bad request")

theorem wire_serves (records : FundingRecords) (symbol : String)
    {externals : Externals} {encode : FundingRate → Json}
    (decodes : ∀ rate ∈ records.rates,
      FundingRate.fromJson externals (encode rate) = .ok rate) :
    records.Serves symbol externals (records.wire symbol encode) := by
  intro n request startTime endTime limit isGet path symbolSent startSent endSent
    limitSent
  refine ⟨_, ?_, FundingRates.fromJson_rows encode ?_⟩
  · simp [wire, isGet, path, symbolSent, startSent, endSent, limitSent]
  · intro rate membership
    apply decodes
    exact (List.mem_filter.mp (List.mem_of_mem_take membership)).1

theorem not_stalls_iff (records : FundingRecords) {limit : Nat} {time endTime : Int}
    (before : time < endTime) :
    ¬RESTClient.Stalls (records.upTo endTime) limit time ↔
      (2 ≤ limit → (records.inRange time time).length < limit ∧
        (records.inRange (time + 1) endTime = [] →
          (records.inRange time time).length ≤ 1)) := by
  simp only [RESTClient.Stalls, records.recordsFrom_upTo, records.recordsAt_upTo before.le,
    not_and, not_or, not_le]
  apply imp_congr_right
  intro _
  apply and_congr_right
  intro _
  apply imp_congr_right
  intro _
  exact Nat.lt_succ_iff

/-- The times of a range at which the download goes on: all of them if its pages have
one record; otherwise those that do not fill a page, and if no later time follows,
those of one record. -/
def Moves (records : FundingRecords) (limit : Nat) (startTime endTime : Int) : Prop :=
  limit = 1 ∨ ∀ time, startTime ≤ time → time < endTime →
    (records.inRange time time).length < limit ∧
      (records.inRange (time + 1) endTime = [] →
        (records.inRange time time).length ≤ 1)

theorem moves_iff (records : FundingRecords) {limit : Nat} (limitPos : 1 ≤ limit)
    {startTime endTime : Int} :
    records.Moves limit startTime endTime ↔
      ∀ time, startTime ≤ time → time < endTime →
        ¬RESTClient.Stalls (records.upTo endTime) limit time := by
  constructor
  · intro moves time start before
    rw [records.not_stalls_iff before]
    intro many
    rcases moves with single | moves
    · omega
    · exact moves time start before
  · intro unstalled
    by_cases single : limit = 1
    · exact .inl single
    · right
      intro time start before
      exact (records.not_stalls_iff before).mp (unstalled time start before) (by omega)

end FundingRecords

theorem RESTClient.P.getFundingRates_of_records {records : FundingRecords}
    {symbol : String} {externals : Externals} {wire : Wire}
    (serves : records.Serves symbol externals wire) (n : Nat)
    {startTime endTime limit : Int} (startSet : startTime ≠ -1)
    (endSet : endTime ≠ -1) (limitSet : limit ≠ -1) :
    P.getFundingRates externals (.futures wire) n symbol startTime endTime limit =
      .ok ((records.inRange startTime endTime).take limit.toNat) := by
  rcases fundingRateRequest_params symbol startTime endTime limit with
    ⟨symbolSent, startSent, endSent, limitSent⟩
  rw [sent_of_ne startSet] at startSent
  rw [sent_of_ne endSet] at endSent
  rw [sent_of_ne limitSet] at limitSent
  rcases serves n _ startTime endTime limit rfl (fundingRateRequest_path ..) symbolSent
    startSent endSent limitSent with ⟨json, answer, decoded⟩
  exact P.getFundingRates_of_answer answer decoded

/-- Every page of a download is what the exchange has from the page's start on. -/
theorem FundingRecords.Serves.pages {records : FundingRecords} {symbol : String}
    {externals : Externals} {wire : Wire} {startTime limit : Int}
    (serves : records.Serves symbol externals wire) (limitPos : 1 ≤ limit)
    (startNonneg : 0 ≤ startTime) (endTime : Int) :
    ∀ n fromTime, startTime ≤ fromTime → fromTime < endTime →
      RESTClient.P.getFundingRates externals (.futures wire) n symbol fromTime endTime
        limit =
      .ok ((RESTClient.recordsFrom (records.upTo endTime) fromTime).take
        limit.toNat) := by
  intro n fromTime fromStart _
  rw [records.recordsFrom_upTo]
  apply RESTClient.P.getFundingRates_of_records serves <;> omega

/-- The download ends, and makes finitely many requests, exactly when it goes on at
every time of the range. -/
theorem getFundingRates_finite_iff (externals : Externals) (records : FundingRecords)
    (requests : Nat) (symbol : String) (startTime endTime limit : Int) (wire : Wire)
    (serves : records.Serves symbol externals wire) (limitPos : 1 ≤ limit)
    (startNonneg : 0 ≤ startTime) (before : startTime < endTime) :
    (RESTClient.FinitelyManyRequests
        (fun n lastFromTime => RESTClient.P.getFundingRates externals (.futures wire) n
          symbol lastFromTime endTime limit)
        requests startTime endTime ↔
      records.Moves limit.toNat startTime endTime) ∧
    ((∃ result, Loop.Ends
        (RESTClient.getFundingRates externals (.futures wire) requests symbol startTime
          endTime limit) result) ↔
      records.Moves limit.toNat startTime endTime) := by
  have sizePos : 1 ≤ limit.toNat := by omega
  have ordered := records.upTo_ordered endTime
  have pages := serves.pages limitPos startNonneg endTime
  rw [records.moves_iff sizePos]
  exact ⟨RESTClient.finitelyManyRequests_iff pages ordered sizePos before requests,
    RESTClient.ends_iff pages ordered sizePos before requests⟩

namespace FundingRecords

/-- Two symbols' rates at two funding times. -/
def sample : FundingRecords where
  rates := [
    { symbol := "BTCUSDT", fundingRate := 1 / 10000, fundingTime := 0 },
    { symbol := "ETHUSDT", fundingRate := 1 / 10000, fundingTime := 0 },
    { symbol := "BTCUSDT", fundingRate := 1 / 10000, fundingTime := 28800000 },
    { symbol := "ETHUSDT", fundingRate := 1 / 10000, fundingTime := 28800000 }]
  ordered := by
    simp only [Paging.Ordered]
    decide

theorem sample_decodes : ∀ rate ∈ sample.rates,
    FundingRate.fromJson .plain (FundingHistory.row rate) = .ok rate := by
  decide +kernel

theorem sample_serves :
    sample.Serves "" .plain (sample.wire "" FundingHistory.row) :=
  sample.wire_serves "" sample_decodes

theorem sample_moves : sample.Moves 3 0 28800000 := by
  right
  intro time start before
  by_cases first : time = 0
  · subst first
    decide
  · have none : sample.inRange time time = [] := by
      apply List.filter_eq_nil_iff.mpr
      intro rate membership
      simp only [sample, List.mem_cons, List.not_mem_nil, or_false] at membership
      rcases membership with rfl | rfl | rfl | rfl <;> simp only [decide_eq_true_eq] <;>
        omega
    rw [none]
    simp

end FundingRecords

/-- Up to the last funding time itself the download goes on, with pages of three. -/
theorem getFundingRates_finite_sample :
    ∃ result, Loop.Ends
      (RESTClient.getFundingRates .plain
        (.futures (FundingRecords.sample.wire "" FundingHistory.row)) 0 "" 0 28800000 3)
      result :=
  (getFundingRates_finite_iff .plain .sample 0 "" 0 28800000 3 _
    FundingRecords.sample_serves (by decide) (by decide) (by decide)).2.mpr
    FundingRecords.sample_moves

/-- The two rates of the last funding time come again and again. -/
theorem getFundingRates_endless_sample :
    ¬RESTClient.FinitelyManyRequests
        (fun n lastFromTime => RESTClient.P.getFundingRates .plain
          (.futures (FundingRecords.sample.wire "" FundingHistory.row)) n "" lastFromTime
          30000000 100)
        0 0 30000000 := by
  have pages := FundingRecords.sample_serves.pages (by decide : (1 : Int) ≤ 100)
    (by decide : (0 : Int) ≤ 0) 30000000
  intro finite
  rw [RESTClient.finitelyManyRequests_iff pages (FundingRecords.sample.upTo_ordered _)
    (by decide) (by decide)] at finite
  exact finite 28800000 (by decide) (by decide) ⟨by decide, .inr ⟨by decide, by decide⟩⟩

end BinanceApi.Futures
