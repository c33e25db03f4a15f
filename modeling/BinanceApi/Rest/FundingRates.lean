import Mathlib
import BinanceApi.Http
import BinanceApi.Library.Loop
import BinanceApi.Library.Paging

/-!
# Funding-rate download

The loop continues at the funding time of the last record received, and the
exchange includes both bounds of a request, so every page after the first begins
with a record already kept.  The only repetition the loop recognises is a page
that consists of that record alone.
-/

namespace BinanceApi.Futures

open Loop (Turn)
open BinanceApi.RESTClient (fetch fetch_of_lt fetch_of_ge sent sent_of_ne)

namespace RESTClient

/-- Target of a funding-rate request.  A time or a limit of `-1` is not sent. -/
def fundingRateTarget (symbol : String) (startTime endTime limit : Int) : Target :=
  Target.mk "fundingRate?" [("symbol", symbol)]
    |>.appendIf (startTime ≠ -1) "startTime" startTime.repr
    |>.appendIf (endTime ≠ -1) "endTime" endTime.repr
    |>.appendIf (limit ≠ -1) "limit" limit.repr

/-- `P::getFundingRates`: one page of funding rates. -/
def P.getFundingRates (externals : Externals) (session : HTTPSession) (n : Nat)
    (symbol : String) (startTime endTime limit : Int) : Throws (List FundingRate) := do
  let response ←
    session.get n (fundingRateTarget symbol startTime endTime limit) true
  let response ← checkResponse externals response
  FundingRates.fromJson externals (← response.json)

/-- Variables of the download loop, and the number of requests made so far. -/
structure FundingDownload where
  retVal : List FundingRate
  lastFromTime : Int
  fr : List FundingRate
  requests : Nat

/-- One turn of the `while (!fr.empty())` loop.  A new page that is the last
record once more breaks the loop. -/
def FundingDownload.body (page : Nat → Int → Throws (List FundingRate))
    (endTime : Int) (state : FundingDownload) :
    Turn FundingDownload (Throws (List FundingRate)) :=
  match state.fr.getLast? with
  | none => .leave (.ok state.retVal)
  | some last =>
      match fetch page state.requests last.fundingTime endTime with
      | .error exception => .leave (.error exception)
      | .ok (fr, requests) =>
          if fr.length = 1 ∧ fr.getLast?.map FundingRate.fundingTime =
              some last.fundingTime then
            .leave (.ok (state.retVal ++ state.fr))
          else
            .again {
              retVal := state.retVal ++ state.fr
              lastFromTime := last.fundingTime
              fr
              requests }

/-- The download over an arbitrary page function, within `fuel` turns. -/
def downloadFundingRates (page : Nat → Int → Throws (List FundingRate))
    (requests : Nat) (startTime endTime : Int) (fuel : Nat) :
    Option (Throws (List FundingRate)) :=
  match fetch page requests startTime endTime with
  | .error exception => some (.error exception)
  | .ok (fr, requests) =>
      Loop.run (FundingDownload.body page endTime) fuel
        { retVal := [], lastFromTime := startTime, fr, requests }

/-- `RESTClient::getFundingRates`, starting with the given number of requests
already made on the session. -/
def getFundingRates (externals : Externals) (session : HTTPSession) (requests : Nat)
    (symbol : String) (startTime endTime limit : Int) (fuel : Nat) :
    Option (Throws (List FundingRate)) :=
  downloadFundingRates
    (fun n lastFromTime => P.getFundingRates externals session n symbol
      lastFromTime endTime limit)
    requests startTime endTime fuel

end RESTClient

/-! ## What a page request sends -/

namespace RESTClient

/-- A request for funding rates on its way to the exchange. -/
def fundingRateRequest (symbol : String) (startTime endTime limit : Int) : Request where
  verb := .get
  api := "/fapi/v1/"
  target := fundingRateTarget symbol startTime endTime limit
  isPublic := true

theorem fundingRateRequest_path (symbol : String) (startTime endTime limit : Int) :
    (fundingRateRequest symbol startTime endTime limit).api ++
        (fundingRateRequest symbol startTime endTime limit).target.path =
      "/fapi/v1/fundingRate?" := by
  simp [fundingRateRequest, fundingRateTarget]

/-- A request carries the symbol and what is set of the bounds and the limit. -/
theorem fundingRateRequest_params (symbol : String) (startTime endTime limit : Int) :
    let request := fundingRateRequest symbol startTime endTime limit
    request.param? "symbol" = some symbol ∧
      request.param? "startTime" = (sent startTime).map Int.repr ∧
      request.param? "endTime" = (sent endTime).map Int.repr ∧
      request.param? "limit" = (sent limit).map Int.repr := by
  intro request
  simp only [request, Request.param?, fundingRateRequest, fundingRateTarget, sent,
    Target.appendIf_params]
  by_cases startTime = -1 <;> by_cases endTime = -1 <;> by_cases limit = -1 <;>
    simp [List.lookup, *]

theorem P.getFundingRates_of_answer {externals : Externals} {wire : Wire} {n : Nat}
    {symbol : String} {startTime endTime limit : Int} {json : Json}
    {rates : List FundingRate}
    (answer : wire n (fundingRateRequest symbol startTime endTime limit) =
      .ok ⟨httpOk, .ok json⟩)
    (decoded : FundingRates.fromJson externals json = .ok rates) :
    P.getFundingRates externals (.futures wire) n symbol startTime endTime limit =
      .ok rates := by
  have got : (HTTPSession.futures wire).get n
      (fundingRateTarget symbol startTime endTime limit) true =
        .ok ⟨httpOk, .ok json⟩ := answer
  simp [P.getFundingRates, got, decoded, bind, Except.bind]

end RESTClient

/-! ## The exchange's side -/

/-- A finite history of one symbol's funding rates. -/
structure FundingHistory where
  rates : List FundingRate
  increasing : Paging.Increasing FundingRate.fundingTime rates

namespace FundingHistory

/-- The records of a closed range of times. -/
def inRange (history : FundingHistory) (startTime endTime : Int) :
    List FundingRate :=
  history.rates.filter fun rate =>
    startTime ≤ rate.fundingTime ∧ rate.fundingTime ≤ endTime

theorem mem_inRange_iff (history : FundingHistory) {startTime endTime : Int}
    {rate : FundingRate} :
    rate ∈ history.inRange startTime endTime ↔
      rate ∈ history.rates ∧
        startTime ≤ rate.fundingTime ∧ rate.fundingTime ≤ endTime := by
  simp [inRange]

theorem inRange_increasing (history : FundingHistory) (startTime endTime : Int) :
    Paging.Increasing FundingRate.fundingTime (history.inRange startTime endTime) :=
  history.increasing.sublist List.filter_sublist

/-- A range continued at a record in it begins with that record. -/
theorem inRange_fundingTime (history : FundingHistory) {startTime endTime : Int}
    {front back : List FundingRate} {last : FundingRate}
    (split : history.inRange startTime endTime = front ++ [last] ++ back) :
    history.inRange last.fundingTime endTime = last :: back := by
  have increasing := history.inRange_increasing startTime endTime
  have lastMem : last ∈ history.inRange startTime endTime := by simp [split]
  have lastStart := (history.mem_inRange_iff.mp lastMem).2.1
  have narrowed : history.inRange last.fundingTime endTime =
      (history.inRange startTime endTime).filter
        fun rate => last.fundingTime ≤ rate.fundingTime := by
    simp only [inRange, List.filter_filter]
    apply List.filter_congr
    intro rate _
    grind
  rw [split] at increasing
  rw [narrowed, split]
  exact increasing.filter_key_le

/-- A range that exceeds a positive limit continues behind its first page. -/
theorem exists_split_of_exceeds (history : FundingHistory) {startTime endTime : Int}
    {limit : Nat} (limitPos : 0 < limit)
    (exceeds : limit < (history.inRange startTime endTime).length) :
    ∃ front last next rest,
      (history.inRange startTime endTime).take limit = front ++ [last] ∧
      history.inRange startTime endTime = front ++ [last] ++ next :: rest := by
  have pageNonempty : (history.inRange startTime endTime).take limit ≠ [] := by
    apply List.ne_nil_of_length_pos
    simp only [List.length_take]
    omega
  have dropNonempty : (history.inRange startTime endTime).drop limit ≠ [] := by
    apply List.ne_nil_of_length_pos
    simp only [List.length_drop]
    omega
  rcases List.exists_cons_of_ne_nil dropNonempty with ⟨next, rest, dropEq⟩
  refine ⟨_, _, next, rest, (List.dropLast_concat_getLast pageNonempty).symm, ?_⟩
  rw [List.dropLast_concat_getLast, ← dropEq, List.take_append_drop]

/-- The exchange's funding-rate endpoint: a request for a range with a limit is
answered with the first records of the range, as many as the limit allows. -/
def Serves (history : FundingHistory) (symbol : String) (externals : Externals)
    (wire : Wire) : Prop :=
  ∀ n request startTime endTime limit,
    request.verb = .get →
    request.api ++ request.target.path = "/fapi/v1/fundingRate?" →
    request.param? "symbol" = some symbol →
    request.param? "startTime" = some (Int.repr startTime) →
    request.param? "endTime" = some (Int.repr endTime) →
    request.param? "limit" = some (Int.repr limit) →
    ∃ json, wire n request = .ok ⟨httpOk, .ok json⟩ ∧
      FundingRates.fromJson externals json =
        .ok ((history.inRange startTime endTime).take limit.toNat)

/-- An exchange that serves a history under a given encoding of its records. -/
def wire (history : FundingHistory) (symbol : String)
    (encode : FundingRate → Json) : Wire := fun _ request =>
  if request.verb = .get ∧
      request.api ++ request.target.path = "/fapi/v1/fundingRate?" ∧
      request.param? "symbol" = some symbol then
    match (request.param? "startTime").bind String.toInt?,
        (request.param? "endTime").bind String.toInt?,
        (request.param? "limit").bind String.toInt? with
    | some startTime, some endTime, some limit =>
        .ok ⟨httpOk, .ok (.array
          (((history.inRange startTime endTime).take limit.toNat).map encode))⟩
    | _, _, _ => .error (.standard "bad request")
  else
    .error (.standard "bad request")

theorem wire_serves (history : FundingHistory) (symbol : String)
    {externals : Externals} {encode : FundingRate → Json}
    (decodes : ∀ rate ∈ history.rates,
      FundingRate.fromJson externals (encode rate) = .ok rate) :
    history.Serves symbol externals (history.wire symbol encode) := by
  intro n request startTime endTime limit isGet path symbolSent startSent endSent
    limitSent
  refine ⟨_, ?_, FundingRates.fromJson_rows encode ?_⟩
  · simp [wire, isGet, path, symbolSent, startSent, endSent, limitSent]
  · intro rate membership
    apply decodes
    exact (history.mem_inRange_iff.mp (List.mem_of_mem_take membership)).1

end FundingHistory

namespace RESTClient

/-- Against the endpoint of a history, a page request with every bound set
returns the page the endpoint answers with. -/
theorem P.getFundingRates_of_serves {history : FundingHistory} {symbol : String}
    {externals : Externals} {wire : Wire}
    (serves : history.Serves symbol externals wire) (n : Nat)
    {startTime endTime limit : Int} (startSet : startTime ≠ -1)
    (endSet : endTime ≠ -1) (limitSet : limit ≠ -1) :
    P.getFundingRates externals (.futures wire) n symbol startTime endTime limit =
      .ok ((history.inRange startTime endTime).take limit.toNat) := by
  rcases fundingRateRequest_params symbol startTime endTime limit with
    ⟨symbolSent, startSent, endSent, limitSent⟩
  rw [sent_of_ne startSet] at startSent
  rw [sent_of_ne endSet] at endSent
  rw [sent_of_ne limitSet] at limitSent
  rcases serves n _ startTime endTime limit rfl (fundingRateRequest_path ..) symbolSent
    startSent endSent limitSent with ⟨json, answer, decoded⟩
  exact P.getFundingRates_of_answer answer decoded

section Download

variable {history : FundingHistory} {startTime endTime limit : Int}
  {page : Nat → Int → Throws (List FundingRate)}

/-- A range that fits into one page: the download returns it. -/
theorem downloadFundingRates_of_fits
    (pages : ∀ n fromTime, 0 ≤ fromTime → fromTime < endTime →
      page n fromTime = .ok ((history.inRange fromTime endTime).take limit.toNat))
    (limitPos : 1 ≤ limit) (startNonneg : 0 ≤ startTime)
    (before : startTime < endTime)
    (fits : (history.inRange startTime endTime).length ≤ limit.toNat)
    (requests : Nat) :
    Loop.Ends (downloadFundingRates page requests startTime endTime)
      (.ok (history.inRange startTime endTime)) := by
  have first := fetch_of_lt before (pages requests startTime startNonneg before)
  rw [List.take_of_length_le fits] at first
  unfold downloadFundingRates
  simp only [first]
  apply Loop.Returns.ends
  cases lastEq : (history.inRange startTime endTime).getLast? with
  | none =>
      apply Loop.returns_of_leave
      simp [FundingDownload.body, List.getLast?_eq_none_iff.mp lastEq]
  | some last =>
      rcases List.getLast?_eq_some_iff.mp lastEq with ⟨front, frontEq⟩
      have rest : history.inRange last.fundingTime endTime = [last] := by
        apply history.inRange_fundingTime
        rw [frontEq, List.append_nil]
      have lastMem : last ∈ history.inRange startTime endTime := by simp [frontEq]
      have lastStart := (history.mem_inRange_iff.mp lastMem).2.1
      by_cases earlier : last.fundingTime < endTime
      · have again := pages (requests + 1) last.fundingTime (by omega) earlier
        have one : limit.toNat ≠ 0 := by omega
        rw [rest, List.take_of_length_le (by simp; omega)] at again
        apply Loop.returns_of_leave
        simp [FundingDownload.body, lastEq, fetch_of_lt earlier again]
      · apply (Loop.returns_again_iff (by
          simp only [FundingDownload.body, lastEq, fetch_of_ge (not_lt.mp earlier)]
          rfl)).mpr
        apply Loop.returns_of_leave
        simp [FundingDownload.body]

/-- Whatever the loop has gathered stays at the front of what it returns. -/
theorem FundingDownload.prefix_of_returns {gathered result : List FundingRate}
    {state : FundingDownload} (start : gathered <+: state.retVal ++ state.fr)
    (returns : Loop.Returns (body page endTime) state (.ok result)) :
    gathered <+: result := by
  have post := returns.post
    (fun state : FundingDownload => gathered <+: state.retVal ++ state.fr)
    (fun value => ∀ list, value = .ok list → gathered <+: list)
  refine post ?_ ?_ start result rfl
  · intro state next kept turn
    simp only [body] at turn
    split at turn
    · cases turn
    · split at turn
      · cases turn
      · split at turn
        · cases turn
        · cases turn
          exact kept.trans (List.prefix_append _ _)
  · intro state value kept turn list isList
    subst isList
    simp only [body] at turn
    split at turn
    next empty =>
      cases turn
      simpa [List.getLast?_eq_none_iff.mp empty] using kept
    next =>
      split at turn
      · cases turn
      · split at turn
        · cases turn
          exact kept
        · cases turn

/-- A range that does not fit into one page: with a limit of one the download
stops after the first record, with any other the second page brings the last
record of the first one again. -/
theorem downloadFundingRates_of_exceeds
    (pages : ∀ n fromTime, 0 ≤ fromTime → fromTime < endTime →
      page n fromTime = .ok ((history.inRange fromTime endTime).take limit.toNat))
    (limitPos : 1 ≤ limit) (startNonneg : 0 ≤ startTime)
    (before : startTime < endTime)
    (exceeds : limit.toNat < (history.inRange startTime endTime).length)
    {requests : Nat} {result : List FundingRate}
    (ends : Loop.Ends (downloadFundingRates page requests startTime endTime)
      (.ok result)) :
    result ≠ history.inRange startTime endTime := by
  intro exact
  have first := fetch_of_lt before (pages requests startTime startNonneg before)
  unfold downloadFundingRates at ends
  simp only [first] at ends
  have returns := ends.returns
  have sizePos : 0 < limit.toNat := by omega
  rcases history.exists_split_of_exceeds sizePos exceeds with
    ⟨front, last, next, rest, frontEq, split⟩
  have increasing := history.inRange_increasing startTime endTime
  rw [split] at increasing
  have later : last.fundingTime < next.fundingTime :=
    (List.pairwise_append.mp increasing).2.2 last (by simp) next (by simp)
  have lastBounds := history.mem_inRange_iff.mp
    (by simp [split] : last ∈ history.inRange startTime endTime)
  have nextBounds := history.mem_inRange_iff.mp
    (by simp [split] : next ∈ history.inRange startTime endTime)
  have earlier : last.fundingTime < endTime := by omega
  have second := fetch_of_lt earlier
    (pages (requests + 1) last.fundingTime (by omega) earlier)
  rw [history.inRange_fundingTime split] at second
  rw [frontEq] at returns
  by_cases one : limit.toNat = 1
  · -- the second page is the last record alone
    have turn : FundingDownload.body page endTime
        { retVal := [], lastFromTime := startTime, fr := front ++ [last],
          requests := requests + 1 } = .leave (.ok (front ++ [last])) := by
      rw [one] at second
      simp [FundingDownload.body, second]
    have stopped := (Loop.returns_leave_iff turn).mp returns
    rw [exact, split] at stopped
    simp at stopped
  · -- the second page starts with the last record and goes on
    have turn : FundingDownload.body page endTime
        { retVal := [], lastFromTime := startTime, fr := front ++ [last],
          requests := requests + 1 } =
        .again {
          retVal := front ++ [last]
          lastFromTime := last.fundingTime
          fr := (last :: next :: rest).take limit.toNat
          requests := requests + 1 + 1 } := by
      have longer : ((last :: next :: rest).take limit.toNat).length ≠ 1 := by
        simp only [List.length_take, List.length_cons]
        omega
      simp only [FundingDownload.body, List.getLast?_concat, second, longer, false_and,
        if_false, List.nil_append]
    have repeated : front ++ [last] ++ [last] <+:
        front ++ [last] ++ (last :: next :: rest).take limit.toNat := by
      rcases Nat.exists_eq_succ_of_ne_zero sizePos.ne' with ⟨size, sizeEq⟩
      simp [sizeEq]
    have gathered := FundingDownload.prefix_of_returns repeated
      ((Loop.returns_again_iff turn).mp returns)
    rw [exact, split] at gathered
    have equal : last = next := by simpa using gathered
    rw [equal] at later
    exact lt_irrefl _ later

/-- One amount of fuel that finishes the download settles its result. -/
theorem downloadFundingRates_ends {requests : Nat} (fuel : Nat)
    {result : Throws (List FundingRate)}
    (finished : downloadFundingRates page requests startTime endTime fuel =
      some result) :
    Loop.Ends (downloadFundingRates page requests startTime endTime) result := by
  refine ⟨fuel, fun extra => ?_⟩
  simp only [downloadFundingRates] at finished ⊢
  split at finished
  · exact finished
  · exact Loop.run_mono finished

end Download

end RESTClient

/-- The download returns every record of the range once and in order exactly when
the range fits into one page. -/
theorem getFundingRates_exact_iff (externals : Externals) (history : FundingHistory)
    (requests : Nat) (symbol : String) (startTime endTime limit : Int) (wire : Wire)
    (serves : history.Serves symbol externals wire) (limitPos : 1 ≤ limit)
    (startNonneg : 0 ≤ startTime) (before : startTime < endTime) :
    Loop.Ends
        (RESTClient.getFundingRates externals (.futures wire) requests symbol
          startTime endTime limit)
        (.ok (history.inRange startTime endTime)) ↔
      (history.inRange startTime endTime).length ≤ limit.toNat := by
  have pages : ∀ n fromTime, 0 ≤ fromTime → fromTime < endTime →
      RESTClient.P.getFundingRates externals (.futures wire) n symbol fromTime
        endTime limit = .ok ((history.inRange fromTime endTime).take limit.toNat) := by
    intro n fromTime fromNonneg _
    apply RESTClient.P.getFundingRates_of_serves serves <;> omega
  constructor
  · intro ends
    by_contra exceeds
    exact RESTClient.downloadFundingRates_of_exceeds pages limitPos startNonneg before
      (not_le.mp exceeds) ends rfl
  · intro fits
    exact RESTClient.downloadFundingRates_of_fits pages limitPos startNonneg before
      fits requests

namespace FundingHistory

/-- The record of one funding time. -/
def sampleRate (fundingTime : Int) : FundingRate :=
  { symbol := "BTCUSDT", fundingRate := 1 / 10000, fundingTime }

/-- Three consecutive funding times. -/
def sample : FundingHistory where
  rates := [sampleRate 0, sampleRate 28800000, sampleRate 57600000]
  increasing := by
    simp only [Paging.Increasing]
    decide

/-- The exchange's encoding of a record. -/
def row (rate : FundingRate) : Json :=
  .object [("fundingRate", .string rate.fundingRate.toString),
    ("fundingTime", .integer rate.fundingTime), ("symbol", .string rate.symbol)]

theorem sample_decodes :
    ∀ rate ∈ sample.rates, FundingRate.fromJson .plain (row rate) = .ok rate := by
  decide +kernel

end FundingHistory

theorem getFundingRates_exact_sample :
    Loop.Ends
        (RESTClient.getFundingRates .plain
          (.futures (FundingHistory.sample.wire "BTCUSDT" FundingHistory.row)) 0
          "BTCUSDT" 0 60000000 3)
        (.ok (FundingHistory.sample.inRange 0 60000000)) ↔
      (FundingHistory.sample.inRange 0 60000000).length ≤ 3 :=
  getFundingRates_exact_iff .plain .sample 0 "BTCUSDT" 0 60000000 3 _
    (FundingHistory.sample.wire_serves "BTCUSDT" FundingHistory.sample_decodes)
    (by decide) (by decide) (by decide)

/-- With pages of two, the second of three records comes twice. -/
theorem getFundingRates_repeats_sample :
    Loop.Ends
        (RESTClient.getFundingRates .plain
          (.futures (FundingHistory.sample.wire "BTCUSDT" FundingHistory.row)) 0
          "BTCUSDT" 0 60000000 2)
        (.ok ([0, 28800000, 28800000, 57600000].map FundingHistory.sampleRate)) ∧
      ¬Loop.Ends
        (RESTClient.getFundingRates .plain
          (.futures (FundingHistory.sample.wire "BTCUSDT" FundingHistory.row)) 0
          "BTCUSDT" 0 60000000 2)
        (.ok (FundingHistory.sample.inRange 0 60000000)) := by
  have pages : ∀ n fromTime, 0 ≤ fromTime →
      RESTClient.P.getFundingRates .plain
        (.futures (FundingHistory.sample.wire "BTCUSDT" FundingHistory.row)) n "BTCUSDT"
        fromTime 60000000 2 =
        .ok ((FundingHistory.sample.inRange fromTime 60000000).take 2) := by
    intro n fromTime fromNonneg
    apply RESTClient.P.getFundingRates_of_serves
      (FundingHistory.sample.wire_serves "BTCUSDT" FundingHistory.sample_decodes) <;>
      omega
  have first := pages 0 0 (by decide)
  have second := pages 1 28800000 (by decide)
  have third := pages 2 57600000 (by decide)
  unfold RESTClient.getFundingRates
  generalize RESTClient.P.getFundingRates .plain
    (.futures (FundingHistory.sample.wire "BTCUSDT" FundingHistory.row)) = request at *
  have repeats : Loop.Ends
      (RESTClient.downloadFundingRates
        (fun n lastFromTime => request n "BTCUSDT" lastFromTime 60000000 2)
        0 0 60000000)
      (.ok ([0, 28800000, 28800000, 57600000].map FundingHistory.sampleRate)) := by
    apply RESTClient.downloadFundingRates_ends 4
    simp [RESTClient.downloadFundingRates, fetch, first, second, third, Loop.run,
      RESTClient.FundingDownload.body, FundingHistory.inRange, FundingHistory.sample,
      FundingHistory.sampleRate, bind, Except.bind, pure, Except.pure]
  refine ⟨repeats, fun exact => ?_⟩
  have same := repeats.unique exact
  revert same
  decide +kernel

end BinanceApi.Futures
