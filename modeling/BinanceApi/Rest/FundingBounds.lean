import BinanceApi.Rest.FundingRequests

/-!
# Funding rates without bounds

A time of `-1` is not sent, so the exchange takes it for no bound; the download
compares it as a number before it asks for anything.
-/

namespace BinanceApi.Futures

open BinanceApi.RESTClient (fetch_of_ge sent sent_of_ne)

namespace FundingHistory

/-- The number of records a page may have. -/
def pageSize (defaultLimit : Nat) (limit : Option Int) : Nat :=
  (limit.map Int.toNat).getD defaultLimit

/-- The exchange's answer: the first records from a start on, or the most recent ones
if no start is sent. -/
def answer (history : FundingHistory) (defaultLimit : Nat)
    (startTime endTime limit : Option Int) : List FundingRate :=
  let inside := history.rates.filter fun rate =>
    startTime.all (· ≤ rate.fundingTime) && endTime.all (rate.fundingTime ≤ ·)
  if startTime.isSome then inside.take (pageSize defaultLimit limit)
  else inside.rtake (pageSize defaultLimit limit)

/-- The exchange's funding-rate endpoint, which takes a missing time for no bound. -/
def ServesUnset (history : FundingHistory) (defaultLimit : Nat) (symbol : String)
    (externals : Externals) (wire : Wire) : Prop :=
  ∀ n request (startTime endTime limit : Option Int),
    request.verb = .get →
    request.api ++ request.target.path = "/fapi/v1/fundingRate?" →
    request.param? "symbol" = some symbol →
    request.param? "startTime" = startTime.map Int.repr →
    request.param? "endTime" = endTime.map Int.repr →
    request.param? "limit" = limit.map Int.repr →
    ∃ json, wire n request = .ok ⟨httpOk, .ok json⟩ ∧
      FundingRates.fromJson externals json =
        .ok (history.answer defaultLimit startTime endTime limit)

/-- An exchange that serves a history, whichever bounds are missing. -/
def wireUnset (history : FundingHistory) (defaultLimit : Nat) (symbol : String)
    (encode : FundingRate → Json) : Wire := fun _ request =>
  if request.verb = .get ∧
      request.api ++ request.target.path = "/fapi/v1/fundingRate?" ∧
      request.param? "symbol" = some symbol then
    .ok ⟨httpOk, .ok (.array ((history.answer defaultLimit
      ((request.param? "startTime").bind String.toInt?)
      ((request.param? "endTime").bind String.toInt?)
      ((request.param? "limit").bind String.toInt?)).map encode))⟩
  else
    .error (.standard "bad request")

theorem answer_subset (history : FundingHistory) (defaultLimit : Nat)
    (startTime endTime limit : Option Int) :
    history.answer defaultLimit startTime endTime limit ⊆ history.rates := by
  intro rate membership
  simp only [answer] at membership
  split at membership
  · exact List.mem_of_mem_filter (List.mem_of_mem_take membership)
  · exact List.mem_of_mem_filter (List.mem_of_mem_drop membership)

theorem wireUnset_serves (history : FundingHistory) (defaultLimit : Nat)
    (symbol : String) {externals : Externals} {encode : FundingRate → Json}
    (decodes : ∀ rate ∈ history.rates,
      FundingRate.fromJson externals (encode rate) = .ok rate) :
    history.ServesUnset defaultLimit symbol externals
      (history.wireUnset defaultLimit symbol encode) := by
  intro n request startTime endTime limit isGet path symbolSent startSent endSent
    limitSent
  have readBack : ∀ value : Option Int, (value.map Int.repr).bind String.toInt? = value := by
    intro value
    cases value <;> simp
  refine ⟨_, ?_, FundingRates.fromJson_rows encode ?_⟩
  · simp only [wireUnset, isGet, path, symbolSent, startSent, endSent, limitSent, readBack,
      and_self, if_true]
  · intro rate membership
    exact decodes rate (history.answer_subset defaultLimit startTime endTime limit
      membership)

end FundingHistory

namespace RESTClient

theorem P.getFundingRates_of_servesUnset {history : FundingHistory} {defaultLimit : Nat}
    {symbol : String} {externals : Externals} {wire : Wire}
    (serves : history.ServesUnset defaultLimit symbol externals wire) (n : Nat)
    (startTime endTime limit : Int) :
    P.getFundingRates externals (.futures wire) n symbol startTime endTime limit =
      .ok (history.answer defaultLimit (sent startTime) (sent endTime) (sent limit)) := by
  rcases fundingRateRequest_params symbol startTime endTime limit with
    ⟨symbolSent, startSent, endSent, limitSent⟩
  rcases serves n _ (sent startTime) (sent endTime) (sent limit) rfl
    (fundingRateRequest_path ..) symbolSent startSent endSent limitSent with
    ⟨json, answer, decoded⟩
  exact P.getFundingRates_of_answer answer decoded

/-- A download whose start is not below its end asks for nothing. -/
theorem downloadFundingRates_of_ge {page : Nat → Int → Throws (List FundingRate)}
    {startTime endTime : Int} (after : endTime ≤ startTime) (requests : Nat) :
    Loop.Ends (downloadFundingRates page requests startTime endTime) (.ok []) := by
  unfold downloadFundingRates
  simp only [fetch_of_ge after]
  apply Loop.Returns.ends
  apply Loop.returns_of_leave
  simp [FundingDownload.body]

end RESTClient

namespace FundingHistory

/-- No two records of a history share their time, so its downloads do not stall. -/
theorem not_stalls (history : FundingHistory) {limit : Nat} (time : Int) :
    ¬RESTClient.Stalls history.rates limit time := by
  have single : (RESTClient.recordsAt history.rates time).length ≤ 1 := by
    have increasing : Paging.Increasing FundingRate.fundingTime
        (RESTClient.recordsAt history.rates time) :=
      history.increasing.sublist List.filter_sublist
    have atTime : ∀ rate ∈ RESTClient.recordsAt history.rates time,
        rate.fundingTime = time := by
      intro rate membership
      simpa using (List.mem_filter.mp membership).2
    cases shared : RESTClient.recordsAt history.rates time with
    | nil => simp
    | cons first rest =>
        cases rest with
        | nil => simp
        | cons second others =>
            rw [shared] at increasing atTime
            have apart := (List.pairwise_cons.mp increasing).1 second List.mem_cons_self
            rw [atTime first (by simp), atTime second (by simp)] at apart
            exact absurd apart (lt_irrefl time)
  rintro ⟨many, full | ⟨-, several⟩⟩ <;> omega

/-- A request with a start but no end is answered with the records from there on. -/
theorem answer_from (history : FundingHistory) (defaultLimit : Nat) (fromTime : Int)
    (limit : Option Int) :
    history.answer defaultLimit (some fromTime) none limit =
      (RESTClient.recordsFrom history.rates fromTime).take
        (pageSize defaultLimit limit) := by
  simp [answer, RESTClient.recordsFrom]

/-- The most recent records of a history, as many as a page may have. -/
def mostRecent (history : FundingHistory) (defaultLimit : Nat) (limit : Int) :
    List FundingRate :=
  history.rates.rtake (pageSize defaultLimit (sent limit))

theorem two_le_pageSize {defaultLimit : Nat} (defaultOk : 2 ≤ defaultLimit) {limit : Int}
    (limitOk : limit = -1 ∨ 2 ≤ limit) :
    2 ≤ pageSize defaultLimit (sent limit) := by
  simp only [pageSize, sent]
  split
  · exact defaultOk
  · simp only [Option.map_some, Option.getD_some]
    omega

theorem mostRecent_eq_nil_iff {history : FundingHistory} {defaultLimit : Nat}
    (defaultOk : 2 ≤ defaultLimit) {limit : Int} (limitOk : limit = -1 ∨ 2 ≤ limit) :
    history.mostRecent defaultLimit limit = [] ↔ history.rates = [] := by
  have several := two_le_pageSize defaultOk limitOk
  rw [mostRecent, List.rtake, List.drop_eq_nil_iff, ← List.length_eq_zero_iff]
  omega

end FundingHistory

/-- From a start below `-1` the loop runs, and returns the first page at least. -/
theorem RESTClient.getFundingRates_from {history : FundingHistory} {defaultLimit : Nat}
    {symbol : String} {externals : Externals} {wire : Wire}
    (serves : history.ServesUnset defaultLimit symbol externals wire)
    (defaultOk : 2 ≤ defaultLimit) {startTime limit : Int}
    (limitOk : limit = -1 ∨ 2 ≤ limit) (below : startTime < -1) (requests : Nat) :
    ∃ result,
      Loop.Ends
        (getFundingRates externals (.futures wire) requests symbol startTime (-1) limit)
        (.ok result) ∧
      ((∃ rate ∈ history.rates, startTime ≤ rate.fundingTime) → result ≠ []) := by
  have several := FundingHistory.two_le_pageSize defaultOk limitOk
  have pages : ∀ n fromTime, startTime ≤ fromTime → fromTime < -1 →
      P.getFundingRates externals (.futures wire) n symbol fromTime (-1) limit =
        .ok ((recordsFrom history.rates fromTime).take
          (FundingHistory.pageSize defaultLimit (sent limit))) := by
    intro n fromTime _ fromBelow
    rw [P.getFundingRates_of_servesUnset serves, sent_of_ne (by omega : fromTime ≠ -1)]
    exact congrArg Except.ok (history.answer_from defaultLimit fromTime (sent limit))
  rcases ends_of_moves pages history.increasing.ordered (by omega) below
      (fun time _ _ => history.not_stalls time) requests with ⟨result, ends, gathered⟩
  refine ⟨result, ends, ?_⟩
  intro recorded empty
  rcases recorded with ⟨rate, member, later⟩
  rw [empty, List.prefix_nil, List.take_eq_nil_iff] at gathered
  rcases gathered with none | none
  · omega
  · have inside := mem_recordsFrom_iff.mpr ⟨member, later⟩
    rw [none] at inside
    cases inside

/-- Without any bound the download returns the most recent records exactly when there
are none; with a start alone it returns something where there is something exactly
when that start is below `-1`, or there is nothing. -/
theorem getFundingRates_unset_iff (externals : Externals) (history : FundingHistory)
    (defaultLimit requests : Nat) (symbol : String) (limit : Int) (wire : Wire)
    (serves : history.ServesUnset defaultLimit symbol externals wire)
    (defaultOk : 2 ≤ defaultLimit) (limitOk : limit = -1 ∨ 2 ≤ limit) :
    (Loop.Ends
        (RESTClient.getFundingRates externals (.futures wire) requests symbol (-1) (-1)
          limit)
        (.ok (history.mostRecent defaultLimit limit)) ↔
      history.rates = []) ∧
    ∀ startTime,
      (∃ result,
        Loop.Ends
          (RESTClient.getFundingRates externals (.futures wire) requests symbol startTime
            (-1) limit)
          (.ok result) ∧
        ((∃ rate ∈ history.rates, startTime ≤ rate.fundingTime) → result ≠ [])) ↔
      startTime < -1 ∨ ∀ rate ∈ history.rates, rate.fundingTime < startTime := by
  have nothing : ∀ startTime, -1 ≤ startTime → Loop.Ends
      (RESTClient.getFundingRates externals (.futures wire) requests symbol startTime (-1)
        limit) (.ok []) :=
    fun _ after => RESTClient.downloadFundingRates_of_ge after requests
  constructor
  · rw [← FundingHistory.mostRecent_eq_nil_iff defaultOk limitOk]
    constructor
    · intro ends
      exact Except.ok.inj (ends.unique (nothing (-1) (le_refl _)))
    · intro empty
      rw [empty]
      exact nothing (-1) (le_refl _)
  · intro startTime
    constructor
    · intro served
      rcases served with ⟨result, ends, found⟩
      by_contra neither
      simp only [not_or, not_lt, not_forall] at neither
      rcases neither with ⟨after, rate, member, later⟩
      have empty := Except.ok.inj (ends.unique (nothing startTime after))
      exact found ⟨rate, member, later⟩ empty
    · intro either
      by_cases below : startTime < -1
      · exact RESTClient.getFundingRates_from serves defaultOk limitOk below requests
      · refine ⟨[], nothing startTime (not_lt.mp below), ?_⟩
        intro recorded
        rcases recorded with ⟨rate, member, later⟩
        have earlier := either.resolve_left below rate member
        omega

theorem FundingHistory.sample_servesUnset :
    FundingHistory.sample.ServesUnset 100 "BTCUSDT" .plain
      (FundingHistory.sample.wireUnset 100 "BTCUSDT" FundingHistory.row) :=
  FundingHistory.sample.wireUnset_serves 100 "BTCUSDT" FundingHistory.sample_decodes

/-- A start below the sentinel is compared as the number it is, and the records come
back. -/
theorem getFundingRates_unset_sample :
    ∃ result,
      Loop.Ends
        (RESTClient.getFundingRates .plain
          (.futures (FundingHistory.sample.wireUnset 100 "BTCUSDT" FundingHistory.row)) 0
          "BTCUSDT" (-2) (-1) (-1))
        (.ok result) ∧
      result ≠ [] := by
  obtain ⟨result, ends, found⟩ :=
    ((getFundingRates_unset_iff .plain .sample 100 0 "BTCUSDT" (-1) _
      FundingHistory.sample_servesUnset (by decide) (by decide)).2 (-2)).mpr
        (.inl (by decide))
  exact ⟨result, ends, found (by decide)⟩

/-- Three records, and neither the latest ones nor those from the first on are
returned. -/
theorem getFundingRates_unset_empty_sample :
    Loop.Ends
        (RESTClient.getFundingRates .plain
          (.futures (FundingHistory.sample.wireUnset 100 "BTCUSDT" FundingHistory.row)) 0
          "BTCUSDT" (-1) (-1) (-1))
        (.ok []) ∧
      FundingHistory.sample.mostRecent 100 (-1) = FundingHistory.sample.rates ∧
      Loop.Ends
        (RESTClient.getFundingRates .plain
          (.futures (FundingHistory.sample.wireUnset 100 "BTCUSDT" FundingHistory.row)) 0
          "BTCUSDT" 0 (-1) 100)
        (.ok []) ∧
      ∃ rate ∈ FundingHistory.sample.rates, 0 ≤ rate.fundingTime :=
  ⟨RESTClient.downloadFundingRates_of_ge (le_refl _) 0, rfl,
    RESTClient.downloadFundingRates_of_ge (by decide) 0, by decide⟩

end BinanceApi.Futures
