import BinanceApi.Http
import BinanceApi.Models.Definedness

/-!
# Answers that are decoded safely

The latest funding rate of a symbol is the last element of a sorted list, whether or not
that list has an element.  A stream session decodes every object that is not an error of
the API.  Together with the decoders of the models, these are the places at which an
answer of the server is indexed without a check.
-/

namespace BinanceApi

/-- `std::ranges::sort` by a key: a permutation in which the keys ascend.  How elements
with the same key are arranged is not specified. -/
structure Sorting {α : Type} (key : α → Int) where
  run : List α → List α
  perm : ∀ list, (run list).Perm list
  ascending : ∀ list, (run list).Pairwise fun earlier later => key earlier ≤ key later

/-- The stable one among them. -/
def Sorting.stable {α : Type} (key : α → Int) : Sorting key where
  run list := list.mergeSort fun earlier later => key earlier ≤ key later
  perm list := list.mergeSort_perm _
  ascending list := by
    have transitive : ∀ first second third : α, decide (key first ≤ key second) = true →
        decide (key second ≤ key third) = true → decide (key first ≤ key third) = true := by
      intro first second third
      simp only [decide_eq_true_eq]
      exact Int.le_trans
    have total : ∀ first second : α,
        (decide (key first ≤ key second) || decide (key second ≤ key first)) = true := by
      intro first second
      simp only [Bool.or_eq_true, decide_eq_true_eq]
      exact Int.le_total _ _
    exact (List.pairwise_mergeSort transitive total list).imp of_decide_eq_true

/-- `std::vector::back`, undefined on an empty vector. -/
def back {α : Type} (list : List α) : Evaluates α :=
  match list.getLast? with
  | some last => .ok last
  | none => .error (.undefined "back")

theorem defined_back_iff {α : Type} {list : List α} : Defined (back list) ↔ list ≠ [] := by
  rcases list.eq_nil_or_concat' with rfl | ⟨front, last, rfl⟩
  · simp [back, Defined, Outcomes.avoids_error_iff, Fault.IsUndefined]
  · simp [back, Defined, Outcomes.avoids_ok]

/-- The last element of a sorted list has the greatest key. -/
theorem Sorting.back_greatest {α : Type} {key : α → Int} (sorting : Sorting key)
    {list : List α} {last : α} (returned : back (sorting.run list) = .ok last) :
    last ∈ list ∧ ∀ other ∈ list, key other ≤ key last := by
  have ascending := sorting.ascending list
  simp only [← (sorting.perm list).mem_iff]
  rcases (sorting.run list).eq_nil_or_concat' with empty | ⟨front, final, split⟩
  · rw [empty] at returned
    cases returned
  · rw [split] at returned ascending ⊢
    have same : final = last := by simpa [back] using returned
    subst same
    refine ⟨by simp, ?_⟩
    intro other membership
    rcases List.mem_append.mp membership with earlier | equal
    · exact (List.pairwise_append.mp ascending).2.2 other earlier final (by simp)
    · rw [List.mem_singleton.mp equal]

namespace Futures

namespace RESTClient

/-- The records that the exchange answers with. -/
def lastFundingRates (externals : Externals) (session : HTTPSession) (n : Nat)
    (symbol : String) : Throws (List FundingRate) := do
  let response ← session.get n (Target.mk "fundingRate?" [("symbol", symbol)]) true
  let response ← checkResponse externals response
  FundingRates.fromJson externals (← response.json)

def getLastFundingRate (externals : Externals) (sorting : Sorting FundingRate.fundingTime)
    (session : HTTPSession) (n : Nat) (symbol : String) : Evaluates FundingRate := do
  if symbol = "" then
    throw (.raised (.standard "Invalid parameter, symbol must be specified"))
  else
    let fundingRates ← (lastFundingRates externals session n symbol).lift
    back (sorting.run fundingRates)

/-- An empty list of records is the one answer that leads to an undefined access. -/
theorem defined_getLastFundingRate_iff (externals : Externals)
    (sorting : Sorting FundingRate.fundingTime) (session : HTTPSession) (n : Nat)
    (symbol : String) :
    Defined (getLastFundingRate externals sorting session n symbol) ↔
      (symbol ≠ "" → lastFundingRates externals session n symbol ≠ .ok []) := by
  simp only [getLastFundingRate]
  split
  next empty =>
    have raised : Defined (.error
        (.raised (.standard "Invalid parameter, symbol must be specified")) :
          Evaluates FundingRate) :=
      Outcomes.avoids_error_iff.mpr id
    exact iff_of_true raised fun specified => absurd empty specified
  next specified =>
    simp only [defined_bind_iff, defined_lift, true_and, Throws.lift_eq_ok_iff,
      defined_back_iff, ne_eq, specified, not_false_eq_true, true_imp_iff]
    constructor
    · intro nonempty answered
      exact nonempty [] answered ((sorting.perm []).eq_nil)
    · intro nonempty fundingRates answered empty
      have none := (sorting.perm fundingRates).symm
      rw [empty] at none
      rw [none.eq_nil] at answered
      exact nonempty answered

/-- What is returned is a record of the answer, and none of it is later. -/
theorem getLastFundingRate_greatest {externals : Externals}
    {sorting : Sorting FundingRate.fundingTime} {session : HTTPSession} {n : Nat}
    {symbol : String} {rate : FundingRate}
    (returned : getLastFundingRate externals sorting session n symbol = .ok rate) :
    ∃ fundingRates, lastFundingRates externals session n symbol = .ok fundingRates ∧
      rate ∈ fundingRates ∧ ∀ other ∈ fundingRates, other.fundingTime ≤ rate.fundingTime := by
  simp only [getLastFundingRate] at returned
  split at returned
  next => cases returned
  next =>
    rcases exists_of_bind_ok returned with ⟨fundingRates, answered, last⟩
    exact ⟨fundingRates, Throws.lift_eq_ok_iff.mp answered, sorting.back_greatest last⟩

end RESTClient

namespace WebSocketSession

/-- `P::isApiError`. -/
def P.isApiError (json : Json) : Bool :=
  json.contains "code" && json.contains "msg"

/-- What `P::onRead` does with a message of a candlestick stream: it hands objects that
are no errors to the decoder, and nothing else. -/
def P.readCandlestick (externals : Externals) (json : Json) :
    Evaluates (Option EventCandlestick) :=
  if json.isObject && !isApiError json then do
    return some (← EventCandlestick.fromJson externals json)
  else return none

theorem P.defined_readCandlestick_iff (externals : Externals) (json : Json) :
    Defined (readCandlestick externals json) ↔
      (json.isObject = true → isApiError json = false →
        (externals.readString json "s" "").isOk = true → json.contains "k" = true) := by
  simp only [readCandlestick]
  split
  next decoded =>
    simp only [Bool.and_eq_true, Bool.not_eq_true'] at decoded
    simp only [defined_bind_iff, EventCandlestick.defined_fromJson_iff, defined_pure,
      implies_true, and_true, EventCandlestick.CandlePresent, decoded, true_imp_iff]
  next passed =>
    simp only [Bool.and_eq_true, Bool.not_eq_true', not_and] at passed
    exact iff_of_true (defined_pure none) fun object noError => absurd noError (passed object)

end WebSocketSession

end Futures

/-- Each decoder returns or throws on exactly those documents that contain what it
indexes, unless an earlier read throws.  The latest funding rate of an answer is undefined
only if the answer is the empty list, and otherwise has the greatest time in it. -/
theorem decoders_defined_iff (externals : Externals) :
    (∀ json, Defined (Candle.fromJson json) ↔ Candle.RowSafe json) ∧
    (∀ json, Defined (Futures.Account.fromJson externals json) ↔
      Futures.Account.ListPresent externals json) ∧
    (∀ json, Defined (Spot.Exchange.fromJson externals json) ↔
      Spot.Exchange.ListsPresent externals json) ∧
    (∀ json, Defined (Futures.Exchange.fromJson externals json) ↔
      Futures.Exchange.ListsPresent externals json) ∧
    (∀ json, Defined (Futures.Symbol.fromJson externals json) ↔
      Futures.Symbol.ListsPresent externals json) ∧
    (∀ json, Defined (Futures.WebSocketSession.P.readCandlestick externals json) ↔
      (json.isObject = true → Futures.WebSocketSession.P.isApiError json = false →
        (externals.readString json "s" "").isOk = true → json.contains "k" = true)) ∧
    ∀ (sorting : Sorting Futures.FundingRate.fundingTime) session n symbol,
      (Defined (Futures.RESTClient.getLastFundingRate externals sorting session n symbol) ↔
        (symbol ≠ "" →
          Futures.RESTClient.lastFundingRates externals session n symbol ≠ .ok [])) ∧
      ∀ rate,
        Futures.RESTClient.getLastFundingRate externals sorting session n symbol =
          .ok rate →
        ∃ fundingRates,
          Futures.RESTClient.lastFundingRates externals session n symbol =
            .ok fundingRates ∧
          rate ∈ fundingRates ∧
          ∀ other ∈ fundingRates, other.fundingTime ≤ rate.fundingTime :=
  ⟨Candle.defined_fromJson_iff, Futures.Account.defined_fromJson_iff externals,
    Spot.Exchange.defined_fromJson_iff externals,
    Futures.Exchange.defined_fromJson_iff externals,
    Futures.Symbol.defined_fromJson_iff externals,
    Futures.WebSocketSession.P.defined_readCandlestick_iff externals,
    fun sorting session n symbol =>
      ⟨Futures.RESTClient.defined_getLastFundingRate_iff externals sorting session n symbol,
        fun _ => Futures.RESTClient.getLastFundingRate_greatest⟩⟩

theorem not_defined_of_eq {α : Type} {result : Evaluates α} (what : String)
    (undefined : result = .error (.undefined what)) : ¬Defined result :=
  fun defined => defined _ undefined trivial

/-- A row without elements, objects without members, the control message of a
subscription, and an answer without funding rates. -/
theorem decoders_undefined_sample :
    ¬Defined (Candle.fromJson (.array [])) ∧
    ¬Defined (Futures.Account.fromJson .plain (.object [])) ∧
    ¬Defined (Spot.Exchange.fromJson .plain (.object [])) ∧
    ¬Defined (Futures.Exchange.fromJson .plain (.object [])) ∧
    ¬Defined (Futures.Symbol.fromJson .plain (.object [])) ∧
    ¬Defined (Futures.WebSocketSession.P.readCandlestick .plain
      (.object [("id", .integer 1), ("result", .null)])) ∧
    ¬Defined (Futures.RESTClient.getLastFundingRate .plain
      (.stable Futures.FundingRate.fundingTime)
      (.futures fun _ _ => .ok ⟨httpOk, .ok (.array [])⟩) 0 "BTCUSDT") := by
  refine ⟨?_, ?_, ?_, ?_, ?_, ?_, ?_⟩
  · exact not_defined_of_eq "0" (by decide +kernel)
  · exact not_defined_of_eq "assets" (by decide +kernel)
  · exact not_defined_of_eq "rateLimits" (by decide +kernel)
  · exact not_defined_of_eq "rateLimits" (by decide +kernel)
  · exact not_defined_of_eq "underlyingSubType" (by decide +kernel)
  · exact not_defined_of_eq "k" (by decide +kernel)
  · rw [Futures.RESTClient.defined_getLastFundingRate_iff]
    intro nonempty
    exact nonempty (by decide) rfl

end BinanceApi
