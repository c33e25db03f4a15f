import Mathlib
import BinanceApi.Library.Text
import BinanceApi.Rest.Candles
import BinanceApi.Rest.FundingRates
import BinanceApi.Rest.Statistics
import BinanceApi.Signing

/-!
# Queries

What a request asks for is the text behind its question mark, which the exchange reads
as pairs of a name and a value.  Every call writes its arguments into it one by one and
leaves the unset ones out, each kind of argument with an unset value of its own.
-/

namespace BinanceApi

/-- The text of a target whose every parameter was appended with its `&`. -/
def Target.appendedText (target : Target) : String :=
  target.params.foldl (fun text param => text ++ "&" ++ param.1 ++ "=" ++ param.2)
    target.path

namespace Futures

open MagicEnum (enumName)

namespace RESTClient

/-- Target of an income request.  An empty symbol, the type `ALL` and a time of `-1`
are not sent; the type is sent as the symbol. -/
def incomeTarget (symbol : String) (startTime endTime : Int) (incomeType : IncomeType) :
    Target :=
  Target.mk "income?" []
    |>.appendIf (symbol ≠ "") "symbol" symbol
    |>.appendIf (incomeType ≠ .ALL) "incomeType" symbol
    |>.appendIf (startTime ≠ -1) "startTime" startTime.repr
    |>.appendIf (endTime ≠ -1) "endTime" endTime.repr

/-- Target of a request about one order.  An empty client id and the order id `0` are
not sent. -/
def orderIdTarget (symbol clientId : String) (orderId : Int) : Target :=
  Target.mk "order?" [("symbol", symbol)]
    |>.appendIf (clientId ≠ "") "origClientOrderId" clientId
    |>.appendIf (orderId ≠ 0) "orderId" orderId.repr

def cancelOrderTarget (symbol clientId : String) (orderId : Int) : Target :=
  orderIdTarget symbol clientId orderId

def queryOrderTarget (symbol clientId : String) (orderId : Int) : Target :=
  orderIdTarget symbol clientId orderId

/-- Target of a position request.  An empty symbol is not sent. -/
def positionTarget (symbol : String) : Target :=
  Target.mk "positionRisk?" []
    |>.appendIf (symbol ≠ "") "symbol" symbol

end RESTClient

/-- A text argument without a separator. -/
structure QueryText where
  text : String
  plain : '&' ∉ text.toList

theorem QueryText.text_injective : Function.Injective QueryText.text := by
  intro left right equal
  cases left
  cases right
  cases equal
  rfl

/-- The calls that write optional arguments into a query. -/
inductive Method where
  | getIncome | cancelOrder | queryOrder | getPosition | getFundingRates
  | getHistoricalPrices
  | statistics (statistic : Statistic)

/-- A call with its arguments. -/
inductive QueryCall : Method → Type where
  | getIncome (symbol : QueryText) (startTime endTime : Int) (incomeType : IncomeType) :
      QueryCall .getIncome
  | cancelOrder (symbol clientId : QueryText) (orderId : Int) : QueryCall .cancelOrder
  | queryOrder (symbol clientId : QueryText) (orderId : Int) : QueryCall .queryOrder
  | getPosition (symbol : QueryText) : QueryCall .getPosition
  | getFundingRates (symbol : QueryText) (startTime endTime limit : Int) :
      QueryCall .getFundingRates
  | getHistoricalPrices (symbol : QueryText) (interval : CandleInterval)
      (startTime endTime limit : Int) : QueryCall .getHistoricalPrices
  | statistics {statistic : Statistic} (symbol : QueryText) (period : StatisticsPeriod)
      (startTime endTime limit : Int) : QueryCall (.statistics statistic)

namespace QueryCall

variable {method : Method}

def target : {method : Method} → QueryCall method → Target
  | _, getIncome symbol startTime endTime incomeType =>
      RESTClient.incomeTarget symbol.text startTime endTime incomeType
  | _, cancelOrder symbol clientId orderId =>
      RESTClient.cancelOrderTarget symbol.text clientId.text orderId
  | _, queryOrder symbol clientId orderId =>
      RESTClient.queryOrderTarget symbol.text clientId.text orderId
  | _, getPosition symbol => RESTClient.positionTarget symbol.text
  | _, getFundingRates symbol startTime endTime limit =>
      RESTClient.fundingRateTarget symbol.text startTime endTime limit
  | _, getHistoricalPrices symbol interval startTime endTime limit =>
      RESTClient.klinesTarget symbol.text interval startTime endTime limit
  | _, @statistics statistic symbol period startTime endTime limit =>
      RESTClient.statisticsTarget statistic.path symbol.text period startTime endTime
        limit

/-- What a call hands to its session.  Two methods have no required argument and append
the first one with an `&` as well. -/
def text (call : QueryCall method) : String :=
  match method with
  | .getIncome | .getPosition => call.target.appendedText
  | _ => call.target.text

/-- An optional argument, if it is set. -/
def set {α : Type} [DecidableEq α] (unset : α) (print : α → String) (value : α) :
    Option String :=
  if value = unset then none else some (print value)

/-- The arguments of a call under their API names, as the exchange should see them. -/
def arguments : {method : Method} → QueryCall method → List (String × Option String)
  | _, getIncome symbol startTime endTime incomeType =>
      [("symbol", set "" id symbol.text), ("incomeType", set .ALL enumName incomeType),
        ("startTime", set (-1) Int.repr startTime),
        ("endTime", set (-1) Int.repr endTime)]
  | _, cancelOrder symbol clientId orderId =>
      [("symbol", some symbol.text), ("origClientOrderId", set "" id clientId.text),
        ("orderId", set 0 Int.repr orderId)]
  | _, queryOrder symbol clientId orderId =>
      [("symbol", some symbol.text), ("origClientOrderId", set "" id clientId.text),
        ("orderId", set 0 Int.repr orderId)]
  | _, getPosition symbol => [("symbol", set "" id symbol.text)]
  | _, getFundingRates symbol startTime endTime limit =>
      [("symbol", some symbol.text), ("startTime", set (-1) Int.repr startTime),
        ("endTime", set (-1) Int.repr endTime), ("limit", set (-1) Int.repr limit)]
  | _, getHistoricalPrices symbol interval startTime endTime limit =>
      [("symbol", some symbol.text), ("interval", some interval.wireName),
        ("startTime", set (-1) Int.repr startTime),
        ("endTime", set (-1) Int.repr endTime), ("limit", set (-1) Int.repr limit)]
  | _, statistics symbol period startTime endTime limit =>
      [("symbol", some symbol.text), ("period", some period.wireName),
        ("startTime", set (-1) Int.repr startTime),
        ("endTime", set (-1) Int.repr endTime), ("limit", set (-1) Int.repr limit)]

/-- What the call writes under each name. -/
def written : {method : Method} → QueryCall method → List (String × Option String)
  | _, getIncome symbol startTime endTime incomeType =>
      [("symbol", set "" id symbol.text),
        ("incomeType", set .ALL (fun _ => symbol.text) incomeType),
        ("startTime", set (-1) Int.repr startTime),
        ("endTime", set (-1) Int.repr endTime)]
  | _, call => call.arguments

end QueryCall

/-- The pairs behind the first question mark of a text. -/
def decodeQuery (text : String) : List (String × String) :=
  match Text.splitFirst '?' text.toList with
  | some (_, query) =>
      (Text.parsePairs '&' '=' query).map fun pair =>
        (String.ofList pair.1, String.ofList pair.2)
  | none => []

/-- The query has exactly one pair for each argument that is set, with its own value. -/
def QueryCall.Decodes {method : Method} (call : QueryCall method) : Prop :=
  (decodeQuery call.text).Perm (Text.present call.arguments)

/-! ## What a call writes -/

namespace QueryCall

variable {method : Method}

theorem map_set {α : Type} [DecidableEq α] (unset : α) (print : α → String) (value : α)
    (name : String) :
    ((set unset print value).map (Prod.mk name)).toList =
      if value ≠ unset then [(name, print value)] else [] := by
  by_cases here : value = unset <;> simp [set, here]

theorem target_params (call : QueryCall method) :
    call.target.params = Text.present call.written := by
  cases call <;>
    simp [target, written, arguments, map_set, RESTClient.incomeTarget,
      RESTClient.cancelOrderTarget, RESTClient.queryOrderTarget,
      RESTClient.orderIdTarget, RESTClient.positionTarget, RESTClient.fundingRateTarget,
      RESTClient.klinesTarget, RESTClient.statisticsTarget]

end QueryCall

/-! ## What is read back -/

/-- The pieces of a query, without separators. -/
def pieces (params : List (String × String)) : List (List Char) :=
  params.map fun param => Text.printPair '=' (param.1.toList, param.2.toList)

/-- The text is a resource, its question mark and these parameters, of which the first
one may have an `&` in front. -/
def Writes (text resource : String) (params : List (String × String)) : Prop :=
  ∃ front, (∀ piece ∈ front, piece = []) ∧ front ++ pieces params ≠ [] ∧
    text.toList = resource.toList ++ '?' :: ['&'].intercalate (front ++ pieces params)

theorem writes_text {target : Target} {resource : String}
    (path : target.path = resource ++ "?") (required : target.params ≠ []) :
    Writes target.text resource target.params := by
  refine ⟨[], by simp, by simpa [pieces] using required, ?_⟩
  have separator : "&".toList = ['&'] := rfl
  rw [Target.text, path, String.toList_append, String.toList_intercalate, separator,
    List.map_map]
  simp [pieces, Text.printPair, Function.comp_def]

theorem writes_appendedText {target : Target} {resource : String}
    (path : target.path = resource ++ "?") :
    Writes target.appendedText resource target.params := by
  refine ⟨[[]], by simp, by simp, ?_⟩
  rw [List.singleton_append, Text.intercalate_cons, List.nil_append]
  have folded : ∀ text : String, (target.params.foldl
      (fun text param => text ++ "&" ++ param.1 ++ "=" ++ param.2) text).toList =
        text.toList ++ (pieces target.params).flatMap ('&' :: ·) := by
    induction target.params with
    | nil => simp [pieces]
    | cons param params ih =>
        intro text
        rw [List.foldl_cons, ih]
        simp [pieces, Text.printPair, String.toList_append]
  rw [Target.appendedText, folded, path]
  simp [String.toList_append]

/-- A prefix belongs to the resource, and what is appended is read as further
parameters. -/
theorem Writes.append {text resource : String} {params : List (String × String)}
    (writes : Writes text resource params) (api : String) {appended : String}
    {more : List (String × String)}
    (printed : appended.toList = (pieces more).flatMap ('&' :: ·)) :
    Writes (api ++ text ++ appended) (api ++ resource) (params ++ more) := by
  rcases writes with ⟨front, empty, nonempty, written⟩
  have both : front ++ pieces (params ++ more) =
      (front ++ pieces params) ++ pieces more := by
    simp [pieces]
  refine ⟨front, empty, ?_, ?_⟩
  · rw [both]
    exact List.append_ne_nil_of_left_ne_nil nonempty _
  · rw [both, Text.intercalate_append '&' _ nonempty, ← printed, String.toList_append,
      String.toList_append, written]
    simp [String.toList_append]

/-- A name and its value that separators cannot be confused with. -/
def Separable (param : String × String) : Prop :=
  ('&' ∉ param.1.toList ∧ '=' ∉ param.1.toList) ∧ '&' ∉ param.2.toList

/-- Separable parameters are read back. -/
theorem Writes.decodeQuery {text resource : String} {params : List (String × String)}
    (writes : Writes text resource params) (plain : '?' ∉ resource.toList)
    (separable : ∀ param ∈ params, Separable param) : decodeQuery text = params := by
  rcases writes with ⟨front, empty, -, written⟩
  let pairs := params.map fun param => (param.1.toList, param.2.toList)
  have printed : pieces params = pairs.map (Text.printPair '=') := by
    simp [pieces, pairs]
  have names : ∀ pair ∈ pairs, '&' ∉ pair.1 ∧ '=' ∉ pair.1 := by
    intro pair member
    rcases List.mem_map.mp member with ⟨param, listed, rfl⟩
    exact (separable param listed).1
  have values : ∀ pair ∈ pairs, '&' ∉ pair.2 := by
    intro pair member
    rcases List.mem_map.mp member with ⟨param, listed, rfl⟩
    exact (separable param listed).2
  have parsed := Text.parsePairs_printed (by decide) names values empty
  rw [printed] at written
  simp only [Futures.decodeQuery, written, Text.splitFirst_append _ plain]
  rw [parsed]
  simp [pairs, Function.comp_def]

theorem int_repr_plain (value : Int) : '&' ∉ value.repr.toList := by
  have digits : ∀ n : Nat, '&' ∉ (Nat.repr n).toList := by
    intro n member
    rw [Nat.toList_repr] at member
    exact absurd (Nat.isDigit_of_mem_toDigits (by decide) (by decide) member) (by decide)
  rw [Int.repr_eq_if]
  split
  · exact digits value.toNat
  · rw [String.toList_append]
    intro member
    rcases List.mem_append.mp member with sign | digit
    · exact absurd sign (by decide)
    · exact digits _ digit

/-- What a method's targets start with, without the question mark. -/
def Method.resource : Method → String
  | getIncome => "income"
  | cancelOrder | queryOrder => "order"
  | getPosition => "positionRisk"
  | getFundingRates => "fundingRate"
  | getHistoricalPrices => "klines"
  | statistics .openInterestStatistics => "/futures/data/openInterestHist"
  | statistics .longShortRatio => "/futures/data/globalLongShortAccountRatio"
  | statistics .buySellVolume => "/futures/data/takerlongshortRatio"

theorem Method.resource_plain (method : Method) : '?' ∉ method.resource.toList := by
  cases method with
  | statistics statistic => cases statistic <;> decide
  | _ => decide

namespace QueryCall

variable {method : Method}

theorem target_path (call : QueryCall method) :
    call.target.path = method.resource ++ "?" := by
  cases call <;>
    simp only [target, RESTClient.incomeTarget, RESTClient.cancelOrderTarget,
      RESTClient.queryOrderTarget, RESTClient.orderIdTarget, RESTClient.positionTarget,
      RESTClient.fundingRateTarget, RESTClient.klinesTarget, RESTClient.statisticsTarget,
      Target.appendIf_path]
  case statistics statistic symbol period startTime endTime limit =>
    cases statistic <;> decide
  all_goals decide

/-- A value without a separator, if any. -/
def Plain (value : Option String) : Prop :=
  ∀ text ∈ value, '&' ∉ text.toList

theorem plain_some {text : String} (plain : '&' ∉ text.toList) : Plain (some text) := by
  intro other member
  cases member
  exact plain

theorem plain_set {α : Type} [DecidableEq α] (unset : α) {print : α → String} {value : α}
    (plain : '&' ∉ (print value).toList) : Plain (set unset print value) := by
  by_cases here : value = unset
  · simp [Plain, set, here]
  · rw [set, if_neg here]
    exact plain_some plain

theorem interval_plain (interval : CandleInterval) :
    '&' ∉ interval.wireName.toList := by
  cases interval <;> decide

theorem period_plain (period : StatisticsPeriod) : '&' ∉ period.wireName.toList := by
  cases period <;> decide

theorem written_plain (call : QueryCall method) :
    ∀ entry ∈ call.written,
      ('&' ∉ entry.1.toList ∧ '=' ∉ entry.1.toList) ∧ Plain entry.2 := by
  cases call <;>
    simp +decide [written, arguments, plain_some, plain_set, QueryText.plain,
      int_repr_plain, interval_plain, period_plain]

theorem written_separable (call : QueryCall method) :
    ∀ param ∈ Text.present call.written, Separable param := by
  rintro ⟨name, value⟩ member
  have safe := call.written_plain _ (Text.mem_present.mp member)
  exact ⟨safe.1, safe.2 value rfl⟩

theorem writes (call : QueryCall method) :
    Writes call.text method.resource (Text.present call.written) := by
  rw [← target_params]
  have path := call.target_path
  cases call with
  | getIncome | getPosition => exact writes_appendedText path
  | _ =>
      apply writes_text path
      simp [target_params, written, arguments]

/-- What the exchange reads is what the call wrote. -/
theorem decodeQuery_text (call : QueryCall method) :
    decodeQuery call.text = Text.present call.written :=
  call.writes.decodeQuery method.resource_plain call.written_separable

/-! ### Request lines -/

/-- The request a call sends: two methods differ in their verb only, one goes to the
second version of the API, and one family carries its full path. -/
def line (session : SigningSession) (timestamp : Int) (call : QueryCall method) :
    RequestLine :=
  match method with
  | .getIncome | .queryOrder => session.get timestamp call.text false
  | .cancelOrder => session.del timestamp call.text false
  | .getPosition => session.getV2 timestamp call.text false
  | .getFundingRates | .getHistoricalPrices => session.get timestamp call.text true
  | .statistics _ => SigningSession.getFutures call.text

/-- The parameters that are added to a signed request. -/
def authentication (timestamp : Int) (signature : String) : List (String × String) :=
  [("recvWindow", "60000"), ("timestamp", timestamp.repr), ("signature", signature)]

theorem toList_authentication (timestamp : Int) (signature : String) :
    ("&recvWindow=60000&timestamp=" ++ timestamp.repr ++ "&signature=" ++
        signature).toList =
      (pieces (authentication timestamp signature)).flatMap ('&' :: ·) := by
  simp [pieces, authentication, Text.printPair, String.toList_append]

theorem authentication_separable (timestamp : Int) {signature : String}
    (plain : '&' ∉ signature.toList) :
    ∀ param ∈ authentication timestamp signature, Separable param := by
  intro param member
  simp only [authentication, List.mem_cons, List.not_mem_nil, or_false] at member
  rcases member with rfl | rfl | rfl
  · exact ⟨by decide, by decide⟩
  · exact ⟨by simp, int_repr_plain timestamp⟩
  · exact ⟨by simp, plain⟩

/-- Signing appends to the text of a call, whatever its arguments. -/
theorem exists_endpoint (call : QueryCall method) (session : SigningSession)
    (publicApi privateApi : String) (timestamp : Int) :
    ∃ payload, session.endpoint publicApi privateApi timestamp call.text false =
      privateApi ++ call.text ++ ("&recvWindow=60000&timestamp=" ++ timestamp.repr ++
        "&signature=" ++ session.signer.stringToHex
          (session.signer.hmac session.signer.apiSecret payload)) := by
  rcases call.writes with ⟨front, -, -, chars⟩
  let parameters := String.ofList
    (['&'].intercalate (front ++ pieces (Text.present call.written)))
  have cut : call.text = method.resource ++ "?" ++ parameters := by
    rw [← String.toList_inj, chars]
    simp [String.toList_append, parameters]
  refine ⟨parameters ++ "&recvWindow=60000&timestamp=" ++ timestamp.repr, ?_⟩
  simp only [SigningSession.endpoint, Bool.false_eq_true, if_false, cut,
    session.signer.addTimestampToTargetPath_eq timestamp method.resource_plain]
  simp only [String.append_assoc]

/-- From a signed request the exchange reads what the call wrote, and the rest. -/
theorem decodeQuery_signed (call : QueryCall method) (session : SigningSession)
    (publicApi : String) {privateApi : String} (timestamp : Int)
    (apiPlain : '?' ∉ privateApi.toList)
    (hex : ∀ digest, ∀ char ∈ (session.signer.stringToHex digest).toList,
      IsHexDigit char) :
    ∃ signature, Futures.decodeQuery
        (session.endpoint publicApi privateApi timestamp call.text false) =
      Text.present call.written ++ authentication timestamp signature := by
  rcases call.exists_endpoint session publicApi privateApi timestamp with
    ⟨payload, signed⟩
  have separable : ∀ param ∈ Text.present call.written ++ authentication timestamp
      (session.signer.stringToHex (session.signer.hmac session.signer.apiSecret payload)),
      Separable param := by
    intro param member
    rcases List.mem_append.mp member with argument | added
    · exact call.written_separable param argument
    · apply authentication_separable timestamp _ param added
      intro sign
      exact not_isHexDigit_ampersand (hex _ '&' sign)
  have plain : '?' ∉ (privateApi ++ method.resource).toList := by
    simp [String.toList_append, apiPlain, method.resource_plain]
  rw [signed]
  exact ⟨_, (call.writes.append privateApi
    (toList_authentication timestamp _)).decodeQuery plain separable⟩

/-- In every request line the exchange finds what the call wrote, and behind it nothing
but what the signature adds. -/
theorem decodeQuery_line (call : QueryCall method) (signer : Signer) (timestamp : Int)
    (hex : ∀ digest, ∀ char ∈ (signer.stringToHex digest).toList, IsHexDigit char) :
    ∃ added, Futures.decodeQuery
        (call.line (SigningSession.construct signer true) timestamp).endpoint =
      Text.present call.written ++ added ∧
      ∀ param ∈ added, param.1 ∈ ["recvWindow", "timestamp", "signature"] := by
  let session := SigningSession.construct signer true
  have prefixes := SigningSession.construct_plain signer true
  have signed : ∀ publicApi {privateApi : String}, '?' ∉ privateApi.toList →
      ∃ added, Futures.decodeQuery
          (session.endpoint publicApi privateApi timestamp call.text false) =
        Text.present call.written ++ added ∧
        ∀ param ∈ added, param.1 ∈ ["recvWindow", "timestamp", "signature"] := by
    intro publicApi privateApi apiPlain
    rcases call.decodeQuery_signed session publicApi timestamp apiPlain hex with
      ⟨signature, decoded⟩
    exact ⟨_, decoded, by simp [authentication]⟩
  have unsigned : ∀ api : String, '?' ∉ api.toList →
      ∃ added, Futures.decodeQuery (api ++ call.text) =
        Text.present call.written ++ added ∧
        ∀ param ∈ added, param.1 ∈ ["recvWindow", "timestamp", "signature"] := by
    intro api apiPlain
    have plain : '?' ∉ (api ++ method.resource).toList := by
      simp [String.toList_append, apiPlain, method.resource_plain]
    have writes : Writes (api ++ call.text ++ "") (api ++ method.resource)
        (Text.present call.written ++ []) := call.writes.append api rfl
    have decoded := writes.decodeQuery plain (by simpa using call.written_separable)
    rw [String.append_empty] at decoded
    exact ⟨[], decoded, by simp⟩
  cases method with
  | getIncome | queryOrder | cancelOrder => exact signed session.publicApi prefixes.1
  | getPosition => exact signed session.publicApiV2 prefixes.2
  | getFundingRates | getHistoricalPrices => exact unsigned "/fapi/v1/" (by decide)
  | statistics =>
      have decoded := unsigned "" (by decide)
      rwa [String.empty_append] at decoded

/-! ### Arguments and what is written -/

theorem written_names (call other : QueryCall method) :
    call.written.map Prod.fst = other.arguments.map Prod.fst ∧
      call.written.map Prod.fst = other.written.map Prod.fst := by
  cases call <;> cases other <;> exact ⟨rfl, rfl⟩

theorem names_nodup (call : QueryCall method) : (call.written.map Prod.fst).Nodup := by
  cases call <;> simp [written, arguments]

theorem decodes_iff (call : QueryCall method) :
    call.Decodes ↔ call.written = call.arguments := by
  rw [Decodes, decodeQuery_text]
  constructor
  · intro same
    apply Text.table_eq_of_present (call.written_names call).1 call.names_nodup
    intro name value
    rw [← Text.mem_present, ← Text.mem_present]
    exact same.mem_iff
  · intro same
    rw [same]

theorem target_eq (call : QueryCall method) :
    call.target = ⟨method.resource ++ "?", Text.present call.written⟩ := by
  rw [← target_params, ← target_path call]

theorem text_eq_iff (call other : QueryCall method) :
    call.text = other.text ↔ call.written = other.written := by
  constructor
  · intro same
    have decoded := congrArg decodeQuery same
    rw [decodeQuery_text, decodeQuery_text] at decoded
    apply Text.table_eq_of_present (call.written_names other).2 call.names_nodup
    intro name value
    rw [← Text.mem_present, ← Text.mem_present, decoded]
  · intro same
    have targets : call.target = other.target := by
      rw [target_eq, target_eq, same]
    cases method <;> simp only [text, targets]

/-! ## The income filter -/

/-- The type of an income request is replaced by a symbol that is not its name. -/
def FilterLost : {method : Method} → QueryCall method → Prop
  | _, getIncome symbol _ _ incomeType =>
      incomeType ≠ .ALL ∧ symbol.text ≠ enumName incomeType
  | _, _ => False

/-- Two income requests that differ in their types only, both of them set. -/
def FilterConfused : {method : Method} → QueryCall method → QueryCall method → Prop
  | _, getIncome symbol startTime endTime left,
      getIncome symbol' startTime' endTime' right =>
      symbol = symbol' ∧ startTime = startTime' ∧ endTime = endTime' ∧
        left ≠ .ALL ∧ right ≠ .ALL ∧ left ≠ right
  | _, _, _ => False

theorem set_injective {α : Type} [DecidableEq α] {unset : α} {print : α → String}
    (injective : Function.Injective print) :
    Function.Injective (set unset print) := by
  intro left right same
  by_cases leftUnset : left = unset <;> by_cases rightUnset : right = unset
  · rw [leftUnset, rightUnset]
  · simp [set, leftUnset, rightUnset] at same
  · simp [set, leftUnset, rightUnset] at same
  · simp only [set, if_neg leftUnset, if_neg rightUnset, Option.some.injEq] at same
    exact injective same

theorem set_text_injective :
    Function.Injective fun symbol : QueryText => set "" id symbol.text :=
  (set_injective Function.injective_id).comp QueryText.text_injective

theorem set_int_injective (unset : Int) : Function.Injective (set unset Int.repr) := by
  apply set_injective
  intro left right same
  exact Int.repr_inj.mp same

theorem set_constant_eq {α : Type} [DecidableEq α] {unset : α} {text : String}
    {left right : α} :
    set unset (fun _ => text) left = set unset (fun _ => text) right ↔
      (left = unset ↔ right = unset) := by
  by_cases leftUnset : left = unset <;> by_cases rightUnset : right = unset <;>
    simp [set, leftUnset, rightUnset]

theorem written_eq_arguments_iff (call : QueryCall method) :
    call.written = call.arguments ↔ ¬FilterLost call := by
  cases call with
  | getIncome symbol startTime endTime incomeType =>
      by_cases all : incomeType = .ALL <;>
        simp [written, arguments, FilterLost, set, all]
  | _ => simp [written, FilterLost]

theorem not_filterConfused_self (call : QueryCall method) :
    ¬FilterConfused call call := by
  cases call <;> simp [FilterConfused]

/-- Calls that write the same have the same arguments, up to the type of an income. -/
theorem written_eq_iff (call other : QueryCall method) :
    call.written = other.written ↔ call = other ∨ FilterConfused call other := by
  have text := @set_text_injective.eq_iff
  have int := fun unset => @(set_int_injective unset).eq_iff
  cases call <;> cases other
  case getIncome.getIncome symbol startTime endTime left symbol' startTime' endTime'
      right =>
    simp only [written, List.cons.injEq, Prod.mk.injEq, true_and, and_true, text, int,
      FilterConfused, getIncome.injEq]
    constructor
    · rintro ⟨rfl, types, rfl, rfl⟩
      rw [set_constant_eq] at types
      by_cases same : left = right
      · exact .inl ⟨rfl, rfl, rfl, same⟩
      · have leftSet : left ≠ .ALL := fun all => same (all.trans (types.mp all).symm)
        have rightSet : right ≠ .ALL := fun all => same ((types.mpr all).trans all.symm)
        exact .inr ⟨rfl, rfl, rfl, leftSet, rightSet, same⟩
    · rintro (⟨rfl, rfl, rfl, rfl⟩ | ⟨rfl, rfl, rfl, leftSet, rightSet, -⟩)
      · simp
      · simp [set_constant_eq, leftSet, rightSet]
  all_goals
    simp [written, arguments, FilterConfused, text, int, QueryText.text_injective.eq_iff,
      CandleInterval.wireName_injective.eq_iff,
      StatisticsPeriod.wireName_injective.eq_iff]

/-- Every query decodes back to its arguments but that of an income request whose type
is lost, and equal queries come from equal calls but for income requests that differ in
the type. -/
theorem queries_decode_iff (method : Method) (call other : QueryCall method) :
    (call.Decodes ↔ ¬FilterLost call) ∧
      ((call ≠ other → call.text ≠ other.text) ↔ ¬FilterConfused call other) := by
  constructor
  · rw [decodes_iff, written_eq_arguments_iff]
  · rw [Ne, Ne, text_eq_iff, written_eq_iff]
    constructor
    · intro separate confused
      have differ : call ≠ other := by
        rintro rfl
        exact call.not_filterConfused_self confused
      exact separate differ (.inr confused)
    · rintro unconfused differ (same | confused)
      · exact differ same
      · exact unconfused confused

/-- The funding fees of a symbol are asked for by the symbol's own name, as are its
commissions. -/
theorem income_type_lost_sample :
    let fees := getIncome ⟨"BTCUSDT", by decide⟩ (-1) (-1) .FUNDING_FEE
    let commissions := getIncome ⟨"BTCUSDT", by decide⟩ (-1) (-1) .COMMISSION
    fees.text = "income?&symbol=BTCUSDT&incomeType=BTCUSDT" ∧ ¬fees.Decodes ∧
      fees ≠ commissions ∧ fees.text = commissions.text := by
  intro fees commissions
  have lost : FilterLost fees := by
    simp only [FilterLost, fees]
    decide
  have confused : FilterConfused fees commissions := by
    simp [FilterConfused, fees, commissions]
  refine ⟨by decide +kernel, ?_, ?_, ?_⟩
  · rw [decodes_iff, written_eq_arguments_iff]
    exact not_not_intro lost
  · simp [fees, commissions]
  · exact (text_eq_iff fees commissions).mpr
      ((written_eq_iff fees commissions).mpr (.inr confused))

end QueryCall

end Futures

end BinanceApi
