import BinanceApi.Rest.Calls

/-!
# Runs of calls

A caller makes one call after the other, whatever becomes of them.  Each call puts on the
wire the exchange information that it needs and then at most one request of its own, so
an order is never sent twice, and a value is never made of the answer to another request.
-/

namespace BinanceApi.Futures

open BinanceApi.Futures.RESTClient (ask decoded infoAnswer infoRequest)

theorem Call.lift_bind {α β : Type} (result : Evaluates α) (next : α → Evaluates β) :
    lift (result >>= next) = lift result >>= fun value => lift (next value) := by
  cases result <;> rfl

namespace RESTClient

/-! ## One request -/

section Asking

variable {α : Type} {environment : Environment}

theorem ask_runFrom (environment : Environment) (request : Request)
    (read : Response → Evaluates α) (client : ClientState) :
    (ask environment request read).runFrom client =
      ((environment.session.wire client.sent.length request).lift >>= read,
        { client with sent := client.sent ++ [request] }) := by
  have sent := runFrom_send environment request client
  rw [ask]
  cases answer : environment.session.wire client.sent.length request with
  | ok response =>
      rw [answer] at sent
      rw [Call.runFrom_bind_ok sent]
      rfl
  | error exception =>
      rw [answer] at sent
      rw [Call.runFrom_bind_error sent]
      rfl

/-- What a call asks for shows in what it sends. -/
theorem request_of_ask_eq {request other : Request} {read readOther : Response → Evaluates α}
    (same : ask environment request read = ask environment other readOther) :
    request = other := by
  have sent := congrArg (fun call => (Call.runFrom call constructed).2.sent) same
  simpa [ask_runFrom, constructed] using sent

theorem askForSymbol_of_ne {symbol : String} (named : symbol ≠ "") (request : Request)
    (decode : Json → Evaluates α) :
    askForSymbol environment symbol request decode =
      ask environment request (decoded environment.externals decode) :=
  if_neg named

/-- A call that refuses to ask is not one that asks. -/
theorem symbol_ne_of_ask_eq {symbol : String} {request other : Request}
    {decode : Json → Evaluates α} {read : Response → Evaluates α}
    (same : askForSymbol environment symbol request decode = ask environment other read) :
    symbol ≠ "" := by
  rintro rfl
  have sent := congrArg (fun call => (Call.runFrom call constructed).2.sent) same
  simp [askForSymbol, ask_runFrom, Call.runFrom_lift, constructed] at sent

end Asking

end RESTClient

/-! ## What a call does -/

/-- How a call ended that began with this client.  It renewed the exchange information a
number of times, and then sent a request of its own, whose answer it read, or failed as
the last renewal did. -/
inductive Conduct (environment : Environment) {α : Type} (lookups : Nat)
    (own : Request → (Response → Evaluates α) → Prop) (before : ClientState) :
    Evaluates α → ClientState → Prop where
  | asked (downloads : Nat) {request : Request} {read : Response → Evaluates α}
      {after : ClientState} (few : downloads ≤ lookups) (mine : own request read)
      (sent : after.sent =
        before.sent ++ List.replicate downloads (infoRequest environment) ++ [request]) :
      Conduct environment lookups own before
        ((environment.session.wire (before.sent.length + downloads) request).lift >>= read)
        after
  | failed (downloads : Nat) {fault : Fault} {after : ClientState}
      (few : downloads + 1 ≤ lookups)
      (answer : infoAnswer environment (before.sent.length + downloads) = .error fault)
      (sent : after.sent =
        before.sent ++ List.replicate (downloads + 1) (infoRequest environment)) :
      Conduct environment lookups own before (.error fault) after

/-- From every client the call does this. -/
def Conducts (environment : Environment) {α : Type} (lookups : Nat)
    (own : Request → (Response → Evaluates α) → Prop) (call : Call α) : Prop :=
  ∀ before, Conduct environment lookups own before (call.runFrom before).1
    (call.runFrom before).2

section Conduct

variable {α : Type} {environment : Environment} {lookups : Nat}
  {own : Request → (Response → Evaluates α) → Prop}

theorem conducts_ask {request : Request} {read : Response → Evaluates α}
    (mine : own request read) :
    Conducts environment lookups own (ask environment request read) := by
  intro before
  rw [RESTClient.ask_runFrom]
  exact .asked 0 (Nat.zero_le _) mine (by simp)

theorem conducts_askForSymbol {symbol : String} {request : Request}
    {decode : Json → Evaluates α} (specified : symbol ≠ "")
    (mine : own request (decoded environment.externals decode)) :
    Conducts environment lookups own
      (RESTClient.askForSymbol environment symbol request decode) := by
  rw [RESTClient.askForSymbol_of_ne specified]
  exact conducts_ask mine

theorem Conduct.mono {before after : ClientState} {outcome : Evaluates α} {more : Nat}
    (conduct : Conduct environment lookups own before outcome after) (least : lookups ≤ more) :
    Conduct environment more own before outcome after := by
  cases conduct with
  | asked downloads few mine sent => exact .asked downloads (few.trans least) mine sent
  | failed downloads few answer sent =>
      exact .failed downloads (few.trans least) answer sent

theorem Conduct.grows {before after : ClientState} {outcome : Evaluates α}
    (conduct : Conduct environment lookups own before outcome after) :
    ∃ requests, after.sent = before.sent ++ requests := by
  cases conduct with
  | asked downloads few mine sent => exact ⟨_, sent.trans (List.append_assoc _ _ _)⟩
  | failed downloads few answer sent => exact ⟨_, sent⟩

/-- Of the client before it, what it has sent is all that counts. -/
theorem Conduct.of_sent_eq {before other after : ClientState} {outcome : Evaluates α}
    (conduct : Conduct environment lookups own other outcome after)
    (same : other.sent = before.sent) :
    Conduct environment lookups own before outcome after := by
  cases conduct with
  | asked downloads few mine sent =>
      rw [same] at sent ⊢
      exact .asked downloads few mine sent
  | failed downloads few answer sent =>
      rw [same] at answer sent
      exact .failed downloads few answer sent

/-- One more renewal in front. -/
theorem Conduct.after_download {before between after : ClientState} {outcome : Evaluates α}
    (renewed : between.sent = before.sent ++ [infoRequest environment])
    (conduct : Conduct environment lookups own between outcome after) :
    Conduct environment (lookups + 1) own before outcome after := by
  cases conduct with
  | asked downloads few mine sent =>
      have place : between.sent.length + downloads = before.sent.length + (downloads + 1) := by
        rw [renewed, List.length_append, List.length_singleton]
        omega
      rw [place]
      refine .asked (downloads + 1) (Nat.succ_le_succ few) mine ?_
      rw [sent, renewed, List.replicate_succ]
      simp
  | failed downloads few answer sent =>
      have place : between.sent.length + downloads = before.sent.length + (downloads + 1) := by
        rw [renewed, List.length_append, List.length_singleton]
        omega
      rw [place] at answer
      refine .failed (downloads + 1) (Nat.succ_le_succ few) answer ?_
      rw [sent, renewed, List.replicate_succ (n := downloads + 1)]
      simp

/-- Judging the exchange information first, and renewing it if it is due. -/
theorem Conduct.after_outcome {before between after : ClientState} {outcome : Evaluates α}
    (judged : RESTClient.Outcome environment before (.ok ()) between)
    (conduct : Conduct environment lookups own between outcome after) :
    Conduct environment (lookups + 1) own before outcome after := by
  cases judged with
  | kept known young =>
      have same : Conduct environment lookups own before outcome after :=
        conduct.of_sent_eq rfl
      exact same.mono (Nat.le_succ lookups)
  | downloaded exchange judged later answer => exact conduct.after_download rfl

/-- A lookup in front of a call. -/
theorem Conducts.after_lookup {type : RESTClient.PrecisionType} {symbol : String}
    {next : Int → Call α}
    (rest : ∀ precision, Conducts environment lookups own (next precision)) :
    Conducts environment (lookups + 1) own
      (RESTClient.P.findPrecisionForSymbol environment type symbol >>= next) := by
  intro before
  cases looked :
      (RESTClient.P.findPrecisionForSymbol environment type symbol).runFrom before with
  | mk result between =>
      rcases RESTClient.P.findPrecisionForSymbol_outcome environment type symbol looked with
        ⟨done, outcome, rfl⟩
      cases done with
      | ok =>
          rw [Call.runFrom_bind_ok looked]
          exact (rest _ between).after_outcome outcome
      | error fault =>
          rw [Call.runFrom_bind_error looked]
          cases outcome with
          | failed fault judged later answer =>
              exact .failed 0 (Nat.succ_le_succ (Nat.zero_le _)) answer rfl

end Conduct

/-! ## Orders -/

/-- The orders as they were, but for the precisions. -/
def WithPrecisions : List Order → List Order → Prop :=
  List.Forall₂ fun order prepared => ∃ quantityPrecision pricePrecision,
    prepared = { order with quantityPrecision, pricePrecision }

namespace RESTClient

theorem sendOrder_eq (environment : Environment) (order : Order) :
    sendOrder environment order = (do
      let quantityPrecision ← P.findPrecisionForSymbol environment .Quantity order.symbol
      let pricePrecision ← P.findPrecisionForSymbol environment .Price order.symbol
      ask environment
        (environment.session.request .post
          (orderTarget environment.externals quantityPrecision pricePrecision order) false)
        (decoded environment.externals fun json =>
          (OrderResponse.fromJson environment.externals json).lift)) := by
  simp only [sendOrder, prepareTarget, ask, decoded, Call.lift_bind, bind_assoc, pure_bind]

theorem sendOrders_eq (environment : Environment) (orders : List Order) :
    sendOrders environment orders = (do
      let prepared ← prepareOrders environment orders
      ask environment
        (environment.session.request .post (batchTarget environment.externals prepared) false)
        (decoded environment.externals fun json => do
          let responses ← (OrdersResponse.fromJson environment.externals json).lift
          return (prepared, responses))) := by
  simp only [sendOrders, ask, decoded, Call.lift_bind]
  rfl

/-- The lookups for a list of orders in front of a call. -/
theorem conducts_prepareOrders {α : Type} {environment : Environment}
    {own : Request → (Response → Evaluates α) → Prop} {orders : List Order}
    {next : List Order → Call α}
    (rest : ∀ prepared, WithPrecisions orders prepared →
      Conducts environment 0 own (next prepared)) :
    Conducts environment (2 * orders.length) own
      (prepareOrders environment orders >>= next) := by
  induction orders generalizing next with
  | nil => exact rest [] .nil
  | cons order orders ih =>
      simp only [prepareOrders, List.mapM_cons, prepareOrder, bind_assoc, pure_bind]
      apply Conducts.after_lookup
      intro quantityPrecision
      apply Conducts.after_lookup
      intro pricePrecision
      apply ih
      intro prepared others
      exact rest _ (.cons ⟨quantityPrecision, pricePrecision, rfl⟩ others)

end RESTClient

/-! ## All calls -/

/-- A call of the client with its arguments. -/
inductive ApiCall where
  | sendOrder (order : Order)
  | sendOrders (orders : List Order)
  | cancelOrder (symbol clientId : String) (orderId : Int)
  | cancelAllOpenOrders (symbol errorMsg : String)
  | changeInitialLeverage (symbol : String) (leverage : Int)
  | startUserDataStream
  | keepAliveUserDataStream
  | closeUserDataStream
  | queryOrder (symbol clientId : String) (orderId : Int)
  | getAllOpenOrders (symbol : String)
  | getPosition (symbol : String)
  | getPositionRisk (symbol : String)
  | getPositionMode
  | getAccountInfo
  | getAccountBalances
  | getIncome (symbol : String) (startTime endTime : Int) (incomeType : IncomeType)
  | getDownloadId (startTime endTime : Int)
  | getDownloadUrl (downloadId : DownloadId)
  | getServerTime
  | getMarkPrice (symbol : String)
  | getMarkPrices
  | getTickerPrice (symbol : String)
  | getBookTickerPrice (symbol : String)
  | getOpenInterest (symbol : String)
  | getHistoricalPricesSingle (symbol : String) (interval : CandleInterval)
      (startTime endTime limit : Int)
  | updateExchangeInfo (force : Bool)
  | getExchangeInfo (force : Bool)
  | setExchangeInfo (exchange : Exchange)

namespace ApiCall

/-- What a call returns. -/
def Result : ApiCall → Type
  | sendOrder _ | cancelOrder .. | queryOrder .. => OrderResponse
  | sendOrders _ => List Order × List OrderResponse
  | cancelAllOpenOrders .. => Bool × String
  | changeInitialLeverage .. => Int × AnyDouble
  | startUserDataStream | getDownloadUrl _ => String
  | keepAliveUserDataStream | closeUserDataStream => Unit
  | updateExchangeInfo _ | setExchangeInfo _ => Unit
  | getAllOpenOrders _ => List Order
  | getPosition _ => List Position
  | getPositionRisk _ => List PositionRisk
  | getPositionMode => PositionMode
  | getAccountInfo => Account
  | getAccountBalances => List AccountBalance
  | getIncome .. => List Income
  | getDownloadId .. => DownloadId
  | getServerTime => Int
  | getMarkPrice _ => MarkPrice
  | getMarkPrices => List MarkPrice
  | getTickerPrice _ => TickerPrice
  | getBookTickerPrice _ => BookTickerPrice
  | getOpenInterest _ => OpenInterest
  | getHistoricalPricesSingle .. => List Candle
  | getExchangeInfo _ => Exchange

section Perform

variable (environment : Environment) (readers : PositionReaders)
  (uninitialised : Uninitialised)

def perform : (call : ApiCall) → Call call.Result
  | sendOrder order => RESTClient.sendOrder environment order
  | sendOrders orders => RESTClient.sendOrders environment orders
  | cancelOrder symbol clientId orderId =>
      RESTClient.cancelOrder environment symbol clientId orderId
  | cancelAllOpenOrders symbol errorMsg =>
      RESTClient.cancelAllOpenOrders environment symbol errorMsg
  | changeInitialLeverage symbol leverage =>
      RESTClient.changeInitialLeverage environment uninitialised symbol leverage
  | startUserDataStream => RESTClient.startUserDataStream environment
  | keepAliveUserDataStream => RESTClient.keepAliveUserDataStream environment
  | closeUserDataStream => RESTClient.closeUserDataStream environment
  | queryOrder symbol clientId orderId =>
      RESTClient.queryOrder environment symbol clientId orderId
  | getAllOpenOrders symbol => RESTClient.getAllOpenOrders environment symbol
  | getPosition symbol => RESTClient.getPosition environment readers symbol
  | getPositionRisk symbol => RESTClient.getPositionRisk environment readers symbol
  | getPositionMode => RESTClient.getPositionMode environment uninitialised
  | getAccountInfo => RESTClient.getAccountInfo environment
  | getAccountBalances => RESTClient.getAccountBalances environment
  | getIncome symbol startTime endTime incomeType =>
      RESTClient.getIncome environment symbol startTime endTime incomeType
  | getDownloadId startTime endTime =>
      RESTClient.getDownloadId environment startTime endTime
  | getDownloadUrl downloadId => RESTClient.getDownloadUrl environment downloadId
  | getServerTime => RESTClient.getServerTime environment uninitialised
  | getMarkPrice symbol => RESTClient.getMarkPrice environment symbol
  | getMarkPrices => RESTClient.getMarkPrices environment
  | getTickerPrice symbol => RESTClient.getTickerPrice environment symbol
  | getBookTickerPrice symbol => RESTClient.getBookTickerPrice environment symbol
  | getOpenInterest symbol => RESTClient.getOpenInterest environment symbol
  | getHistoricalPricesSingle symbol interval startTime endTime limit =>
      RESTClient.getHistoricalPricesSingle environment symbol interval startTime endTime
        limit
  | updateExchangeInfo force => RESTClient.updateExchangeInfo environment force
  | getExchangeInfo force => RESTClient.getExchangeInfo environment force
  | setExchangeInfo exchange => RESTClient.setExchangeInfo exchange

end Perform

/-- The method of a call's own request. -/
def verb : ApiCall → Verb
  | sendOrder _ | sendOrders _ | changeInitialLeverage .. | startUserDataStream => .post
  | keepAliveUserDataStream => .put
  | cancelOrder .. | cancelAllOpenOrders .. | closeUserDataStream => .delete
  | _ => .get

/-- How often a call looks a precision up. -/
def lookups : ApiCall → Nat
  | sendOrder _ => 2
  | sendOrders orders => 2 * orders.length
  | _ => 0

/-- The calls that are about nothing but the exchange information. -/
def isInfo : ApiCall → Bool
  | updateExchangeInfo _ | getExchangeInfo _ | setExchangeInfo _ => true
  | _ => false

/-- What a call for the exchange information makes of a judgement of its age, after which
the client has this information. -/
def Informs (done : Evaluates Unit) (exchange : Exchange) :
    (call : ApiCall) → Evaluates call.Result → Prop
  | getExchangeInfo _, outcome => outcome = done.map fun _ => exchange
  | updateExchangeInfo _, outcome => outcome = done
  | _, _ => False

theorem Informs.verb {done : Evaluates Unit} {exchange : Exchange} {call : ApiCall}
    {outcome : Evaluates call.Result} (informs : Informs done exchange call outcome) :
    call.verb = .get := by
  cases call with
  | getExchangeInfo | updateExchangeInfo => rfl
  | _ => exact informs.elim

/-- The symbol of the calls that refuse an empty one. -/
def symbol? : ApiCall → Option String
  | getMarkPrice symbol | getTickerPrice symbol | getBookTickerPrice symbol => some symbol
  | _ => none

section Requests

variable (environment : Environment) (readers : PositionReaders)
  (uninitialised : Uninitialised)

/-- The request that a call sends on its own account, and how it reads the answer.  For
an order these depend on the precisions that were looked up. -/
def Own : (call : ApiCall) → Request → (Response → Evaluates call.Result) → Prop
  | sendOrder order, request, read => ∃ quantityPrecision pricePrecision,
      request = environment.session.request .post
        (RESTClient.orderTarget environment.externals quantityPrecision pricePrecision order)
        false ∧
      read = decoded environment.externals fun json =>
        (OrderResponse.fromJson environment.externals json).lift
  | sendOrders orders, request, read => ∃ prepared, WithPrecisions orders prepared ∧
      request = environment.session.request .post
        (RESTClient.batchTarget environment.externals prepared) false ∧
      read = decoded environment.externals fun json => do
        let responses ← (OrdersResponse.fromJson environment.externals json).lift
        return (prepared, responses)
  | updateExchangeInfo _, _, _ | getExchangeInfo _, _, _ | setExchangeInfo _, _, _ => False
  | call, request, read =>
      call.perform environment readers uninitialised = ask environment request read

variable {environment readers uninitialised}

/-- A call has one method whatever its arguments are, so only orders, cancellations, a
change of the leverage and the upkeep of the user data stream are more than queries. -/
theorem Own.verb {call : ApiCall} {request : Request}
    {read : Response → Evaluates call.Result}
    (mine : call.Own environment readers uninitialised request read) :
    request.verb = call.verb := by
  cases call with
  | sendOrder order =>
      rcases mine with ⟨quantityPrecision, pricePrecision, rfl, -⟩
      rfl
  | sendOrders orders =>
      rcases mine with ⟨prepared, -, rfl, -⟩
      rfl
  | getMarkPrice symbol | getTickerPrice symbol | getBookTickerPrice symbol =>
      have asked := (RESTClient.askForSymbol_of_ne
        (RESTClient.symbol_ne_of_ask_eq mine) _ _).symm.trans mine
      rw [← RESTClient.request_of_ask_eq asked]
      rfl
  | updateExchangeInfo | getExchangeInfo | setExchangeInfo => exact mine.elim
  | _ =>
      rw [← RESTClient.request_of_ask_eq mine]
      rfl

variable (environment readers uninitialised) in
/-- A call that has a request of its own asks for it after its lookups. -/
theorem conducts_perform {call : ApiCall} (plain : call.isInfo = false)
    (named : call.symbol? ≠ some "") :
    Conducts environment call.lookups
      (call.Own environment readers uninitialised)
      (call.perform environment readers uninitialised) := by
  cases call with
  | sendOrder order =>
      rw [perform, RESTClient.sendOrder_eq]
      apply Conducts.after_lookup
      intro quantityPrecision
      apply Conducts.after_lookup
      intro pricePrecision
      exact conducts_ask ⟨quantityPrecision, pricePrecision, rfl, rfl⟩
  | sendOrders orders =>
      rw [perform, RESTClient.sendOrders_eq]
      apply RESTClient.conducts_prepareOrders
      intro prepared preparation
      exact conducts_ask ⟨prepared, preparation, rfl, rfl⟩
  | getMarkPrice symbol | getTickerPrice symbol | getBookTickerPrice symbol =>
      have specified : symbol ≠ "" := fun empty => named (congrArg some empty)
      exact conducts_askForSymbol specified
        (RESTClient.askForSymbol_of_ne specified _ _)
  | updateExchangeInfo | getExchangeInfo | setExchangeInfo => cases plain
  | _ => exact conducts_ask rfl

end Requests

end ApiCall

/-! ## Runs -/

/-- One call of a run, what it sent and how it ended. -/
structure CallRecord where
  call : ApiCall
  requests : List Request
  outcome : Evaluates call.Result

section Runs

variable (environment : Environment) (readers : PositionReaders)

/-- One call, after which the caller goes on whatever the outcome. -/
def ApiCall.record (call : ApiCall) (uninitialised : Uninitialised) (client : ClientState) :
    CallRecord × ClientState :=
  let (outcome, after) :=
    (call.perform environment readers uninitialised).runFrom client
  ({ call, outcome, requests := after.sent.drop client.sent.length }, after)

/-- Calls one after the other, each with what its uninitialised variables hold. -/
def ApiCall.run : List (ApiCall × Uninitialised) → ClientState →
    List CallRecord × ClientState
  | [], client => ([], client)
  | (call, uninitialised) :: calls, client =>
      let (record, between) := call.record environment readers uninitialised client
      let (records, after) := run calls between
      (record :: records, after)

/-- The ways in which a call can go that found one client and left another. -/
inductive CallRecord.Accounted (record : CallRecord) (found left : ClientState) : Prop where
  /-- It sent its request, and its outcome was read from the answer to that request. -/
  | asked (downloads : Nat) (request : Request)
      (read : Response → Evaluates record.call.Result) (uninitialised : Uninitialised)
      (few : downloads ≤ record.call.lookups)
      (mine : record.call.Own environment readers uninitialised request read)
      (requests : record.requests =
        List.replicate downloads (infoRequest environment) ++ [request])
      (outcome : record.outcome =
        (environment.session.wire (found.sent.length + downloads) request).lift >>= read)
  /-- The exchange information that it needs did not come. -/
  | failed (downloads : Nat) (fault : Fault) (few : downloads + 1 ≤ record.call.lookups)
      (requests : record.requests =
        List.replicate (downloads + 1) (infoRequest environment))
      (answer : infoAnswer environment (found.sent.length + downloads) = .error fault)
      (outcome : record.outcome = .error fault)
  /-- No symbol was given. -/
  | refused (unnamed : record.call.symbol? = some "") (requests : record.requests = [])
      (outcome : record.outcome =
        .error (.raised (.standard "Invalid parameter, symbol must be specified")))
      (same : left = found)
  /-- It asked for the exchange information: what the client had was kept, downloaded anew,
  or could not be downloaded, and that is the outcome. -/
  | informed (downloads : Nat) (done : Evaluates Unit) (few : downloads ≤ 1)
      (requests : record.requests = List.replicate downloads (infoRequest environment))
      (judged : RESTClient.Outcome environment found done left)
      (outcome : ApiCall.Informs done left.exchange record.call record.outcome)
  /-- It put exchange information in place. -/
  | replaced (exchange : Exchange) (call : record.call = .setExchangeInfo exchange)
      (requests : record.requests = []) (outcome : record.outcome.isOk = true)
      (placed : left = { found with exchange })

variable {environment readers}

/-- A download adds one request, and nothing else does. -/
theorem RESTClient.Outcome.sent {before after : ClientState} {done : Evaluates Unit}
    (outcome : RESTClient.Outcome environment before done after) :
    ∃ downloads ≤ 1,
      after.sent = before.sent ++ List.replicate downloads (infoRequest environment) := by
  cases outcome with
  | kept known young => exact ⟨0, Nat.zero_le _, by simp⟩
  | downloaded | failed => exact ⟨1, le_refl _, rfl⟩

variable (environment readers) in
theorem ApiCall.sent_of_isInfo {call : ApiCall} (info : call.isInfo = true)
    (uninitialised : Uninitialised) (client : ClientState) :
    ∃ downloads ≤ 1,
      ((call.perform environment readers uninitialised).runFrom client).2.sent =
        client.sent ++ List.replicate downloads (infoRequest environment) := by
  cases call with
  | updateExchangeInfo force =>
      exact (RESTClient.updateExchangeInfo_outcome environment force client).sent
  | getExchangeInfo force =>
      rcases RESTClient.getExchangeInfo_outcome environment force rfl with ⟨done, outcome, -⟩
      exact outcome.sent
  | setExchangeInfo exchange => exact ⟨0, Nat.zero_le _, by simp [perform]; rfl⟩
  | _ => cases info

section Record

variable {call : ApiCall} {uninitialised : Uninitialised} {client : ClientState}

/-- What a call sent after what had been sent before is put on record. -/
theorem ApiCall.requests_record {requests : List Request}
    (sent : ((call.perform environment readers uninitialised).runFrom client).2.sent =
      client.sent ++ requests) :
    (call.record environment readers uninitialised client).1.requests = requests := by
  simp [record, sent]

theorem ApiCall.accounted_of_conduct
    (conduct : Conduct environment call.lookups
      (call.Own environment readers uninitialised) client
      ((call.perform environment readers uninitialised).runFrom client).1
      ((call.perform environment readers uninitialised).runFrom client).2) :
    (call.record environment readers uninitialised client).1.Accounted environment readers
      client (call.record environment readers uninitialised client).2 := by
  generalize performed : (call.perform environment readers uninitialised).runFrom client =
    result at conduct
  rcases result with ⟨outcome, after⟩
  have ended : (call.record environment readers uninitialised client).1.outcome = outcome :=
    congrArg Prod.fst performed
  cases conduct with
  | asked downloads few mine sent =>
      rw [List.append_assoc] at sent
      refine .asked downloads _ _ uninitialised few mine (requests_record ?_) ended
      rw [performed, sent]
  | failed downloads few answer sent =>
      refine .failed downloads _ few (requests_record ?_) answer ended
      rw [performed, sent]

variable (environment readers uninitialised client) in
theorem ApiCall.runFrom_of_unnamed (unnamed : call.symbol? = some "") :
    (call.perform environment readers uninitialised).runFrom client =
      (.error (.raised (.standard "Invalid parameter, symbol must be specified")),
        client) := by
  cases call with
  | getMarkPrice symbol | getTickerPrice symbol | getBookTickerPrice symbol =>
      cases unnamed
      rfl
  | _ => cases unnamed

variable (environment readers uninitialised client) in
/-- A call about the exchange information asks for it or puts it in place. -/
theorem ApiCall.accounted_of_isInfo (info : call.isInfo = true) :
    (call.record environment readers uninitialised client).1.Accounted environment readers
      client (call.record environment readers uninitialised client).2 := by
  rcases sent_of_isInfo environment readers info uninitialised client with
    ⟨downloads, few, sent⟩
  have requests := requests_record sent
  cases call with
  | updateExchangeInfo force =>
      exact .informed downloads _ few requests
        (RESTClient.updateExchangeInfo_outcome environment force client) rfl
  | getExchangeInfo force =>
      rcases RESTClient.getExchangeInfo_outcome environment force rfl with
        ⟨done, judged, result⟩
      exact .informed downloads done few requests judged result
  | setExchangeInfo exchange =>
      exact .replaced exchange rfl (requests_record (List.append_nil _).symm) rfl rfl
  | _ => cases info

/-- Every call goes in one of these ways. -/
theorem ApiCall.record_accounted (call : ApiCall) (uninitialised : Uninitialised)
    (client : ClientState) :
    (call.record environment readers uninitialised client).1.Accounted environment readers
      client (call.record environment readers uninitialised client).2 := by
  by_cases info : call.isInfo = true
  · exact accounted_of_isInfo environment readers uninitialised client info
  · by_cases unnamed : call.symbol? = some ""
    · have refusal := runFrom_of_unnamed environment readers uninitialised client unnamed
      refine .refused unnamed (requests_record ?_) (congrArg Prod.fst refusal)
        (congrArg Prod.snd refusal)
      rw [refusal, List.append_nil]
    · exact accounted_of_conduct
        (conducts_perform environment readers uninitialised (Bool.not_eq_true _ ▸ info)
          unnamed client)

/-- No call takes back what was sent. -/
theorem ApiCall.sent_record (call : ApiCall) (uninitialised : Uninitialised)
    (client : ClientState) :
    (call.record environment readers uninitialised client).2.sent =
      client.sent ++ (call.record environment readers uninitialised client).1.requests := by
  have grows : ∃ requests,
      ((call.perform environment readers uninitialised).runFrom client).2.sent =
        client.sent ++ requests := by
    by_cases info : call.isInfo = true
    · rcases sent_of_isInfo environment readers info uninitialised client with
        ⟨downloads, -, sent⟩
      exact ⟨_, sent⟩
    · by_cases unnamed : call.symbol? = some ""
      · refine ⟨[], ?_⟩
        rw [runFrom_of_unnamed environment readers uninitialised client unnamed,
          List.append_nil]
      · exact (conducts_perform environment readers uninitialised
          (Bool.not_eq_true _ ▸ info) unnamed client).grows
  rcases grows with ⟨requests, sent⟩
  rw [requests_record sent]
  exact sent

end Record

/-! ## Commands -/

/-- The requests that are more than queries. -/
def commands (requests : List Request) : List Request :=
  requests.filter fun request => request.verb ≠ .get

/-- Exchange information is queried. -/
theorem commands_downloads (downloads : Nat) :
    commands (List.replicate downloads (infoRequest environment)) = [] := by
  simp [commands, infoRequest, HTTPSession.request]

/-- A call commands at most once, exactly once if it returns, and never if it is a
query. -/
theorem CallRecord.Accounted.commands {record : CallRecord} {found left : ClientState}
    (accounted : record.Accounted environment readers found left) :
    (commands record.requests).length ≤ (if record.call.verb = .get then 0 else 1) ∧
      (record.outcome.isOk = true →
        (commands record.requests).length = if record.call.verb = .get then 0 else 1) := by
  cases accounted with
  | asked downloads request read uninitialised few mine requests outcome =>
      have counted : (Futures.commands record.requests).length =
          if record.call.verb = .get then 0 else 1 := by
        have own : Futures.commands [request] =
            if record.call.verb = .get then [] else [request] := by
          rw [← mine.verb]
          by_cases query : request.verb = .get <;> simp [Futures.commands, query]
        rw [requests, Futures.commands, List.filter_append]
        change (Futures.commands _ ++ Futures.commands [request]).length = _
        rw [commands_downloads, own]
        split <;> rfl
      exact ⟨counted.le, fun _ => counted⟩
  | failed downloads fault few requests answer outcome =>
      rw [requests, outcome, commands_downloads]
      exact ⟨Nat.zero_le _, fun returned => by cases returned⟩
  | refused unnamed requests outcome same =>
      rw [requests, outcome]
      exact ⟨Nat.zero_le _, fun returned => by cases returned⟩
  | informed downloads done few requests judged outcome =>
      rw [requests, commands_downloads, outcome.verb]
      exact ⟨le_refl _, fun _ => rfl⟩
  | replaced exchange call requests outcome placed =>
      have query : record.call.verb = .get := by
        rw [call]
        rfl
      rw [requests, query]
      exact ⟨le_refl _, fun _ => rfl⟩

/-! ## Every run -/

section Run

variable (calls : List (ApiCall × Uninitialised)) (before : ClientState)

theorem ApiCall.run_cons (call : ApiCall) (uninitialised : Uninitialised) :
    run environment readers ((call, uninitialised) :: calls) before =
      ((call.record environment readers uninitialised before).1 ::
          (run environment readers calls
            (call.record environment readers uninitialised before).2).1,
        (run environment readers calls
          (call.record environment readers uninitialised before).2).2) :=
  rfl

theorem ApiCall.run_calls :
    (run environment readers calls before).1.map CallRecord.call = calls.map Prod.fst := by
  induction calls generalizing before with
  | nil => rfl
  | cons first calls ih => exact congrArg (List.cons first.1) (ih _)

theorem ApiCall.run_sent :
    (run environment readers calls before).2.sent =
      before.sent ++
        (run environment readers calls before).1.flatMap CallRecord.requests := by
  induction calls generalizing before with
  | nil => exact (List.append_nil _).symm
  | cons first calls ih =>
      rcases first with ⟨call, uninitialised⟩
      rw [run_cons, List.flatMap_cons, ih, sent_record, List.append_assoc]

/-- The clients between the calls are those after the first calls. -/
theorem ApiCall.run_accounted {front back : List CallRecord} {record : CallRecord}
    (split : (run environment readers calls before).1 = front ++ record :: back) :
    record.Accounted environment readers
      (run environment readers (calls.take front.length) before).2
      (run environment readers (calls.take (front.length + 1)) before).2 := by
  induction calls generalizing before front with
  | nil => simp [run] at split
  | cons first calls ih =>
      rcases first with ⟨call, uninitialised⟩
      rw [run_cons] at split
      cases front with
      | nil =>
          rcases List.cons.inj split with ⟨rfl, -⟩
          exact record_accounted call uninitialised before
      | cons other front =>
          rcases List.cons.inj split with ⟨-, rest⟩
          exact ih _ rest

theorem ApiCall.run_take (count : Nat) :
    (run environment readers (calls.take count) before).1 =
      (run environment readers calls before).1.take count := by
  induction calls generalizing before count with
  | nil => simp [run]
  | cons first calls ih =>
      rcases first with ⟨call, uninitialised⟩
      cases count with
      | zero => rfl
      | succ count => exact congrArg (List.cons _) (ih _ count)

end Run

end Runs

/-- In every run of calls, against whatever answers, each call puts its requests behind
those of the calls before it: downloads of exchange information, and then at most one
request of its own.  Its outcome is read from the answer to that request, or says that the
information did not come; a call for the information alone returns what the client then
has, young enough or just downloaded.  An order, a cancellation or another command is on
the wire once at most, exactly once if its call returns, and no query commands anything. -/
theorem calls_on_the_wire (environment : Environment) (readers : PositionReaders)
    (calls : List (ApiCall × Uninitialised)) (before : ClientState) :
    let (records, after) := ApiCall.run environment readers calls before
    records.map CallRecord.call = calls.map Prod.fst ∧
      after.sent = before.sent ++ records.flatMap CallRecord.requests ∧
      (∀ front record back, records = front ++ record :: back →
        let found := (ApiCall.run environment readers (calls.take front.length) before).2
        found.sent = before.sent ++ front.flatMap CallRecord.requests ∧
          record.Accounted environment readers found
            (ApiCall.run environment readers (calls.take (front.length + 1)) before).2) ∧
      ∀ record ∈ records,
        (commands record.requests).length ≤ (if record.call.verb = .get then 0 else 1) ∧
          (record.outcome.isOk = true →
            (commands record.requests).length =
              if record.call.verb = .get then 0 else 1) := by
  refine ⟨ApiCall.run_calls calls before, ApiCall.run_sent calls before, ?_, ?_⟩
  · intro front record back split
    refine ⟨?_, ApiCall.run_accounted calls before split⟩
    rw [ApiCall.run_sent, ApiCall.run_take, split, List.take_left]
  · intro record member
    rcases List.append_of_mem member with ⟨front, back, split⟩
    exact (ApiCall.run_accounted calls before split).commands

end BinanceApi.Futures
