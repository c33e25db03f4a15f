import BinanceApi.Models.CandleRows
import BinanceApi.Rest.CandleRanges

/-!
# Candle downloads from an inconsistent server

Nothing is assumed about the order of the candles a server sends, or that it answers
the same request twice in the same way.  Every candle it sends opens at or after the
time asked for and closes later than it opens; that alone moves the start of the next
page on.
-/

namespace BinanceApi

namespace RESTClient

/-- The answers to the page requests of a download, in order.  The first page is asked
for at a given time, each other one at the close of the last candle of the page before
it, until the range is exhausted, a request fails, or a page is empty. -/
inductive Conversation (page : Nat → Int → Evaluates (List Candle)) (endTime : Int) :
    Nat → Int → List (Evaluates (List Candle)) → Prop where
  | exhausted {requests : Nat} {fromTime : Int} (after : endTime ≤ fromTime) :
      Conversation page endTime requests fromTime []
  | failed {requests : Nat} {fromTime : Int} {fault : Fault} (before : fromTime < endTime)
      (answer : page requests fromTime = .error fault) :
      Conversation page endTime requests fromTime [.error fault]
  | empty {requests : Nat} {fromTime : Int} (before : fromTime < endTime)
      (answer : page requests fromTime = .ok []) :
      Conversation page endTime requests fromTime [.ok []]
  | page {requests : Nat} {fromTime : Int} {front : List Candle} {last : Candle}
      {answers : List (Evaluates (List Candle))} (before : fromTime < endTime)
      (answer : page requests fromTime = .ok (front ++ [last]))
      (later : Conversation page endTime (requests + 1) last.closeTime answers) :
      Conversation page endTime requests fromTime (.ok (front ++ [last]) :: answers)

/-- What a download makes of the answers: the candles kept so far and those of all
pages, without the last one, or the first failure. -/
def received (kept : List Candle) (answers : List (Evaluates (List Candle))) :
    Evaluates (List Candle) := do
  let pages ← answers.mapM id
  return (kept ++ pages.flatten).dropLast

theorem received_nil (kept : List Candle) : received kept [] = .ok kept.dropLast := by
  simp [received, ok_bind, pure, Except.pure]

theorem received_error (kept : List Candle) (fault : Fault)
    (answers : List (Evaluates (List Candle))) :
    received kept (.error fault :: answers) = .error fault := rfl

theorem received_ok (kept candles : List Candle)
    (answers : List (Evaluates (List Candle))) :
    received kept (.ok candles :: answers) = received (kept ++ candles) answers := by
  simp only [received, List.mapM_cons, id, ok_bind, bind_assoc]
  cases answers.mapM id with
  | error fault => rfl
  | ok pages => simp [ok_bind, pure, Except.pure]

theorem received_pages (pages : List (List Candle)) :
    received [] (pages.map .ok) = .ok pages.flatten.dropLast := by
  have all : (pages.map Except.ok).mapM id = (.ok pages : Evaluates _) :=
    mapM_map_ok fun _ _ => rfl
  rw [received, all]
  rfl

/-- The server's part, as a page function shows it: every candle of a page opens at or
after the time asked for and closes later. -/
def PagesAdvance (page : Nat → Int → Evaluates (List Candle)) : Prop :=
  ∀ n fromTime candles, 0 ≤ fromTime → page n fromTime = .ok candles →
    ∀ candle ∈ candles, fromTime ≤ candle.openTime ∧ candle.openTime < candle.closeTime

section Conversation

variable {page : Nat → Int → Evaluates (List Candle)} {endTime : Int}

/-- Each page but an empty one moves the start on by a millisecond at least, so the time
left bounds the number of requests. -/
theorem exists_conversation (advance : PagesAdvance page) (bound requests : Nat)
    {fromTime : Int} (nonneg : 0 ≤ fromTime) (left : endTime - fromTime ≤ bound) :
    ∃ answers, Conversation page endTime requests fromTime answers ∧
      answers.length ≤ bound := by
  induction bound generalizing requests fromTime with
  | zero => exact ⟨[], .exhausted (by omega), Nat.le_refl _⟩
  | succ bound ih =>
      rcases lt_or_ge fromTime endTime with before | after
      · cases answer : page requests fromTime with
        | error fault => exact ⟨_, .failed before answer, by simp⟩
        | ok candles =>
            rcases candles.eq_nil_or_concat' with rfl | ⟨front, last, rfl⟩
            · exact ⟨_, .empty before answer, by simp⟩
            · have moved := advance requests fromTime _ nonneg answer last (by simp)
              rcases ih (requests + 1) (by omega : 0 ≤ last.closeTime) (by omega) with
                ⟨answers, later, short⟩
              exact ⟨_, .page before answer later, Nat.succ_le_succ short⟩
      · exact ⟨[], .exhausted after, Nat.zero_le _⟩

/-- After a page with a last candle, the loop asks for the next one from its close. -/
theorem CandleDownload.body_page (kept front : List Candle) {candles : List Candle}
    {last : Candle} {requests next : Nat} (lastFromTime : Int)
    (fetched : fetch page requests last.closeTime endTime = .ok (candles, next)) :
    body page endTime
        { retVal := kept, lastFromTime, candles := front ++ [last], requests } =
      .again { retVal := kept ++ (front ++ [last]), lastFromTime := last.closeTime, candles,
               requests := next } := by
  simp [body, fetched]

theorem CandleDownload.body_page_failed (kept front : List Candle) {last : Candle}
    {requests : Nat} {fault : Fault} (lastFromTime : Int)
    (failed : fetch page requests last.closeTime endTime = .error fault) :
    body page endTime
        { retVal := kept, lastFromTime, candles := front ++ [last], requests } =
      .leave (.error fault) := by
  simp [body, failed]

/-- The loop carries the conversation out: it asks for no page that is not in it, and
leaves with what its answers make. -/
theorem Conversation.outcome {requests : Nat} {fromTime : Int}
    {answers : List (Evaluates (List Candle))}
    (conversation : Conversation page endTime requests fromTime answers)
    (kept : List Candle) :
    (∃ fault, fetch page requests fromTime endTime = .error fault ∧
      received kept answers = .error fault) ∨
    ∃ candles next, fetch page requests fromTime endTime = .ok (candles, next) ∧
      Loop.Returns (CandleDownload.body page endTime)
        { retVal := kept, lastFromTime := fromTime, candles, requests := next }
        (received kept answers) ∧
      ∀ state, Loop.Reaches (CandleDownload.body page endTime)
        { retVal := kept, lastFromTime := fromTime, candles, requests := next } state →
        state.requests ≤ requests + answers.length := by
  induction conversation generalizing kept with
  | @exhausted requests fromTime after =>
      refine .inr ⟨[], requests, fetch_of_ge after, ?_, ?_⟩
      · rw [received_nil]
        exact Loop.returns_of_leave rfl
      · intro state reached
        rw [reached.of_leave rfl]
        exact Nat.le_add_right ..
  | @failed requests fromTime fault before answer =>
      refine .inl ⟨fault, ?_, rfl⟩
      simp only [fetch, before, if_true, answer]
      rfl
  | @empty requests fromTime before answer =>
      refine .inr ⟨[], requests + 1, fetch_of_lt before answer, ?_, ?_⟩
      · rw [received_ok, received_nil, List.append_nil]
        exact Loop.returns_of_leave rfl
      · intro state reached
        rw [reached.of_leave rfl]
        exact Nat.le_refl _
  | @page requests fromTime front last answers before answer later ih =>
      refine .inr ⟨front ++ [last], requests + 1, fetch_of_lt before answer, ?_⟩
      rw [received_ok]
      rcases ih (kept ++ (front ++ [last])) with
        ⟨fault, failed, made⟩ | ⟨candles, next, fetched, returns, bounded⟩
      · have turn := CandleDownload.body_page_failed kept front fromTime failed
        refine ⟨made ▸ Loop.returns_of_leave turn, ?_⟩
        intro state reached
        rw [reached.of_leave turn, List.length_cons]
        exact Nat.add_le_add_left (Nat.le_add_left 1 _) requests
      · have turn := CandleDownload.body_page kept front fromTime fetched
        refine ⟨(Loop.returns_again_iff turn).mpr returns, ?_⟩
        intro state reached
        rw [List.length_cons]
        rcases reached.of_again turn with rfl | further
        · exact Nat.add_le_add_left (Nat.le_add_left 1 _) requests
        · have below := bounded state further
          omega

/-- No state of the loop has made more requests than the conversation has. -/
theorem Conversation.requests_le {requests made : Nat} {startTime : Int}
    {answers : List (Evaluates (List Candle))} {candles : List Candle}
    (conversation : Conversation page endTime requests startTime answers)
    (fetched : fetch page requests startTime endTime = .ok (candles, made))
    (state : CandleDownload)
    (reached : Loop.Reaches (CandleDownload.body page endTime)
      { retVal := [], lastFromTime := startTime, candles, requests := made } state) :
    state.requests ≤ requests + answers.length := by
  rcases conversation.outcome [] with
    ⟨fault, failed, -⟩ | ⟨others, next, same, -, bounded⟩
  · rw [fetched] at failed
    cases failed
  · rw [fetched, Except.ok.injEq, Prod.mk.injEq] at same
    rw [same.1, same.2] at reached
    exact bounded state reached

theorem Conversation.ends {requests : Nat} {startTime : Int}
    {answers : List (Evaluates (List Candle))}
    (conversation : Conversation page endTime requests startTime answers) :
    Loop.Ends (downloadCandles page requests startTime endTime) (received [] answers) := by
  unfold downloadCandles
  rcases conversation.outcome [] with
    ⟨fault, failed, made⟩ | ⟨candles, next, fetched, returns, -⟩
  · simp only [failed, made]
    exact ⟨0, fun _ => rfl⟩
  · simp only [fetched]
    exact returns.ends

end Conversation

/-- A page of candles that was returned is an answer to a request for the candles from
that time on. -/
theorem P.getHistoricalPrices_eq_ok {externals : Externals} {session : HTTPSession}
    {n : Nat} {symbol : String} {interval : CandleInterval} {startTime endTime limit : Int}
    {candles : List Candle} (startSet : startTime ≠ -1)
    (returned : P.getHistoricalPrices externals session n symbol interval startTime endTime
      limit = .ok candles) :
    ∃ request json,
      request.target.path = "klines?" ∧
      request.param? "startTime" = some startTime.repr ∧
      session.wire n request = .ok ⟨httpOk, .ok json⟩ ∧
      CandlesResponse.fromJson json = .ok candles := by
  rcases exists_of_bind_ok returned with ⟨response, got, rest⟩
  rcases exists_of_bind_ok rest with ⟨checked, passed, rest⟩
  rcases exists_of_bind_ok rest with ⟨json, parsed, decoded⟩
  rw [Throws.lift_eq_ok_iff] at got passed parsed
  rcases checkResponse_eq_ok passed with ⟨rfl, good⟩
  rcases checked with ⟨status, body⟩
  subst good parsed
  refine ⟨_, json, ?_, ?_, got, decoded⟩
  · simp [HTTPSession.request, klinesTarget]
  · simp [HTTPSession.request, Request.param?, klinesTarget, List.lookup, startSet]

end RESTClient

/-- A server that may answer every request differently, with candles in any order.  Each
opens at or after the time asked for and closes later than it opens. -/
def Advances (wire : Wire) : Prop :=
  ∀ n request fromTime json candles,
    request.target.path = "klines?" →
    request.param? "startTime" = some (Int.repr fromTime) →
    wire n request = .ok ⟨httpOk, .ok json⟩ →
    CandlesResponse.fromJson json = .ok candles →
    ∀ candle ∈ candles, fromTime ≤ candle.openTime ∧ candle.openTime < candle.closeTime

namespace CandleClient

def session (client : CandleClient) (wire : Wire) : HTTPSession :=
  match client with
  | .futures => .futures wire
  | .spot => .spot wire

/-- The page requests of a client's download. -/
def page (client : CandleClient) (externals : Externals) (wire : Wire) (symbol : String)
    (interval : CandleInterval) (endTime limit : Int) :
    Nat → Int → Evaluates (List Candle) := fun n lastFromTime =>
  RESTClient.P.getHistoricalPrices externals (client.session wire) n symbol interval
    lastFromTime endTime limit

theorem getHistoricalPrices_eq_download (client : CandleClient) (externals : Externals)
    (wire : Wire) (requests : Nat) (symbol : String) (interval : CandleInterval)
    (startTime endTime limit : Int) :
    client.getHistoricalPrices externals wire requests symbol interval startTime endTime
        limit =
      RESTClient.downloadCandles (client.page externals wire symbol interval endTime limit)
        requests startTime endTime := by
  cases client <;> rfl

theorem page_advances (client : CandleClient) (externals : Externals) {wire : Wire}
    (advances : Advances wire) (symbol : String) (interval : CandleInterval)
    (endTime limit : Int) :
    RESTClient.PagesAdvance
      (client.page externals wire symbol interval endTime limit) := by
  intro n fromTime candles nonneg returned
  rcases RESTClient.P.getHistoricalPrices_eq_ok (by omega) returned with
    ⟨request, json, path, startSent, answer, decoded⟩
  have sameWire : (client.session wire).wire = wire := by
    cases client <;> rfl
  rw [sameWire] at answer
  exact advances n request fromTime json candles path startSent answer decoded

end CandleClient

/-- Whatever such a server answers, a download of either client ends after at most as
many page requests as its range has milliseconds.  It returns the candles of all pages in
the order received, without the last one, or throws what the first failing request
throws. -/
theorem downloads_end (client : CandleClient) (externals : Externals) (wire : Wire)
    (requests : Nat) (symbol : String) (interval : CandleInterval)
    (startTime endTime limit : Int) (advances : Advances wire)
    (startNonneg : 0 ≤ startTime) (before : startTime < endTime) :
    ∃ answers : List (Evaluates (List Candle)),
      RESTClient.Conversation (client.page externals wire symbol interval endTime limit)
        endTime requests startTime answers ∧
      (answers.length : Int) ≤ endTime - startTime ∧
      (∀ candles made,
        RESTClient.fetch (client.page externals wire symbol interval endTime limit)
          requests startTime endTime = .ok (candles, made) →
        ∀ state,
          Loop.Reaches
            (RESTClient.CandleDownload.body
              (client.page externals wire symbol interval endTime limit) endTime)
            { retVal := [], lastFromTime := startTime, candles, requests := made } state →
          state.requests ≤ requests + answers.length) ∧
      Loop.Ends
        (client.getHistoricalPrices externals wire requests symbol interval startTime
          endTime limit)
        (RESTClient.received [] answers) ∧
      ∀ pages : List (List Candle), answers = pages.map .ok →
        Loop.Ends
          (client.getHistoricalPrices externals wire requests symbol interval startTime
            endTime limit)
          (.ok pages.flatten.dropLast) := by
  rcases RESTClient.exists_conversation
      (client.page_advances externals advances symbol interval endTime limit)
      (endTime - startTime).toNat requests startNonneg (Int.self_le_toNat _) with
    ⟨answers, conversation, short⟩
  have ends := conversation.ends
  rw [← client.getHistoricalPrices_eq_download] at ends
  refine ⟨answers, conversation, by omega, ?_, ends, ?_⟩
  · intro candles made fetched
    exact conversation.requests_le fetched
  · intro pages all
    rw [all, RESTClient.received_pages] at ends
    exact ends

/-- A server whose pages are not sorted and overlap: the second candle of a page opens
first, and the first one the later the more often the server was asked. -/
def overlapping (n : Nat) (fromTime : Int) : List Candle :=
  [(fromTime + n + 5, fromTime + n + 9), (fromTime, fromTime + 1)].map fun times =>
    { Candle.sixDigits with openTime := times.1, closeTime := times.2 }

def overlappingWire : Wire := fun n request =>
  match (request.param? "startTime").bind String.toInt? with
  | some fromTime =>
      .ok ⟨httpOk, .ok (.array ((overlapping n fromTime).map Candle.toJson))⟩
  | none => .error (.standard "bad request")

theorem overlapping_decodes (n : Nat) (fromTime : Int) :
    CandlesResponse.fromJson (.array ((overlapping n fromTime).map Candle.toJson)) =
      .ok (overlapping n fromTime) := by
  have sixDigits : ∀ amount ∈ Candle.sixDigits.amounts, amount.HasDigits 6 := by
    decide +kernel
  apply CandlesResponse.fromJson_rows
  intro row membership
  rcases List.mem_map.mp membership with ⟨times, -, rfl⟩
  rw [Candle.fromJson_toJson, Except.ok.injEq, Candle.printed_eq_self_iff]
  exact sixDigits

theorem overlapping_advances : Advances overlappingWire := by
  intro n request fromTime json candles _ startSent answer decoded
  simp only [overlappingWire, startSent, Option.bind_some, Int.toInt?_repr,
    Except.ok.injEq, Response.mk.injEq, true_and] at answer
  rw [← answer, overlapping_decodes, Except.ok.injEq] at decoded
  subst decoded
  simp only [overlapping, List.map_cons, List.map_nil, List.forall_mem_cons]
  refine ⟨by omega, by omega, ?_⟩
  exact List.forall_mem_nil _

/-- Three milliseconds of that server take three requests at most. -/
theorem downloads_end_overlapping :
    ∃ answers : List (Evaluates (List Candle)),
      answers.length ≤ 3 ∧
      Loop.Ends
        (CandleClient.spot.getHistoricalPrices .plain overlappingWire 0 "BTCUSDT" ._1m 0 3
          1)
        (RESTClient.received [] answers) := by
  rcases downloads_end .spot .plain overlappingWire 0 "BTCUSDT" ._1m 0 3 1
      overlapping_advances (by decide) (by decide) with
    ⟨answers, -, short, -, ends, -⟩
  exact ⟨answers, by omega, ends⟩

end BinanceApi
