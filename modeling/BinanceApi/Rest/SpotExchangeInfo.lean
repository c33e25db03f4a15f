import BinanceApi.Http
import BinanceApi.Library.Transition
import BinanceApi.Models.Exchange

/-!
# Exchange information of the spot client

The spot client has a cache of its own for the exchange information.  A call downloads
if the cache lists no symbols or if the caller insists; the age of the cache is not
looked at.
-/

namespace BinanceApi.Spot

structure Environment where
  externals : Externals
  session : HTTPSession

/-- State of a client: the cached exchange information, and the requests sent so far. -/
structure ClientState where
  exchange : Exchange := {}
  sent : List Request := []

namespace RESTClient

/-- Seconds after which exchange information is too old. -/
def EXCHANGE_DATA_MAX_AGE_S : Int := 3600

def infoRequest (environment : Environment) : Request :=
  environment.session.request .get ⟨"exchangeInfo?", []⟩ true

/-- What the answer to the `n`-th request decodes to. -/
def infoAnswer (environment : Environment) (n : Nat) : Evaluates Exchange := do
  let response ← (environment.session.get n ⟨"exchangeInfo?", []⟩ true).lift
  let response ← (checkResponse environment.externals response).lift
  let json ← response.json.lift
  Exchange.fromJson environment.externals json

/-- `time` is what `std::time` gives if the call reads it.  An exception leaves the
client as it was, but for the request that was sent. -/
def getExchangeInfo (environment : Environment) (force : Bool) (time : Int)
    (client : ClientState) : Evaluates Exchange × ClientState :=
  if client.exchange.symbols.isEmpty ∨ force then
    let sent := client.sent ++ [infoRequest environment]
    match infoAnswer environment client.sent.length with
    | .ok exchange =>
        let exchange := { exchange with lastUpdateTime := time }
        (.ok exchange, { exchange, sent })
    | .error fault => (.error fault, { client with sent })
  else
    (.ok client.exchange, client)

end RESTClient

/-! ## Runs -/

/-- A call, with the time at which it is made and the time at which it has its answer. -/
structure InfoCall where
  force : Bool
  made : Int
  done : Int

/-- A client, and the time that has been reached. -/
structure InfoRun where
  client : ClientState
  now : Int

namespace InfoRun

/-- Calls are made one after the other, and the clock does not go back. -/
def step (environment : Environment) (state : InfoRun) (call : InfoCall) :
    Option InfoRun :=
  if state.now ≤ call.made ∧ call.made ≤ call.done then
    some {
      client :=
        (RESTClient.getExchangeInfo environment call.force call.done state.client).2
      now := call.done }
  else none

def start (now : Int) : InfoRun where
  client := {}
  now := now

def run (environment : Environment) (began : Int) (calls : List InfoCall) :
    Option InfoRun :=
  Transition.run (step environment) (start began) calls

end InfoRun

namespace RESTClient

/-- A call of the run downloaded the information, and stamped it with the time at which
it had the answer. -/
def Fetched (environment : Environment) (began : Int) (calls : List InfoCall)
    (exchange : Exchange) : Prop :=
  ∃ front call back before decoded, front ++ call :: back = calls ∧
    InfoRun.run environment began front = some before ∧
    infoAnswer environment before.client.sent.length = .ok decoded ∧
    exchange = { decoded with lastUpdateTime := call.done } ∧
    (getExchangeInfo environment call.force call.done before.client).2 =
      { exchange, sent := before.client.sent ++ [infoRequest environment] }

/-- The two promises about a run. -/
structure NeverStale (environment : Environment) (began : Int) (calls : List InfoCall) :
    Prop where
  /-- What a call returns was fetched at most an hour before the call. -/
  returns : ∀ front call back before exchange after, front ++ call :: back = calls →
    InfoRun.run environment began front = some before →
    getExchangeInfo environment call.force call.done before.client = (.ok exchange, after) →
    Fetched environment began (front ++ [call]) exchange ∧
      call.made - exchange.lastUpdateTime ≤ EXCHANGE_DATA_MAX_AGE_S
  /-- A call that fails leaves the cache alone. -/
  failures : ∀ front call back before fault after, front ++ call :: back = calls →
    InfoRun.run environment began front = some before →
    getExchangeInfo environment call.force call.done before.client = (.error fault, after) →
    after.exchange = before.client.exchange

/-- The call downloads, or what is cached is young enough. -/
def Prompt (state : InfoRun) (call : InfoCall) : Prop :=
  state.client.exchange.symbols = [] ∨ call.force = true ∨
    call.made - state.client.exchange.lastUpdateTime ≤ EXCHANGE_DATA_MAX_AGE_S

variable {environment : Environment} {began : Int}

theorem Fetched.concat {calls : List InfoCall} {exchange : Exchange}
    (fetched : Fetched environment began calls exchange) (call : InfoCall) :
    Fetched environment began (calls ++ [call]) exchange := by
  rcases fetched with ⟨front, earlier, back, before, decoded, split, rest⟩
  refine ⟨front, earlier, back ++ [call], before, decoded, ?_, rest⟩
  rw [← List.cons_append, ← List.append_assoc, split]

/-- Without a download a call returns the cache. -/
theorem getExchangeInfo_of_listed {client : ClientState} {force : Bool}
    (listed : client.exchange.symbols ≠ []) (unforced : force ≠ true) (time : Int) :
    getExchangeInfo environment force time client = (.ok client.exchange, client) := by
  rw [getExchangeInfo, if_neg]
  simp [listed, unforced]

/-- How a call ends. -/
inductive Outcome (environment : Environment) (force : Bool) (time : Int)
    (before : ClientState) : Evaluates Exchange → ClientState → Prop where
  | kept (listed : before.exchange.symbols ≠ []) (unforced : force ≠ true) :
      Outcome environment force time before (.ok before.exchange) before
  | downloaded (decoded : Exchange)
      (answer : infoAnswer environment before.sent.length = .ok decoded) :
      Outcome environment force time before (.ok { decoded with lastUpdateTime := time }) {
        exchange := { decoded with lastUpdateTime := time }
        sent := before.sent ++ [infoRequest environment] }
  | failed (fault : Fault)
      (answer : infoAnswer environment before.sent.length = .error fault) :
      Outcome environment force time before (.error fault)
        { before with sent := before.sent ++ [infoRequest environment] }

theorem getExchangeInfo_outcome {force : Bool} {time : Int} {before after : ClientState}
    {result : Evaluates Exchange}
    (ended : getExchangeInfo environment force time before = (result, after)) :
    Outcome environment force time before result after := by
  by_cases due : before.exchange.symbols.isEmpty = true ∨ force = true
  · rw [getExchangeInfo, if_pos due] at ended
    cases answer : infoAnswer environment before.sent.length with
    | ok decoded =>
        rw [answer] at ended
        cases ended
        exact .downloaded decoded answer
    | error fault =>
        rw [answer] at ended
        cases ended
        exact .failed fault answer
  · simp only [List.isEmpty_iff, not_or] at due
    rw [getExchangeInfo_of_listed due.1 due.2] at ended
    cases ended
    exact .kept due.1 due.2

theorem getExchangeInfo_failed {client after : ClientState} {force : Bool} {time : Int}
    {fault : Fault}
    (failed : getExchangeInfo environment force time client = (.error fault, after)) :
    after.exchange = client.exchange := by
  cases getExchangeInfo_outcome failed
  rfl

/-- A call returns what it downloaded, or what an earlier call downloaded. -/
theorem fetched_of_returns {calls : List InfoCall} {call : InfoCall} {before : InfoRun}
    {exchange : Exchange} {after : ClientState}
    (ran : InfoRun.run environment began calls = some before)
    (cached : before.client.exchange.symbols = [] ∨
      Fetched environment began calls before.client.exchange)
    (returned : getExchangeInfo environment call.force call.done before.client =
      (.ok exchange, after)) :
    after.exchange = exchange ∧ Fetched environment began (calls ++ [call]) exchange := by
  have state := congrArg Prod.snd returned
  cases getExchangeInfo_outcome returned with
  | kept listed unforced => exact ⟨rfl, (cached.resolve_left listed).concat call⟩
  | downloaded decoded answer =>
      exact ⟨rfl, calls, call, [], before, decoded, rfl, ran, answer, rfl, state⟩

theorem step_eq_some {state next : InfoRun} {call : InfoCall}
    (stepped : state.step environment call = some next) :
    call.made ≤ call.done ∧ next.client =
      (getExchangeInfo environment call.force call.done state.client).2 := by
  simp only [InfoRun.step] at stepped
  split at stepped
  next timely =>
    cases stepped
    exact ⟨timely.2, rfl⟩
  · cases stepped

/-- Whatever lists symbols was fetched. -/
theorem cached_run {calls : List InfoCall} {state : InfoRun}
    (ran : InfoRun.run environment began calls = some state) :
    state.client.exchange.symbols = [] ∨
      Fetched environment began calls state.client.exchange := by
  induction calls using List.reverseRecOn generalizing state with
  | nil =>
      cases ran
      exact .inl rfl
  | append_singleton calls call ih =>
      rcases Transition.run_concat_eq_some ran with ⟨before, earlier, last⟩
      have cached := ih earlier
      rw [(step_eq_some last).2]
      cases ended : getExchangeInfo environment call.force call.done before.client with
      | mk result after =>
          cases result with
          | ok exchange =>
              rcases fetched_of_returns earlier cached ended with ⟨same, fetched⟩
              rw [same]
              exact .inr fetched
          | error fault =>
              rw [getExchangeInfo_failed ended]
              exact cached.imp_right fun fetched => fetched.concat call

end RESTClient

/-- In every run the two promises are kept exactly when no call meets, unforced, a
listing that is older than an hour. -/
theorem exchangeInfo_fresh_iff (environment : Environment) (began : Int)
    (calls : List InfoCall) (final : InfoRun)
    (ran : InfoRun.run environment began calls = some final) :
    RESTClient.NeverStale environment began calls ↔
      Transition.AllSteps (InfoRun.step environment) (.start began) calls
        RESTClient.Prompt := by
  constructor
  · intro never front call back state split before
    by_contra late
    simp only [RESTClient.Prompt, not_or] at late
    rcases late with ⟨listed, unforced, old⟩
    have kept : RESTClient.getExchangeInfo environment call.force call.done state.client =
        (.ok state.client.exchange, state.client) :=
      RESTClient.getExchangeInfo_of_listed listed unforced call.done
    exact old (never.returns front call back state _ _ split before kept).2
  · intro prompt
    constructor
    · intro front call back before exchange after split reached returned
      rcases RESTClient.fetched_of_returns reached (RESTClient.cached_run reached)
        returned with ⟨-, fetched⟩
      refine ⟨fetched, ?_⟩
      rw [← split] at ran
      rcases Transition.step_of_run_eq_some ran reached with ⟨next, stepped⟩
      have timely := (RESTClient.step_eq_some stepped).1
      cases RESTClient.getExchangeInfo_outcome returned with
      | kept listed unforced =>
          have young := prompt front call back before split reached
          exact (young.resolve_left listed).resolve_left unforced
      | downloaded decoded answer =>
          simp only [RESTClient.EXCHANGE_DATA_MAX_AGE_S]
          omega
    · intro front call back before fault after _ _ failed
      exact RESTClient.getExchangeInfo_failed failed

/-- An exchange with one symbol. -/
def infoEnvironment : Environment where
  externals := .plain
  session := .spot fun _ _ => .ok ⟨200, .ok (.object
    [("rateLimits", .array []),
      ("symbols", .array [.object [("symbol", .string "BTCUSDT")]])])⟩

/-- A client after its first call. -/
def sampleDownloaded : InfoRun where
  client := {
    exchange := {
      symbols :=
        [{ symbol := "BTCUSDT", status := .TRADING, baseAsset := "", quoteAsset := "" }]
      lastUpdateTime := 1700000002 }
    sent := [RESTClient.infoRequest infoEnvironment] }
  now := 1700000002

def sampleFirst : InfoCall where
  force := false
  made := 1700000000
  done := 1700000002

theorem exchangeInfo_fresh_sample :
    RESTClient.NeverStale infoEnvironment 1700000000
      ([sampleFirst] ++ [{ force := false, made := 1700003602, done := 1700003602 }]) := by
  have first : InfoRun.run infoEnvironment 1700000000 [sampleFirst] =
      some sampleDownloaded := rfl
  have downloads : Transition.AllSteps (InfoRun.step infoEnvironment) (.start 1700000000)
      ([] ++ [sampleFirst]) RESTClient.Prompt :=
    (Transition.allSteps_concat rfl).mpr ⟨Transition.allSteps_nil, .inl rfl⟩
  apply (exchangeInfo_fresh_iff infoEnvironment 1700000000 _ _ rfl).mpr
  exact (Transition.allSteps_concat first).mpr ⟨downloads, .inr (.inr (by decide))⟩

/-- Two hours after the download, a call returns what was downloaded then. -/
theorem exchangeInfo_stale_sample :
    ¬RESTClient.NeverStale infoEnvironment 1700000000
      ([sampleFirst] ++ [{ force := false, made := 1700007202, done := 1700007202 }]) := by
  intro never
  have late := never.returns [sampleFirst] _ [] sampleDownloaded _ _ rfl rfl rfl
  exact absurd late.2 (by decide)

end BinanceApi.Spot
