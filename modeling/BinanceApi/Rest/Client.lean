import BinanceApi.Http
import BinanceApi.Models.Exchange

/-!
# Futures client state

The client keeps the exchange information it downloaded last and renews it when
it is older than an hour.  A call reads and writes that state, sends requests and
may fail; a failed call keeps what it did before it failed.
-/

namespace BinanceApi.Futures

/-- What the client reaches outside itself.  `clock n` is the `n`-th value that
`std::time` gives. -/
structure Environment where
  externals : Externals
  session : HTTPSession
  clock : Nat → Int

/-- State of a client: the cached exchange information, the requests sent so far,
and how often the clock was read. -/
structure ClientState where
  exchange : Exchange
  sent : List Request
  readings : Nat

/-- A call on the client. -/
abbrev Call (α : Type) := ExceptT Fault (StateM ClientState) α

namespace Call

def lift {α : Type} (result : Evaluates α) : Call α :=
  ExceptT.mk (pure result)

/-- The outcome of a call and the state after it. -/
def runFrom {α : Type} (call : Call α) (client : ClientState) :
    Evaluates α × ClientState :=
  StateT.run (ExceptT.run call) client

@[simp] theorem runFrom_pure {α : Type} (value : α) (client : ClientState) :
    (pure value : Call α).runFrom client = (.ok value, client) := rfl

theorem runFrom_lift {α : Type} (result : Evaluates α) (client : ClientState) :
    (lift result).runFrom client = (result, client) := rfl

/-- A call that succeeds hands its value and its state to the next one. -/
theorem runFrom_bind_ok {α β : Type} {call : Call α} {next : α → Call β}
    {client after : ClientState} {value : α}
    (first : call.runFrom client = (.ok value, after)) :
    (call >>= next).runFrom client = (next value).runFrom after := by
  simp only [runFrom, ExceptT.run_bind, StateT.run_bind] at first ⊢
  rw [first]
  rfl

/-- A call that fails ends the sequence it starts. -/
theorem runFrom_bind_error {α β : Type} {call : Call α} {next : α → Call β}
    {client after : ClientState} {fault : Fault}
    (first : call.runFrom client = (.error fault, after)) :
    (call >>= next).runFrom client = (.error fault, after) := by
  simp only [runFrom, ExceptT.run_bind, StateT.run_bind] at first ⊢
  rw [first]
  rfl

/-- A sequence of calls succeeds only if its first call does. -/
theorem bind_ok {α β : Type} {call : Call α} {next : α → Call β}
    {client after : ClientState} {result : β}
    (succeeds : (call >>= next).runFrom client = (.ok result, after)) :
    ∃ value between, call.runFrom client = (.ok value, between) ∧
      (next value).runFrom between = (.ok result, after) := by
  cases first : call.runFrom client with
  | mk outcome between =>
      cases outcome with
      | ok value =>
          rw [runFrom_bind_ok first] at succeeds
          exact ⟨value, between, rfl, succeeds⟩
      | error fault =>
          rw [runFrom_bind_error first] at succeeds
          cases succeeds

/-- A call that changes nothing in the client. -/
def Quiet {α : Type} (call : Call α) : Prop :=
  ∀ client, (call.runFrom client).2 = client

theorem quiet_lift {α : Type} (result : Evaluates α) : (lift result).Quiet := by
  intro client
  rfl

/-- What a sequence does to the client is what its first call does, if the rest is
quiet. -/
theorem state_bind_of_quiet {α β : Type} {call : Call α} {next : α → Call β}
    (rest : ∀ value, (next value).Quiet) (client : ClientState) :
    ((call >>= next).runFrom client).2 = (call.runFrom client).2 := by
  cases first : call.runFrom client with
  | mk outcome between =>
      cases outcome with
      | ok value =>
          rw [runFrom_bind_ok first]
          exact rest value between
      | error fault => rw [runFrom_bind_error first]

theorem Quiet.bind {α β : Type} {call : Call α} {next : α → Call β}
    (first : call.Quiet) (rest : ∀ value, (next value).Quiet) :
    (call >>= next).Quiet := by
  intro client
  rw [state_bind_of_quiet rest]
  exact first client

end Call

namespace RESTClient

/-- `std::time(nullptr)`. -/
def time (environment : Environment) : Call Int :=
  modifyGet fun client =>
    (environment.clock client.readings, { client with readings := client.readings + 1 })

/-- Send a request and wait for its answer. -/
def send (environment : Environment) (request : Request) : Call Response := do
  let client ← get
  set { client with sent := client.sent ++ [request] }
  Call.lift (environment.session.wire client.sent.length request).lift

/-- Seconds after which exchange information is too old. -/
def EXCHANGE_DATA_MAX_AGE_S : Int := 3600

/-- Whether the cached exchange information must be downloaded again.  The clock
is read only when there is information to be judged. -/
def isOutdated (environment : Environment) : Call Bool := do
  if (← get).exchange.lastUpdateTime < 0 then
    return true
  else
    let now ← time environment
    return EXCHANGE_DATA_MAX_AGE_S < now - (← get).exchange.lastUpdateTime

theorem isOutdated_runFrom (environment : Environment) (client : ClientState) :
    (isOutdated environment).runFrom client =
      if client.exchange.lastUpdateTime < 0 then (.ok true, client)
      else
        (.ok (EXCHANGE_DATA_MAX_AGE_S <
            environment.clock client.readings - client.exchange.lastUpdateTime),
          { client with readings := client.readings + 1 }) := by
  simp only [isOutdated]
  have current : (get : Call ClientState).runFrom client = (.ok client, client) := rfl
  rw [Call.runFrom_bind_ok current]
  split <;> rfl

def updateExchangeInfo (environment : Environment) (force : Bool) : Call Unit := do
  let outdated ← isOutdated environment
  if (← get).exchange.symbols.isEmpty ∨ force ∨ outdated then
    let request := environment.session.request .get ⟨"exchangeInfo?", []⟩ true
    let response ← send environment request
    let response ← Call.lift (checkResponse environment.externals response).lift
    let json ← Call.lift response.json.lift
    let exchange ← Call.lift (Exchange.fromJson environment.externals json)
    let now ← time environment
    modify fun client =>
      { client with exchange := { exchange with lastUpdateTime := now } }

inductive PrecisionType where
  | Quantity | Price | Quote
  deriving DecidableEq, Repr

/-- The precision a list of symbols gives to a symbol, one if it does not list
it. -/
def precisionIn (symbols : List Symbol) (type : PrecisionType) (symbol : String) :
    Int :=
  match symbols.find? fun symbolEl => symbolEl.symbol = symbol with
  | some symbolEl =>
      match type with
      | .Quantity => symbolEl.quantityPrecision
      | .Price => symbolEl.pricePrecision
      | .Quote => symbolEl.quotePrecision
  | none => 1

def P.findPrecisionForSymbol (environment : Environment) (type : PrecisionType)
    (symbol : String) : Call Int := do
  if ← isOutdated environment then
    updateExchangeInfo environment true
  return precisionIn (← get).exchange.symbols type symbol

/-- Information that is not older than an hour at any reading of the clock from
now on. -/
def Fresh (environment : Environment) (client : ClientState) : Prop :=
  0 ≤ client.exchange.lastUpdateTime ∧
    ∀ n, client.readings ≤ n →
      environment.clock n - client.exchange.lastUpdateTime ≤ EXCHANGE_DATA_MAX_AGE_S

/-- With fresh information a lookup reads the cache and sends nothing. -/
theorem P.findPrecisionForSymbol_of_fresh {environment : Environment}
    {client : ClientState} (fresh : Fresh environment client) (type : PrecisionType)
    (symbol : String) :
    (findPrecisionForSymbol environment type symbol).runFrom client =
      (.ok (precisionIn client.exchange.symbols type symbol),
        { client with readings := client.readings + 1 }) := by
  have current : (isOutdated environment).runFrom client =
      (.ok false, { client with readings := client.readings + 1 }) := by
    have known := not_lt.mpr fresh.1
    have young := not_lt.mpr (fresh.2 client.readings (le_refl _))
    rw [isOutdated_runFrom, if_neg known]
    simp [young]
  simp only [findPrecisionForSymbol]
  rw [Call.runFrom_bind_ok current]
  rfl

end RESTClient

end BinanceApi.Futures
