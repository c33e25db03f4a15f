import Mathlib.Data.Int.ConditionallyCompleteOrder
import BinanceApi.Library.Transition
import BinanceApi.Rest.Orders

/-!
# Freshness of the exchange information

The cache under all the operations that read or write it: downloads that may fail,
lookups of precisions, and copies that the caller puts back.  The age of the cache is
judged by the operation that is about to use it.
-/

namespace BinanceApi.Futures

namespace RESTClient

def getExchangeInfo (environment : Environment) (force : Bool) : Call Exchange := do
  updateExchangeInfo environment force
  return (← get).exchange

def setExchangeInfo (exchange : Exchange) : Call Unit :=
  modify fun client => { client with exchange }

/-! ## What a download does -/

/-- The request for exchange information. -/
def infoRequest (environment : Environment) : Request :=
  environment.session.request .get ⟨"exchangeInfo?", []⟩ true

/-- What the answer to the `n`-th request decodes to. -/
def infoAnswer (environment : Environment) (n : Nat) : Evaluates Exchange := do
  let response ← (environment.session.wire n (infoRequest environment)).lift
  let response ← (checkResponse environment.externals response).lift
  let json ← response.json.lift
  Exchange.fromJson environment.externals json

/-- The part of `updateExchangeInfo` that is executed when the information is due. -/
def download (environment : Environment) : Call Unit := do
  let response ← send environment (infoRequest environment)
  let response ← Call.lift (checkResponse environment.externals response).lift
  let json ← Call.lift response.json.lift
  let exchange ← Call.lift (Exchange.fromJson environment.externals json)
  let now ← time environment
  modify fun client => { client with exchange := { exchange with lastUpdateTime := now } }

theorem updateExchangeInfo_eq (environment : Environment) (force : Bool) :
    updateExchangeInfo environment force = (do
      let outdated ← isOutdated environment
      if (← get).exchange.symbols.isEmpty ∨ force ∨ outdated then
        download environment) :=
  rfl

theorem runFrom_lift_bind {α β : Type} (result : Evaluates α) (next : α → Call β)
    (client : ClientState) :
    (Call.lift result >>= next).runFrom client =
      match result with
      | .ok value => (next value).runFrom client
      | .error fault => (.error fault, client) := by
  cases result <;> rfl

theorem runFrom_send (environment : Environment) (request : Request)
    (client : ClientState) :
    (send environment request).runFrom client =
      ((environment.session.wire client.sent.length request).lift,
        { client with sent := client.sent ++ [request] }) :=
  rfl

/-- A download replaces the cache by what was decoded, stamped with the time read
last, or fails and leaves the cache alone. -/
theorem download_runFrom (environment : Environment) (client : ClientState) :
    (download environment).runFrom client =
      match infoAnswer environment client.sent.length with
      | .ok exchange =>
          (.ok (), {
            exchange :=
              { exchange with lastUpdateTime := environment.clock client.readings }
            sent := client.sent ++ [infoRequest environment]
            readings := client.readings + 1 })
      | .error fault =>
          (.error fault,
            { client with sent := client.sent ++ [infoRequest environment] }) := by
  have sent := runFrom_send environment (infoRequest environment) client
  simp only [download, infoAnswer]
  cases answer : environment.session.wire client.sent.length (infoRequest environment) with
  | error exception =>
      rw [answer, Throws.lift_error] at sent
      rw [Call.runFrom_bind_error sent, Throws.lift_error, error_bind]
  | ok response =>
      rw [answer, Throws.lift_ok] at sent
      rw [Call.runFrom_bind_ok sent, Throws.lift_ok, ok_bind, runFrom_lift_bind]
      cases checkResponse environment.externals response with
      | error exception => rfl
      | ok response =>
          simp only [Throws.lift_ok, ok_bind, runFrom_lift_bind]
          cases response.json with
          | error exception => rfl
          | ok json =>
              simp only [Throws.lift_ok, ok_bind]
              cases Exchange.fromJson environment.externals json <;> rfl

/-! ## What an operation does to the cache -/

/-- How judging the age of the cache, and renewing it if it is due, ends. -/
inductive Outcome (environment : Environment) (before : ClientState) :
    Evaluates Unit → ClientState → Prop where
  /-- The age was judged, and nothing was due. -/
  | kept (known : 0 ≤ before.exchange.lastUpdateTime)
      (young : environment.clock before.readings - before.exchange.lastUpdateTime ≤
        EXCHANGE_DATA_MAX_AGE_S) :
      Outcome environment before (.ok ()) { before with readings := before.readings + 1 }
  /-- The cache holds what was downloaded, stamped with the time read last. -/
  | downloaded (exchange : Exchange) (judged : Nat) (later : before.readings ≤ judged)
      (answer : infoAnswer environment before.sent.length = .ok exchange) :
      Outcome environment before (.ok ()) {
        exchange := { exchange with lastUpdateTime := environment.clock judged }
        sent := before.sent ++ [infoRequest environment]
        readings := judged + 1 }
  /-- The download failed. -/
  | failed (fault : Fault) (judged : Nat) (later : before.readings ≤ judged)
      (answer : infoAnswer environment before.sent.length = .error fault) :
      Outcome environment before (.error fault)
        { before with
          sent := before.sent ++ [infoRequest environment]
          readings := judged }

theorem outcome_download {environment : Environment} {before : ClientState} {judged : Nat}
    (later : before.readings ≤ judged) :
    Outcome environment before
      ((download environment).runFrom { before with readings := judged }).1
      ((download environment).runFrom { before with readings := judged }).2 := by
  rw [download_runFrom]
  cases answer : infoAnswer environment before.sent.length with
  | ok exchange => exact .downloaded exchange judged later answer
  | error fault => exact .failed fault judged later answer

/-- The age check reads the clock at most once, and finds nothing due only after it
has read it. -/
theorem isOutdated_outcome (environment : Environment) (client : ClientState) :
    ∃ outdated judged,
      (isOutdated environment).runFrom client =
        (.ok outdated, { client with readings := judged }) ∧
      client.readings ≤ judged ∧
      (outdated = false →
        judged = client.readings + 1 ∧ 0 ≤ client.exchange.lastUpdateTime ∧
          environment.clock client.readings - client.exchange.lastUpdateTime ≤
            EXCHANGE_DATA_MAX_AGE_S) := by
  rw [isOutdated_runFrom]
  split
  next unknown => exact ⟨true, client.readings, rfl, le_refl _, nofun⟩
  next known =>
    refine ⟨_, client.readings + 1, rfl, Nat.le_succ _, ?_⟩
    intro young
    exact ⟨rfl, not_lt.mp known, not_lt.mp (decide_eq_false_iff_not.mp young)⟩

theorem updateExchangeInfo_outcome (environment : Environment) (force : Bool)
    (before : ClientState) :
    Outcome environment before ((updateExchangeInfo environment force).runFrom before).1
      ((updateExchangeInfo environment force).runFrom before).2 := by
  rcases isOutdated_outcome environment before with ⟨outdated, judged, check, later, due⟩
  have current : (get : Call ClientState).runFrom { before with readings := judged } =
      (.ok { before with readings := judged }, { before with readings := judged }) := rfl
  rw [updateExchangeInfo_eq, Call.runFrom_bind_ok check, Call.runFrom_bind_ok current]
  split
  · exact outcome_download later
  next notDue =>
    simp only [not_or, Bool.not_eq_true] at notDue
    rcases due notDue.2.2 with ⟨rfl, known, young⟩
    exact .kept known young

/-- A forced update downloads. -/
theorem updateExchangeInfo_forced (environment : Environment) (client : ClientState) :
    ∃ judged, client.readings ≤ judged ∧
      (updateExchangeInfo environment true).runFrom client =
        (download environment).runFrom { client with readings := judged } := by
  rcases isOutdated_outcome environment client with ⟨outdated, judged, check, later, -⟩
  have current : (get : Call ClientState).runFrom { client with readings := judged } =
      (.ok { client with readings := judged }, { client with readings := judged }) := rfl
  refine ⟨judged, later, ?_⟩
  rw [updateExchangeInfo_eq, Call.runFrom_bind_ok check, Call.runFrom_bind_ok current]
  simp

/-- Reading the client after a call. -/
theorem runFrom_then_read {α : Type} {call : Call Unit} {client after : ClientState}
    {done : Evaluates Unit} (ran : call.runFrom client = (done, after))
    (read : ClientState → α) :
    (do call; return read (← get)).runFrom client =
      (done.map fun _ => read after, after) := by
  cases done with
  | ok =>
      rw [Call.runFrom_bind_ok ran]
      rfl
  | error fault =>
      rw [Call.runFrom_bind_error ran]
      rfl

theorem getExchangeInfo_outcome (environment : Environment) (force : Bool)
    {before after : ClientState} {result : Evaluates Exchange}
    (got : (getExchangeInfo environment force).runFrom before = (result, after)) :
    ∃ done, Outcome environment before done after ∧
      result = done.map fun _ => after.exchange := by
  have outcome := updateExchangeInfo_outcome environment force before
  cases updated : (updateExchangeInfo environment force).runFrom before with
  | mk done between =>
      rw [getExchangeInfo, runFrom_then_read updated] at got
      rw [updated] at outcome
      cases got
      exact ⟨done, outcome, rfl⟩

/-- A lookup reads the cache after its age was judged, and fails only as a download
does. -/
theorem P.findPrecisionForSymbol_outcome (environment : Environment)
    (type : PrecisionType) (symbol : String) {before after : ClientState}
    {result : Evaluates Int}
    (looked : (findPrecisionForSymbol environment type symbol).runFrom before =
      (result, after)) :
    ∃ done, Outcome environment before done after ∧
      result = done.map fun _ => precisionIn after.exchange.symbols type symbol := by
  rcases isOutdated_outcome environment before with ⟨outdated, judged, check, later, due⟩
  simp only [findPrecisionForSymbol] at looked
  rw [Call.runFrom_bind_ok check] at looked
  cases outdated with
  | false =>
      rcases due rfl with ⟨rfl, known, young⟩
      cases looked
      exact ⟨.ok (), .kept known young, rfl⟩
  | true =>
      rcases updateExchangeInfo_forced environment { before with readings := judged } with
        ⟨again, stillLater, forced⟩
      have outcome : Outcome environment before _ _ :=
        outcome_download (le_trans later stillLater)
      cases downloaded : (download environment).runFrom { before with readings := again } with
      | mk done between =>
          rw [downloaded] at forced outcome
          rw [if_pos rfl, runFrom_then_read forced] at looked
          cases looked
          exact ⟨done, outcome, rfl⟩

/-- A client that was just constructed. -/
def constructed : ClientState where
  exchange := Exchange.empty
  sent := []
  readings := 0

end RESTClient

/-! ## Runs -/

/-- What reads or writes the cache.  `sendOrder` and `sendOrders` are made of lookups
and of one request that is posted. -/
inductive InfoOperation where
  | getExchangeInfo (force : Bool)
  | updateExchangeInfo (force : Bool)
  | findPrecisionForSymbol (type : RESTClient.PrecisionType) (symbol : String)
  | post (target : Target)
  | setExchangeInfo (exchange : Exchange)

/-- A client, and what `getExchangeInfo` has returned to its caller. -/
structure InfoRun where
  client : ClientState
  returned : List Exchange

namespace InfoRun

def step (environment : Environment) (state : InfoRun) :
    InfoOperation → Option InfoRun
  | .getExchangeInfo force =>
      match (RESTClient.getExchangeInfo environment force).runFrom state.client with
      | (.ok exchange, client) =>
          some { client, returned := state.returned ++ [exchange] }
      | (.error _, client) => some { state with client }
  | .updateExchangeInfo force =>
      some { state with client :=
        ((RESTClient.updateExchangeInfo environment force).runFrom state.client).2 }
  | .findPrecisionForSymbol type symbol =>
      some { state with client :=
        ((RESTClient.P.findPrecisionForSymbol environment type symbol).runFrom
          state.client).2 }
  | .post target =>
      some { state with client :=
        ((RESTClient.send environment
          (environment.session.request .post target false)).runFrom state.client).2 }
  | .setExchangeInfo exchange =>
      if exchange ∈ state.returned then
        some { state with client :=
          ((RESTClient.setExchangeInfo exchange).runFrom state.client).2 }
      else none

def start : InfoRun where
  client := RESTClient.constructed
  returned := []

def run (environment : Environment) (operations : List InfoOperation) :
    Option InfoRun :=
  Transition.run (step environment) start operations

end InfoRun

namespace RESTClient

/-- The call renews the cache by what it downloads, stamped with the clock's last
reading. -/
def Downloads (environment : Environment) (before after : ClientState)
    (exchange : Exchange) : Prop :=
  ∃ decoded, infoAnswer environment before.sent.length = .ok decoded ∧
    after.sent = before.sent ++ [infoRequest environment] ∧
    before.readings < after.readings ∧
    exchange =
      { decoded with lastUpdateTime := environment.clock (after.readings - 1) }

/-- Each time the call reads the clock, the information is at most an hour old. -/
def Recent (environment : Environment) (before after : ClientState)
    (exchange : Exchange) : Prop :=
  ∀ n, before.readings ≤ n → n < after.readings →
    environment.clock n - exchange.lastUpdateTime ≤ EXCHANGE_DATA_MAX_AGE_S

/-- One of the operations of a run downloaded the information, at the time that it
bears. -/
def Fetched (environment : Environment) (operations : List InfoOperation)
    (exchange : Exchange) : Prop :=
  ∃ front operation back before after, front ++ operation :: back = operations ∧
    InfoRun.run environment front = some before ∧
    before.step environment operation = some after ∧
    Downloads environment before.client after.client exchange

/-- A call that judged the cache and went on reads information that is recent, and was
in the cache or was downloaded. -/
theorem Outcome.recent {environment : Environment} {before after : ClientState}
    (steady : Monotone environment.clock)
    (outcome : Outcome environment before (.ok ()) after) :
    Recent environment before after after.exchange ∧
      (0 ≤ before.exchange.lastUpdateTime ∧ after.exchange = before.exchange ∨
        Downloads environment before after after.exchange) := by
  cases outcome with
  | kept known young =>
      refine ⟨?_, .inl ⟨known, rfl⟩⟩
      intro n least greatest
      have same : n = before.readings := le_antisymm (Nat.le_of_lt_succ greatest) least
      rw [same]
      exact young
  | downloaded exchange judged later answer =>
      constructor
      · intro n _ greatest
        have earlier := steady (Nat.le_of_lt_succ greatest)
        simp only [EXCHANGE_DATA_MAX_AGE_S]
        omega
      · exact .inr ⟨exchange, answer, rfl, Nat.lt_succ_of_le later, rfl⟩

theorem Outcome.unchanged {environment : Environment} {before after : ClientState}
    {fault : Fault} (outcome : Outcome environment before (.error fault) after) :
    after.exchange = before.exchange ∧
      after.sent = before.sent ++ [infoRequest environment] := by
  cases outcome
  exact ⟨rfl, rfl⟩

theorem Fetched.concat {environment : Environment} {operations : List InfoOperation}
    {exchange : Exchange} (fetched : Fetched environment operations exchange)
    (operation : InfoOperation) :
    Fetched environment (operations ++ [operation]) exchange := by
  rcases fetched with ⟨front, earlier, back, before, after, split, rest⟩
  refine ⟨front, earlier, back ++ [operation], before, after, ?_, rest⟩
  rw [← List.cons_append, ← List.append_assoc, split]

/-- Where the information of a client comes from. -/
structure Sound (environment : Environment) (operations : List InfoOperation)
    (state : InfoRun) : Prop where
  cached : state.client.exchange.lastUpdateTime < 0 ∨
    Fetched environment operations state.client.exchange
  returned : ∀ exchange ∈ state.returned, Fetched environment operations exchange

theorem sound_start (environment : Environment) : Sound environment [] .start where
  cached := .inl (by decide)
  returned := by simp [InfoRun.start]

/-- What an operation that went on reads was fetched. -/
theorem Sound.fetched {environment : Environment} {operations : List InfoOperation}
    {operation : InfoOperation} {state next : InfoRun} (steady : Monotone environment.clock)
    (sound : Sound environment operations state)
    (ran : InfoRun.run environment operations = some state)
    (stepped : state.step environment operation = some next)
    (outcome : Outcome environment state.client (.ok ()) next.client) :
    Fetched environment (operations ++ [operation]) next.client.exchange := by
  rcases (outcome.recent steady).2 with ⟨known, same⟩ | downloads
  · rcases sound.cached with unknown | fetched
    · exact absurd unknown (not_lt.mpr known)
    · rw [same]
      exact fetched.concat operation
  · exact ⟨operations, operation, [], state, next, rfl, ran, stepped, downloads⟩

/-- Whatever the outcome, the cache stays sound. -/
theorem Sound.cached_next {environment : Environment} {operations : List InfoOperation}
    {operation : InfoOperation} {state next : InfoRun} {done : Evaluates Unit}
    (steady : Monotone environment.clock) (sound : Sound environment operations state)
    (ran : InfoRun.run environment operations = some state)
    (stepped : state.step environment operation = some next)
    (outcome : Outcome environment state.client done next.client) :
    next.client.exchange.lastUpdateTime < 0 ∨
      Fetched environment (operations ++ [operation]) next.client.exchange := by
  cases done with
  | ok => exact .inr (sound.fetched steady ran stepped outcome)
  | error fault =>
      rw [outcome.unchanged.1]
      exact sound.cached.imp_right fun fetched => fetched.concat operation

theorem Sound.step {environment : Environment} {operations : List InfoOperation}
    {operation : InfoOperation} {state next : InfoRun} (steady : Monotone environment.clock)
    (sound : Sound environment operations state)
    (ran : InfoRun.run environment operations = some state)
    (stepped : state.step environment operation = some next) :
    Sound environment (operations ++ [operation]) next := by
  have older : ∀ exchange ∈ state.returned,
      Fetched environment (operations ++ [operation]) exchange := by
    intro exchange member
    exact (sound.returned exchange member).concat operation
  have asBefore : state.client.exchange.lastUpdateTime < 0 ∨
      Fetched environment (operations ++ [operation]) state.client.exchange :=
    sound.cached.imp_right fun fetched => fetched.concat operation
  have stepped' := stepped
  cases operation with
  | getExchangeInfo force =>
      simp only [InfoRun.step] at stepped
      split at stepped
      next exchange client got =>
        cases stepped
        rcases getExchangeInfo_outcome environment force got with ⟨done, outcome, result⟩
        refine ⟨sound.cached_next steady ran stepped' outcome, ?_⟩
        intro other member
        rcases List.mem_append.mp member with member | member
        · exact older other member
        · cases done with
          | ok =>
              cases result
              rw [List.mem_singleton.mp member]
              exact sound.fetched steady ran stepped' outcome
          | error fault => cases result
      next fault client got =>
        cases stepped
        rcases getExchangeInfo_outcome environment force got with ⟨done, outcome, -⟩
        exact ⟨sound.cached_next steady ran stepped' outcome, older⟩
  | updateExchangeInfo force =>
      cases stepped
      exact ⟨sound.cached_next steady ran stepped'
        (updateExchangeInfo_outcome environment force state.client), older⟩
  | findPrecisionForSymbol type symbol =>
      cases stepped
      rcases P.findPrecisionForSymbol_outcome environment type symbol rfl with
        ⟨done, outcome, -⟩
      exact ⟨sound.cached_next steady ran stepped' outcome, older⟩
  | post target =>
      cases stepped
      exact ⟨asBefore, older⟩
  | setExchangeInfo exchange =>
      simp only [InfoRun.step] at stepped
      split at stepped
      next member =>
        cases stepped
        exact ⟨.inr (older exchange member), older⟩
      · cases stepped

theorem sound_run {environment : Environment} {operations : List InfoOperation}
    {state : InfoRun} (steady : Monotone environment.clock)
    (ran : InfoRun.run environment operations = some state) :
    Sound environment operations state := by
  induction operations using List.reverseRecOn generalizing state with
  | nil =>
      cases ran
      exact sound_start environment
  | append_singleton operations operation ih =>
      rcases Transition.run_concat_eq_some ran with ⟨before, earlier, last⟩
      exact (ih earlier).step steady earlier last

/-! ## Calls that send orders -/

def IsLookup : InfoOperation → Prop
  | .findPrecisionForSymbol .. => True
  | _ => False

def IsLookupOrPost : InfoOperation → Prop
  | .findPrecisionForSymbol .. | .post _ => True
  | _ => False

theorem IsLookup.orPost {operation : InfoOperation} (lookup : IsLookup operation) :
    IsLookupOrPost operation := by
  cases operation <;> trivial

/-- From every client the call does what a run of such operations does. -/
def MadeOf (environment : Environment) (kind : InfoOperation → Prop) {α : Type}
    (call : Call α) : Prop :=
  ∀ state : InfoRun, ∃ operations, (∀ operation ∈ operations, kind operation) ∧
    Transition.run (InfoRun.step environment) state operations =
      some { state with client := (call.runFrom state.client).2 }

theorem madeOf_of_quiet {environment : Environment} {kind : InfoOperation → Prop}
    {α : Type} {call : Call α} (quiet : call.Quiet) : MadeOf environment kind call := by
  intro state
  refine ⟨[], by simp, ?_⟩
  rw [quiet state.client]
  rfl

theorem MadeOf.bind {environment : Environment} {kind : InfoOperation → Prop}
    {α β : Type} {call : Call α} {next : α → Call β}
    (first : MadeOf environment kind call)
    (rest : ∀ value, MadeOf environment kind (next value)) :
    MadeOf environment kind (call >>= next) := by
  intro state
  rcases first state with ⟨operations, kinds, ran⟩
  cases outcome : call.runFrom state.client with
  | mk result between =>
      rw [outcome] at ran
      cases result with
      | error fault =>
          rw [Call.runFrom_bind_error outcome]
          exact ⟨operations, kinds, ran⟩
      | ok value =>
          rcases rest value { state with client := between } with ⟨more, moreKinds, onward⟩
          rw [Call.runFrom_bind_ok outcome]
          refine ⟨operations ++ more, ?_, Transition.run_append ran onward⟩
          intro operation member
          exact (List.mem_append.mp member).elim (kinds operation) (moreKinds operation)

theorem MadeOf.mono {environment : Environment} {kind wider : InfoOperation → Prop}
    {α : Type} {call : Call α} (made : MadeOf environment kind call)
    (wide : ∀ operation, kind operation → wider operation) :
    MadeOf environment wider call := by
  intro state
  rcases made state with ⟨operations, kinds, ran⟩
  exact ⟨operations, fun operation member => wide operation (kinds operation member), ran⟩

theorem madeOf_lookup (environment : Environment) (type : PrecisionType)
    (symbol : String) :
    MadeOf environment IsLookup (P.findPrecisionForSymbol environment type symbol) := by
  intro state
  exact ⟨[.findPrecisionForSymbol type symbol], by simp [IsLookup], rfl⟩

theorem madeOf_post (environment : Environment) (target : Target) :
    MadeOf environment IsLookupOrPost
      (send environment (environment.session.request .post target false)) := by
  intro state
  exact ⟨[.post target], by simp [IsLookupOrPost], rfl⟩

theorem quiet_pure {α : Type} (value : α) : Call.Quiet (pure value : Call α) := by
  intro client
  rfl

theorem madeOf_prepareTarget (environment : Environment) (order : Order) :
    MadeOf environment IsLookup (prepareTarget environment order) := by
  apply (madeOf_lookup environment .Quantity order.symbol).bind
  intro quantityPrecision
  apply (madeOf_lookup environment .Price order.symbol).bind
  intro pricePrecision
  exact madeOf_of_quiet (quiet_pure _)

theorem madeOf_prepareOrders (environment : Environment) (orders : List Order) :
    MadeOf environment IsLookup (prepareOrders environment orders) := by
  induction orders with
  | nil => exact madeOf_of_quiet (quiet_pure _)
  | cons order orders ih =>
      rw [prepareOrders, List.mapM_cons]
      apply MadeOf.bind
      · apply (madeOf_lookup environment .Quantity order.symbol).bind
        intro quantityPrecision
        apply (madeOf_lookup environment .Price order.symbol).bind
        intro pricePrecision
        exact madeOf_of_quiet (quiet_pure _)
      · intro prepared
        apply ih.bind
        intro rest
        exact madeOf_of_quiet (quiet_pure _)

/-- The calls that send orders look precisions up and post one request. -/
theorem madeOf_sendOrder (environment : Environment) (order : Order) :
    MadeOf environment IsLookupOrPost (sendOrder environment order) := by
  apply ((madeOf_prepareTarget environment order).mono fun _ => IsLookup.orPost).bind
  intro target
  apply (madeOf_post environment target).bind
  intro response
  apply madeOf_of_quiet
  apply (Call.quiet_lift _).bind
  intro checked
  apply (Call.quiet_lift _).bind
  intro json
  exact Call.quiet_lift _

theorem madeOf_sendOrders (environment : Environment) (orders : List Order) :
    MadeOf environment IsLookupOrPost (sendOrders environment orders) := by
  apply ((madeOf_prepareOrders environment orders).mono fun _ => IsLookup.orPost).bind
  intro prepared
  apply (madeOf_post environment _).bind
  intro response
  apply madeOf_of_quiet
  apply (Call.quiet_lift _).bind
  intro checked
  apply (Call.quiet_lift _).bind
  intro json
  apply (Call.quiet_lift _).bind
  intro responses
  exact quiet_pure _

/-- Such a call leads from a run to a run, so what holds after every run holds before
and after each of its steps. -/
theorem MadeOf.run {environment : Environment} {kind : InfoOperation → Prop} {α : Type}
    {call : Call α} (made : MadeOf environment kind call)
    {operations : List InfoOperation} {state : InfoRun}
    (ran : InfoRun.run environment operations = some state) :
    ∃ more, (∀ operation ∈ more, kind operation) ∧
      InfoRun.run environment (operations ++ more) =
        some { state with client := (call.runFrom state.client).2 } := by
  rcases made state with ⟨more, kinds, onward⟩
  exact ⟨more, kinds, Transition.run_append ran onward⟩

/-- Lookups send nothing but requests for exchange information. -/
theorem sent_of_lookups {environment : Environment} {operations : List InfoOperation}
    {state next : InfoRun} (lookups : ∀ operation ∈ operations, IsLookup operation)
    (ran : Transition.run (InfoRun.step environment) state operations = some next) :
    ∃ count, next.client.sent =
      state.client.sent ++ List.replicate count (infoRequest environment) := by
  induction operations using List.reverseRecOn generalizing next with
  | nil =>
      cases ran
      exact ⟨0, by simp⟩
  | append_singleton operations operation ih =>
      rcases Transition.run_concat_eq_some ran with ⟨between, earlier, last⟩
      rcases ih (fun other member => lookups other (List.mem_append_left _ member))
        earlier with ⟨count, sent⟩
      have lookup := lookups operation (by simp)
      cases operation with
      | findPrecisionForSymbol type symbol =>
          cases last
          cases looked : (P.findPrecisionForSymbol environment type symbol).runFrom
            between.client with
          | mk result after =>
              rcases P.findPrecisionForSymbol_outcome environment type symbol looked with
                ⟨done, outcome, -⟩
              cases outcome with
              | kept => exact ⟨count, sent⟩
              | downloaded | failed =>
                  refine ⟨count + 1, ?_⟩
                  rw [List.replicate_succ', ← List.append_assoc, ← sent]
      | getExchangeInfo | updateExchangeInfo | post | setExchangeInfo => cases lookup

/-- A call made of lookups sends nothing but requests for exchange information. -/
theorem MadeOf.sent {environment : Environment} {α : Type} {call : Call α}
    (made : MadeOf environment IsLookup call) (client : ClientState) :
    ∃ count, (call.runFrom client).2.sent =
      client.sent ++ List.replicate count (infoRequest environment) := by
  rcases made { client, returned := [] } with ⟨operations, lookups, ran⟩
  exact sent_of_lookups lookups ran

/-- What holds of the cache after a run. -/
structure NeverStale (environment : Environment) (operations : List InfoOperation)
    (client : ClientState) : Prop where
  /-- What `getExchangeInfo` returns was downloaded at the time it bears, at most an
  hour before its age was checked. -/
  returns : ∀ force exchange after,
    (getExchangeInfo environment force).runFrom client = (.ok exchange, after) →
    Fetched environment (operations ++ [.getExchangeInfo force]) exchange ∧
      Recent environment client after exchange
  /-- So was what a lookup reads. -/
  reads : ∀ type symbol precision after,
    (P.findPrecisionForSymbol environment type symbol).runFrom client =
      (.ok precision, after) →
    precision = precisionIn after.exchange.symbols type symbol ∧
      Fetched environment (operations ++ [.findPrecisionForSymbol type symbol])
        after.exchange ∧
      Recent environment client after after.exchange
  /-- An operation that throws leaves the cache alone. -/
  getThrows : ∀ force exception after,
    (getExchangeInfo environment force).runFrom client =
      (.error (.raised exception), after) → after.exchange = client.exchange
  updateThrows : ∀ force exception after,
    (updateExchangeInfo environment force).runFrom client =
      (.error (.raised exception), after) → after.exchange = client.exchange
  lookupThrows : ∀ type symbol exception after,
    (P.findPrecisionForSymbol environment type symbol).runFrom client =
      (.error (.raised exception), after) → after.exchange = client.exchange
  /-- If a lookup fails, the call fails and sends no order. -/
  sendOrderThrows : ∀ order fault after,
    (prepareTarget environment order).runFrom client = (.error fault, after) →
    (sendOrder environment order).runFrom client = (.error fault, after) ∧
      ∃ count, after.sent =
        client.sent ++ List.replicate count (infoRequest environment)
  sendOrdersThrow : ∀ orders fault after,
    (prepareOrders environment orders).runFrom client = (.error fault, after) →
    (sendOrders environment orders).runFrom client = (.error fault, after) ∧
      ∃ count, after.sent =
        client.sent ++ List.replicate count (infoRequest environment)

end RESTClient

/-- After every run of operations on the cache, with a clock that never goes back. -/
theorem exchangeInfo_never_stale (environment : Environment)
    (steady : Monotone environment.clock) (operations : List InfoOperation)
    (state : InfoRun) (ran : InfoRun.run environment operations = some state) :
    RESTClient.NeverStale environment operations state.client := by
  have sound := RESTClient.sound_run steady ran
  constructor
  · intro force exchange after got
    rcases RESTClient.getExchangeInfo_outcome environment force got with
      ⟨done, outcome, result⟩
    cases done with
    | error fault => cases result
    | ok =>
        cases result
        have stepped : state.step environment (.getExchangeInfo force) =
            some { client := after, returned := state.returned ++ [after.exchange] } := by
          simp only [InfoRun.step, got]
        exact ⟨sound.fetched steady ran stepped outcome, (outcome.recent steady).1⟩
  · intro type symbol precision after looked
    rcases RESTClient.P.findPrecisionForSymbol_outcome environment type symbol looked with
      ⟨done, outcome, result⟩
    cases done with
    | error fault => cases result
    | ok =>
        cases result
        have stepped : state.step environment (.findPrecisionForSymbol type symbol) =
            some { state with client := after } := by
          simp only [InfoRun.step, looked]
        exact ⟨rfl, sound.fetched steady ran stepped outcome, (outcome.recent steady).1⟩
  · intro force exception after got
    rcases RESTClient.getExchangeInfo_outcome environment force got with
      ⟨done, outcome, result⟩
    cases done with
    | ok => cases result
    | error fault => exact outcome.unchanged.1
  · intro force exception after updated
    have outcome :=
      RESTClient.updateExchangeInfo_outcome environment force state.client
    rw [updated] at outcome
    exact outcome.unchanged.1
  · intro type symbol exception after looked
    rcases RESTClient.P.findPrecisionForSymbol_outcome environment type symbol looked with
      ⟨done, outcome, result⟩
    cases done with
    | ok => cases result
    | error fault => exact outcome.unchanged.1
  · intro order fault after prepared
    have sent := (RESTClient.madeOf_prepareTarget environment order).sent state.client
    rw [prepared] at sent
    exact ⟨Call.runFrom_bind_error prepared, sent⟩
  · intro orders fault after prepared
    have sent := (RESTClient.madeOf_prepareOrders environment orders).sent state.client
    rw [prepared] at sent
    exact ⟨Call.runFrom_bind_error prepared, sent⟩

/-- An exchange without symbols, and a clock read every half hour. -/
def infoEnvironment : Environment where
  externals := .plain
  session := .futures fun _ _ => .ok ⟨200, .ok (.object
    [("assets", .array []), ("rateLimits", .array []), ("symbols", .array [])])⟩
  clock n := 1700000000 + 1800 * n

/-- Two lookups after a download, the second of them an hour later. -/
theorem exchangeInfo_never_stale_sample :
    RESTClient.NeverStale infoEnvironment
      [.getExchangeInfo false, .findPrecisionForSymbol .Price "BTCUSDT",
        .findPrecisionForSymbol .Price "BTCUSDT"]
      { exchange := { Exchange.empty with lastUpdateTime := 1700000000 }
        sent := [RESTClient.infoRequest infoEnvironment]
        readings := 3 } := by
  have steady : Monotone infoEnvironment.clock := by
    intro earlier later before
    simp only [infoEnvironment]
    omega
  exact exchangeInfo_never_stale infoEnvironment steady _
    { client := _, returned := [{ Exchange.empty with lastUpdateTime := 1700000000 }] } rfl

end BinanceApi.Futures
