import BinanceApi.Library.Machine
import BinanceApi.Library.Reset
import BinanceApi.Rest.WeightLimiter

/-!
# Changing credentials

The futures client keeps the weight limit and the used weight in its session, the
connector keeps the logger in its stream manager.  Both are built anew for other
credentials.
-/

namespace BinanceApi

namespace Limiter

/-- A header field that the client can read, or that it passes over. -/
def isReadable (getTimeFromString : String → Throws Nat) (header : String × String) : Bool :=
  if IsWeight header then (stoi header.2).isOk
  else if header.1 = "Date" then (getTimeFromString header.2).isOk
  else true

def weight? (header : String × String) : Option Int :=
  if IsWeight header then (stoi header.2).toOption else none

/-- The used weight that an answer carries: that of its last weight field, up to the first
field that the client cannot read. -/
def carriedWeight? (getTimeFromString : String → Throws Nat)
    (headers : List (String × String)) : Option Int :=
  ((headers.takeWhile (isReadable getTimeFromString)).filterMap weight?).getLast?

theorem carriedWeight?_unreadable {getTimeFromString : String → Throws Nat}
    {header : String × String} (unreadable : isReadable getTimeFromString header = false)
    (headers : List (String × String)) :
    carriedWeight? getTimeFromString (header :: headers) = none := by
  simp [carriedWeight?, unreadable]

theorem carriedWeight?_readable {getTimeFromString : String → Throws Nat}
    {header : String × String} (readable : isReadable getTimeFromString header = true)
    (headers : List (String × String)) :
    carriedWeight? getTimeFromString (header :: headers) =
      (carriedWeight? getTimeFromString headers).or (weight? header) := by
  simp only [carriedWeight?, List.takeWhile_cons_of_pos readable]
  cases carried : weight? header with
  | none => simp [List.filterMap_cons_none carried]
  | some usedWeight =>
      rw [List.filterMap_cons_some carried, List.getLast?_cons]
      cases (List.filterMap weight? _).getLast? <;> rfl

/-- Reading the fields leaves the weight they carry, or the one from before. -/
theorem readHeaders_usedWeight (getTimeFromString : String → Throws Nat)
    (headers : List (String × String)) (limiter : Limiter) :
    (limiter.readHeaders getTimeFromString headers).1.usedWeight =
      (carriedWeight? getTimeFromString headers).getD limiter.usedWeight := by
  induction headers generalizing limiter with
  | nil => rfl
  | cons header headers ih =>
      by_cases isWeight : IsWeight header
      · cases read : stoi header.2 with
        | error exception =>
            have unreadable : isReadable getTimeFromString header = false := by
              simp [isReadable, isWeight, read, Except.isOk, Except.toBool]
            simp [readHeaders, isWeight, read, carriedWeight?_unreadable unreadable]
        | ok usedWeight =>
            have readable : isReadable getTimeFromString header = true := by
              simp [isReadable, isWeight, read, Except.isOk, Except.toBool]
            have weight : weight? header = some usedWeight := by
              simp [weight?, isWeight, read, Except.toOption]
            simp [readHeaders, isWeight, read, carriedWeight?_readable readable, weight, ih]
      · have noWeight : weight? header = none := by simp [weight?, isWeight]
        by_cases date : header.1 = "Date"
        · cases read : getTimeFromString header.2 with
          | error exception =>
              have unreadable : isReadable getTimeFromString header = false := by
                simp [isReadable, isWeight, date, read, Except.isOk, Except.toBool]
              simp [readHeaders, isWeight, date, read, carriedWeight?_unreadable unreadable]
          | ok second =>
              have readable : isReadable getTimeFromString header = true := by
                simp [isReadable, isWeight, date, read, Except.isOk, Except.toBool]
              simp [readHeaders, isWeight, date, read, carriedWeight?_readable readable,
                noWeight, ih]
        · have readable : isReadable getTimeFromString header = true := by
            simp [isReadable, isWeight, date]
          simp [readHeaders, isWeight, date, carriedWeight?_readable readable, noWeight, ih]

end Limiter

/-! ## The futures client -/

namespace Futures

/-- What a client's `HTTPSession` holds: the credentials, and what the limiter knows. -/
structure SessionState where
  apiKey : String
  apiSecret : String
  limiter : Limiter
  deriving DecidableEq, Repr

/-- The operations of a client on its session.  A request ends with the header fields of
an answer, or without one. -/
inductive SessionOperation where
  | setAPIWeightLimit (weightLimit : Int)
  | setCredentials (apiKey apiSecret : String)
  | request (answer : Throws (List (String × String)))

namespace SessionState

/-- `HTTPSession::HTTPSession`. -/
def make (apiKey apiSecret : String) : SessionState where
  apiKey := apiKey
  apiSecret := apiSecret
  limiter := .start Limiter.defaultLimit

/-- `static_cast<std::int32_t>(weightLimit * 0.95)`: the product without its fraction. -/
def reducedLimit (weightLimit : Int) : Int :=
  (weightLimit * 95).tdiv 100

/-- `HTTPSession::setWeightLimit`. -/
def setWeightLimit (session : SessionState) (weightLimit : Int) : SessionState :=
  { session with
    limiter := { session.limiter with weightLimit := reducedLimit weightLimit } }

/-- The part of `HTTPSession::P::request` that writes to the session. -/
def request (getTimeFromString : String → Throws Nat) (session : SessionState)
    (answer : Throws (List (String × String))) : SessionState × Throws Unit :=
  match answer with
  | .error exception => (session, .error exception)
  | .ok headers =>
      let (limiter, read) := session.limiter.readHeaders getTimeFromString headers
      ({ session with limiter }, read)

end SessionState

/-- `RESTClient::setAPIWeightLimit`, `RESTClient::setCredentials`, and any other call
with its request. -/
def RESTClient.operate (getTimeFromString : String → Throws Nat) (session : SessionState) :
    SessionOperation → SessionState × Throws Unit
  | .setAPIWeightLimit weightLimit => (session.setWeightLimit weightLimit, .ok ())
  | .setCredentials apiKey apiSecret => (.make apiKey apiSecret, .ok ())
  | .request answer => session.request getTimeFromString answer

namespace SessionOperation

def isSetCredentials : SessionOperation → Bool
  | .setCredentials .. => true
  | _ => false

/-- The limit that a call of `setAPIWeightLimit` puts in force. -/
def limit? : SessionOperation → Option Int
  | .setAPIWeightLimit weightLimit => some (SessionState.reducedLimit weightLimit)
  | _ => none

/-- The used weight that a response carries. -/
def usedWeight? (getTimeFromString : String → Throws Nat) : SessionOperation → Option Int
  | .request (.ok headers) => Limiter.carriedWeight? getTimeFromString headers
  | _ => none

def credentials? : SessionOperation → Option (String × String)
  | .setCredentials apiKey apiSecret => some (apiKey, apiSecret)
  | _ => none

theorem eq_setCredentials {operation : SessionOperation}
    (changes : operation.isSetCredentials = true) :
    ∃ apiKey apiSecret, operation = .setCredentials apiKey apiSecret := by
  cases operation with
  | setCredentials apiKey apiSecret => exact ⟨apiKey, apiSecret, rfl⟩
  | setAPIWeightLimit | request => cases changes

theorem limit?_of_isSetCredentials (operation : SessionOperation)
    (changes : operation.isSetCredentials = true) : operation.limit? = none := by
  rcases eq_setCredentials changes with ⟨apiKey, apiSecret, rfl⟩
  rfl

theorem usedWeight?_of_isSetCredentials (getTimeFromString : String → Throws Nat)
    (operation : SessionOperation) (changes : operation.isSetCredentials = true) :
    operation.usedWeight? getTimeFromString = none := by
  rcases eq_setCredentials changes with ⟨apiKey, apiSecret, rfl⟩
  rfl

end SessionOperation

namespace SessionState

open SessionOperation

section Operations

variable (getTimeFromString : String → Throws Nat) (session : SessionState)
  (operation : SessionOperation)

/-- What one operation does to the limit: a new session has the default. -/
theorem operate_weightLimit :
    (RESTClient.operate getTimeFromString session operation).1.limiter.weightLimit =
      if operation.isSetCredentials then Limiter.defaultLimit
      else operation.limit?.getD session.limiter.weightLimit := by
  cases operation with
  | setAPIWeightLimit weightLimit => rfl
  | setCredentials apiKey apiSecret => rfl
  | request answer =>
      cases answer with
      | error exception => rfl
      | ok headers =>
          exact Limiter.readHeaders_weightLimit getTimeFromString headers session.limiter

/-- What one operation does to the used weight: a new session has seen no response. -/
theorem operate_usedWeight :
    (RESTClient.operate getTimeFromString session operation).1.limiter.usedWeight =
      if operation.isSetCredentials then 0
      else (operation.usedWeight? getTimeFromString).getD session.limiter.usedWeight := by
  cases operation with
  | setAPIWeightLimit weightLimit => rfl
  | setCredentials apiKey apiSecret => rfl
  | request answer =>
      cases answer with
      | error exception => rfl
      | ok headers =>
          exact Limiter.readHeaders_usedWeight getTimeFromString headers session.limiter

theorem operate_credentials :
    ((RESTClient.operate getTimeFromString session operation).1.apiKey,
      (RESTClient.operate getTimeFromString session operation).1.apiSecret) =
      operation.credentials?.getD (session.apiKey, session.apiSecret) := by
  cases operation with
  | setAPIWeightLimit weightLimit => rfl
  | setCredentials apiKey apiSecret => rfl
  | request answer => cases answer <;> rfl

end Operations

section Runs

variable (getTimeFromString : String → Throws Nat) (apiKey apiSecret : String)

/-- A client and the operations on it. -/
def run (operations : List SessionOperation) : SessionState × List (Throws Unit) :=
  Machine.run (RESTClient.operate getTimeFromString) (.make apiKey apiSecret) operations

theorem run_concat (operations : List SessionOperation) (operation : SessionOperation) :
    (run getTimeFromString apiKey apiSecret (operations ++ [operation])).1 =
      (RESTClient.operate getTimeFromString
        (run getTimeFromString apiKey apiSecret operations).1 operation).1 := by
  rw [run, Machine.run_concat]
  rfl

/-- The limit of a client is rebuilt with its session. -/
theorem run_weightLimit (operations : List SessionOperation) :
    (run getTimeFromString apiKey apiSecret operations).1.limiter.weightLimit =
      Reset.rebuilt isSetCredentials limit? Limiter.defaultLimit operations := by
  induction operations using List.reverseRecOn with
  | nil => rfl
  | append_singleton operations operation ih =>
      rw [run_concat, operate_weightLimit, ih, Reset.rebuilt_concat]

theorem run_usedWeight (operations : List SessionOperation) :
    (run getTimeFromString apiKey apiSecret operations).1.limiter.usedWeight =
      Reset.rebuilt isSetCredentials (usedWeight? getTimeFromString) 0 operations := by
  induction operations using List.reverseRecOn with
  | nil => rfl
  | append_singleton operations operation ih =>
      rw [run_concat, operate_usedWeight, ih, Reset.rebuilt_concat]

/-- The credentials are always the last ones set. -/
theorem run_credentials (operations : List SessionOperation) :
    ((run getTimeFromString apiKey apiSecret operations).1.apiKey,
      (run getTimeFromString apiKey apiSecret operations).1.apiSecret) =
      Reset.lastSet credentials? (apiKey, apiSecret) operations := by
  induction operations using List.reverseRecOn with
  | nil => rfl
  | append_singleton operations operation ih =>
      rw [run_concat, operate_credentials, ih, Reset.lastSet_concat]

end Runs

end SessionState

end Futures

/-! ## The connector -/

namespace BinanceFuturesExchangeConnector

/-- The loggers of a stream manager: its own, and that of its web socket client.  An
empty callback is no logger. -/
structure StreamLoggers (Logger : Type) where
  logMessageCB : Option Logger
  wsClient : Option Logger

/-- What `setLoggerCallback` and `login` write to: the credentials of the REST client, and
the current stream manager. -/
structure State (Logger : Type) where
  apiKey : String
  apiSecret : String
  streamManager : StreamLoggers Logger

/-- A login succeeds or throws as the update of the exchange information at its end does;
by then it has put the new objects in place. -/
inductive Operation (Logger : Type) where
  | setLoggerCallback (onLogMessageCB : Option Logger)
  | login (credentials : String × String × String) (updated : Throws Unit)

variable {Logger : Type}

/-- `WSStreamManager::WSStreamManager`. -/
def StreamLoggers.make : StreamLoggers Logger where
  logMessageCB := none
  wsClient := none

/-- `WSStreamManager::setLoggerCallback`. -/
def StreamLoggers.setLoggerCallback (onLogMessageCB : Option Logger) :
    StreamLoggers Logger where
  logMessageCB := onLogMessageCB
  wsClient := onLogMessageCB

/-- The REST client and the stream manager for given credentials. -/
def make (apiKey apiSecret : String) : State Logger where
  apiKey := apiKey
  apiSecret := apiSecret
  streamManager := .make

def operate (connector : State Logger) : Operation Logger → State Logger × Throws Unit
  | .setLoggerCallback onLogMessageCB =>
      ({ connector with streamManager := .setLoggerCallback onLogMessageCB }, .ok ())
  | .login credentials updated => (make credentials.1 credentials.2.1, updated)

namespace Operation

def isLogin : Operation Logger → Bool
  | .login .. => true
  | _ => false

def logger? : Operation Logger → Option (Option Logger)
  | .setLoggerCallback onLogMessageCB => some onLogMessageCB
  | _ => none

def credentials? : Operation Logger → Option (String × String)
  | .login credentials _ => some (credentials.1, credentials.2.1)
  | _ => none

theorem eq_login {operation : Operation Logger} (login : operation.isLogin = true) :
    ∃ credentials updated, operation = .login credentials updated := by
  cases operation with
  | login credentials updated => exact ⟨credentials, updated, rfl⟩
  | setLoggerCallback => cases login

theorem logger?_of_isLogin (operation : Operation Logger)
    (login : operation.isLogin = true) : operation.logger? = none := by
  rcases eq_login login with ⟨credentials, updated, rfl⟩
  rfl

end Operation

/-- A connector, which starts without credentials, and the operations on it. -/
def run (operations : List (Operation Logger)) : State Logger × List (Throws Unit) :=
  Machine.run operate (make "" "") operations

/-- Both loggers of the stream manager are rebuilt by a login. -/
theorem run_streamManager (operations : List (Operation Logger)) :
    (run operations).1.streamManager =
      .setLoggerCallback
        (Reset.rebuilt Operation.isLogin Operation.logger? none operations) := by
  rcases operations.eq_nil_or_concat' with rfl | ⟨front, last, rfl⟩
  · rfl
  · rw [run, Machine.run_concat, Reset.rebuilt_concat]
    cases last <;> rfl

/-- The credentials are always those of the last login. -/
theorem run_credentials (operations : List (Operation Logger)) :
    ((run operations).1.apiKey, (run operations).1.apiSecret) =
      Reset.lastSet Operation.credentials? ("", "") operations := by
  induction operations using List.reverseRecOn with
  | nil => rfl
  | append_singleton operations operation ih =>
      rw [Reset.lastSet_concat, ← ih, run, Machine.run_concat]
      cases operation <;> rfl

end BinanceFuturesExchangeConnector

/-! ## The settings after a change of credentials -/

namespace Futures.SessionState

open SessionOperation

/-- After these operations a client has the credentials set last, the limit of the last
`setAPIWeightLimit`, and the used weight of the last response that carries one. -/
def SettingsKept (getTimeFromString : String → Throws Nat) (apiKey apiSecret : String)
    (operations : List SessionOperation) : Prop :=
  let session := (run getTimeFromString apiKey apiSecret operations).1
  (session.apiKey, session.apiSecret) =
      Reset.lastSet credentials? (apiKey, apiSecret) operations ∧
    session.limiter.weightLimit =
      Reset.lastSet limit? Limiter.defaultLimit operations ∧
    session.limiter.usedWeight =
      Reset.lastSet (usedWeight? getTimeFromString) 0 operations

section Kept

variable (getTimeFromString : String → Throws Nat) (apiKey apiSecret : String)

theorem settingsKept_iff (operations : List SessionOperation) :
    SettingsKept getTimeFromString apiKey apiSecret operations ↔
      Reset.rebuilt isSetCredentials limit? Limiter.defaultLimit operations =
          Reset.lastSet limit? Limiter.defaultLimit operations ∧
        Reset.rebuilt isSetCredentials (usedWeight? getTimeFromString) 0 operations =
          Reset.lastSet (usedWeight? getTimeFromString) 0 operations := by
  simp only [SettingsKept, run_credentials, run_weightLimit, run_usedWeight, true_and]

/-- Each change of credentials must find the settings of a new session. -/
theorem settingsKept_run_iff (operations : List SessionOperation) :
    (∀ front, front <+: operations →
      SettingsKept getTimeFromString apiKey apiSecret front) ↔
    ∀ front newKey newSecret, front ++ [.setCredentials newKey newSecret] <+: operations →
      Reset.lastSet limit? Limiter.defaultLimit front = Limiter.defaultLimit ∧
        Reset.lastSet (usedWeight? getTimeFromString) 0 front = 0 := by
  have limit := Reset.rebuilt_eq_lastSet_iff Limiter.defaultLimit
    limit?_of_isSetCredentials operations
  have usedWeight := Reset.rebuilt_eq_lastSet_iff 0
    (usedWeight?_of_isSetCredentials getTimeFromString) operations
  simp only [settingsKept_iff, imp_and, forall_and]
  rw [limit, usedWeight]
  constructor
  · intro both
    constructor
    · intro front newKey newSecret isPrefix
      exact both.1 front _ isPrefix rfl
    · intro front newKey newSecret isPrefix
      exact both.2 front _ isPrefix rfl
  · intro both
    constructor
    · intro front operation isPrefix reset
      rcases eq_setCredentials reset with ⟨newKey, newSecret, rfl⟩
      exact both.1 front newKey newSecret isPrefix
    · intro front operation isPrefix reset
      rcases eq_setCredentials reset with ⟨newKey, newSecret, rfl⟩
      exact both.2 front newKey newSecret isPrefix

end Kept

end Futures.SessionState

namespace BinanceFuturesExchangeConnector

variable {Logger : Type}

/-- After these operations a connector has the credentials of the last login, and its
stream manager the logger set last. -/
def LoggerKept (operations : List (Operation Logger)) : Prop :=
  ((run operations).1.apiKey, (run operations).1.apiSecret) =
      Reset.lastSet Operation.credentials? ("", "") operations ∧
    (run operations).1.streamManager =
      .setLoggerCallback (Reset.lastSet Operation.logger? none operations)

theorem loggerKept_iff (operations : List (Operation Logger)) :
    LoggerKept operations ↔
      Reset.rebuilt Operation.isLogin Operation.logger? none operations =
        Reset.lastSet Operation.logger? none operations := by
  simp only [LoggerKept, run_credentials, run_streamManager, true_and,
    StreamLoggers.setLoggerCallback, StreamLoggers.mk.injEq, and_self]

/-- Each login must find no logger set. -/
theorem loggerKept_run_iff (operations : List (Operation Logger)) :
    (∀ front, front <+: operations → LoggerKept front) ↔
    ∀ front credentials updated, front ++ [.login credentials updated] <+: operations →
      Reset.lastSet Operation.logger? none front = none := by
  have kept := Reset.rebuilt_eq_lastSet_iff none
    Operation.logger?_of_isLogin operations
  simp only [loggerKept_iff]
  rw [kept]
  constructor
  · intro noLogger front credentials updated isPrefix
    exact noLogger front _ isPrefix rfl
  · intro noLogger front operation isPrefix login
    rcases Operation.eq_login login with ⟨credentials, updated, rfl⟩
    exact noLogger front credentials updated isPrefix

end BinanceFuturesExchangeConnector

/-- A client keeps its settings through a sequence of operations exactly when, at every
change of credentials, they are those of a new session.  A connector keeps its logger
exactly when no logger is set at any login. -/
theorem credentials_keep_settings_iff (getTimeFromString : String → Throws Nat)
    (apiKey apiSecret : String) (Logger : Type) :
    (∀ operations : List Futures.SessionOperation,
      (∀ front, front <+: operations →
        Futures.SessionState.SettingsKept getTimeFromString apiKey apiSecret front) ↔
      ∀ front newKey newSecret, front ++ [.setCredentials newKey newSecret] <+: operations →
        Reset.lastSet Futures.SessionOperation.limit? Limiter.defaultLimit front =
            Limiter.defaultLimit ∧
          Reset.lastSet (Futures.SessionOperation.usedWeight? getTimeFromString) 0 front =
            0) ∧
    ∀ operations : List (BinanceFuturesExchangeConnector.Operation Logger),
      (∀ front, front <+: operations →
        BinanceFuturesExchangeConnector.LoggerKept front) ↔
      ∀ front credentials updated, front ++ [.login credentials updated] <+: operations →
        Reset.lastSet BinanceFuturesExchangeConnector.Operation.logger? none front = none :=
  ⟨Futures.SessionState.settingsKept_run_iff getTimeFromString apiKey apiSecret,
    BinanceFuturesExchangeConnector.loggerKept_run_iff⟩

/-- A limit of 1140 and a used weight of 37 are forgotten with the old credentials, and
the logger with the first login. -/
theorem credentials_keep_settings_sample :
    (let operations : List Futures.SessionOperation :=
      [.setAPIWeightLimit 1200, .request (.ok [("X-MBX-USED-WEIGHT-1M", "37")]),
        .setCredentials "key" "secret"]
    (Futures.SessionState.run (fun _ => .ok 0) "" "" operations).1 =
        ⟨"key", "secret", ⟨0, 0, 2040⟩⟩ ∧
      Reset.lastSet Futures.SessionOperation.limit? Limiter.defaultLimit operations =
        1140 ∧
      Reset.lastSet (Futures.SessionOperation.usedWeight? fun _ => .ok 0) 0 operations =
        37 ∧
      ¬Futures.SessionState.SettingsKept (fun _ => .ok 0) "" "" operations) ∧
    let operations : List (BinanceFuturesExchangeConnector.Operation Unit) :=
      [.setLoggerCallback (some ()), .login ("key", "secret", "") (.ok ())]
    (BinanceFuturesExchangeConnector.run operations).1.streamManager.logMessageCB = none ∧
      Reset.lastSet BinanceFuturesExchangeConnector.Operation.logger? none operations =
        some () ∧
      ¬BinanceFuturesExchangeConnector.LoggerKept operations := by
  refine ⟨⟨by decide +kernel, by decide +kernel, by decide +kernel, ?_⟩,
    by decide +kernel, by decide +kernel, ?_⟩
  · rw [Futures.SessionState.settingsKept_iff]
    decide +kernel
  · rw [BinanceFuturesExchangeConnector.loggerKept_iff]
    decide +kernel

end BinanceApi
