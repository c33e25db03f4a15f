import BinanceApi.Library.Transition
import BinanceApi.Models.Enums

/-!
# WebSocket client

The caller that subscribes to streams and the client's IO thread, as two parties
that share the flag `isRunning`, the `io_context` and the list of sessions.  Every
access to the flag and every operation of the `io_context` is one step.

A session's pending operations hold the session, so its weak pointer can be locked
as long as it has work outstanding.
-/

namespace BinanceApi.Futures

/-- A registered session: its target and the number of its operations outstanding in
the `io_context`. -/
structure SessionEntry where
  target : String
  work : Nat
  deriving DecidableEq, Repr

/-- Whether the session's weak pointer can be locked. -/
def SessionEntry.alive (session : SessionEntry) : Bool :=
  decide (0 < session.work)

/-- Where the caller is: between two calls, in `bookTicker` or `candlestick` after
`findStream` found nothing, or before one of the steps of `WebSocketClient::run`. -/
inductive Caller where
  | idle
  | bookTicker (pair : String)
  | candlestick (pair : String) (interval : CandleInterval)
  | readFlag
  | setFlag
  | join
  | startThread
  deriving DecidableEq, Repr

/-- Where the IO thread is: not started, before a step of its loop, executing
handlers, before the clearing of the flag inside and after the loop, or done. -/
inductive IOThread where
  | none
  | setFlag
  | checkStopped
  | restart
  | run
  | running
  | returned
  | cleared
  | done
  deriving DecidableEq, Repr

structure WebSocketClient where
  sessions : List SessionEntry
  stopped : Bool
  isRunning : Bool
  caller : Caller
  ioThread : IOThread
  deriving DecidableEq, Repr

/-- What can happen next. -/
inductive Action where
  | subscribeBookTickerStream (pair : String)
  | subscribeCandlestickStream (pair : String) (interval : CandleInterval)
  /-- The caller goes on with its call. -/
  | caller
  /-- The IO thread goes on. -/
  | ioThread
  /-- An operation of a session completes.  Its handler starts further operations of
  the session, none if the session ends, and returns or throws. -/
  | handler (session started : Nat) (throws : Bool)
  deriving DecidableEq, Repr

namespace WebSocketClient

def composeStreamName (pair channel : String) : String :=
  let res := "/ws/"
  let res :=
    if pair = "" then res
    else
      let res := res ++ pair
      let res := if pair ≠ "!" then MagicEnum.lower res else res
      res ++ "@"
  res ++ channel

/-- Operations outstanding in the `io_context`. -/
def outstandingWork (client : WebSocketClient) : Nat :=
  (client.sessions.map SessionEntry.work).sum

def removeDeadWebsockets (client : WebSocketClient) : WebSocketClient :=
  { client with sessions := client.sessions.filter SessionEntry.alive }

def findStream (client : WebSocketClient) (streamName : String) : Bool :=
  client.sessions.any fun session => session.alive && session.target = streamName

/-- A new session with its `async_resolve` outstanding. -/
def addSession (client : WebSocketClient) (streamName : String) : WebSocketClient :=
  let client := client.removeDeadWebsockets
  { client with sessions := client.sessions ++ [{ target := streamName, work := 1 }] }

def bookTicker (client : WebSocketClient) (pair : String) : WebSocketClient :=
  client.addSession (composeStreamName pair "bookTicker")

def klineChannel (interval : CandleInterval) : String :=
  "kline" ++ MagicEnum.enumName interval

def candlestick (client : WebSocketClient) (pair : String) (interval : CandleInterval) :
    WebSocketClient :=
  client.addSession (composeStreamName pair (klineChannel interval))

/-- A call begins with `findStream`, and returns at once if the stream is found. -/
def subscribe (client : WebSocketClient) (streamName : String) (next : Caller) :
    Option WebSocketClient :=
  if client.caller = .idle then
    if client.findStream streamName then some client
    else some { client with caller := next }
  else none

def subscribeBookTickerStream (client : WebSocketClient) (pair : String) :
    Option WebSocketClient :=
  client.subscribe (composeStreamName pair "bookTicker") (.bookTicker pair)

def subscribeCandlestickStream (client : WebSocketClient) (pair : String)
    (interval : CandleInterval) : Option WebSocketClient :=
  client.subscribe (composeStreamName pair (klineChannel interval))
    (.candlestick pair interval)

/-- The next step of a call: the session is added, then `WebSocketClient::run`. -/
def callerStep (client : WebSocketClient) : Option WebSocketClient :=
  match client.caller with
  | .idle => none
  | .bookTicker pair => some { client.bookTicker pair with caller := .readFlag }
  | .candlestick pair interval =>
      some { client.candlestick pair interval with caller := .readFlag }
  | .readFlag =>
      some { client with caller := if client.isRunning then .idle else .setFlag }
  | .setFlag => some { client with isRunning := true, caller := .join }
  | .join =>
      -- a thread that was never started is not joinable, one that runs is waited for
      if client.ioThread = .none ∨ client.ioThread = .done then
        some { client with caller := .startThread }
      else none
  | .startThread => some { client with ioThread := .setFlag, caller := .idle }

/-- The next step of the IO thread outside the handlers. -/
def ioThreadStep (client : WebSocketClient) : Option WebSocketClient :=
  match client.ioThread with
  | .none | .done => none
  | .setFlag => some { client with isRunning := true, ioThread := .checkStopped }
  | .checkStopped =>
      some { client with ioThread := if client.stopped then .restart else .run }
  | .restart => some { client with stopped := false, ioThread := .run }
  | .run =>
      if client.outstandingWork = 0 then
        some { client with stopped := true, ioThread := .returned }
      else some { client with ioThread := if client.stopped then .returned else .running }
  | .running =>
      if client.stopped then some { client with ioThread := .returned } else none
  | .returned => some { client with isRunning := false, ioThread := .cleared }
  | .cleared => some { client with isRunning := false, ioThread := .done }

/-- A handler runs in `io_context::run`, which stops when it was the last work.  An
exception leaves `io_context::run`, is logged, and the thread's loop starts over. -/
def handler (client : WebSocketClient) (index started : Nat) (throws : Bool) :
    Option WebSocketClient :=
  match client.sessions[index]? with
  | none => none
  | some session =>
      if client.ioThread = .running ∧ client.stopped = false ∧ 0 < session.work then
        let ran := { client with
          sessions := client.sessions.set index
            { session with work := session.work - 1 + started } }
        some { ran with
          stopped := decide (ran.outstandingWork = 0)
          ioThread := if throws then .setFlag else .running }
      else none

def step (client : WebSocketClient) : Action → Option WebSocketClient
  | .subscribeBookTickerStream pair => client.subscribeBookTickerStream pair
  | .subscribeCandlestickStream pair interval =>
      client.subscribeCandlestickStream pair interval
  | .caller => client.callerStep
  | .ioThread => client.ioThreadStep
  | .handler index started throws => client.handler index started throws

/-- A client that was just constructed. -/
def start : WebSocketClient where
  sessions := []
  stopped := false
  isRunning := false
  caller := .idle
  ioThread := .none

def run (actions : List Action) : Option WebSocketClient :=
  Transition.run step start actions

/-! ## Work that nobody runs -/

/-- A session's work is outstanding. -/
def HasWork (client : WebSocketClient) : Prop :=
  ∃ session ∈ client.sessions, 0 < session.work

/-- The IO thread is running the outstanding work, or about to. -/
def Attended (client : WebSocketClient) : Prop :=
  match client.ioThread with
  | .setFlag | .checkStopped | .restart => True
  | .run | .running => client.stopped = false
  | .none | .returned | .cleared | .done => False

/-- All calls have returned, and a session's work is left to nobody. -/
def Stranded (client : WebSocketClient) : Prop :=
  client.caller = .idle ∧ client.HasWork ∧ ¬client.Attended

/-- The IO thread's `io_context::run` has stopped, but the flag is not cleared yet. -/
def Leaving (client : WebSocketClient) : Prop :=
  client.ioThread = .running ∧ client.stopped = true ∨ client.ioThread = .returned

/-- The caller reads the flag while the IO thread is leaving and work is
outstanding. -/
def Misses (client : WebSocketClient) (action : Action) : Prop :=
  action = .caller ∧ client.caller = .readFlag ∧ client.HasWork ∧ client.Leaving

/-! ## What each party's step does -/

theorem hasWork_iff {client : WebSocketClient} :
    client.HasWork ↔ client.outstandingWork ≠ 0 := by
  simp only [HasWork, outstandingWork]
  rw [← Nat.pos_iff_ne_zero, List.sum_pos_iff_exists_pos_nat]
  simp

theorem subscribe_eq_some {client next : WebSocketClient} {streamName : String}
    {started : Caller} (subscribed : client.subscribe streamName started = some next) :
    client.caller = .idle ∧
      (next = client ∧ client.findStream streamName = true ∨
        next = { client with caller := started } ∧
          client.findStream streamName = false) := by
  simp only [subscribe] at subscribed
  split at subscribed
  next idle =>
    split at subscribed
    next found => exact ⟨idle, .inl ⟨(Option.some.inj subscribed).symm, found⟩⟩
    next missing =>
      exact ⟨idle, .inr ⟨(Option.some.inj subscribed).symm, by simpa using missing⟩⟩
  · cases subscribed

/-- A handler runs only where `io_context::run` executes handlers, and stops the
`io_context` exactly when it leaves no work. -/
theorem handler_eq_some {client next : WebSocketClient} {index started : Nat}
    {throws : Bool} (ran : client.handler index started throws = some next) :
    client.ioThread = .running ∧ client.stopped = false ∧
      next.caller = client.caller ∧ next.isRunning = client.isRunning ∧
      next.stopped = decide (next.outstandingWork = 0) ∧
      next.ioThread = if throws then .setFlag else .running := by
  simp only [handler] at ran
  split at ran
  · cases ran
  · split at ran
    next runs =>
      cases ran
      exact ⟨runs.1, runs.2.1, rfl, rfl, rfl, rfl⟩
    · cases ran

/-- The steps of the IO thread outside the handlers. -/
inductive IOThreadMove (client : WebSocketClient) : WebSocketClient → Prop where
  | setFlag (atThread : client.ioThread = .setFlag) :
      IOThreadMove client { client with isRunning := true, ioThread := .checkStopped }
  | checkStopped (atThread : client.ioThread = .checkStopped) :
      IOThreadMove client
        { client with ioThread := if client.stopped then .restart else .run }
  | restart (atThread : client.ioThread = .restart) :
      IOThreadMove client { client with stopped := false, ioThread := .run }
  | runWorkless (atThread : client.ioThread = .run) (idle : client.outstandingWork = 0) :
      IOThreadMove client { client with stopped := true, ioThread := .returned }
  | run (atThread : client.ioThread = .run) :
      IOThreadMove client
        { client with ioThread := if client.stopped then .returned else .running }
  | leave (atThread : client.ioThread = .running) (stopped : client.stopped = true) :
      IOThreadMove client { client with ioThread := .returned }
  | clear (atThread : client.ioThread = .returned) :
      IOThreadMove client { client with isRunning := false, ioThread := .cleared }
  | finish (atThread : client.ioThread = .cleared) :
      IOThreadMove client { client with isRunning := false, ioThread := .done }

theorem move_of_ioThreadStep {client next : WebSocketClient}
    (stepped : client.ioThreadStep = some next) : IOThreadMove client next := by
  simp only [ioThreadStep] at stepped
  cases atThread : client.ioThread with
  | none | done => simp [atThread] at stepped
  | setFlag =>
      simp only [atThread, Option.some.injEq] at stepped
      exact stepped ▸ .setFlag atThread
  | checkStopped =>
      simp only [atThread, Option.some.injEq] at stepped
      exact stepped ▸ .checkStopped atThread
  | restart =>
      simp only [atThread, Option.some.injEq] at stepped
      exact stepped ▸ .restart atThread
  | run =>
      simp only [atThread] at stepped
      split at stepped
      next idle =>
        cases stepped
        exact .runWorkless atThread idle
      next =>
        cases stepped
        exact .run atThread
  | running =>
      simp only [atThread] at stepped
      split at stepped
      next stopped =>
        cases stepped
        exact .leave atThread stopped
      · cases stepped
  | returned =>
      simp only [atThread, Option.some.injEq] at stepped
      exact stepped ▸ .clear atThread
  | cleared =>
      simp only [atThread, Option.some.injEq] at stepped
      exact stepped ▸ .finish atThread

/-- The IO thread's own steps leave the caller and the sessions alone. -/
theorem ioThreadStep_frame {client next : WebSocketClient}
    (stepped : client.ioThreadStep = some next) :
    next.caller = client.caller ∧ next.sessions = client.sessions := by
  cases move_of_ioThreadStep stepped <;> exact ⟨rfl, rfl⟩

/-! ## The flag and the two parties -/

end WebSocketClient

/-- The thread has set the flag and not cleared it yet. -/
def IOThread.HoldsFlag : IOThread → Prop
  | .checkStopped | .restart | .run | .running | .returned => True
  | .none | .setFlag | .cleared | .done => False

/-- No thread will set the flag any more. -/
def IOThread.Gone : IOThread → Prop
  | .none | .cleared | .done => True
  | .setFlag | .checkStopped | .restart | .run | .running | .returned => False

namespace WebSocketClient

/-- What every step of either party keeps. -/
structure Invariant (client : WebSocketClient) : Prop where
  held : client.ioThread.HoldsFlag → client.isRunning = true
  /-- A flag that no thread holds was set by a caller about to start a thread. -/
  claimed : client.ioThread.Gone → client.isRunning = true →
    client.caller = .join ∨ client.caller = .startThread
  entered : client.ioThread = .run → client.stopped = false

theorem invariant_start : start.Invariant where
  held := by simp [start, IOThread.HoldsFlag]
  claimed := by simp [start]
  entered := by simp [start]

theorem invariant_subscribe {client next : WebSocketClient} {streamName : String}
    {started : Caller} (invariant : client.Invariant)
    (subscribed : client.subscribe streamName started = some next) : next.Invariant := by
  rcases subscribe_eq_some subscribed with ⟨idle, ⟨rfl, -⟩ | ⟨rfl, -⟩⟩
  · exact invariant
  · constructor
    · exact invariant.held
    · intro gone flag
      -- an idle caller has claimed no flag
      have claimed := invariant.claimed gone flag
      simp [idle] at claimed
    · exact invariant.entered

theorem invariant_callerStep {client next : WebSocketClient}
    (invariant : client.Invariant) (stepped : client.callerStep = some next) :
    next.Invariant := by
  rcases invariant with ⟨held, claimed, entered⟩
  simp only [callerStep] at stepped
  cases atCall : client.caller with
  | idle => simp [atCall] at stepped
  | bookTicker | candlestick | readFlag =>
      simp only [atCall, Option.some.injEq] at stepped
      subst stepped
      refine ⟨held, ?_, entered⟩
      intro gone flag
      have claim := claimed gone flag
      simp [atCall] at claim
  | setFlag =>
      simp only [atCall, Option.some.injEq] at stepped
      subst stepped
      exact ⟨fun _ => rfl, fun _ _ => .inl rfl, entered⟩
  | join =>
      simp only [atCall] at stepped
      split at stepped
      · cases stepped
        exact ⟨held, fun _ _ => .inr rfl, entered⟩
      · cases stepped
  | startThread =>
      simp only [atCall, Option.some.injEq] at stepped
      subst stepped
      exact ⟨False.elim, False.elim, nofun⟩

theorem invariant_ioThreadStep {client next : WebSocketClient}
    (invariant : client.Invariant) (stepped : client.ioThreadStep = some next) :
    next.Invariant := by
  rcases invariant with ⟨held, claimed, entered⟩
  cases move_of_ioThreadStep stepped with
  | setFlag => exact ⟨fun _ => rfl, False.elim, nofun⟩
  | checkStopped atThread =>
      have flag : client.isRunning = true := held (by rw [atThread]; trivial)
      cases stopped : client.stopped with
      | true => exact ⟨fun _ => flag, False.elim, nofun⟩
      | false => exact ⟨fun _ => flag, False.elim, fun _ => rfl⟩
  | restart atThread =>
      exact ⟨fun _ => held (by rw [atThread]; trivial), False.elim, fun _ => rfl⟩
  | runWorkless atThread | leave atThread =>
      exact ⟨fun _ => held (by rw [atThread]; trivial), False.elim, nofun⟩
  | run atThread =>
      have flag : client.isRunning = true := held (by rw [atThread]; trivial)
      rw [entered atThread]
      exact ⟨fun _ => flag, False.elim, nofun⟩
  | clear | finish => exact ⟨False.elim, nofun, nofun⟩

theorem invariant_handler {client next : WebSocketClient} {index started : Nat}
    {throws : Bool} (invariant : client.Invariant)
    (ran : client.handler index started throws = some next) : next.Invariant := by
  rcases handler_eq_some ran with ⟨running, -, -, flagKept, -, thread⟩
  have flag : next.isRunning = true := by
    rw [flagKept]
    exact invariant.held (by rw [running]; trivial)
  constructor
  · exact fun _ => flag
  · rw [thread]
    cases throws <;> exact False.elim
  · rw [thread]
    cases throws <;> nofun

theorem invariant_step {client next : WebSocketClient} {action : Action}
    (invariant : client.Invariant) (stepped : client.step action = some next) :
    next.Invariant := by
  cases action with
  | subscribeBookTickerStream | subscribeCandlestickStream =>
      exact invariant_subscribe invariant stepped
  | caller => exact invariant_callerStep invariant stepped
  | ioThread => exact invariant_ioThreadStep invariant stepped
  | handler => exact invariant_handler invariant stepped

/-- The flag deceives its reader only while the thread is leaving: everywhere else a
set flag means that the thread runs the outstanding work, or is about to. -/
theorem attended_or_leaving {client : WebSocketClient} (invariant : client.Invariant)
    (reading : client.caller = .readFlag) (flag : client.isRunning = true) :
    client.Attended ∨ client.Leaving := by
  have notGone : ¬client.ioThread.Gone := by
    intro gone
    have claim := invariant.claimed gone flag
    simp [reading] at claim
  simp only [Attended, Leaving]
  cases atThread : client.ioThread with
  | none | cleared | done => exact absurd (by rw [atThread]; trivial) notGone
  | setFlag | checkStopped | restart => exact .inl trivial
  | run => exact .inl (invariant.entered atThread)
  | running => cases client.stopped <;> simp
  | returned => exact .inr (.inr rfl)

theorem flag_of_leaving {client : WebSocketClient} (invariant : client.Invariant)
    (leaving : client.Leaving) : client.isRunning = true := by
  apply invariant.held
  rcases leaving with ⟨running, -⟩ | returned
  · rw [running]
    trivial
  · rw [returned]
    trivial

theorem not_attended_of_leaving {client : WebSocketClient} (leaving : client.Leaving) :
    ¬client.Attended := by
  simp only [Attended]
  rcases leaving with ⟨running, stopped⟩ | returned
  · simp [running, stopped]
  · simp [returned]

/-! ## Which steps strand a session -/

/-- Where the flag is read is the only place at which a call can return without the
work being attended. -/
theorem stranded_callerStep_iff {client next : WebSocketClient}
    (invariant : client.Invariant) (stepped : client.callerStep = some next) :
    ¬next.Stranded ↔ ¬client.Misses .caller := by
  simp only [callerStep] at stepped
  cases atCall : client.caller with
  | idle => simp [atCall] at stepped
  | bookTicker | candlestick | setFlag =>
      simp only [atCall, Option.some.injEq] at stepped
      subst stepped
      simp [Stranded, Misses, atCall]
  | readFlag =>
      simp only [atCall, Option.some.injEq] at stepped
      subst stepped
      cases flag : client.isRunning with
      | false =>
          have notLeaving : ¬client.Leaving := by
            intro leaving
            rw [flag_of_leaving invariant leaving] at flag
            cases flag
          simp [Stranded, Misses, notLeaving]
      | true =>
          apply not_congr
          constructor
          · rintro ⟨-, work, unattended⟩
            have either := attended_or_leaving invariant atCall flag
            exact ⟨rfl, atCall, work, either.resolve_left unattended⟩
          · rintro ⟨-, -, work, leaving⟩
            exact ⟨rfl, work, not_attended_of_leaving leaving⟩
  | join =>
      simp only [atCall] at stepped
      split at stepped
      · cases stepped
        simp [Stranded, Misses, atCall]
      · cases stepped
  | startThread =>
      simp only [atCall, Option.some.injEq] at stepped
      subst stepped
      simp [Stranded, Misses, Attended, atCall]

/-- The IO thread does not leave work behind: it runs what is outstanding until
nothing is. -/
theorem attended_ioThreadStep {client next : WebSocketClient}
    (attended : client.HasWork → client.Attended)
    (stepped : client.ioThreadStep = some next) (work : next.HasWork) :
    next.Attended := by
  simp only [Attended] at attended ⊢
  cases move_of_ioThreadStep stepped with
  | setFlag | restart => trivial
  | checkStopped =>
      cases client.stopped <;> trivial
  | runWorkless _ idle => exact absurd idle (hasWork_iff.mp work)
  | run atThread =>
      have goesOn := attended work
      simp only [atThread] at goesOn
      simp [goesOn]
  | leave atThread stopped =>
      have goesOn := attended work
      simp [atThread, stopped] at goesOn
  | clear atThread | finish atThread =>
      have goesOn := attended work
      simp [atThread] at goesOn

theorem attended_handler {client next : WebSocketClient} {index started : Nat}
    {throws : Bool} (ran : client.handler index started throws = some next)
    (work : next.HasWork) : next.Attended := by
  rcases handler_eq_some ran with ⟨-, -, -, -, stopped, thread⟩
  have goesOn : next.stopped = false := by
    rw [stopped, decide_eq_false_iff_not]
    exact hasWork_iff.mp work
  simp only [Attended]
  rw [thread]
  cases throws with
  | true => trivial
  | false => exact goesOn

/-- One step from a state in which nothing is stranded strands a session exactly when
the caller misses the leaving thread. -/
theorem stranded_step_iff {client next : WebSocketClient} {action : Action}
    (invariant : client.Invariant) (sound : ¬client.Stranded)
    (stepped : client.step action = some next) :
    ¬next.Stranded ↔ ¬client.Misses action := by
  have attended : client.caller = .idle → client.HasWork → client.Attended := by
    intro idle work
    by_contra unattended
    exact sound ⟨idle, work, unattended⟩
  cases action with
  | subscribeBookTickerStream | subscribeCandlestickStream =>
      rcases subscribe_eq_some stepped with ⟨-, ⟨rfl, -⟩ | ⟨rfl, -⟩⟩
      · simp [Misses, sound]
      · simp [Stranded, Misses]
  | caller => exact stranded_callerStep_iff invariant stepped
  | ioThread =>
      apply iff_of_true
      · rintro ⟨idle, work, unattended⟩
        rw [(ioThreadStep_frame stepped).1] at idle
        exact unattended (attended_ioThreadStep (attended idle) stepped work)
      · simp [Misses]
  | handler =>
      apply iff_of_true
      · rintro ⟨-, work, unattended⟩
        exact unattended (attended_handler stepped work)
      · simp [Misses]

/-! ## What follows for a stranded session -/

/-- The stream that a call asks for. -/
def streamName : Action → Option String
  | .subscribeBookTickerStream pair => some (composeStreamName pair "bookTicker")
  | .subscribeCandlestickStream pair interval =>
      some (composeStreamName pair (klineChannel interval))
  | .caller | .ioThread | .handler .. => none

/-- A session with work outstanding is what `findStream` reports. -/
theorem findStream_of_work {client : WebSocketClient} {session : SessionEntry}
    (member : session ∈ client.sessions) (work : 0 < session.work) :
    client.findStream session.target = true := by
  rw [findStream, List.any_eq_true]
  exact ⟨session, member, by simp [SessionEntry.alive, work]⟩

/-- A thread that does not attend to the work does not come back to it. -/
theorem unattended_ioThreadStep {client next : WebSocketClient}
    (unattended : ¬client.Attended) (stepped : client.ioThreadStep = some next) :
    ¬next.Attended := by
  simp only [Attended] at unattended ⊢
  cases move_of_ioThreadStep stepped with
  | setFlag atThread | checkStopped atThread | restart atThread =>
      simp [atThread] at unattended
  | run atThread =>
      simp only [atThread, Bool.not_eq_false] at unattended
      simp [unattended]
  | runWorkless | leave | clear | finish => exact not_false

/-- Neither the IO thread nor a call for a stream that is reported helps a stranded
session. -/
theorem stranded_step {client next : WebSocketClient} {action : Action}
    (stranded : client.Stranded)
    (found : ∀ name, streamName action = some name → client.findStream name = true)
    (stepped : client.step action = some next) :
    next.Stranded ∧ next.sessions = client.sessions := by
  rcases stranded with ⟨idle, work, unattended⟩
  have again : ∀ name started, streamName action = some name →
      client.subscribe name started = some next → next = client := by
    intro name started asked subscribed
    rcases subscribe_eq_some subscribed with ⟨-, ⟨same, -⟩ | ⟨-, missing⟩⟩
    · exact same
    · rw [found name asked] at missing
      cases missing
  cases action with
  | subscribeBookTickerStream pair =>
      rw [again _ _ rfl stepped]
      exact ⟨⟨idle, work, unattended⟩, rfl⟩
  | subscribeCandlestickStream pair interval =>
      rw [again _ _ rfl stepped]
      exact ⟨⟨idle, work, unattended⟩, rfl⟩
  | caller => simp [step, callerStep, idle] at stepped
  | ioThread =>
      rcases ioThreadStep_frame stepped with ⟨sameCaller, sameSessions⟩
      refine ⟨⟨sameCaller.trans idle, ?_, unattended_ioThreadStep unattended stepped⟩,
        sameSessions⟩
      rw [HasWork, sameSessions]
      exact work
  | handler =>
      rcases handler_eq_some stepped with ⟨running, notStopped, -⟩
      exact absurd (by simp [Attended, running, notStopped]) unattended

/-- Once stranded, a session stays so for as long as the caller asks for registered
streams only, its own among them. -/
theorem stranded_run {client final : WebSocketClient} {actions : List Action}
    (stranded : client.Stranded)
    (found : ∀ action ∈ actions, ∀ name, streamName action = some name →
      client.findStream name = true)
    (ran : Transition.run step client actions = some final) :
    final.Stranded ∧ final.sessions = client.sessions := by
  induction actions using List.reverseRecOn generalizing final with
  | nil =>
      cases ran
      exact ⟨stranded, rfl⟩
  | append_singleton actions action ih =>
      rcases Transition.run_concat_eq_some ran with ⟨state, before, last⟩
      have earlier := ih
        (fun action member => found action (List.mem_append_left _ member)) before
      have foundNow : ∀ name, streamName action = some name →
          state.findStream name = true := by
        intro name asked
        rw [findStream, earlier.2]
        exact found action (by simp) name asked
      have now := stranded_step earlier.1 foundNow last
      exact ⟨now.1, now.2.trans earlier.2⟩

end WebSocketClient

/-- In every state of a run no session is stranded, exactly when the caller never
misses the leaving thread. -/
theorem subscriptions_attended_iff (actions : List Action) (final : WebSocketClient)
    (ran : WebSocketClient.run actions = some final) :
    Transition.AllStates WebSocketClient.step .start actions
        (fun client => ¬client.Stranded) ↔
      Transition.AllSteps WebSocketClient.step .start actions
        fun client action => ¬client.Misses action := by
  apply Transition.allStates_iff_allSteps WebSocketClient.Invariant
    WebSocketClient.invariant_start
  · rintro ⟨-, ⟨session, member, -⟩, -⟩
    cases member
  · intro client action next invariant stepped
    exact WebSocketClient.invariant_step invariant stepped
  · intro client action next invariant sound stepped
    exact WebSocketClient.stranded_step_iff invariant sound stepped
  · exact ran

/-- The only session ends, the IO thread finishes, and a second call starts it
again. -/
theorem subscriptions_attended_sample :
    Transition.AllStates WebSocketClient.step .start
        [.subscribeBookTickerStream "BTCUSDT", .caller, .caller, .caller, .caller,
          .caller, .ioThread, .ioThread, .ioThread, .handler 0 0 false, .ioThread,
          .ioThread, .ioThread, .subscribeCandlestickStream "BTCUSDT" ._1m, .caller,
          .caller, .caller, .caller, .caller]
        (fun client => ¬client.Stranded) ↔
      Transition.AllSteps WebSocketClient.step .start
        [.subscribeBookTickerStream "BTCUSDT", .caller, .caller, .caller, .caller,
          .caller, .ioThread, .ioThread, .ioThread, .handler 0 0 false, .ioThread,
          .ioThread, .ioThread, .subscribeCandlestickStream "BTCUSDT" ._1m, .caller,
          .caller, .caller, .caller, .caller]
        fun client action => ¬client.Misses action :=
  subscriptions_attended_iff _
    { sessions := [{ target := "/ws/btcusdt@kline_1m", work := 1 }]
      stopped := true
      isRunning := true
      caller := .idle
      ioThread := .setFlag } (by decide +kernel)

/-- The only session ends and `io_context::run` returns; before the flag is cleared
the caller subscribes again and finds it set. -/
theorem subscription_stranded_sample :
    ∃ client, WebSocketClient.run
        [.subscribeBookTickerStream "BTCUSDT", .caller, .caller, .caller, .caller,
          .caller, .ioThread, .ioThread, .ioThread, .handler 0 0 false, .ioThread,
          .subscribeBookTickerStream "BTCUSDT", .caller, .caller, .ioThread,
          .ioThread] = some client ∧
      client.ioThread = .done ∧ client.stopped = true ∧
      client.sessions = [{ target := "/ws/btcusdt@bookTicker", work := 1 }] ∧
      client.Stranded := by
  refine ⟨{
    sessions := [{ target := "/ws/btcusdt@bookTicker", work := 1 }]
    stopped := true
    isRunning := false
    caller := .idle
    ioThread := .done }, by decide +kernel, rfl, rfl, rfl, rfl, ?_, not_false⟩
  exact ⟨_, List.mem_singleton_self _, Nat.one_pos⟩

end BinanceApi.Futures
