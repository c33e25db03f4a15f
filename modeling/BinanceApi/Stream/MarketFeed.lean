import BinanceApi.Library.Mailbox
import BinanceApi.Rest.ServerAnswers
import BinanceApi.Stream.KlineMessages
import BinanceApi.Stream.Session
import BinanceApi.Stream.Subscriptions

/-!
# Market data, from the exchange to the readers

The stream manager with its sessions, their connections to the exchange and the two
stores.  The exchange publishes messages of streams; a session that has shaken hands is
sent those of its stream and reads them one after the other, until reading one fails.
Sessions end and are opened again at any moment.

Beside the program's state the model keeps what was published and what was read.
-/

namespace BinanceApi.Futures

open Mailbox (addressed addressed_concat)

/-- A message on a connection, as `nlohmann::json::parse` reads it. -/
abbrev Frame := Throws Json

/-! ## Reading one message -/

/-- The two kinds of exceptions that `onRead` tells apart. -/
def Handling.ofException : Exception → Handling
  | .json _ => .throwsJson
  | .standard _ => .throwsOther

namespace WebSocketSession

/-- `P::constructError`, which is called where both members are present. -/
def P.constructError (externals : Externals) (json : Json) : Throws (Int × String) := do
  let ec ← externals.readInt json "code" 0
  let msg ← externals.readString json "msg" ""
  return (ec, msg)

/-- The document of a message that `P::onRead` hands to the callback. -/
def P.message? : Frame → Option Json
  | .ok json => if json.isObject && !isApiError json then some json else none
  | .error _ => none

/-- How the `try` block of `P::onRead` ends up to the next read; nothing if the callback's
behaviour is undefined. -/
def P.handling (externals : Externals) (callback : Json → Evaluates Unit)
    (logThrows : Bool) : Frame → Option Handling
  | .error exception => some (.ofException exception)
  | .ok json =>
      if json.isObject then
        if isApiError json then
          match constructError externals json with
          | .ok _ => some (if logThrows then .throwsOther else .returns)
          | .error exception => some (.ofException exception)
        else
          match callback json with
          | .ok _ => some .returns
          | .error (.raised exception) => some (.ofException exception)
          | .error (.undefined _) => none
      else some .returns

/-- The operations that `P::onRead` starts, and whether it throws. -/
def P.continuation (logThrows : Bool) : Handling → Nat × Bool
  | .returns => (1, false)
  | .throwsJson => if logThrows then (0, true) else (1, false)
  | .throwsOther => (0, true)

end WebSocketSession

namespace Channel

/-- What the callback of a channel decodes before it touches its store. -/
def callback (externals : Externals) (channel : Channel) (json : Json) : Evaluates Unit :=
  match channel with
  | .bookTicker => (EventTickPrice.fromJson externals json).lift.map fun _ => ()
  | .kline _ => (EventCandlestick.fromJson externals json).map fun _ => ()

end Channel

/-! ## The system -/

/-- Streams of one key are one stream of the exchange. -/
def MarketStream.key (stream : MarketStream) : MarketStream :=
  { stream with pair := MagicEnum.lower stream.pair }

theorem MarketStream.key_eq_iff {left right : MarketStream} :
    left.key = right.key ↔ left.Same right := by
  simp [key, Same, and_comm]

/-- A session shakes hands, then reads until it stops. -/
inductive Phase where
  | connecting | reading | stopped
  deriving DecidableEq, Repr

structure Connection where
  phase : Phase := .connecting
  mailbox : Mailbox Frame := {}

structure MarketFeed where
  manager : WSStreamManager
  /-- The connection of each session in the client's list. -/
  connections : List Connection
  tickPrices : TickStore
  /-- What the callback and the readers of ticks did, in order. -/
  tickLog : List TickStore.Observation
  candles : CandleStore
  /-- The messages of the exchange, and those that sessions have read, under the keys of
  their streams. -/
  published : List (MarketStream × Frame)
  received : List (MarketStream × Frame)

inductive FeedEvent where
  /-- The manager goes on, or a handler runs that is none of those below. -/
  | manager (event : ManagerEvent)
  /-- A session has shaken hands: it starts to read, and its ping timer. -/
  | connect (session : Nat)
  | publish (stream : Subscription) (frame : Frame)
  /-- A session's read completes with its next message, or with an error. -/
  | read (session : Nat) (logThrows : Bool)
  | readFails (session : Nat) (logThrows : Bool)
  /-- A reader of ticks tries once. -/
  | poll (pair : String) (consumeEvent : Bool)

namespace MarketFeed

/-- One step of the tick store, noted in the log. -/
def tick (externals : Externals) (feed : MarketFeed) (input : TickStore.Step) :
    MarketFeed :=
  { feed with
    tickPrices := (TickStore.step externals feed.tickPrices input).1
    tickLog := feed.tickLog ++ [(TickStore.step externals feed.tickPrices input).2] }

/-- The callback of a channel takes a message. -/
def deliver (externals : Externals) (channel : Channel) (frame : Frame)
    (feed : MarketFeed) : MarketFeed :=
  match WebSocketSession.P.message? frame, channel with
  | some json, .bookTicker => feed.tick externals (.message json)
  | some json, .kline _ =>
      { feed with candles := feed.candles.callback externals json }
  | none, _ => feed

/-- The connections after a step of the manager: opening a session drops those of the
sessions that are gone. -/
def connectionsAfter (feed : MarketFeed) : ManagerEvent → List Connection
  | .caller =>
      match feed.manager.wsClient.caller.opening with
      | some _ =>
          Registry.survivors SessionEntry.alive feed.manager.wsClient.sessions
            feed.connections ++ [{}]
      | none => feed.connections
  | .subscribe .. | .ioThread | .handler .. | .terminate _ => feed.connections

/-- A message reaches the connections of its stream's sessions that have shaken hands. -/
def sendTo (streamName : String) (frame : Frame) (session : SessionEntry)
    (connection : Connection) : Connection :=
  if session.target = streamName ∧ connection.phase = .reading then
    { connection with mailbox := connection.mailbox.push frame }
  else connection

/-- A session reads its next message. -/
def read (externals : Externals) (feed : MarketFeed) (index : Nat) (logThrows : Bool) :
    Option MarketFeed := do
  let connection ← feed.connections[index]?
  let stream ← feed.manager.registered[index]?
  let frame ← connection.mailbox.head?
  let handling ← WebSocketSession.P.handling externals
    (stream.channel.callback externals) logThrows frame
  let (started, throws) := WebSocketSession.P.continuation logThrows handling
  let manager ← feed.manager.step (.handler index started throws)
  if connection.phase = .reading then
    let phase := if handling = .returns then .reading else .stopped
    some <| deliver externals stream.channel frame
      { feed with
        manager
        connections :=
          feed.connections.set index { phase, mailbox := connection.mailbox.take }
        received := feed.received ++ [(stream.key, frame)] }
  else none

/-- A handler of a session runs that changes the phase of its connection. -/
def enter (feed : MarketFeed) (index : Nat) (before after : Phase) (started : Nat)
    (throws : Bool) : Option MarketFeed := do
  let connection ← feed.connections[index]?
  let manager ← feed.manager.step (.handler index started throws)
  if connection.phase = before then
    some { feed with
      manager
      connections := feed.connections.set index { connection with phase := after } }
  else none

def step (externals : Externals) (feed : MarketFeed) : FeedEvent → Option MarketFeed
  | .manager event =>
      (feed.manager.step event).map fun manager =>
        { feed with manager, connections := feed.connectionsAfter event }
  | .connect index => feed.enter index .connecting .reading 2 false
  | .publish stream frame =>
      some { feed with
        connections := List.zipWith (sendTo stream.name frame)
          feed.manager.wsClient.sessions feed.connections
        published := feed.published ++ [(stream.key, frame)] }
  | .read index logThrows => feed.read externals index logThrows
  | .readFails index logThrows => feed.enter index .reading .stopped 0 logThrows
  | .poll pair consumeEvent => some (feed.tick externals (.poll pair consumeEvent))

def start : MarketFeed where
  manager := .start
  connections := []
  tickPrices := ∅
  tickLog := []
  candles := .empty
  published := []
  received := []

def run (externals : Externals) (events : List FeedEvent) : Option MarketFeed :=
  Transition.run (step externals) start events

end MarketFeed

/-! ## What a step does -/

/-- The operations that a completed read starts are those of the session's `onRead`, which
reads again exactly if it returns. -/
theorem WebSocketSession.onRead_continuation (session : WebSocketSession)
    (handling : Handling) (logThrows : Bool) :
    (session.onRead false handling logThrows).reads +
        (session.onRead false handling logThrows).closes =
      session.reads + session.closes + (P.continuation logThrows handling).1 ∧
      ((session.onRead false handling logThrows).reads = session.reads + 1 ↔
        handling = .returns) := by
  cases handling <;> cases logThrows <;>
    simp [onRead, P.continuation, asyncRead, asyncClose] <;> omega

namespace WSStreamManager

/-- A handler runs for a session that is alive. -/
theorem live_of_handler {manager next : WSStreamManager} {index started : Nat}
    {throws : Bool} {stream : MarketStream}
    (stepped : manager.step (.handler index started throws) = some next)
    (registered : manager.registered[index]? = some stream) : manager.Live index stream := by
  rcases Option.map_eq_some_iff.mp stepped with ⟨client, ran, -⟩
  simp only [WebSocketClient.handler] at ran
  split at ran
  · cases ran
  next session found =>
    split at ran
    next runs => exact ⟨⟨session, found, by simpa [SessionEntry.alive] using runs.2.2⟩, registered⟩
    · cases ran

/-- Outside the calls no session comes to life. -/
theorem live_of_quiet {manager next : WSStreamManager} {event : ManagerEvent}
    (quiet : Quiet event) (stepped : manager.step event = some next) {index : Nat}
    {stream : MarketStream} (live : next.Live index stream) :
    manager.Live index stream := by
  rcases quiet_step quiet stepped with ⟨fades, -, registered, -⟩
  rcases live with ⟨⟨session, found, alive⟩, noted⟩
  exact ⟨fades.alive_before found alive, registered ▸ noted⟩

/-- Nor while a call looks for its stream. -/
theorem subscribe_frame {manager next : WSStreamManager} {subscription : Subscription}
    {force : Bool} (stepped : manager.step (.subscribe subscription force) = some next) :
    next.wsClient.sessions = manager.wsClient.sessions ∧
      next.registered = manager.registered := by
  rcases subscribe_eq_some stepped with ⟨-, ⟨rfl, -⟩ | ⟨rfl, -⟩⟩ <;> exact ⟨rfl, rfl⟩

end WSStreamManager

namespace MarketFeed

variable {externals : Externals} {feed next : MarketFeed}

@[simp] theorem deliver_manager (channel : Channel) (frame : Frame) :
    (feed.deliver externals channel frame).manager = feed.manager := by
  simp only [deliver]
  split <;> rfl

@[simp] theorem deliver_connections (channel : Channel) (frame : Frame) :
    (feed.deliver externals channel frame).connections = feed.connections := by
  simp only [deliver]
  split <;> rfl

@[simp] theorem deliver_published (channel : Channel) (frame : Frame) :
    (feed.deliver externals channel frame).published = feed.published := by
  simp only [deliver]
  split <;> rfl

@[simp] theorem deliver_received (channel : Channel) (frame : Frame) :
    (feed.deliver externals channel frame).received = feed.received := by
  simp only [deliver]
  split <;> rfl

/-- A read takes the next message of a live session that is reading, notes it under the
session's stream, and hands it to the callback of the stream's channel. -/
theorem read_eq_some {index : Nat} {logThrows : Bool}
    (stepped : feed.read externals index logThrows = some next) :
    ∃ connection stream frame phase manager started throws,
      feed.connections[index]? = some connection ∧ connection.phase = .reading ∧
        feed.manager.Live index stream ∧ connection.mailbox.head? = some frame ∧
        phase ≠ .connecting ∧
        feed.manager.step (.handler index started throws) = some manager ∧
        next = deliver externals stream.channel frame
          { feed with
            manager
            connections :=
              feed.connections.set index { phase, mailbox := connection.mailbox.take }
            received := feed.received ++ [(stream.key, frame)] } := by
  simp only [read, Option.bind_eq_bind, Option.bind_eq_some_iff] at stepped
  rcases stepped with
    ⟨connection, found, stream, registered, frame, head, handling, -, manager, ran, rest⟩
  split at rest
  next reading =>
    cases rest
    refine ⟨connection, stream, frame, _, manager, _, _, found, reading,
      WSStreamManager.live_of_handler ran registered, head, ?_, ran, rfl⟩
    split <;> simp
  · cases rest

theorem enter_eq_some {index started : Nat} {before after : Phase} {throws : Bool}
    (stepped : feed.enter index before after started throws = some next) :
    ∃ connection manager, feed.connections[index]? = some connection ∧
      connection.phase = before ∧
      feed.manager.step (.handler index started throws) = some manager ∧
      next = { feed with
        manager
        connections := feed.connections.set index { connection with phase := after } } := by
  simp only [enter, Option.bind_eq_bind, Option.bind_eq_some_iff] at stepped
  rcases stepped with ⟨connection, found, manager, ran, rest⟩
  split at rest
  next phase =>
    cases rest
    exact ⟨connection, manager, found, phase, ran, rfl⟩
  · cases rest

/-! ## Every message once and in order -/

/-- What every step keeps.  A connection that has not stopped resumes what was received of
its stream. -/
structure Invariant (feed : MarketFeed) : Prop where
  manager : feed.manager.Invariant
  paired : feed.connections.length = feed.manager.wsClient.sessions.length
  fresh : ∀ connection ∈ feed.connections,
    connection.phase = .connecting → connection.mailbox = {}
  inOrder : ∀ key,
    (addressed key feed.received).Sublist (addressed key feed.published)
  resumes : ∀ index stream connection, feed.manager.Live index stream →
    feed.connections[index]? = some connection → connection.phase ≠ .stopped →
    connection.mailbox.Resumes (addressed stream.key feed.published)
      (addressed stream.key feed.received)

theorem invariant_start : start.Invariant where
  manager := WSStreamManager.invariant_start
  paired := rfl
  fresh := by simp [start]
  inOrder := by simp [start, addressed]
  resumes := by simp [start]

/-- A step that lets no session come to life and sends and reads nothing keeps the
invariant, if a connection that has not stopped had not before. -/
theorem Invariant.of_connections (invariant : feed.Invariant)
    (manager : next.manager.Invariant)
    (lengths : next.connections.length = next.manager.wsClient.sessions.length)
    (live : ∀ index stream, next.manager.Live index stream →
      feed.manager.Live index stream)
    (connections : ∀ (index : Nat) (connection : Connection),
      next.connections[index]? = some connection →
      ∃ before, feed.connections[index]? = some before ∧
        connection.mailbox = before.mailbox ∧
        (connection.phase = .connecting → before.phase = .connecting) ∧
        (before.phase = .stopped → connection.phase = .stopped))
    (published : next.published = feed.published)
    (received : next.received = feed.received) : next.Invariant := by
  constructor
  case manager => exact manager
  case paired => exact lengths
  case fresh =>
    intro connection member connecting
    rcases List.mem_iff_getElem?.mp member with ⟨index, found⟩
    rcases connections index connection found with ⟨before, foundBefore, same, phase, -⟩
    rw [same]
    exact invariant.fresh before (List.mem_of_getElem? foundBefore) (phase connecting)
  case inOrder =>
    rw [published, received]
    exact invariant.inOrder
  case resumes =>
    intro index stream connection alive found running
    rcases connections index connection found with ⟨before, foundBefore, same, -, stopped⟩
    rw [published, received, same]
    apply invariant.resumes index stream before (live index stream alive) foundBefore
    exact fun ended => running (stopped ended)

theorem Invariant.subscribe (invariant : feed.Invariant) {subscription : Subscription}
    {force : Bool}
    (stepped : feed.step externals (.manager (.subscribe subscription force)) = some next) :
    next.Invariant := by
  rcases Option.map_eq_some_iff.mp stepped with ⟨manager, moved, rfl⟩
  have frame := WSStreamManager.subscribe_frame moved
  apply invariant.of_connections
  case manager => exact WSStreamManager.invariant_subscribe invariant.manager moved
  case lengths =>
    rw [frame.1]
    exact invariant.paired
  case live =>
    intro index stream live
    rw [WSStreamManager.Live, frame.1, frame.2] at live
    exact live
  case connections => exact fun _ connection found => ⟨connection, found, rfl, id, id⟩
  case published | received => rfl

theorem Invariant.quiet (invariant : feed.Invariant) {event : ManagerEvent}
    (quiet : WSStreamManager.Quiet event)
    (stepped : feed.step externals (.manager event) = some next) : next.Invariant := by
  rcases Option.map_eq_some_iff.mp stepped with ⟨manager, moved, rfl⟩
  have same : feed.connectionsAfter event = feed.connections := by
    cases event with
    | subscribe | caller => cases quiet
    | ioThread | handler | terminate => rfl
  apply invariant.of_connections
  case manager => exact WSStreamManager.invariant_quiet invariant.manager quiet moved
  case lengths =>
    rw [same, invariant.paired]
    exact (WSStreamManager.quiet_step quiet moved).1.length_eq
  case live => exact fun _ _ live => WSStreamManager.live_of_quiet quiet moved live
  case connections =>
    rw [same]
    exact fun _ connection found => ⟨connection, found, rfl, id, id⟩
  case published | received => rfl

/-- A handler that changes the phase of its connection forward. -/
theorem Invariant.enter (invariant : feed.Invariant) {index started : Nat}
    {before after : Phase} {throws : Bool} (forward : after ≠ .connecting)
    (running : before ≠ .stopped)
    (stepped : feed.enter index before after started throws = some next) :
    next.Invariant := by
  rcases enter_eq_some stepped with ⟨connection, manager, found, phase, ran, rfl⟩
  apply invariant.of_connections
  case manager => exact WSStreamManager.invariant_quiet invariant.manager (by trivial) ran
  case lengths =>
    rw [List.length_set, invariant.paired]
    exact (WSStreamManager.quiet_step (by trivial) ran).1.length_eq
  case live => exact fun _ _ live => WSStreamManager.live_of_quiet (by trivial) ran live
  case connections =>
    intro other changed changedFound
    rw [List.getElem?_set] at changedFound
    split at changedFound
    next same =>
      subst same
      split at changedFound
      · cases changedFound
        refine ⟨connection, found, rfl, fun connecting => absurd connecting forward, ?_⟩
        intro stopped
        exact absurd (phase.symm.trans stopped) running
      · cases changedFound
    · exact ⟨changed, changedFound, rfl, id, id⟩
  case published | received => rfl

/-- A call that goes on drops the connections of the sessions that are gone, and begins one
for a session that it opens. -/
theorem Invariant.callerStep (invariant : feed.Invariant)
    (stepped : feed.step externals (.manager .caller) = some next) : next.Invariant := by
  rcases Option.map_eq_some_iff.mp stepped with ⟨manager, moved, rfl⟩
  have kept := WSStreamManager.invariant_callerStep invariant.manager moved
  rcases WSStreamManager.callerStep_eq_some moved with
    ⟨stream, opening, sessions, -, registered, -⟩ | ⟨-, opening, sessions, -, registered, -⟩
  · have connections : feed.connectionsAfter .caller =
        Registry.survivors SessionEntry.alive feed.manager.wsClient.sessions
          feed.connections ++ [({} : Connection)] := by
      simp only [connectionsAfter, opening]
    have noted : feed.manager.registered.length =
        feed.manager.wsClient.sessions.length := by
      have lengths := congrArg List.length invariant.manager.named
      simpa using lengths.symm
    have pruned : (Registry.survivors SessionEntry.alive feed.manager.wsClient.sessions
        feed.connections).length = _ := Registry.length_survivors invariant.paired
    have prunedNoted : (Registry.survivors SessionEntry.alive
        feed.manager.wsClient.sessions feed.manager.registered).length = _ :=
      Registry.length_survivors noted
    -- a connection is that of a session that was there, or the new one
    have origin : ∀ (index : Nat) (connection : Connection),
        (feed.connectionsAfter .caller)[index]? = some connection →
        (∃ before : Nat, feed.connections[before]? = some connection ∧
          ∀ other, manager.Live index other → feed.manager.Live before other) ∨
        connection = {} := by
      intro index connection found
      rw [connections] at found
      rcases Nat.lt_or_ge index (feed.manager.wsClient.sessions.filter
        SessionEntry.alive).length with old | new
      · rw [List.getElem?_append_left (by omega),
          Registry.getElem?_survivors invariant.paired] at found
        refine .inl ⟨_, found, ?_⟩
        rintro other ⟨⟨session, foundSession, alive⟩, opened⟩
        rw [sessions, List.getElem?_append_left old, Registry.getElem?_filter]
          at foundSession
        rw [registered, List.getElem?_append_left (by omega),
          Registry.getElem?_survivors noted] at opened
        exact ⟨⟨session, foundSession, alive⟩, opened⟩
      · rw [List.getElem?_append_right (by omega)] at found
        exact .inr (List.mem_singleton.mp (List.mem_of_getElem? found))
    constructor
    case manager => exact kept
    case paired =>
      change (feed.connectionsAfter .caller).length = manager.wsClient.sessions.length
      rw [connections, sessions, List.length_append, List.length_append, pruned]
      rfl
    case fresh =>
      intro connection member connecting
      rcases List.mem_iff_getElem?.mp member with ⟨index, found⟩
      rcases origin index connection found with ⟨before, there, -⟩ | rfl
      · exact invariant.fresh connection (List.mem_of_getElem? there) connecting
      · rfl
    case inOrder => exact invariant.inOrder
    case resumes =>
      intro index other connection live found running
      rcases origin index connection found with ⟨before, there, lived⟩ | rfl
      · exact invariant.resumes before other connection (lived other live) there running
      · exact Mailbox.resumes_open (invariant.inOrder other.key)
  · have connections : feed.connectionsAfter .caller = feed.connections := by
      simp only [connectionsAfter, opening]
    apply invariant.of_connections
    case manager => exact kept
    case lengths =>
      change (feed.connectionsAfter .caller).length = manager.wsClient.sessions.length
      rw [connections, sessions]
      exact invariant.paired
    case live =>
      intro index other live
      rw [WSStreamManager.Live, sessions, registered] at live
      exact live
    case connections =>
      rw [connections]
      exact fun _ connection found => ⟨connection, found, rfl, id, id⟩
    case published | received => rfl

/-- A message is sent to the one session of its stream, if that has shaken hands and has
not stopped. -/
theorem Invariant.publish (invariant : feed.Invariant) (stream : Subscription)
    (frame : Frame) (stepped : feed.step externals (.publish stream frame) = some next) :
    next.Invariant := by
  cases stepped
  have lengths : (List.zipWith (sendTo stream.name frame) feed.manager.wsClient.sessions
      feed.connections).length = feed.manager.wsClient.sessions.length := by
    rw [List.length_zipWith, invariant.paired, Nat.min_self]
  constructor
  case manager => exact invariant.manager
  case paired => exact lengths
  case fresh =>
    intro connection member connecting
    rcases List.mem_iff_getElem?.mp member with ⟨index, found⟩
    rcases List.getElem?_zipWith_eq_some.mp found with ⟨session, before, -, there, rfl⟩
    simp only [sendTo] at connecting ⊢
    split at connecting
    next sent =>
      rw [sent.2] at connecting
      cases connecting
    next unsent =>
      rw [if_neg unsent]
      exact invariant.fresh before (List.mem_of_getElem? there) connecting
  case inOrder =>
    intro key
    rw [addressed_concat]
    split
    · exact (invariant.inOrder key).trans (List.sublist_append_left _ _)
    · exact invariant.inOrder key
  case resumes =>
    intro index other connection live found running
    rcases List.getElem?_zipWith_eq_some.mp found with
      ⟨session, before, atIndex, there, rfl⟩
    rcases invariant.manager.target live with ⟨target, foundTarget, -, named, plain⟩
    cases atIndex.symm.trans foundTarget
    have sameStream : session.target = stream.name ↔ stream.key = other.key := by
      rw [named, MarketStream.name_eq_iff plain, ← MarketStream.key_eq_iff, eq_comm]
    rw [addressed_concat]
    simp only [sendTo, sameStream] at running ⊢
    by_cases same : stream.key = other.key
    · cases phase : before.phase with
      | connecting =>
          have fresh := invariant.fresh before (List.mem_of_getElem? there) phase
          have resumes := invariant.resumes index other before live there
            (by simp [phase])
          rw [fresh] at resumes
          simpa [same, phase, fresh] using resumes.miss frame
      | reading =>
          have resumes := invariant.resumes index other before live there
            (by simp [phase])
          simpa [same, phase] using resumes.push frame
      | stopped => simp [same, phase] at running
    · simp only [same, false_and, if_false] at running ⊢
      exact invariant.resumes index other before live there running

/-- A read moves one message from the mailbox of its stream's session to what was
received of the stream. -/
theorem Invariant.read (invariant : feed.Invariant) {index : Nat} {logThrows : Bool}
    (stepped : feed.step externals (.read index logThrows) = some next) :
    next.Invariant := by
  rcases read_eq_some stepped with ⟨connection, stream, frame, phase, manager, started,
    throws, found, reading, live, head, forward, ran, rfl⟩
  have resumes := invariant.resumes index stream connection live found
    (by simp [reading])
  have taken := resumes.take head
  constructor
  case manager =>
    rw [deliver_manager]
    exact WSStreamManager.invariant_quiet invariant.manager (by trivial) ran
  case paired =>
    rw [deliver_manager, deliver_connections, List.length_set, invariant.paired]
    exact (WSStreamManager.quiet_step (by trivial) ran).1.length_eq
  case fresh =>
    rw [deliver_connections]
    intro other member connecting
    rcases List.mem_or_eq_of_mem_set member with before | rfl
    · exact invariant.fresh other before connecting
    · exact absurd connecting forward
  case inOrder =>
    intro key
    rw [deliver_published, deliver_received, addressed_concat]
    split
    next same => exact same ▸ taken.inOrder
    · exact invariant.inOrder key
  case resumes =>
    rw [deliver_manager, deliver_connections, deliver_published, deliver_received]
    intro place other changed placed foundChanged running
    have lived := WSStreamManager.live_of_quiet (by trivial) ran placed
    rw [addressed_concat]
    rw [List.getElem?_set] at foundChanged
    split at foundChanged
    next same =>
      subst same
      split at foundChanged
      · cases foundChanged
        cases live.2.symm.trans lived.2
        rw [if_pos rfl]
        exact taken
      · cases foundChanged
    next apart =>
      have different : stream.key ≠ other.key := by
        intro same
        exact apart (invariant.manager.unique live lived (MarketStream.key_eq_iff.mp same))
      rw [if_neg different]
      exact invariant.resumes place other changed lived foundChanged running

theorem Invariant.step (invariant : feed.Invariant) {event : FeedEvent}
    (stepped : feed.step externals event = some next) : next.Invariant := by
  cases event with
  | manager event =>
      cases event with
      | subscribe => exact invariant.subscribe stepped
      | caller => exact invariant.callerStep stepped
      | ioThread | handler | terminate => exact invariant.quiet (by trivial) stepped
  | connect => exact invariant.enter (by decide) (by decide) stepped
  | publish stream frame => exact invariant.publish stream frame stepped
  | read => exact invariant.read stepped
  | readFails => exact invariant.enter (by decide) (by decide) stepped
  | poll =>
      cases stepped
      exact ⟨invariant.manager, invariant.paired, invariant.fresh, invariant.inOrder,
        invariant.resumes⟩

theorem invariant_run {events : List FeedEvent} (ran : run externals events = some feed) :
    feed.Invariant :=
  Transition.run_invariant Invariant invariant_start
    (fun _ _ _ invariant stepped => invariant.step stepped) ran

/-! ## What the stores hold -/

/-- The tick of a symbol that a message of a ticker stream carries. -/
def tickOf (externals : Externals) (pair : String) :
    Channel → Option Json → Option EventTickPrice
  | .bookTicker, some json =>
      (EventTickPrice.fromJson externals json).toOption.filter fun event => event.s = pair
  | _, _ => none

/-- The candle that a message of a candle stream carries. -/
def candleOf (externals : Externals) : Channel → Option Json → Option EventCandlestick
  | .kline _, some json => (EventCandlestick.fromJson externals json).toOption
  | _, _ => none

def tickEvents (externals : Externals) (pair : String)
    (frames : List (MarketStream × Frame)) : List EventTickPrice :=
  frames.filterMap fun entry =>
    tickOf externals pair entry.1.channel (WebSocketSession.P.message? entry.2)

def candleEvents (externals : Externals) (frames : List (MarketStream × Frame)) :
    List EventCandlestick :=
  frames.filterMap fun entry =>
    candleOf externals entry.1.channel (WebSocketSession.P.message? entry.2)

theorem tickEvents_concat (pair : String) (frames : List (MarketStream × Frame))
    (last : MarketStream × Frame) :
    tickEvents externals pair (frames ++ [last]) = tickEvents externals pair frames ++
      (tickOf externals pair last.1.channel
        (WebSocketSession.P.message? last.2)).toList := by
  rw [tickEvents, tickEvents, List.filterMap_append, List.filterMap_cons]
  cases tickOf externals pair last.1.channel (WebSocketSession.P.message? last.2) <;> rfl

theorem candleEvents_concat (frames : List (MarketStream × Frame))
    (last : MarketStream × Frame) :
    candleEvents externals (frames ++ [last]) = candleEvents externals frames ++
      (candleOf externals last.1.channel
        (WebSocketSession.P.message? last.2)).toList := by
  rw [candleEvents, candleEvents, List.filterMap_append, List.filterMap_cons]
  cases candleOf externals last.1.channel (WebSocketSession.P.message? last.2) <;> rfl

/-- The stores are those that the messages read so far leave behind. -/
structure Stored (externals : Externals) (feed : MarketFeed) : Prop where
  tracks : ∀ pair, TickStore.Tracks pair feed.tickPrices feed.tickLog
  ticks : ∀ pair,
    TickStore.received pair feed.tickLog = tickEvents externals pair feed.received
  candles : feed.candles = CandleStore.receive (candleEvents externals feed.received)

theorem stored_start : Stored externals start where
  tracks := fun pair => TickStore.tracks_run externals pair []
  ticks := fun _ => rfl
  candles := rfl

/-- A message adds the tick that it carries to the log. -/
theorem received_message (pair : String) (store : TickStore)
    (log : List TickStore.Observation) (json : Json) :
    TickStore.received pair
        (log ++ [(TickStore.step externals store (.message json)).2]) =
      TickStore.received pair log ++
        (tickOf externals pair .bookTicker (some json)).toList := by
  simp only [TickStore.received, List.filterMap_append, TickStore.step, tickOf]
  congr 1
  split
  next event decoded =>
    by_cases same : event.s = pair <;>
      simp [decoded, Except.toOption, same, Option.filter_some]
  next exception thrown => simp [thrown, Except.toOption]

theorem received_poll (pair other : String) (consumeEvent : Bool) (store : TickStore)
    (log : List TickStore.Observation) :
    TickStore.received pair
        (log ++ [(TickStore.step externals store (.poll other consumeEvent)).2]) =
      TickStore.received pair log := by
  simp only [TickStore.received, List.filterMap_append, TickStore.step]
  split <;> exact List.append_nil _

/-- The callback of candles keeps the store that the decoded messages leave behind. -/
theorem receive_callback (events : List EventCandlestick) (interval : CandleInterval)
    (json : Json) :
    (CandleStore.receive events).callback externals json =
      CandleStore.receive (events ++
        (candleOf externals (.kline interval) (some json)).toList) := by
  simp only [CandleStore.callback, candleOf]
  split
  next event decoded => simp [decoded, Except.toOption]
  next fault failed => simp [failed, Except.toOption]

/-- A message that is read is handed to the store of its channel. -/
theorem Stored.deliver (stored : Stored externals feed) (stream : MarketStream)
    (frame : Frame) {manager : WSStreamManager} {connections : List Connection} :
    Stored externals (deliver externals stream.channel frame
      { feed with
        manager, connections, received := feed.received ++ [(stream.key, frame)] }) := by
  have channel : stream.key.channel = stream.channel := rfl
  constructor
  case tracks =>
    intro pair
    simp only [MarketFeed.deliver]
    split
    next json _ _ => exact (stored.tracks pair).step (.message json)
    · exact stored.tracks pair
    · exact stored.tracks pair
  case ticks =>
    intro pair
    rw [deliver_received, tickEvents_concat, channel, ← stored.ticks pair]
    simp only [MarketFeed.deliver]
    split
    next json message atChannel =>
      rw [message, atChannel]
      exact received_message pair feed.tickPrices feed.tickLog json
    next json interval message atChannel =>
      rw [message, atChannel]
      exact (List.append_nil _).symm
    next message =>
      rw [message]
      cases stream.channel <;> exact (List.append_nil _).symm
  case candles =>
    rw [deliver_received, candleEvents_concat, channel]
    simp only [MarketFeed.deliver]
    split
    next json message atChannel =>
      rw [message, atChannel]
      exact stored.candles.trans (congrArg _ (List.append_nil _).symm)
    next json interval message atChannel =>
      rw [message, atChannel, ← receive_callback]
      exact congrArg (CandleStore.callback externals · json) stored.candles
    next message =>
      rw [message, stored.candles]
      cases stream.channel <;> exact congrArg _ (List.append_nil _).symm

theorem Stored.step (stored : Stored externals feed) {event : FeedEvent}
    (stepped : feed.step externals event = some next) : Stored externals next := by
  cases event with
  | manager event =>
      rcases Option.map_eq_some_iff.mp stepped with ⟨manager, -, rfl⟩
      exact ⟨stored.tracks, stored.ticks, stored.candles⟩
  | connect | readFails =>
      rcases enter_eq_some stepped with ⟨connection, manager, -, -, -, rfl⟩
      exact ⟨stored.tracks, stored.ticks, stored.candles⟩
  | publish stream frame =>
      cases stepped
      exact ⟨stored.tracks, stored.ticks, stored.candles⟩
  | read =>
      rcases read_eq_some stepped with ⟨connection, stream, frame, phase, manager, started,
        throws, -, -, -, -, -, -, rfl⟩
      exact stored.deliver stream frame
  | poll other consumeEvent =>
      cases stepped
      constructor
      case tracks => exact fun pair => (stored.tracks pair).step (.poll other consumeEvent)
      case ticks =>
        intro pair
        exact (received_poll pair other consumeEvent feed.tickPrices feed.tickLog).trans
          (stored.ticks pair)
      case candles => exact stored.candles

theorem stored_run {events : List FeedEvent} (ran : run externals events = some feed) :
    Stored externals feed :=
  Transition.run_invariant (Stored externals) stored_start
    (fun _ _ _ stored stepped => stored.step stepped) ran

end MarketFeed

end BinanceApi.Futures
