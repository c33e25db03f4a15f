import Mathlib.Data.List.Basic
import BinanceApi.Library.Registry
import BinanceApi.Stream.Client

/-!
# Subscriptions

The streams that one caller of the stream manager subscribes to.  The manager asks
the client whether a session of the stream is alive before it opens one, under a
name that the client composes again when it opens the session.

Beside the client the model keeps what its sessions were opened for.  A session can
end at any moment, not only when the model of the IO thread runs a handler.
-/

namespace BinanceApi.Futures

inductive Channel where
  | bookTicker
  | kline (interval : CandleInterval)
  deriving DecidableEq, Repr

def Channel.name : Channel → String
  | .bookTicker => "bookTicker"
  | .kline interval => WebSocketClient.klineChannel interval

/-- What a session is opened for. -/
structure MarketStream where
  pair : String
  channel : Channel
  deriving DecidableEq, Repr

namespace MarketStream

/-- The pair has no '@', which separates it from the channel in the name. -/
def Plain (stream : MarketStream) : Prop :=
  '@' ∉ stream.pair.toList

instance (stream : MarketStream) : Decidable stream.Plain :=
  inferInstanceAs (Decidable ('@' ∉ stream.pair.toList))

def name (stream : MarketStream) : String :=
  WebSocketClient.composeStreamName stream.pair stream.channel.name

/-- The same channel, and the same pair up to ASCII letter case. -/
def Same (left right : MarketStream) : Prop :=
  left.channel = right.channel ∧
    MagicEnum.lower left.pair = MagicEnum.lower right.pair

/-- The call of the client that asks for the stream. -/
def subscribe (stream : MarketStream) (client : WebSocketClient) :
    Option WebSocketClient :=
  match stream.channel with
  | .bookTicker => client.subscribeBookTickerStream stream.pair
  | .kline interval => client.subscribeCandlestickStream stream.pair interval

/-- Where a call for the stream stands when it has not found a session. -/
def caller (stream : MarketStream) : Caller :=
  match stream.channel with
  | .bookTicker => .bookTicker stream.pair
  | .kline interval => .candlestick stream.pair interval

theorem subscribe_eq (stream : MarketStream) (client : WebSocketClient) :
    stream.subscribe client = client.subscribe stream.name stream.caller := by
  rcases stream with ⟨pair, channel⟩
  cases channel <;> rfl

end MarketStream

/-- A stream whose pair has no '@'. -/
structure Subscription extends MarketStream where
  plain : toMarketStream.Plain

/-- The stream that a call is about to open a session for. -/
def Caller.opening : Caller → Option MarketStream
  | .bookTicker pair => some ⟨pair, .bookTicker⟩
  | .candlestick pair interval => some ⟨pair, .kline interval⟩
  | .idle | .readFlag | .setFlag | .join | .startThread => none

@[simp] theorem MarketStream.opening_caller (stream : MarketStream) :
    stream.caller.opening = some stream := by
  rcases stream with ⟨pair, channel⟩
  cases channel <;> rfl

structure WSStreamManager where
  wsClient : WebSocketClient
  /-- What each session in the client's list was opened for. -/
  registered : List MarketStream
  /-- What sessions were opened for, in order, those that are gone included. -/
  opened : List MarketStream
  deriving DecidableEq, Repr

inductive ManagerEvent where
  /-- A call of `subscribeBookTickerStream` or `subscribeCandlestickStream`, which
  ignores its flag. -/
  | subscribe (subscription : Subscription) (force : Bool)
  /-- The caller goes on with its call. -/
  | caller
  | ioThread
  | handler (session started : Nat) (throws : Bool)
  /-- A session ends. -/
  | terminate (session : Nat)

namespace WSStreamManager

/-- The caller's next step.  Where it opens a session, the client first drops the
sessions that are gone. -/
def callerStep (manager : WSStreamManager) : Option WSStreamManager :=
  manager.wsClient.callerStep.map fun client =>
    match manager.wsClient.caller.opening with
    | some stream =>
        { wsClient := client
          registered := Registry.survivors SessionEntry.alive
            manager.wsClient.sessions manager.registered ++ [stream]
          opened := manager.opened ++ [stream] }
    | none => { manager with wsClient := client }

/-- A session loses its last operation. -/
def terminate (manager : WSStreamManager) (index : Nat) : Option WSStreamManager :=
  manager.wsClient.sessions[index]?.map fun session =>
    { manager with wsClient := { manager.wsClient with
        sessions := manager.wsClient.sessions.set index { session with work := 0 } } }

def step (manager : WSStreamManager) : ManagerEvent → Option WSStreamManager
  | .subscribe subscription _ =>
      (subscription.subscribe manager.wsClient).map fun client =>
        { manager with wsClient := client }
  | .caller => manager.callerStep
  | .ioThread =>
      manager.wsClient.ioThreadStep.map fun client => { manager with wsClient := client }
  | .handler index started throws =>
      (manager.wsClient.handler index started throws).map fun client =>
        { manager with wsClient := client }
  | .terminate index => manager.terminate index

/-- A manager that was just constructed. -/
def start : WSStreamManager where
  wsClient := .start
  registered := []
  opened := []

def run (events : List ManagerEvent) : Option WSStreamManager :=
  Transition.run step start events

/-- The session at a place of the client's list is alive, and was opened for the
stream. -/
def Live (manager : WSStreamManager) (index : Nat) (stream : MarketStream) : Prop :=
  (∃ session, manager.wsClient.sessions[index]? = some session ∧
    session.alive = true) ∧
    manager.registered[index]? = some stream

/-- A live session was opened for the stream. -/
def Subscribed (manager : WSStreamManager) (stream : MarketStream) : Prop :=
  ∃ index other, manager.Live index other ∧ other.Same stream

end WSStreamManager

/-! ## Stream names -/

namespace WebSocketClient

theorem composeStreamName_empty (channel : String) :
    composeStreamName "" channel = "/ws/" ++ channel :=
  rfl

/-- A pair is folded to lower case, "!" being its own folding. -/
theorem composeStreamName_of_ne {pair channel : String} (nonempty : pair ≠ "") :
    composeStreamName pair channel =
      "/ws/" ++ MagicEnum.lower pair ++ "@" ++ channel := by
  have root : MagicEnum.lower "/ws/" = "/ws/" := by decide
  simp only [composeStreamName, nonempty, if_false, ne_eq, ite_not]
  split
  next all =>
    have folded : MagicEnum.lower "!" = "!" := by decide
    rw [all, folded]
  · rw [MagicEnum.lower_append, root]

end WebSocketClient

namespace Channel

theorem at_notMem_name (channel : Channel) : '@' ∉ channel.name.toList := by
  cases channel with
  | bookTicker => decide
  | kline interval => cases interval <;> decide

theorem name_injective : Function.Injective name := by
  intro left right same
  cases left with
  | bookTicker =>
      cases right with
      | bookTicker => rfl
      | kline interval => cases interval <;> exact absurd same (by decide)
  | kline interval =>
      cases right with
      | bookTicker => cases interval <;> exact absurd same (by decide)
      | kline other =>
          rw [MagicEnum.enumName_injective (String.append_right_inj _ |>.mp same)]

end Channel

namespace MarketStream

/-- The pair's '@' stands in the name unless the pair is empty. -/
theorem at_mem_name {stream : MarketStream} :
    '@' ∈ stream.name.toList ↔ stream.pair ≠ "" := by
  by_cases empty : stream.pair = ""
  · have none := stream.channel.at_notMem_name
    simp [name, empty, WebSocketClient.composeStreamName_empty, String.toList_append, none]
  · rw [name, WebSocketClient.composeStreamName_of_ne empty]
    simp [empty, String.toList_append]

/-- Two names are equal for streams of one channel and one pair up to letter case,
and for no others. -/
theorem name_eq_iff {left right : MarketStream} (leftPlain : left.Plain) :
    left.name = right.name ↔ left.Same right := by
  constructor
  · intro same
    have both : left.pair ≠ "" ↔ right.pair ≠ "" := by
      rw [← at_mem_name, same, at_mem_name]
    by_cases empty : left.pair = ""
    · have otherEmpty : right.pair = "" := by
        by_contra nonempty
        exact both.mpr nonempty empty
      simp only [name, empty, otherEmpty, WebSocketClient.composeStreamName_empty] at same
      refine ⟨Channel.name_injective ((String.append_right_inj _).mp same), ?_⟩
      rw [empty, otherEmpty]
    · rw [name, WebSocketClient.composeStreamName_of_ne empty, name,
        WebSocketClient.composeStreamName_of_ne (both.mp empty)] at same
      have chars := congrArg String.toList same
      simp only [String.toList_append, List.append_assoc, List.append_cancel_left_eq]
        at chars
      change _ ++ '@' :: _ = _ ++ '@' :: _ at chars
      -- neither the pair nor the channel has an '@' of its own
      rcases (List.append_cons_inj_of_notMem (MagicEnum.at_mem_lower.not.mpr leftPlain)
        left.channel.at_notMem_name).mp chars with ⟨folded, -, sameChannel⟩
      exact ⟨Channel.name_injective (String.toList_inj.mp sameChannel),
        String.toList_inj.mp folded⟩
  · rintro ⟨sameChannel, folded⟩
    by_cases empty : left.pair = ""
    · have otherEmpty : right.pair = "" := by
        rw [empty] at folded
        exact MagicEnum.lower_eq_empty.mp folded.symm
      rw [name, name, empty, otherEmpty, sameChannel]
    · have otherNonempty : right.pair ≠ "" := by
        intro otherEmpty
        rw [otherEmpty] at folded
        exact empty (MagicEnum.lower_eq_empty.mp folded)
      rw [name, name, WebSocketClient.composeStreamName_of_ne empty,
        WebSocketClient.composeStreamName_of_ne otherNonempty, folded, sameChannel]

end MarketStream

/-! ## What each step does to the sessions -/

namespace WebSocketClient

/-- Sessions that keep their targets, of which some may have ended. -/
abbrev Fades (before after : WebSocketClient) : Prop :=
  Registry.Fades SessionEntry.target SessionEntry.alive before.sessions after.sessions

/-- No session of the name is alive. -/
abbrev Free (client : WebSocketClient) (streamName : String) : Prop :=
  Registry.Free SessionEntry.target SessionEntry.alive streamName client.sessions

theorem findStream_eq_false {client : WebSocketClient} {streamName : String} :
    client.findStream streamName = false ↔ client.Free streamName := by
  simp [findStream, Registry.Free]

/-- A step of the caller opens a session for the stream of the call, or leaves the
sessions alone. -/
theorem callerStep_eq_some {client next : WebSocketClient}
    (stepped : client.callerStep = some next) :
    (∃ stream, client.caller.opening = some stream ∧
        next.sessions = client.sessions.filter SessionEntry.alive ++
          [{ target := stream.name, work := 1 }] ∧
        next.caller.opening = none) ∨
      client.caller ≠ .idle ∧ client.caller.opening = none ∧
        next.sessions = client.sessions ∧ next.caller.opening = none := by
  simp only [callerStep] at stepped
  cases atCall : client.caller with
  | idle => simp [atCall] at stepped
  | bookTicker pair =>
      simp only [atCall, Option.some.injEq] at stepped
      subst stepped
      exact .inl ⟨⟨pair, .bookTicker⟩, rfl, rfl, rfl⟩
  | candlestick pair interval =>
      simp only [atCall, Option.some.injEq] at stepped
      subst stepped
      exact .inl ⟨⟨pair, .kline interval⟩, rfl, rfl, rfl⟩
  | readFlag =>
      simp only [atCall, Option.some.injEq] at stepped
      subst stepped
      cases client.isRunning <;> exact .inr ⟨by simp, rfl, rfl, rfl⟩
  | setFlag | startThread =>
      simp only [atCall, Option.some.injEq] at stepped
      subst stepped
      exact .inr ⟨by simp, rfl, rfl, rfl⟩
  | join =>
      simp only [atCall] at stepped
      split at stepped
      · cases stepped
        exact .inr ⟨by simp, rfl, rfl, rfl⟩
      · cases stepped

/-- A handler can end its session, and revives none. -/
theorem fades_handler {client next : WebSocketClient} {index started : Nat}
    {throws : Bool} (ran : client.handler index started throws = some next) :
    client.Fades next := by
  simp only [handler] at ran
  split at ran
  · cases ran
  next session found =>
    split at ran
    next runs =>
      cases ran
      refine Registry.fades_set found ?_ ?_
      · rfl
      · intro _
        simpa [SessionEntry.alive] using runs.2.2
    · cases ran

end WebSocketClient

namespace WSStreamManager

/-- The steps that neither begin nor continue a call. -/
def Quiet : ManagerEvent → Prop
  | .subscribe .. | .caller => False
  | .ioThread | .handler .. | .terminate _ => True

/-- Outside the calls sessions end, and nothing else happens to them. -/
theorem quiet_step {manager next : WSStreamManager} {event : ManagerEvent}
    (quiet : Quiet event) (stepped : manager.step event = some next) :
    manager.wsClient.Fades next.wsClient ∧
      next.wsClient.caller = manager.wsClient.caller ∧
      next.registered = manager.registered ∧ next.opened = manager.opened := by
  cases event with
  | subscribe | caller => cases quiet
  | ioThread =>
      rcases Option.map_eq_some_iff.mp stepped with ⟨client, moved, rfl⟩
      rcases WebSocketClient.ioThreadStep_frame moved with ⟨sameCaller, sameSessions⟩
      refine ⟨?_, sameCaller, rfl, rfl⟩
      rw [WebSocketClient.Fades, sameSessions]
      exact Registry.Fades.refl _
  | handler =>
      rcases Option.map_eq_some_iff.mp stepped with ⟨client, ran, rfl⟩
      rcases WebSocketClient.handler_eq_some ran with ⟨-, -, sameCaller, -⟩
      exact ⟨WebSocketClient.fades_handler ran, sameCaller, rfl, rfl⟩
  | terminate =>
      rcases Option.map_eq_some_iff.mp stepped with ⟨session, found, rfl⟩
      refine ⟨Registry.fades_set found ?_ ?_, rfl, rfl, rfl⟩
      · rfl
      · simp [SessionEntry.alive]

/-- A step of the caller opens a session for the stream of its call and records it, or
leaves the sessions alone. -/
theorem callerStep_eq_some {manager next : WSStreamManager}
    (stepped : manager.callerStep = some next) :
    (∃ stream, manager.wsClient.caller.opening = some stream ∧
        next.wsClient.sessions =
          manager.wsClient.sessions.filter SessionEntry.alive ++
            [{ target := stream.name, work := 1 }] ∧
        next.wsClient.caller.opening = none ∧
        next.registered = Registry.survivors SessionEntry.alive
          manager.wsClient.sessions manager.registered ++ [stream] ∧
        next.opened = manager.opened ++ [stream]) ∨
      manager.wsClient.caller ≠ .idle ∧ manager.wsClient.caller.opening = none ∧
        next.wsClient.sessions = manager.wsClient.sessions ∧
        next.wsClient.caller.opening = none ∧
        next.registered = manager.registered ∧ next.opened = manager.opened := by
  rcases Option.map_eq_some_iff.mp stepped with ⟨client, moved, rfl⟩
  rcases WebSocketClient.callerStep_eq_some moved with
    ⟨stream, opening, sessions, done⟩ | ⟨busy, opening, sessions, done⟩
  · simp only [opening]
    exact .inl ⟨stream, rfl, sessions, done, rfl, rfl⟩
  · simp only [opening]
    exact .inr ⟨busy, trivial, sessions, done, trivial, trivial⟩

/-- A call returns at once if a session of the stream is found, and is about to open
one if not. -/
theorem subscribe_eq_some {manager next : WSStreamManager} {subscription : Subscription}
    {force : Bool} (stepped : manager.step (.subscribe subscription force) = some next) :
    manager.wsClient.caller = .idle ∧
      (next = manager ∧ ¬manager.wsClient.Free subscription.name ∨
        next = { manager with wsClient :=
          { manager.wsClient with caller := subscription.caller } } ∧
        manager.wsClient.Free subscription.name) := by
  rcases Option.map_eq_some_iff.mp stepped with ⟨client, subscribed, rfl⟩
  rw [MarketStream.subscribe_eq] at subscribed
  rcases WebSocketClient.subscribe_eq_some subscribed with
    ⟨idle, ⟨rfl, found⟩ | ⟨rfl, missing⟩⟩
  · refine ⟨idle, .inl ⟨rfl, ?_⟩⟩
    rw [← WebSocketClient.findStream_eq_false, found]
    exact nofun
  · exact ⟨idle, .inr ⟨rfl, WebSocketClient.findStream_eq_false.mp missing⟩⟩

/-! ## One live session for a stream -/

/-- What every step keeps. -/
structure Invariant (manager : WSStreamManager) : Prop where
  /-- A session's target is the name of the stream it was opened for. -/
  named : manager.wsClient.sessions.map SessionEntry.target =
    manager.registered.map MarketStream.name
  plain : ∀ stream ∈ manager.registered, stream.Plain
  distinct : Registry.Distinct SessionEntry.target SessionEntry.alive
    manager.wsClient.sessions
  /-- Between the search and the opening no session of the stream appears. -/
  opening : ∀ stream, manager.wsClient.caller.opening = some stream →
    stream.Plain ∧ manager.wsClient.Free stream.name

theorem invariant_start : start.Invariant where
  named := rfl
  plain := by simp [start]
  distinct := .nil
  opening := nofun

theorem invariant_quiet {manager next : WSStreamManager} {event : ManagerEvent}
    (invariant : manager.Invariant) (quiet : Quiet event)
    (stepped : manager.step event = some next) : next.Invariant := by
  rcases quiet_step quiet stepped with ⟨fades, sameCaller, registered, -⟩
  constructor
  · rw [fades.keys, registered]
    exact invariant.named
  · rw [registered]
    exact invariant.plain
  · exact fades.distinct invariant.distinct
  · intro stream opening
    rw [sameCaller] at opening
    rcases invariant.opening stream opening with ⟨plain, free⟩
    exact ⟨plain, fades.free free⟩

theorem invariant_subscribe {manager next : WSStreamManager}
    {subscription : Subscription} {force : Bool} (invariant : manager.Invariant)
    (stepped : manager.step (.subscribe subscription force) = some next) :
    next.Invariant := by
  rcases subscribe_eq_some stepped with ⟨-, ⟨rfl, -⟩ | ⟨rfl, free⟩⟩
  · exact invariant
  · refine ⟨invariant.named, invariant.plain, invariant.distinct, ?_⟩
    intro stream opening
    rw [MarketStream.opening_caller] at opening
    cases opening
    exact ⟨subscription.plain, free⟩

theorem invariant_callerStep {manager next : WSStreamManager}
    (invariant : manager.Invariant) (stepped : manager.callerStep = some next) :
    next.Invariant := by
  rcases callerStep_eq_some stepped with
    ⟨stream, opening, sessions, done, registered, -⟩ |
    ⟨-, -, sessions, done, registered, -⟩
  · rcases invariant.opening stream opening with ⟨plain, free⟩
    constructor
    · rw [sessions, registered, List.map_append, List.map_append,
        Registry.prune_keys invariant.named]
      rfl
    · rw [registered]
      intro other member
      rcases List.mem_append.mp member with kept | added
      · exact invariant.plain other (Registry.mem_survivors kept)
      · rw [List.mem_singleton.mp added]
        exact plain
    · rw [sessions]
      exact invariant.distinct.prune.concat free.prune
    · intro other opens
      rw [done] at opens
      cases opens
  · constructor
    · rw [sessions, registered]
      exact invariant.named
    · rw [registered]
      exact invariant.plain
    · rw [sessions]
      exact invariant.distinct
    · intro other opens
      rw [done] at opens
      cases opens

theorem invariant_step {manager next : WSStreamManager} {event : ManagerEvent}
    (invariant : manager.Invariant) (stepped : manager.step event = some next) :
    next.Invariant := by
  cases event with
  | subscribe => exact invariant_subscribe invariant stepped
  | caller => exact invariant_callerStep invariant stepped
  | ioThread | handler | terminate => exact invariant_quiet invariant (by trivial) stepped

theorem invariant_run {manager : WSStreamManager} {events : List ManagerEvent}
    (ran : run events = some manager) : manager.Invariant :=
  Transition.run_invariant Invariant invariant_start
    (fun _ _ _ invariant stepped => invariant_step invariant stepped) ran

/-- What a live session was opened for is read off its target. -/
theorem Invariant.target {manager : WSStreamManager} (invariant : manager.Invariant)
    {index : Nat} {stream : MarketStream} (live : manager.Live index stream) :
    ∃ session, manager.wsClient.sessions[index]? = some session ∧
      session.alive = true ∧ session.target = stream.name ∧ stream.Plain := by
  rcases live with ⟨⟨session, found, alive⟩, registered⟩
  have sameKey := congrArg (fun names => names[index]?) invariant.named
  simp only [List.getElem?_map, found, registered, Option.map_some,
    Option.some.injEq] at sameKey
  exact ⟨session, found, alive, sameKey,
    invariant.plain stream (List.mem_of_getElem? registered)⟩

/-- Sessions of one stream are one session. -/
theorem Invariant.unique {manager : WSStreamManager} (invariant : manager.Invariant)
    {first second : Nat} {left right : MarketStream} (liveLeft : manager.Live first left)
    (liveRight : manager.Live second right) (same : left.Same right) :
    first = second := by
  rcases invariant.target liveLeft with ⟨session, found, alive, target, plain⟩
  rcases invariant.target liveRight with ⟨other, otherFound, otherAlive, otherTarget, -⟩
  apply invariant.distinct.unique found otherFound alive otherAlive
  rw [target, otherTarget]
  exact (MarketStream.name_eq_iff plain).mpr same

/-- A name is taken exactly when a live session was opened for its stream. -/
theorem Invariant.not_free_iff {manager : WSStreamManager}
    (invariant : manager.Invariant) (stream : MarketStream) :
    ¬manager.wsClient.Free stream.name ↔ manager.Subscribed stream := by
  constructor
  · intro taken
    simp only [WebSocketClient.Free, Registry.Free, not_forall, not_not] at taken
    rcases taken with ⟨session, member, alive, target⟩
    rcases List.mem_iff_getElem?.mp member with ⟨index, found⟩
    have sameKey := congrArg (fun names => names[index]?) invariant.named
    simp only [List.getElem?_map, found, Option.map_some] at sameKey
    rcases Option.map_eq_some_iff.mp sameKey.symm with ⟨other, registered, named⟩
    have plain := invariant.plain other (List.mem_of_getElem? registered)
    exact ⟨index, other, ⟨⟨session, found, alive⟩, registered⟩,
      (MarketStream.name_eq_iff plain).mp (named.trans target)⟩
  · rintro ⟨index, other, live, same⟩ free
    rcases invariant.target live with ⟨session, found, alive, target, plain⟩
    apply free session (List.mem_of_getElem? found) alive
    rw [target]
    exact (MarketStream.name_eq_iff plain).mpr same

/-! ## What a call opens -/

/-- A call for the stream that began with `before` sessions opened so far: it found a
session and has returned, or has yet to open one, or has opened one. -/
def Progress (stream : MarketStream) (before : List MarketStream) (found : Prop)
    (manager : WSStreamManager) : Prop :=
  found ∧ manager.wsClient.caller = .idle ∧ manager.opened = before ∨
  ¬found ∧ manager.wsClient.caller.opening = some stream ∧ manager.opened = before ∨
  ¬found ∧ manager.wsClient.caller.opening = none ∧ manager.opened = before ++ [stream]

theorem progress_step {manager next : WSStreamManager} {event : ManagerEvent}
    {stream : MarketStream} {before : List MarketStream} {found : Prop}
    (progress : Progress stream before found manager)
    (later : ∀ subscription force, event ≠ .subscribe subscription force)
    (stepped : manager.step event = some next) : Progress stream before found next := by
  have quietly : Quiet event → Progress stream before found next := by
    intro quiet
    rcases quiet_step quiet stepped with ⟨-, sameCaller, -, sameOpened⟩
    rw [Progress, sameCaller, sameOpened]
    exact progress
  cases event with
  | subscribe subscription force => exact absurd rfl (later subscription force)
  | caller =>
      rcases callerStep_eq_some stepped with
        ⟨other, opening, -, done, -, opened⟩ | ⟨busy, opening, -, done, -, opened⟩
      · rcases progress with ⟨-, idle, -⟩ | ⟨missing, pending, same⟩ | ⟨-, none, -⟩
        · rw [idle] at opening
          cases opening
        · rw [opening] at pending
          cases pending
          exact .inr (.inr ⟨missing, done, by rw [opened, same]⟩)
        · rw [opening] at none
          cases none
      · rcases progress with ⟨-, idle, -⟩ | ⟨-, pending, -⟩ | ⟨missing, -, same⟩
        · exact absurd idle busy
        · rw [opening] at pending
          cases pending
        · exact .inr (.inr ⟨missing, done, opened.trans same⟩)
  | ioThread | handler | terminate => exact quietly trivial

theorem progress_run {manager final : WSStreamManager} {events : List ManagerEvent}
    {stream : MarketStream} {before : List MarketStream} {found : Prop}
    (progress : Progress stream before found manager)
    (later : ∀ event ∈ events, ∀ subscription force,
      event ≠ .subscribe subscription force)
    (ran : Transition.run step manager events = some final) :
    Progress stream before found final := by
  induction events using List.reverseRecOn generalizing final with
  | nil =>
      cases ran
      exact progress
  | append_singleton events event ih =>
      rcases Transition.run_concat_eq_some ran with ⟨state, earlier, last⟩
      have reached := ih (fun other member => later other (List.mem_append_left _ member))
        earlier
      exact progress_step reached (later event (by simp)) last

/-- A call that has returned has opened no session if one of its stream was alive when
it began, and one for its stream if not. -/
theorem opened_by_call {manager final : WSStreamManager} {subscription : Subscription}
    {force : Bool} {later : List ManagerEvent} (invariant : manager.Invariant)
    (others : ∀ event ∈ later, ∀ other flag, event ≠ .subscribe other flag)
    (ran : Transition.run step manager (.subscribe subscription force :: later) =
      some final)
    (returned : final.wsClient.caller = .idle) :
    (manager.Subscribed subscription.toMarketStream ∧ final.opened = manager.opened) ∨
      ¬manager.Subscribed subscription.toMarketStream ∧
        final.opened = manager.opened ++ [subscription.toMarketStream] := by
  rcases Option.bind_eq_some_iff.mp ran with ⟨next, stepped, rest⟩
  have begun : Progress subscription.toMarketStream manager.opened
      (¬manager.wsClient.Free subscription.name) next := by
    rcases subscribe_eq_some stepped with ⟨idle, ⟨rfl, found⟩ | ⟨rfl, free⟩⟩
    · exact .inl ⟨found, idle, rfl⟩
    · exact .inr (.inl ⟨not_not.mpr free, MarketStream.opening_caller _, rfl⟩)
  have subscribed := invariant.not_free_iff subscription.toMarketStream
  rcases progress_run begun others rest with
    ⟨found, -, same⟩ | ⟨-, pending, -⟩ | ⟨missing, -, added⟩
  · exact .inl ⟨subscribed.mp found, same⟩
  · rw [returned] at pending
    cases pending
  · exact .inr ⟨fun found => missing (subscribed.mpr found), added⟩

/-- A stream is put down as opened in the step that makes a live session of it, before
which there was none. -/
theorem opened_by_step {manager next : WSStreamManager} {event : ManagerEvent}
    (invariant : manager.Invariant) (stepped : manager.step event = some next) :
    next.opened = manager.opened ∨
      ∃ stream, next.opened = manager.opened ++ [stream] ∧ ¬manager.Subscribed stream ∧
        next.Subscribed stream := by
  cases event with
  | subscribe subscription force =>
      rcases subscribe_eq_some stepped with ⟨-, ⟨rfl, -⟩ | ⟨rfl, -⟩⟩
      · exact .inl rfl
      · exact .inl rfl
  | caller =>
      have kept := invariant_callerStep invariant stepped
      rcases callerStep_eq_some stepped with
        ⟨stream, opening, sessions, -, registered, opened⟩ | ⟨-, -, -, -, -, opened⟩
      · refine .inr ⟨stream, opened, ?_, ?_⟩
        · rw [← invariant.not_free_iff, not_not]
          exact (invariant.opening stream opening).2
        · have lengths := congrArg List.length kept.named
          simp only [sessions, registered, List.length_map, List.length_append,
            List.length_singleton, Nat.add_right_cancel_iff] at lengths
          refine ⟨(manager.wsClient.sessions.filter SessionEntry.alive).length, stream,
            ⟨⟨_, by rw [sessions, List.getElem?_concat_length], rfl⟩, ?_⟩, rfl, rfl⟩
          rw [registered, lengths, List.getElem?_concat_length]
      · exact .inl opened
  | ioThread | handler | terminate =>
      rcases quiet_step (by trivial) stepped with ⟨-, -, -, sameOpened⟩
      exact .inl sameOpened

end WSStreamManager

/-- In every state that calls of one caller and ends of sessions lead to, no two live
sessions are of one stream, and a call opens a session unless one of its stream is
alive: what is put down as opened in a step has a live session after it. -/
theorem one_session_per_stream (events : List ManagerEvent) (manager : WSStreamManager)
    (ran : WSStreamManager.run events = some manager) :
    (∀ first second left right, manager.Live first left → manager.Live second right →
        left.Same right → first = second) ∧
      (∀ subscription force later final,
        (∀ event ∈ later, ∀ other flag, event ≠ ManagerEvent.subscribe other flag) →
        Transition.run WSStreamManager.step manager
          (.subscribe subscription force :: later) = some final →
        final.wsClient.caller = .idle →
        (final.opened = manager.opened ↔
          manager.Subscribed subscription.toMarketStream) ∧
        (final.opened = manager.opened ∨
          final.opened = manager.opened ++ [subscription.toMarketStream])) ∧
      ∀ event next, manager.step event = some next →
        next.opened = manager.opened ∨
          ∃ stream, next.opened = manager.opened ++ [stream] ∧
            ¬manager.Subscribed stream ∧ next.Subscribed stream := by
  have invariant := WSStreamManager.invariant_run ran
  refine ⟨?_, ?_, fun _ _ stepped => WSStreamManager.opened_by_step invariant stepped⟩
  · intro first second left right liveLeft liveRight same
    exact invariant.unique liveLeft liveRight same
  · intro subscription force later final others onward returned
    rcases WSStreamManager.opened_by_call invariant others onward returned with
      ⟨found, same⟩ | ⟨missing, added⟩
    · exact ⟨iff_of_true same found, .inl same⟩
    · exact ⟨iff_of_false (by simp [added]) missing, .inr added⟩

/-- Candles of one minute and of one month, best prices, and after the first session has
ended candles of one minute again. -/
def sampleEvents : List ManagerEvent :=
  let minutes : Subscription := ⟨⟨"BTCUSDT", .kline ._1m⟩, by decide⟩
  let months : Subscription := ⟨⟨"BTCUSDT", .kline ._1M⟩, by decide⟩
  let prices : Subscription := ⟨⟨"BTCUSDT", .bookTicker⟩, by decide⟩
  [.subscribe minutes false, .caller, .caller, .caller, .caller, .caller,
    .subscribe months false, .caller, .caller, .subscribe prices false, .caller, .caller,
    .terminate 0, .subscribe minutes true, .caller, .caller]

def sampleManager : WSStreamManager where
  wsClient :=
    { sessions := [{ target := "/ws/btcusdt@kline_1M", work := 1 },
        { target := "/ws/btcusdt@bookTicker", work := 1 },
        { target := "/ws/btcusdt@kline_1m", work := 1 }]
      stopped := false
      isRunning := true
      caller := .idle
      ioThread := .setFlag }
  registered := [⟨"BTCUSDT", .kline ._1M⟩, ⟨"BTCUSDT", .bookTicker⟩,
    ⟨"BTCUSDT", .kline ._1m⟩]
  opened := [⟨"BTCUSDT", .kline ._1m⟩, ⟨"BTCUSDT", .kline ._1M⟩, ⟨"BTCUSDT", .bookTicker⟩,
    ⟨"BTCUSDT", .kline ._1m⟩]

theorem lower_plain : '@' ∉ "btcusdt".toList := by decide

/-- There the pair is subscribed in lower case as well, on each channel. -/
theorem one_session_per_stream_sample :
    (∀ first second left right, sampleManager.Live first left →
        sampleManager.Live second right → left.Same right → first = second) ∧
      ∀ channel ∈ [.kline ._1m, .kline ._1M, .bookTicker],
        sampleManager.Subscribed ⟨"btcusdt", channel⟩ := by
  have all := one_session_per_stream sampleEvents sampleManager (by decide +kernel)
  constructor
  · exact all.1
  · have found : ∀ channel ∈ [.kline ._1m, .kline ._1M, .bookTicker],
        sampleManager.step (.subscribe ⟨⟨"btcusdt", channel⟩, lower_plain⟩ false) =
          some sampleManager := by
      decide +kernel
    intro channel member
    have call := all.2.1 ⟨⟨"btcusdt", channel⟩, lower_plain⟩ false [] sampleManager
      (by simp) (Option.bind_eq_some_iff.mpr ⟨sampleManager, found channel member, rfl⟩) rfl
    exact call.1.mp rfl

end BinanceApi.Futures
