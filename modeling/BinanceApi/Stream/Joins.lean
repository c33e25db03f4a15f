import BinanceApi.Stream.Client

/-!
# Joining the IO thread

`WebSocketClient::run` joins the thread that was started last before it starts
another.  The calls of one caller, direct calls of `run` included, are interleaved
with the steps of the IO threads, and the question is whether a thread that the
caller joins has left its loop.
-/

namespace BinanceApi.Futures

namespace WebSocketClient

/-- What can happen to a client whose `run` is also called directly. -/
inductive Event where
  | action (action : Action)
  /-- The caller calls `run`. -/
  | run
  deriving DecidableEq, Repr

def callRun (client : WebSocketClient) : Option WebSocketClient :=
  if client.caller = .idle then some { client with caller := .readFlag } else none

def stepEvent (client : WebSocketClient) : Event → Option WebSocketClient
  | .action action => client.step action
  | .run => client.callRun

def runEvents (events : List Event) : Option WebSocketClient :=
  Transition.run stepEvent start events

/-! ## The flag that deceives a call -/

/-- If the caller has reached its join, the thread to be joined has left its loop. -/
def JoinsLeft (client : WebSocketClient) : Prop :=
  client.caller = .join → client.ioThread.Gone

/-- A call reads the flag as clear although the thread started last has not made its
first step, which sets the flag. -/
def Misreads (client : WebSocketClient) (event : Event) : Prop :=
  event = .action .caller ∧ client.caller = .readFlag ∧ client.isRunning = false ∧
    client.ioThread = .setFlag

/-- From the time a call has found the flag clear until its join, the thread to be
joined is out of its loop. -/
def FoundLeft (client : WebSocketClient) : Prop :=
  client.caller = .setFlag ∨ client.caller = .join → client.ioThread.Gone

/-! ## What each step keeps -/

theorem callRun_eq_some {client next : WebSocketClient}
    (called : client.callRun = some next) :
    client.caller = .idle ∧ next = { client with caller := .readFlag } := by
  simp only [callRun] at called
  split at called
  next idle => exact ⟨idle, (Option.some.inj called).symm⟩
  · cases called

theorem invariant_stepEvent {client next : WebSocketClient} {event : Event}
    (invariant : client.Invariant) (stepped : client.stepEvent event = some next) :
    next.Invariant := by
  cases event with
  | action action => exact invariant_step invariant stepped
  | run =>
      rcases callRun_eq_some stepped with ⟨idle, rfl⟩
      constructor
      · exact invariant.held
      · intro gone flag
        have claimed := invariant.claimed gone flag
        simp [idle] at claimed
      · exact invariant.entered

/-- A thread that no longer holds the flag stays out of its loop. -/
theorem gone_ioThreadStep {client next : WebSocketClient}
    (gone : client.ioThread.Gone) (stepped : client.ioThreadStep = some next) :
    next.ioThread.Gone := by
  cases move_of_ioThreadStep stepped with
  | setFlag atThread | checkStopped atThread | restart atThread
  | runWorkless atThread | run atThread | leave atThread | clear atThread =>
      rw [atThread] at gone
      exact gone.elim
  | finish => trivial

/-- A clear flag means that the thread has left its loop, unless it has not begun. -/
theorem gone_of_flag_clear {client : WebSocketClient} (invariant : client.Invariant)
    (flag : client.isRunning = false) (begun : client.ioThread ≠ .setFlag) :
    client.ioThread.Gone := by
  have notHeld : ¬client.ioThread.HoldsFlag := by
    intro held
    rw [invariant.held held] at flag
    cases flag
  cases atThread : client.ioThread with
  | none | cleared | done => trivial
  | setFlag => exact absurd atThread begun
  | checkStopped | restart | run | running | returned =>
      exact absurd (by rw [atThread]; trivial) notHeld

theorem foundLeft_callerStep {client next : WebSocketClient}
    (invariant : client.Invariant) (found : client.FoundLeft)
    (sound : ¬client.Misreads (.action .caller))
    (stepped : client.callerStep = some next) : next.FoundLeft := by
  simp only [callerStep] at stepped
  cases atCall : client.caller with
  | idle => simp [atCall] at stepped
  | bookTicker | candlestick | startThread =>
      simp only [atCall, Option.some.injEq] at stepped
      subst stepped
      simp [FoundLeft]
  | readFlag =>
      simp only [atCall, Option.some.injEq] at stepped
      subst stepped
      cases flag : client.isRunning with
      | true => simp [FoundLeft]
      | false =>
          intro _
          apply gone_of_flag_clear invariant flag
          intro unbegun
          exact sound ⟨rfl, atCall, flag, unbegun⟩
  | setFlag =>
      simp only [atCall, Option.some.injEq] at stepped
      subst stepped
      exact fun _ => found (.inl atCall)
  | join =>
      simp only [atCall] at stepped
      split at stepped
      · cases stepped
        simp [FoundLeft]
      · cases stepped

theorem foundLeft_stepEvent {client next : WebSocketClient} {event : Event}
    (invariant : client.Invariant) (found : client.FoundLeft)
    (sound : ¬client.Misreads event) (stepped : client.stepEvent event = some next) :
    next.FoundLeft := by
  cases event with
  | run =>
      rcases callRun_eq_some stepped with ⟨-, rfl⟩
      simp [FoundLeft]
  | action action =>
      cases action with
      | subscribeBookTickerStream | subscribeCandlestickStream =>
          rcases subscribe_eq_some stepped with ⟨-, ⟨rfl, -⟩ | ⟨rfl, -⟩⟩
          · exact found
          · simp [FoundLeft]
      | caller => exact foundLeft_callerStep invariant found sound stepped
      | ioThread =>
          intro waiting
          rw [(ioThreadStep_frame stepped).1] at waiting
          exact gone_ioThreadStep (found waiting) stepped
      | handler =>
          rcases handler_eq_some stepped with ⟨running, -, sameCaller, -⟩
          intro waiting
          rw [sameCaller] at waiting
          have gone := found waiting
          rw [running] at gone
          exact gone.elim

/-- After misreading the flag, the call is on its way to a thread that has not begun
its loop. -/
theorem not_foundLeft_of_misreads {client next : WebSocketClient} {event : Event}
    (misreads : client.Misreads event) (stepped : client.stepEvent event = some next) :
    ¬next.FoundLeft := by
  rcases misreads with ⟨rfl, reading, flag, unbegun⟩
  simp only [stepEvent, step, callerStep, reading, flag, Option.some.injEq] at stepped
  subst stepped
  intro found
  have gone : client.ioThread.Gone := found (.inl rfl)
  rw [unbegun] at gone
  exact gone

/-! ## Runs -/

theorem joinsLeft_of_foundLeft {client : WebSocketClient} (found : client.FoundLeft) :
    client.JoinsLeft :=
  fun joining => found (.inr joining)

/-- A run is without misreadings exactly when no call that has found the flag clear
ever faces a thread in its loop. -/
theorem foundLeft_runEvents_iff {events : List Event} {client : WebSocketClient}
    (ran : runEvents events = some client) :
    Transition.AllStates stepEvent start events FoundLeft ↔
      Transition.AllSteps stepEvent start events
        fun client event => ¬client.Misreads event := by
  apply Transition.allStates_iff_allSteps Invariant invariant_start
  · simp [FoundLeft, start]
  · intro state event next invariant stepped
    exact invariant_stepEvent invariant stepped
  · intro state event next invariant found stepped
    constructor
    · intro nextFound misreads
      exact not_foundLeft_of_misreads misreads stepped nextFound
    · intro sound
      exact foundLeft_stepEvent invariant found sound stepped
  · exact ran

/-- After a call has misread the flag, its next step takes it to the join of a thread
that has not begun its loop. -/
theorem joins_of_misreads {client : WebSocketClient} {event : Event}
    (misreads : client.Misreads event) :
    Transition.run stepEvent client [event, .action .caller] =
      some { client with isRunning := true, caller := .join } := by
  rcases misreads with ⟨rfl, reading, flag, -⟩
  rcases client with ⟨sessions, stopped, isRunning, caller, ioThread⟩
  cases reading
  cases flag
  rfl

end WebSocketClient

/-- If no call misreads the flag, every thread that a call joins has left its loop;
and after a misreading two steps of the caller suffice to reach the join of a thread
that has not begun its loop. -/
theorem joins_left_of_no_misread (events : List WebSocketClient.Event)
    (final : WebSocketClient) (ran : WebSocketClient.runEvents events = some final) :
    (Transition.AllSteps WebSocketClient.stepEvent .start events
        (fun client event => ¬client.Misreads event) →
      Transition.AllStates WebSocketClient.stepEvent .start events
        WebSocketClient.JoinsLeft) ∧
    ∀ event, final.Misreads event →
      ∃ next, WebSocketClient.runEvents (events ++ [event, .action .caller]) =
        some next ∧ ¬next.JoinsLeft := by
  constructor
  · intro sound front back state split reached
    have found := (WebSocketClient.foundLeft_runEvents_iff ran).mpr sound
    exact WebSocketClient.joinsLeft_of_foundLeft (found front back state split reached)
  · intro event misreads
    refine ⟨_, Transition.run_append ran (WebSocketClient.joins_of_misreads misreads), ?_⟩
    intro left
    have gone : final.ioThread.Gone := left rfl
    rw [misreads.2.2.2] at gone
    exact gone

namespace WebSocketClient

instance (client : WebSocketClient) (event : Event) : Decidable (client.Misreads event) :=
  inferInstanceAs (Decidable (_ ∧ _ ∧ _ ∧ _))

/-- The only session ends, and its thread is about to leave the loop. -/
def sampleEnding : List Event :=
  [.action (.subscribeBookTickerStream "BTCUSDT"), .action .caller, .action .caller,
    .action .caller, .action .caller, .action .caller, .action .ioThread,
    .action .ioThread, .action .ioThread, .action (.handler 0 0 false),
    .action .ioThread]

/-- The thread finishes, and a second call joins it and starts another. -/
def sampleJoin : List Event :=
  sampleEnding ++ [.action .ioThread, .action .ioThread,
    .action (.subscribeBookTickerStream "ETHUSDT"), .action .caller, .action .caller,
    .action .caller, .action .caller, .action .caller]

/-- The second call sets the flag before the thread clears it again, and a third call is
about to read it. -/
def sampleMisreading : List Event :=
  sampleEnding ++ [.action .ioThread, .action (.subscribeBookTickerStream "BTCUSDT"),
    .action .caller, .action .caller, .action .caller, .action .ioThread,
    .action .caller, .action .caller, .action (.subscribeBookTickerStream "ETHUSDT"),
    .action .caller]

theorem sampleJoin_sound :
    Transition.AllSteps stepEvent .start sampleJoin
      fun client event => ¬client.Misreads event := by
  decide +kernel

end WebSocketClient

/-- The second call of one run joins a thread that has left its loop; the third call of
another is two steps from the join of a thread that has not begun it. -/
theorem joins_left_sample :
    Transition.AllStates WebSocketClient.stepEvent .start WebSocketClient.sampleJoin
        WebSocketClient.JoinsLeft ∧
      ∃ next, WebSocketClient.runEvents (WebSocketClient.sampleMisreading ++
          [.action .caller, .action .caller]) = some next ∧ ¬next.JoinsLeft := by
  constructor
  · exact (joins_left_of_no_misread WebSocketClient.sampleJoin
      { sessions := [{ target := "/ws/ethusdt@bookTicker", work := 1 }]
        stopped := true
        isRunning := true
        caller := .idle
        ioThread := .setFlag } (by decide +kernel)).1 WebSocketClient.sampleJoin_sound
  · exact (joins_left_of_no_misread WebSocketClient.sampleMisreading
      { sessions := [{ target := "/ws/btcusdt@bookTicker", work := 1 },
          { target := "/ws/ethusdt@bookTicker", work := 1 }]
        stopped := true
        isRunning := false
        caller := .readFlag
        ioThread := .setFlag } (by decide +kernel)).2 (.action .caller) (by decide +kernel)

/-- The only session ends and its thread leaves the loop; a second call sets the flag,
which the leaving thread clears again, and starts a thread.  Before that thread's first
step a third call finds the flag clear, and waits for it while it runs the two
streams. -/
theorem join_of_live_thread_sample :
    ∃ client, WebSocketClient.runEvents
        [.action (.subscribeBookTickerStream "BTCUSDT"), .action .caller,
          .action .caller, .action .caller, .action .caller, .action .caller,
          .action .ioThread, .action .ioThread, .action .ioThread,
          .action (.handler 0 0 false), .action .ioThread, .action .ioThread,
          .action (.subscribeBookTickerStream "BTCUSDT"), .action .caller,
          .action .caller, .action .caller, .action .ioThread, .action .caller,
          .action .caller, .action (.subscribeBookTickerStream "ETHUSDT"),
          .action .caller, .action .caller, .action .caller] = some client ∧
      client.sessions = [{ target := "/ws/btcusdt@bookTicker", work := 1 },
        { target := "/ws/ethusdt@bookTicker", work := 1 }] ∧
      client.caller = .join ∧ client.callerStep = none ∧ ¬client.JoinsLeft := by
  refine ⟨{
    sessions := [{ target := "/ws/btcusdt@bookTicker", work := 1 },
      { target := "/ws/ethusdt@bookTicker", work := 1 }]
    stopped := true
    isRunning := true
    caller := .join
    ioThread := .setFlag }, by decide +kernel, rfl, rfl, rfl, ?_⟩
  intro left
  exact left rfl

end BinanceApi.Futures
