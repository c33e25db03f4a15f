import BinanceApi.Stream.Session

/-!
# Outstanding handlers of a session

The stream allows one read, one ping and one close at a time, and the handlers of
pings and closes only refer to the session.  The handlers of all other operations
hold it: the session lives as long as one of these is outstanding.
-/

namespace BinanceApi.Futures

namespace WebSocketSession

/-! ## Operations of one kind -/

/-- Waits on the ping timer whose handlers have not run. -/
def waits (session : WebSocketSession) : Nat :=
  session.waiting + session.expired + session.aborted

/-- At most one operation of each kind is outstanding. -/
structure Single (session : WebSocketSession) : Prop where
  reads : session.reads ≤ 1
  pings : session.pings ≤ 1
  closes : session.closes ≤ 1
  waits : session.waits ≤ 1

/-- The completion starts a ping or a close while another one is outstanding: the
timer pings the open stream whether or not the last ping was written, and a message
that is not JSON closes the stream as a call of `close` does. -/
def Overlaps (session : WebSocketSession) : Completion → Prop
  | .pingTimer pongLate true logThrows =>
      ¬(pongLate = true ∧ logThrows = true) ∧ 0 < session.pings
  | .read false .throwsJson false | .closeCall => 0 < session.closes
  | _ => False

/-- Reads and waits are started by their own handlers only. -/
structure Chained (session : WebSocketSession) : Prop where
  reads : session.reads ≤ 1
  waits : session.waits ≤ 1

theorem chained_start : start.Chained where
  reads := by decide
  waits := by decide

theorem chained_step {session next : WebSocketSession} {completion : Completion}
    (chained : session.Chained) (stepped : session.step completion = some next) :
    next.Chained := by
  rcases chained with ⟨reads, waits⟩
  simp only [WebSocketSession.waits] at waits
  cases effect_of_step stepped <;>
    constructor <;> simp only [WebSocketSession.waits] <;> omega

/-- In every state of a run at most one read and one wait are outstanding. -/
theorem chained_run {completions : List Completion} {session : WebSocketSession}
    (ran : run completions = some session) : session.Chained :=
  Transition.run_invariant Chained chained_start
    (fun _ _ _ chained stepped => chained_step chained stepped) ran

/-- One completion: operations of one kind stay single unless the completion starts a
second one. -/
theorem single_step_iff {session next : WebSocketSession} {completion : Completion}
    (single : session.Single) (stepped : session.step completion = some next) :
    next.Single ↔ ¬session.Overlaps completion := by
  have chained := chained_step ⟨single.reads, single.waits⟩ stepped
  have iff_pings_closes : next.Single ↔ next.pings ≤ 1 ∧ next.closes ≤ 1 := by
    constructor
    · intro nextSingle
      exact ⟨nextSingle.pings, nextSingle.closes⟩
    · intro both
      exact ⟨chained.reads, both.1, both.2, chained.waits⟩
  rw [iff_pings_closes]
  rcases single with ⟨-, pings, closes, -⟩
  cases effect_of_step stepped with
  | readCloses | closeCall =>
      simp only [Overlaps]
      omega
  | pingTimer pongLate isOpen logThrows reported =>
      cases isOpen with
      | true =>
          simp only [Overlaps, reported, not_false_eq_true, true_and, Bool.toNat_true]
          omega
      | false =>
          simp only [Overlaps, not_false_eq_true, iff_true]
          exact ⟨pings, closes⟩
  | pingTimerThrows isOpen =>
      apply iff_of_true
      · exact ⟨pings, closes⟩
      · cases isOpen <;> simp [Overlaps]
  | readFailed | readAgain | readUnlogged | readThrows | expire | pingTimerAborted =>
      exact iff_of_true ⟨pings, closes⟩ not_false
  | ping | close =>
      apply iff_of_true
      · simp only
        omega
      · exact not_false

/-! ## Handlers that only refer to the session -/

/-- The handlers that capture `this`. -/
def borrowers (session : WebSocketSession) : Nat :=
  session.pings + session.closes

/-- The completion is that of the last handler that holds the session: it starts no
other such handler, and a ping or a close is outstanding, or started by it. -/
def Abandons (session : WebSocketSession) : Completion → Prop
  | .read true _ _ | .read false .throwsJson true | .read false .throwsOther _
  | .pingTimer true _ true | .pingTimerAborted =>
      session.owners = 1 ∧ 0 < session.borrowers
  | .read false .throwsJson false => session.owners = 1
  | _ => False

/-- No handler outlives the session: one that refers to it is outstanding only
together with one that holds it. -/
def Held (session : WebSocketSession) : Prop :=
  0 < session.borrowers → 0 < session.owners

theorem held_step_iff {session next : WebSocketSession} {completion : Completion}
    (held : session.Held) (notAsked : completion ≠ .closeCall)
    (stepped : session.step completion = some next) :
    next.Held ↔ ¬session.Abandons completion := by
  simp only [Held, borrowers, owners] at *
  cases effect_of_step stepped with
  | closeCall => exact absurd rfl notAsked
  | readFailed | readCloses | readUnlogged | readThrows | pingTimerThrows
  | pingTimerAborted =>
      simp only [Abandons, borrowers, owners]
      omega
  | readAgain | expire | ping | close =>
      simp only [Abandons, not_false_eq_true, iff_true]
      omega
  | pingTimer pongLate isOpen logThrows reported =>
      -- the next wait is armed
      apply iff_of_true
      · intro _
        simp only
        omega
      · cases pongLate <;> cases logThrows <;>
          first
          | exact absurd ⟨rfl, rfl⟩ reported
          | exact not_false

end WebSocketSession

/-! ## The session from its beginning -/

/-- The operations before the handshake is done.  The handler of each holds the
session and starts the next. -/
inductive Setup where
  | resolve | connect | sslHandshake | handshake
  deriving DecidableEq, Repr

/-- A session while it is set up, after its handshake, and after a failed setup. -/
inductive SessionLife where
  | pending (operation : Setup)
  | connected (session : WebSocketSession)
  | failed
  deriving DecidableEq, Repr

inductive LifeEvent where
  /-- The pending operation completes.  If it fails, or what its handler does before it
  starts the next one fails or throws, nothing is started. -/
  | setup (fails : Bool)
  | completion (completion : Completion)
  deriving DecidableEq, Repr

namespace SessionLife

def step : SessionLife → LifeEvent → Option SessionLife
  | .pending _, .setup true => some .failed
  | .pending .resolve, .setup false => some (.pending .connect)
  | .pending .connect, .setup false => some (.pending .sslHandshake)
  | .pending .sslHandshake, .setup false => some (.pending .handshake)
  | .pending .handshake, .setup false => some (.connected .start)
  | .connected session, .completion completion =>
      -- to ask a session to close one has to hold it
      if completion = .closeCall then none
      else (session.step completion).map .connected
  | _, _ => none

/-- A session that was just told to run. -/
def start : SessionLife :=
  .pending .resolve

def run (events : List LifeEvent) : Option SessionLife :=
  Transition.run step start events

/-- The outstanding handlers that hold the session. -/
def owners : SessionLife → Nat
  | .pending _ => 1
  | .connected session => session.owners
  | .failed => 0

/-- The outstanding handlers that only refer to it. -/
def borrowers : SessionLife → Nat
  | .connected session => session.borrowers
  | .pending _ | .failed => 0

def Held (life : SessionLife) : Prop :=
  0 < life.borrowers → 0 < life.owners

def Abandons : SessionLife → LifeEvent → Prop
  | .connected session, .completion completion => session.Abandons completion
  | _, _ => False

theorem held_step_iff {life next : SessionLife} {event : LifeEvent} (held : life.Held)
    (stepped : life.step event = some next) : next.Held ↔ ¬life.Abandons event := by
  cases life with
  | pending operation =>
      cases event with
      | setup fails =>
          have nothing : next.borrowers = 0 := by
            cases fails <;> cases operation <;> cases stepped <;> rfl
          simp [Held, Abandons, nothing]
      | completion => cases stepped
  | failed => cases event <;> cases stepped
  | connected session =>
      cases event with
      | setup => cases stepped
      | completion completion =>
          simp only [step] at stepped
          split at stepped
          · cases stepped
          next notAsked =>
            rcases Option.map_eq_some_iff.mp stepped with ⟨after, ran, rfl⟩
            exact WebSocketSession.held_step_iff held notAsked ran

end SessionLife

/-- In every state of a run at most one operation of each kind is outstanding, exactly
when no completion starts a ping or a close over another one. -/
theorem session_operations_single_iff (completions : List Completion)
    (final : WebSocketSession) (ran : WebSocketSession.run completions = some final) :
    Transition.AllStates WebSocketSession.step .start completions
        WebSocketSession.Single ↔
      Transition.AllSteps WebSocketSession.step .start completions
        fun session completion => ¬session.Overlaps completion := by
  apply Transition.allStates_iff_allSteps (fun _ => True) trivial
  · constructor <;> decide
  · intro _ _ _ _ _
    trivial
  · intro session completion next _ single stepped
    exact WebSocketSession.single_step_iff single stepped
  · exact ran

theorem session_operations_single_sample :
    Transition.AllStates WebSocketSession.step .start
        [.expire, .pingTimer false true false, .ping, .expire,
          .pingTimer false true false, .read false .throwsJson false, .close]
        WebSocketSession.Single ↔
      Transition.AllSteps WebSocketSession.step .start
        [.expire, .pingTimer false true false, .ping, .expire,
          .pingTimer false true false, .read false .throwsJson false, .close]
        fun session completion => ¬session.Overlaps completion :=
  session_operations_single_iff _
    { reads := 0, pings := 1, closes := 0, waiting := 0, expired := 0, aborted := 1 } rfl

/-- The timer expires a second time before the first ping is written, and a malformed
message arrives while the session closes. -/
theorem session_operations_overlap_sample :
    (∃ session, WebSocketSession.run
        [.expire, .pingTimer false true false, .expire, .pingTimer false true false] =
          some session ∧ session.pings = 2 ∧ ¬session.Single) ∧
    ∃ session, WebSocketSession.run
        [.closeCall, .read false .throwsJson false] = some session ∧
      session.closes = 2 ∧ ¬session.Single := by
  constructor
  · refine ⟨_, rfl, rfl, ?_⟩
    intro single
    exact absurd single.pings (by decide)
  · refine ⟨_, rfl, rfl, ?_⟩
    intro single
    exact absurd single.closes (by decide)

/-- In every state of a run a handler of a ping or a close is outstanding only together
with one that holds the session, exactly when no completion of the run abandons it. -/
theorem session_handlers_held_iff (events : List LifeEvent) (final : SessionLife)
    (ran : SessionLife.run events = some final) :
    Transition.AllStates SessionLife.step .start events SessionLife.Held ↔
      Transition.AllSteps SessionLife.step .start events
        fun life event => ¬life.Abandons event := by
  apply Transition.allStates_iff_allSteps (fun _ => True) trivial
  · intro borrowed
    cases borrowed
  · intro _ _ _ _ _
    trivial
  · intro life event next _ held stepped
    exact SessionLife.held_step_iff held stepped
  · exact ran

theorem session_handlers_held_sample :
    Transition.AllStates SessionLife.step .start
        [.setup false, .setup false, .setup false, .setup false, .completion .expire,
          .completion (.pingTimer false true false),
          .completion (.read true .returns false), .completion .ping,
          .completion .pingTimerAborted]
        SessionLife.Held ↔
      Transition.AllSteps SessionLife.step .start
        [.setup false, .setup false, .setup false, .setup false, .completion .expire,
          .completion (.pingTimer false true false),
          .completion (.read true .returns false), .completion .ping,
          .completion .pingTimerAborted]
        fun life event => ¬life.Abandons event :=
  session_handlers_held_iff _
    (.connected
      { reads := 0, pings := 0, closes := 0, waiting := 0, expired := 0, aborted := 0 })
    rfl

/-- The read fails while a ping is being written, and the cancelled wait's handler runs
before that of the ping. -/
theorem session_handlers_outlive_sample :
    ∃ life, SessionLife.run
        [.setup false, .setup false, .setup false, .setup false, .completion .expire,
          .completion (.pingTimer false true false),
          .completion (.read true .returns false), .completion .pingTimerAborted] =
        some life ∧
      life.borrowers = 1 ∧ life.owners = 0 ∧ ¬life.Held := by
  refine ⟨_, rfl, rfl, rfl, ?_⟩
  intro held
  exact absurd (held (by decide)) (by decide)

end BinanceApi.Futures
