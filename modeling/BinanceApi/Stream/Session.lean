import BinanceApi.Library.Transition

/-!
# WebSocket session

A session after its handshake, as the completion handlers that are outstanding.
Handlers run one at a time.  A handler that throws leaves the session as it was at
that moment: the client's I/O loop logs the exception and keeps running.
Cancelling the ping timer aborts a wait that is armed, not one whose handler is
already queued.
-/

namespace BinanceApi.Futures

/-- Outstanding handlers.  Of the waits on the ping timer, those in `waiting` are
armed; the handlers of those in `expired` and `aborted` are queued, to run without
an error and with `operation_aborted`. -/
structure WebSocketSession where
  reads : Nat
  pings : Nat
  closes : Nat
  waiting : Nat
  expired : Nat
  aborted : Nat
  deriving DecidableEq, Repr

/-- What becomes of a message: parsing it and calling the message callback, or
reporting an error of the exchange, returns or throws. -/
inductive Handling where
  | returns | throwsJson | throwsOther
  deriving DecidableEq, Repr

/-- What can happen to a session.  `logThrows` says that the logger is missing or
throws, should the handler call it. -/
inductive Completion where
  /-- A read completes, with an error or with a message. -/
  | read (ec : Bool) (handling : Handling) (logThrows : Bool)
  /-- The ping timer expires and queues the handler of an armed wait. -/
  | expire
  /-- A queued timer handler runs without an error. -/
  | pingTimer (pongLate isOpen logThrows : Bool)
  /-- A queued timer handler runs after its wait was cancelled. -/
  | pingTimerAborted
  /-- A ping completes. -/
  | ping
  /-- A close completes. -/
  | close
  /-- The session is asked to close. -/
  | closeCall
  deriving DecidableEq, Repr

namespace WebSocketSession

/-- `pingTimer.cancel()`. -/
def cancelTimer (session : WebSocketSession) : WebSocketSession :=
  { session with waiting := 0, aborted := session.aborted + session.waiting }

/-- `pingTimer.async_wait`. -/
def asyncWait (session : WebSocketSession) : WebSocketSession :=
  { session with waiting := session.waiting + 1 }

/-- `ws.async_read`. -/
def asyncRead (session : WebSocketSession) : WebSocketSession :=
  { session with reads := session.reads + 1 }

/-- `ws.async_close`. -/
def asyncClose (session : WebSocketSession) : WebSocketSession :=
  { session with closes := session.closes + 1 }

/-- `closeWs`. -/
def closeWs (session : WebSocketSession) : WebSocketSession :=
  session.asyncClose

def onRead (session : WebSocketSession) (ec : Bool) (handling : Handling)
    (logThrows : Bool) : WebSocketSession :=
  if ec then session.cancelTimer
  else
    match handling with
    | .returns => session.asyncRead
    | .throwsJson =>
        -- the exception is logged before the session is closed
        if logThrows then session else session.asyncClose
    | .throwsOther => session

/-- `ping`; nothing if it throws, because it reports an expired ping first. -/
def sendPing (session : WebSocketSession) (pongLate isOpen logThrows : Bool) :
    Option WebSocketSession :=
  if pongLate ∧ logThrows then none
  else if isOpen then some { session with pings := session.pings + 1 }
  else some session

def onClose (session : WebSocketSession) : WebSocketSession :=
  session.cancelTimer

/-- `onPingTimer` without an error.  Setting the expiry cancels what is armed. -/
def onPingTimer (session : WebSocketSession) (pongLate isOpen logThrows : Bool) :
    WebSocketSession :=
  match session.sendPing pongLate isOpen logThrows with
  | some pinged => pinged.cancelTimer.asyncWait
  | none => session

/-- A completion takes its handler from those outstanding and runs it. -/
def step (session : WebSocketSession) : Completion → Option WebSocketSession
  | .read ec handling logThrows =>
      if 0 < session.reads then
        some ({ session with reads := session.reads - 1 }.onRead ec handling logThrows)
      else none
  | .expire =>
      if 0 < session.waiting then
        some { session with
          waiting := session.waiting - 1
          expired := session.expired + 1 }
      else none
  | .pingTimer pongLate isOpen logThrows =>
      if 0 < session.expired then
        some ({ session with expired := session.expired - 1 }.onPingTimer
          pongLate isOpen logThrows)
      else none
  | .pingTimerAborted =>
      if 0 < session.aborted then some { session with aborted := session.aborted - 1 }
      else none
  | .ping =>
      if 0 < session.pings then some { session with pings := session.pings - 1 }
      else none
  | .close =>
      if 0 < session.closes then
        some { session with closes := session.closes - 1 }.onClose
      else none
  | .closeCall => some session.closeWs

/-- A session right after its handshake: one read and one wait. -/
def start : WebSocketSession where
  reads := 1
  pings := 0
  closes := 0
  waiting := 1
  expired := 0
  aborted := 0

/-- A run after the handshake. -/
def run (completions : List Completion) : Option WebSocketSession :=
  Transition.run step start completions

/-- The handlers that hold the session's shared pointer. -/
def owners (session : WebSocketSession) : Nat :=
  session.reads + session.waiting + session.expired + session.aborted

/-! ## What each completion does -/

/-- The handlers outstanding after a completion, written out. -/
inductive Effect (session : WebSocketSession) : Completion → WebSocketSession → Prop where
  | readFailed (handling : Handling) (logThrows : Bool) (outstanding : 0 < session.reads) :
      Effect session (.read true handling logThrows)
        { session with
          reads := session.reads - 1
          waiting := 0
          aborted := session.aborted + session.waiting }
  | readAgain (logThrows : Bool) (outstanding : 0 < session.reads) :
      Effect session (.read false .returns logThrows)
        { session with reads := session.reads - 1 + 1 }
  | readCloses (outstanding : 0 < session.reads) :
      Effect session (.read false .throwsJson false)
        { session with reads := session.reads - 1, closes := session.closes + 1 }
  | readUnlogged (outstanding : 0 < session.reads) :
      Effect session (.read false .throwsJson true)
        { session with reads := session.reads - 1 }
  | readThrows (logThrows : Bool) (outstanding : 0 < session.reads) :
      Effect session (.read false .throwsOther logThrows)
        { session with reads := session.reads - 1 }
  | expire (armed : 0 < session.waiting) :
      Effect session .expire
        { session with waiting := session.waiting - 1, expired := session.expired + 1 }
  | pingTimerThrows (isOpen : Bool) (queued : 0 < session.expired) :
      Effect session (.pingTimer true isOpen true)
        { session with expired := session.expired - 1 }
  | pingTimer (pongLate isOpen logThrows : Bool)
      (reported : ¬(pongLate = true ∧ logThrows = true)) (queued : 0 < session.expired) :
      Effect session (.pingTimer pongLate isOpen logThrows)
        { session with
          pings := session.pings + isOpen.toNat
          expired := session.expired - 1
          waiting := 1
          aborted := session.aborted + session.waiting }
  | pingTimerAborted (queued : 0 < session.aborted) :
      Effect session .pingTimerAborted { session with aborted := session.aborted - 1 }
  | ping (outstanding : 0 < session.pings) :
      Effect session .ping { session with pings := session.pings - 1 }
  | close (outstanding : 0 < session.closes) :
      Effect session .close
        { session with
          closes := session.closes - 1
          waiting := 0
          aborted := session.aborted + session.waiting }
  | closeCall :
      Effect session .closeCall { session with closes := session.closes + 1 }

theorem effect_of_pingTimer {session next : WebSocketSession}
    {pongLate isOpen logThrows : Bool}
    (stepped : session.step (.pingTimer pongLate isOpen logThrows) = some next) :
    Effect session (.pingTimer pongLate isOpen logThrows) next := by
  simp only [step] at stepped
  split at stepped
  next queued =>
    cases stepped
    by_cases thrown : pongLate = true ∧ logThrows = true
    · rcases thrown with ⟨rfl, rfl⟩
      exact .pingTimerThrows isOpen queued
    · have effect := Effect.pingTimer pongLate isOpen logThrows thrown queued
      cases isOpen <;> simpa [onPingTimer, sendPing, thrown, cancelTimer, asyncWait]
        using effect
  · cases stepped

theorem effect_of_read {session next : WebSocketSession} {ec logThrows : Bool}
    {handling : Handling}
    (stepped : session.step (.read ec handling logThrows) = some next) :
    Effect session (.read ec handling logThrows) next := by
  simp only [step] at stepped
  split at stepped
  next outstanding =>
    cases stepped
    cases ec with
    | true => exact .readFailed handling logThrows outstanding
    | false =>
        cases handling with
        | returns => exact .readAgain logThrows outstanding
        | throwsJson =>
            cases logThrows with
            | true => exact .readUnlogged outstanding
            | false => exact .readCloses outstanding
        | throwsOther => exact .readThrows logThrows outstanding
  · cases stepped

theorem effect_of_step {session next : WebSocketSession} {completion : Completion}
    (stepped : session.step completion = some next) : Effect session completion next := by
  cases completion with
  | read => exact effect_of_read stepped
  | pingTimer => exact effect_of_pingTimer stepped
  | expire =>
      simp only [step] at stepped
      split at stepped
      next armed =>
        cases stepped
        exact .expire armed
      · cases stepped
  | pingTimerAborted =>
      simp only [step] at stepped
      split at stepped
      next queued =>
        cases stepped
        exact .pingTimerAborted queued
      · cases stepped
  | ping =>
      simp only [step] at stepped
      split at stepped
      next outstanding =>
        cases stepped
        exact .ping outstanding
      · cases stepped
  | close =>
      simp only [step] at stepped
      split at stepped
      next outstanding =>
        cases stepped
        exact .close outstanding
      · cases stepped
  | closeCall =>
      cases stepped
      exact .closeCall

/-! ## Sessions that stopped reading -/

/-- Nothing is outstanding that could deliver a message or end the session. -/
def Silent (session : WebSocketSession) : Prop :=
  session.reads = 0 ∧ session.closes = 0

/-- No ping-timer wait is armed, and no queued handler will arm one. -/
def TimerStopped (session : WebSocketSession) : Prop :=
  session.waiting = 0 ∧ session.expired = 0

/-- A session that stopped reading is not kept alive by its timer. -/
def Releasable (session : WebSocketSession) : Prop :=
  session.Silent → session.TimerStopped

/-- The completion is that of the last read or close, and the timer survives it: a
failed read or a close cancels the timer too late for a handler already queued, and
a message that throws without starting a close does not cancel it at all. -/
def Orphans (session : WebSocketSession) : Completion → Prop
  | .read true _ _ => session.reads = 1 ∧ session.closes = 0 ∧ 0 < session.expired
  | .read false .throwsJson true | .read false .throwsOther _ =>
      session.reads = 1 ∧ session.closes = 0 ∧
        (0 < session.waiting ∨ 0 < session.expired)
  | .close => session.reads = 0 ∧ session.closes = 1 ∧ 0 < session.expired
  | _ => False

/-- One completion: a session stays releasable unless the completion orphans it. -/
theorem releasable_step_iff {session next : WebSocketSession} {completion : Completion}
    (releasable : session.Releasable) (stepped : session.step completion = some next) :
    next.Releasable ↔ ¬session.Orphans completion := by
  simp only [Releasable, Silent, TimerStopped] at *
  cases effect_of_step stepped with
  | readFailed =>
      simp only [Orphans]
      grind
  | readAgain | readCloses | closeCall => simp [Orphans]
  | readUnlogged | readThrows =>
      simp only [Orphans]
      grind
  | pingTimerThrows =>
      simp only [Orphans, not_false_eq_true, iff_true]
      omega
  | pingTimer =>
      -- the session was reading or closing, or its timer had stopped
      simp only [Orphans, not_false_eq_true, iff_true]
      omega
  | expire =>
      simp only [Orphans, not_false_eq_true, iff_true]
      omega
  | pingTimerAborted | ping => exact iff_of_true releasable not_false
  | close =>
      simp only [Orphans]
      grind

/-! ## What follows for the session's life -/

/-- A silent session whose timer has stopped is released as soon as the cancelled
waits have run their handlers. -/
theorem released_of_timerStopped {session : WebSocketSession} (silent : session.Silent)
    (stopped : session.TimerStopped) :
    ∃ final, Transition.run step session
        (List.replicate session.aborted .pingTimerAborted) = some final ∧
      final.owners = 0 := by
  rcases silent with ⟨noRead, -⟩
  rcases stopped with ⟨noWait, noExpired⟩
  cases session with
  | mk reads pings closes waiting expired aborted =>
      simp only at noRead noWait noExpired
      induction aborted with
      | zero => exact ⟨_, rfl, by simp [owners, noRead, noWait, noExpired]⟩
      | succ aborted ih =>
          rcases ih with ⟨final, ran, released⟩
          refine ⟨final, ?_, released⟩
          rw [List.replicate_succ]
          exact ran

/-- A silent session with a running timer stays silent, and its timer goes on: as
long as nobody asks it to close and its pings do not throw, no completion ends it. -/
theorem orphan_step {session next : WebSocketSession} {completion : Completion}
    (silent : session.Silent) (running : 0 < session.waiting + session.expired)
    (notAsked : completion ≠ .closeCall)
    (pings : ∀ isOpen, completion ≠ .pingTimer true isOpen true)
    (stepped : session.step completion = some next) :
    next.Silent ∧ 0 < next.waiting + next.expired := by
  rcases silent with ⟨noRead, noClose⟩
  simp only [Silent]
  cases effect_of_step stepped with
  | readFailed _ _ outstanding | readAgain _ outstanding | readCloses outstanding
  | readUnlogged outstanding | readThrows _ outstanding | close outstanding => omega
  | closeCall => exact absurd rfl notAsked
  | pingTimerThrows isOpen => exact absurd rfl (pings isOpen)
  | pingTimer | expire | pingTimerAborted | ping =>
      simp only
      omega

end WebSocketSession

/-- In every state of a run a session that stopped reading can be released, exactly
when no completion of the run orphans it. -/
theorem session_releasable_iff (completions : List Completion)
    (final : WebSocketSession) (ran : WebSocketSession.run completions = some final) :
    Transition.AllStates WebSocketSession.step .start completions
        WebSocketSession.Releasable ↔
      Transition.AllSteps WebSocketSession.step .start completions
        fun session completion => ¬session.Orphans completion := by
  apply Transition.allStates_iff_allSteps (fun _ => True) trivial
  · intro silent
    cases silent.1
  · intro _ _ _ _ _
    trivial
  · intro session completion next _ releasable stepped
    exact WebSocketSession.releasable_step_iff releasable stepped
  · exact ran

theorem session_releasable_sample :
    Transition.AllStates WebSocketSession.step .start
        [.read false .returns false, .read true .returns false]
        WebSocketSession.Releasable ↔
      Transition.AllSteps WebSocketSession.step .start
        [.read false .returns false, .read true .returns false]
        fun session completion => ¬session.Orphans completion :=
  session_releasable_iff _
    { reads := 0, pings := 0, closes := 0, waiting := 0, expired := 0, aborted := 1 } rfl

/-- The callback throws something else than a JSON exception, or the read fails
after the timer has expired: nothing is read any more, and the timer goes on. -/
theorem session_orphaned_sample :
    (∃ session, WebSocketSession.run [.read false .throwsOther false] = some session ∧
      session.Silent ∧ session.waiting = 1 ∧ ¬session.Releasable) ∧
    ∃ session, WebSocketSession.run [.expire, .read true .returns false,
        .pingTimer false false false] = some session ∧
      session.Silent ∧ session.waiting = 1 ∧ ¬session.Releasable := by
  constructor
  · refine ⟨_, rfl, ⟨rfl, rfl⟩, rfl, ?_⟩
    intro releasable
    cases (releasable ⟨rfl, rfl⟩).1
  · refine ⟨_, rfl, ⟨rfl, rfl⟩, rfl, ?_⟩
    intro releasable
    cases (releasable ⟨rfl, rfl⟩).1

end BinanceApi.Futures
