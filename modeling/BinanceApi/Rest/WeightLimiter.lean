import BinanceApi.Common
import BinanceApi.Library.Transition

/-!
# Weight limiter

The callers of one session share what the last answer said: the weight used in the
current minute, and when it was said.  A caller whose answer finds the weight at the
limit sleeps out the minute of the answer before its call returns.  Nothing is checked
before a request is sent.
-/

namespace BinanceApi

/-- What the callers of a session share.  Of the last response's time only the seconds
are read. -/
structure Limiter where
  usedWeight : Int
  lastResponseTime : Nat
  weightLimit : Int
  deriving DecidableEq, Repr

namespace Limiter

/-- A fresh session. -/
def start (weightLimit : Int) : Limiter := ⟨0, 0, weightLimit⟩

/-- The limit that `HTTPSession` is constructed with: 2400 times 0.85. -/
def defaultLimit : Int := 2400 * 85 / 100

/-- The name of the weight header, in any case. -/
def IsWeight (header : String × String) : Prop :=
  MagicEnum.lower header.1 = MagicEnum.lower "X-MBX-USED-WEIGHT-1M"

instance (header : String × String) : Decidable (IsWeight header) :=
  inferInstanceAs (Decidable (_ = _))

/-- The loop over the header fields of an answer.  An exception ends it and keeps what
was stored before.  `getTimeFromString` gives the seconds of a date. -/
def readHeaders (getTimeFromString : String → Throws Nat) :
    List (String × String) → Limiter → Limiter × Throws Unit
  | [], limiter => (limiter, .ok ())
  | header :: rest, limiter =>
      if IsWeight header then
        match stoi header.2 with
        | .ok usedWeight =>
            readHeaders getTimeFromString rest { limiter with usedWeight }
        | .error exception => (limiter, .error exception)
      else if header.1 = "Date" then
        match getTimeFromString header.2 with
        | .ok lastResponseTime =>
            readHeaders getTimeFromString rest { limiter with lastResponseTime }
        | .error exception => (limiter, .error exception)
      else readHeaders getTimeFromString rest limiter

/-- The seconds a caller sleeps, if any, before its call returns. -/
def pause (limiter : Limiter) : Option Nat :=
  if limiter.weightLimit ≤ limiter.usedWeight then some (60 - limiter.lastResponseTime)
  else none

end Limiter

/-! ## Answers -/

/-- The header fields of an answer, and the server time in seconds at which it was
given.  Date fields say that time. -/
structure Answer (getTimeFromString : String → Throws Nat) where
  headers : List (String × String)
  date : Nat
  dated : ∀ header ∈ headers, header.1 = "Date" →
    getTimeFromString header.2 = .ok (date % 60)

namespace Answer

variable {getTimeFromString : String → Throws Nat}

/-- The answer carries this used weight, and a date. -/
structure Carries (answer : Answer getTimeFromString) (usedWeight : Int) : Prop where
  weighed : ∃ header ∈ answer.headers, Limiter.IsWeight header
  weight : ∀ header ∈ answer.headers, Limiter.IsWeight header →
    stoi header.2 = .ok usedWeight
  hasDate : ∃ header ∈ answer.headers, header.1 = "Date"

/-- The answer carries a weight at the limit, and is of this minute or a later one. -/
def Limiting (answer : Answer getTimeFromString) (weightLimit : Int) (minute : Nat) :
    Prop :=
  ∃ usedWeight, weightLimit ≤ usedWeight ∧ answer.Carries usedWeight ∧
    minute ≤ answer.date / 60

end Answer

/-! ## Callers -/

/-- Where a caller is: outside of a request, waiting for an answer, or asleep until a
time. -/
inductive Phase where
  | idle
  | waiting
  | asleep (wake : Nat)
  deriving DecidableEq, Repr

/-- A session and its callers.  `now` is the server's time in seconds. -/
structure SharedSession (Caller : Type) where
  limiter : Limiter
  now : Nat
  phase : Caller → Phase

/-- One step of a caller, or of the time.  An answer is processed in one step; a request
may fail without one. -/
inductive CallerStep (getTimeFromString : String → Throws Nat) (Caller : Type) where
  | send (caller : Caller)
  | receive (caller : Caller) (answer : Answer getTimeFromString)
  | fail (caller : Caller)
  | wake (caller : Caller)
  | tick (later : Nat)

namespace CallerStep

variable {getTimeFromString : String → Throws Nat} {Caller : Type}

/-- The caller that takes the step. -/
def caller? : CallerStep getTimeFromString Caller → Option Caller
  | send caller | receive caller _ | fail caller | wake caller => some caller
  | tick _ => none

/-- Whether the step sends a request of the caller. -/
def isSend [DecidableEq Caller] (caller : Caller) :
    CallerStep getTimeFromString Caller → Bool
  | send sender => sender = caller
  | _ => false

end CallerStep

namespace SharedSession

variable {getTimeFromString : String → Throws Nat}
variable {Caller : Type} [DecidableEq Caller]

def start (weightLimit : Int) (now : Nat) : SharedSession Caller where
  limiter := .start weightLimit
  now := now
  phase := fun _ => .idle

/-- Move a caller to a phase. -/
def move (session : SharedSession Caller) (caller : Caller) (phase : Phase) :
    SharedSession Caller :=
  { session with phase := Function.update session.phase caller phase }

/-- The end of `P::request`: the headers are read, and the call returns, throws or goes
to sleep first. -/
def receive (session : SharedSession Caller) (caller : Caller)
    (answer : Answer getTimeFromString) : SharedSession Caller :=
  let (limiter, read) :=
    session.limiter.readHeaders getTimeFromString answer.headers
  let session := { session with limiter }
  match read with
  | .error _ => session.move caller .idle
  | .ok () =>
      match limiter.pause with
      | some seconds => session.move caller (.asleep (session.now + seconds))
      | none => session.move caller .idle

def step (session : SharedSession Caller) :
    CallerStep getTimeFromString Caller → Option (SharedSession Caller)
  | .send caller =>
      if session.phase caller = .idle then some (session.move caller .waiting) else none
  | .receive caller answer =>
      if session.phase caller = .waiting ∧ answer.date ≤ session.now then
        some (session.receive caller answer)
      else none
  | .fail caller =>
      if session.phase caller = .waiting then some (session.move caller .idle) else none
  | .wake caller =>
      match session.phase caller with
      | .asleep wake =>
          if wake ≤ session.now then some (session.move caller .idle) else none
      | _ => none
  | .tick later =>
      if session.now ≤ later then some { session with now := later } else none

end SharedSession

/-! ## What an answer leaves -/

namespace Limiter

variable {getTimeFromString : String → Throws Nat}

theorem not_date_of_isWeight {header : String × String} (weight : IsWeight header) :
    header.1 ≠ "Date" := by
  intro date
  rw [IsWeight, date] at weight
  exact absurd weight (by decide)

theorem readHeaders_weightLimit (getTimeFromString : String → Throws Nat)
    (headers : List (String × String)) (limiter : Limiter) :
    (limiter.readHeaders getTimeFromString headers).1.weightLimit =
      limiter.weightLimit := by
  induction headers generalizing limiter with
  | nil => rfl
  | cons header headers ih =>
      simp only [readHeaders]
      split
      · split
        · exact ih _
        · rfl
      · split
        · split
          · exact ih _
          · rfl
        · exact ih limiter

/-- Header fields that agree are read without an exception, and each value is stored
whose field is there. -/
theorem readHeaders_eq {headers : List (String × String)} {usedWeight : Int}
    {second : Nat}
    (weights : ∀ header ∈ headers, IsWeight header → stoi header.2 = .ok usedWeight)
    (dates : ∀ header ∈ headers, header.1 = "Date" →
      getTimeFromString header.2 = .ok second) (limiter : Limiter) :
    readHeaders getTimeFromString headers limiter =
      ({ limiter with
        usedWeight :=
          if headers.any (IsWeight ·) then usedWeight else limiter.usedWeight
        lastResponseTime :=
          if headers.any (·.1 = "Date") then second
          else limiter.lastResponseTime }, .ok ()) := by
  induction headers generalizing limiter with
  | nil => simp [readHeaders]
  | cons header headers ih =>
      simp only [List.forall_mem_cons] at weights dates
      have rest := ih weights.2 dates.2
      rw [readHeaders, List.any_cons, List.any_cons]
      by_cases weight : IsWeight header
      · rw [if_pos weight, weights.1 weight, decide_eq_true weight,
          decide_eq_false (not_date_of_isWeight weight), Bool.true_or, Bool.false_or]
        simp [rest]
      · rw [if_neg weight, decide_eq_false weight, Bool.false_or]
        by_cases date : header.1 = "Date"
        · rw [if_pos date, dates.1 date, decide_eq_true date, Bool.true_or]
          simp [rest]
        · rw [if_neg date, decide_eq_false date, Bool.false_or]
          exact rest limiter

end Limiter

namespace SharedSession

variable {getTimeFromString : String → Throws Nat}
variable {Caller : Type} [DecidableEq Caller]

@[simp] theorem move_now (session : SharedSession Caller) (caller : Caller)
    (phase : Phase) : (session.move caller phase).now = session.now := rfl

@[simp] theorem move_phase_self (session : SharedSession Caller) (caller : Caller)
    (phase : Phase) : (session.move caller phase).phase caller = phase := by
  simp [move]

@[simp] theorem move_phase_of_ne (session : SharedSession Caller) {caller other : Caller}
    (phase : Phase) (different : other ≠ caller) :
    (session.move caller phase).phase other = session.phase other := by
  simp [move, different]

/-- Processing an answer moves its caller only, and leaves the time and the limit. -/
theorem receive_eq (session : SharedSession Caller) (caller : Caller)
    (answer : Answer getTimeFromString) :
    ∃ limiter phase, limiter.weightLimit = session.limiter.weightLimit ∧
      session.receive caller answer = ({ session with limiter }).move caller phase := by
  have limit := Limiter.readHeaders_weightLimit getTimeFromString answer.headers
    session.limiter
  simp only [receive]
  split
  · exact ⟨_, _, limit, rfl⟩
  · split
    · exact ⟨_, _, limit, rfl⟩
    · exact ⟨_, _, limit, rfl⟩

/-- A caller whose answer carries a weight at the limit sleeps out the minute. -/
theorem receive_phase_of_carries {session : SharedSession Caller} (caller : Caller)
    {answer : Answer getTimeFromString} {usedWeight : Int}
    (atLimit : session.limiter.weightLimit ≤ usedWeight)
    (carries : answer.Carries usedWeight) :
    (session.receive caller answer).phase caller =
      .asleep (session.now + (60 - answer.date % 60)) := by
  have read := Limiter.readHeaders_eq carries.weight answer.dated session.limiter
  have weighed : answer.headers.any (Limiter.IsWeight ·) = true := by
    simpa using carries.weighed
  have hasDate : answer.headers.any (·.1 = "Date") = true := by
    simpa using carries.hasDate
  rw [if_pos weighed, if_pos hasDate] at read
  simp [receive, read, Limiter.pause, atLimit]

/-! ## Steps -/

/-- What a step requires, and what it does. -/
inductive Effect (session : SharedSession Caller) :
    CallerStep getTimeFromString Caller → SharedSession Caller → Prop where
  | send {caller : Caller} (idle : session.phase caller = .idle) :
      Effect session (.send caller) (session.move caller .waiting)
  | receive {caller : Caller} {answer : Answer getTimeFromString}
      (waiting : session.phase caller = .waiting) (past : answer.date ≤ session.now) :
      Effect session (.receive caller answer) (session.receive caller answer)
  | fail {caller : Caller} (waiting : session.phase caller = .waiting) :
      Effect session (.fail caller) (session.move caller .idle)
  | wake {caller : Caller} {wake : Nat} (asleep : session.phase caller = .asleep wake)
      (due : wake ≤ session.now) :
      Effect session (.wake caller) (session.move caller .idle)
  | tick {later : Nat} (forward : session.now ≤ later) :
      Effect session (.tick later) { session with now := later }

theorem effect_of_step {session next : SharedSession Caller}
    {action : CallerStep getTimeFromString Caller}
    (stepped : session.step action = some next) : Effect session action next := by
  cases action with
  | send caller =>
      simp only [step, Option.ite_none_right_eq_some, Option.some.injEq] at stepped
      rcases stepped with ⟨idle, rfl⟩
      exact .send idle
  | receive caller answer =>
      simp only [step, Option.ite_none_right_eq_some, Option.some.injEq] at stepped
      rcases stepped with ⟨⟨waiting, past⟩, rfl⟩
      exact .receive waiting past
  | fail caller =>
      simp only [step, Option.ite_none_right_eq_some, Option.some.injEq] at stepped
      rcases stepped with ⟨waiting, rfl⟩
      exact .fail waiting
  | wake caller =>
      simp only [step] at stepped
      split at stepped
      next wake asleep =>
        rw [Option.ite_none_right_eq_some, Option.some.injEq] at stepped
        rcases stepped with ⟨due, rfl⟩
        exact .wake asleep due
      · cases stepped
  | tick later =>
      simp only [step, Option.ite_none_right_eq_some, Option.some.injEq] at stepped
      rcases stepped with ⟨forward, rfl⟩
      exact .tick forward

theorem now_le_of_step {session next : SharedSession Caller}
    {action : CallerStep getTimeFromString Caller}
    (stepped : session.step action = some next) : session.now ≤ next.now := by
  cases effect_of_step stepped with
  | send | fail | wake => exact le_rfl
  | @receive caller answer waiting past =>
      rcases session.receive_eq caller answer with ⟨limiter, phase, -, moved⟩
      rw [moved]
      exact le_rfl
  | tick forward => exact forward

theorem weightLimit_of_step {session next : SharedSession Caller}
    {action : CallerStep getTimeFromString Caller}
    (stepped : session.step action = some next) :
    next.limiter.weightLimit = session.limiter.weightLimit := by
  cases effect_of_step stepped with
  | send | fail | wake | tick => rfl
  | @receive caller answer waiting past =>
      rcases session.receive_eq caller answer with ⟨limiter, phase, limit, moved⟩
      rw [moved]
      exact limit

theorem weightLimit_of_run {session after : SharedSession Caller}
    {actions : List (CallerStep getTimeFromString Caller)}
    (ran : Transition.run step session actions = some after) :
    after.limiter.weightLimit = session.limiter.weightLimit :=
  Transition.run_invariant (·.limiter.weightLimit = session.limiter.weightLimit) rfl
    (fun _ _ _ same stepped => (weightLimit_of_step stepped).trans same) ran

/-- A step of the time, or of another caller, leaves a caller where it is. -/
theorem phase_of_step {session next : SharedSession Caller}
    {action : CallerStep getTimeFromString Caller} {caller : Caller}
    (stepped : session.step action = some next) (other : action.caller? ≠ some caller) :
    next.phase caller = session.phase caller := by
  cases effect_of_step stepped with
  | send | fail | wake =>
      apply move_phase_of_ne
      rintro rfl
      exact other rfl
  | @receive acting answer waiting past =>
      rcases session.receive_eq acting answer with ⟨limiter, phase, -, moved⟩
      rw [moved]
      apply move_phase_of_ne
      rintro rfl
      exact other rfl
  | tick => rfl

/-! ## Requests within a minute -/

/-- A caller that an answer of second `date` puts to sleep wakes up in a later minute. -/
theorem minute_le_wake {date now minute : Nat} (past : date ≤ now)
    (recent : minute ≤ date / 60) : 60 * (minute + 1) ≤ now + (60 - date % 60) := by
  have parts := Nat.div_add_mod date 60
  omega

/-- A sleeping caller sends nothing before its time. -/
theorem asleep_run {session after : SharedSession Caller}
    {actions : List (CallerStep getTimeFromString Caller)} {caller : Caller} {wake : Nat}
    (asleep : session.phase caller = .asleep wake)
    (ran : Transition.run step session actions = some after) (early : after.now < wake) :
    .send caller ∉ actions ∧ after.phase caller = .asleep wake := by
  induction actions using List.reverseRecOn generalizing after with
  | nil =>
      cases ran
      exact ⟨List.not_mem_nil, asleep⟩
  | append_singleton actions action ih =>
      rcases Transition.run_concat_eq_some ran with ⟨before, earlier, last⟩
      have beforeEarly := lt_of_le_of_lt (now_le_of_step last) early
      rcases ih earlier beforeEarly with ⟨noSend, stillAsleep⟩
      have other : action.caller? ≠ some caller := by
        intro acts
        cases effect_of_step last with
        | send idle =>
            cases acts
            cases stillAsleep.symm.trans idle
        | receive waiting =>
            cases acts
            cases stillAsleep.symm.trans waiting
        | fail waiting =>
            cases acts
            cases stillAsleep.symm.trans waiting
        | wake awake due =>
            cases acts
            cases stillAsleep.symm.trans awake
            exact absurd due (not_le.mpr beforeEarly)
        | tick => cases acts
      constructor
      · rw [List.mem_append, List.mem_singleton]
        rintro (member | rfl)
        · exact noSend member
        · exact other rfl
      · rw [phase_of_step last other]
        exact stillAsleep

/-- The requests a caller may send before a time, as long as its answers put it to sleep
beyond that time. -/
def allowance (bound : Nat) : Phase → Nat
  | .idle => 1
  | .waiting => 0
  | .asleep wake => if bound ≤ wake then 0 else 1

theorem allowance_le_one (bound : Nat) (phase : Phase) : allowance bound phase ≤ 1 := by
  cases phase <;> simp only [allowance]
  case asleep wake => split <;> omega
  all_goals omega

/-- A request uses up the allowance of its caller, and no step renews it. -/
theorem allowance_step {session next : SharedSession Caller}
    {action : CallerStep getTimeFromString Caller} {caller : Caller} {minute : Nat}
    (limiting : ∀ answer, action = .receive caller answer →
      answer.Limiting session.limiter.weightLimit minute)
    (answered : action ≠ .fail caller) (stepped : session.step action = some next)
    (early : next.now < 60 * (minute + 1)) :
    (action.isSend caller).toNat + allowance (60 * (minute + 1)) (next.phase caller) ≤
      allowance (60 * (minute + 1)) (session.phase caller) := by
  by_cases acts : action.caller? = some caller
  · cases effect_of_step stepped with
    | send idle =>
        cases acts
        simp [CallerStep.isSend, idle, allowance]
    | @receive acting answer waiting past =>
        cases acts
        rcases limiting answer rfl with ⟨usedWeight, atLimit, carries, recent⟩
        rw [receive_phase_of_carries caller atLimit carries, waiting]
        simp [CallerStep.isSend, allowance, minute_le_wake past recent]
    | fail waiting =>
        cases acts
        exact absurd rfl answered
    | @wake acting wake asleep due =>
        cases acts
        have later : ¬60 * (minute + 1) ≤ wake := by
          rw [move_now] at early
          omega
        simp [CallerStep.isSend, asleep, allowance, later]
    | tick => cases acts
  · rw [phase_of_step stepped acts]
    have noSend : action.isSend caller = false := by
      cases action <;> simp_all [CallerStep.isSend, CallerStep.caller?]
    simp [noSend]

/-- A run before the minute is over: a caller whose answers carry weights at the limit
sends no more than it was allowed at first. -/
theorem allowance_run {session after : SharedSession Caller}
    {actions : List (CallerStep getTimeFromString Caller)} {caller : Caller}
    {minute : Nat}
    (limiting : ∀ answer, .receive caller answer ∈ actions →
      answer.Limiting session.limiter.weightLimit minute)
    (answered : .fail caller ∉ actions)
    (ran : Transition.run step session actions = some after)
    (early : after.now < 60 * (minute + 1)) :
    actions.countP (·.isSend caller) +
        allowance (60 * (minute + 1)) (after.phase caller) ≤
      allowance (60 * (minute + 1)) (session.phase caller) := by
  induction actions using List.reverseRecOn generalizing after with
  | nil =>
      cases ran
      simp
  | append_singleton actions action ih =>
      rcases Transition.run_concat_eq_some ran with ⟨before, earlier, last⟩
      have beforeEarly := lt_of_le_of_lt (now_le_of_step last) early
      have front := ih
        (fun answer member => limiting answer (List.mem_append_left _ member))
        (fun member => answered (List.mem_append_left _ member)) earlier beforeEarly
      have lastLimiting : ∀ answer, action = .receive caller answer →
          answer.Limiting before.limiter.weightLimit minute := by
        rintro answer rfl
        rw [weightLimit_of_run earlier]
        exact limiting answer (List.mem_append_right _ (List.mem_singleton_self _))
      have lastAnswered : action ≠ .fail caller := by
        rintro rfl
        exact answered (List.mem_append_right _ (List.mem_singleton_self _))
      have back := allowance_step lastLimiting lastAnswered last early
      have one : [action].countP (·.isSend caller) = (action.isSend caller).toNat := by
        cases sends : action.isSend caller <;> simp [sends]
      rw [List.countP_append, one]
      omega

/-- A run in which `caller` processes an answer with a weight at the limit, and that ends
before the minute of the answer is over. -/
structure Limited (weightLimit : Int) (now : Nat)
    (front : List (CallerStep getTimeFromString Caller)) (caller : Caller)
    (answer : Answer getTimeFromString)
    (back : List (CallerStep getTimeFromString Caller)) : Prop where
  atLimit : ∃ usedWeight, weightLimit ≤ usedWeight ∧ answer.Carries usedWeight
  early : ∃ after, Transition.run step (start weightLimit now)
    (front ++ .receive caller answer :: back) = some after ∧
    after.now < 60 * (answer.date / 60 + 1)

/-- Whatever the callers do, the one whose answer is at the limit sends nothing more in
the minute of the answer.  Another one sends at most one request more, if its answers,
too, are at the limit and not of an earlier minute and none of its requests fails. -/
theorem limited_callers_wait {weightLimit : Int} {now : Nat}
    {front back : List (CallerStep getTimeFromString Caller)} {caller : Caller}
    {answer : Answer getTimeFromString}
    (limited : Limited weightLimit now front caller answer back) :
    .send caller ∉ back ∧
      ∀ other, (∀ later, .receive other later ∈ back →
          later.Limiting weightLimit (answer.date / 60)) →
        .fail other ∉ back → back.countP (·.isSend other) ≤ 1 := by
  rcases limited with ⟨⟨usedWeight, atLimit, carries⟩, after, ran, early⟩
  rw [List.append_cons] at ran
  rcases Transition.run_append_eq_some ran with ⟨processed, first, second⟩
  rcases Transition.run_concat_eq_some first with ⟨before, reaches, received⟩
  have limitBefore : before.limiter.weightLimit = weightLimit := weightLimit_of_run reaches
  have limitAfter : processed.limiter.weightLimit = weightLimit := weightLimit_of_run first
  constructor
  · cases effect_of_step received with
    | receive waiting past =>
        rw [← limitBefore] at atLimit
        have asleep := receive_phase_of_carries caller atLimit carries
        have late := minute_le_wake past le_rfl
        exact (asleep_run asleep second (lt_of_lt_of_le early late)).1
  · intro other limiting answered
    rw [← limitAfter] at limiting
    have bounded := allowance_run limiting answered second early
    have atMost := allowance_le_one (60 * (answer.date / 60 + 1)) (processed.phase other)
    omega

/-! A session with two callers: the first one's answer, of second 10, is at the limit. -/

section Sample

/-- The seconds of the sample's date. -/
def sampleTime : String → Throws Nat
  | "Thu, 01 Jan 1970 00:00:10 GMT" => .ok 10
  | _ => .error (.standard "getTimeFromString")

def sampleAnswer : Answer sampleTime where
  headers := [("Date", "Thu, 01 Jan 1970 00:00:10 GMT"),
    ("x-mbx-used-weight-1m", "2040")]
  date := 10
  dated := by decide

theorem sampleAnswer_carries : sampleAnswer.Carries 2040 where
  weighed := by decide +kernel
  weight := by decide +kernel
  hasDate := by decide

theorem sample_limited :
    Limited Limiter.defaultLimit 10 [.send false] false sampleAnswer [.send true] where
  atLimit := ⟨2040, le_rfl, sampleAnswer_carries⟩
  early := ⟨_, rfl, by decide⟩

theorem limited_callers_wait_sample :
    CallerStep.send false ∉ ([.send true] : List (CallerStep sampleTime Bool)) ∧
      ∀ other, (∀ later, .receive other later ∈
            ([.send true] : List (CallerStep sampleTime Bool)) →
          later.Limiting Limiter.defaultLimit (sampleAnswer.date / 60)) →
        .fail other ∉ ([.send true] : List (CallerStep sampleTime Bool)) →
        ([.send true] : List (CallerStep sampleTime Bool)).countP (·.isSend other) ≤ 1 :=
  limited_callers_wait sample_limited

/-- The second caller sends its request in the same minute. -/
theorem other_caller_sends_sample :
    ¬(Limited Limiter.defaultLimit 10 [.send false] false sampleAnswer [.send true] →
      ∀ other : Bool,
        .send other ∉ ([.send true] : List (CallerStep sampleTime Bool))) := by
  intro protects
  exact protects sample_limited true (List.mem_singleton_self _)

end Sample

end SharedSession

end BinanceApi
