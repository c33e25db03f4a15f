import BinanceApi.Library.Transition
import BinanceApi.Rest.ExchangeInfo

/-!
# Exchange information that threads share

Threads may call a client at the same time.  The cached exchange information is read and
replaced under a lock, as a whole, but between two such accesses of one call anything may
happen: a call may judge one value of the cache and read another, and a slow download may
replace a newer one.  Every locked access, every reading of the clock and every request
with its answer is one step.
-/

namespace BinanceApi.Futures

open BinanceApi.Futures.RESTClient (EXCHANGE_DATA_MAX_AGE_S)

/-- The calls that use the cache.  A lookup returns the precision that the information it
reads gives to a symbol. -/
inductive InfoCall where
  | updateExchangeInfo (force : Bool)
  | getExchangeInfo (force : Bool)
  | findPrecisionForSymbol
  | setExchangeInfo (exchange : Exchange)

/-- Where the age is checked: in a lookup, or in an update with its flag. -/
inductive AgeCheck where
  | lookup
  | update (force : Bool)

/-- What a call does next. -/
inductive Place where
  /-- Ask whether the cached information was never updated. -/
  | known (check : AgeCheck)
  /-- Subtract the time of the update from the clock's time.  Either operand may be
  evaluated first. -/
  | age (check : AgeCheck) (now stamp : Option Int)
  /-- Ask whether there are no symbols. -/
  | symbols (force : Bool)
  | request
  | stamp (answer : Exchange)
  | store (exchange : Exchange)
  /-- Read the cache for the result. -/
  | read
  | returned (exchange : Option Exchange)
  | failed (exception : Exception)

structure InfoThread where
  call : InfoCall
  /-- The time at which the call began. -/
  since : Int
  place : Place

structure SharedInfo where
  exchange : Exchange
  now : Int
  threads : List InfoThread
  /-- What answers decoded to, and what `setExchangeInfo` was given. -/
  answers : List Exchange
  given : List Exchange

/-- What lets a call go on: nothing, its choice of the operand to evaluate, or the answer to
its request. -/
inductive InfoInput where
  | next
  | clock
  | cached
  | answer (answer : Throws Response)

inductive InfoEvent where
  | tick (now : Int)
  | call (call : InfoCall)
  | go (thread : Nat) (input : InfoInput)

namespace InfoCall

def start : InfoCall → Place
  | updateExchangeInfo force | getExchangeInfo force => .known (.update force)
  | findPrecisionForSymbol => .known .lookup
  | setExchangeInfo exchange => .store exchange

/-- Where a call goes on when the cache is up to date or replaced. -/
def onward : InfoCall → Place
  | updateExchangeInfo _ | setExchangeInfo _ => .returned none
  | getExchangeInfo _ | findPrecisionForSymbol => .read

end InfoCall

namespace AgeCheck

/-- A lookup updates what is too old, and an update is then forced. -/
def outdated : AgeCheck → Place
  | lookup => .known (.update true)
  | update _ => .symbols true

def young : AgeCheck → Place
  | lookup => .read
  | update force => .symbols force

/-- Compare the operands when both have been evaluated. -/
def judge (check : AgeCheck) : Option Int → Option Int → Place
  | some now, some stamp =>
      if EXCHANGE_DATA_MAX_AGE_S < now - stamp then check.outdated else check.young
  | now, stamp => .age check now stamp

end AgeCheck

namespace SharedInfo

/-- What the answer to the request decodes to. -/
def decodeInfo (externals : Externals) (answer : Throws Response) : Evaluates Exchange := do
  let response ← answer.lift
  let response ← (checkResponse externals response).lift
  let json ← response.json.lift
  Exchange.fromJson externals json

/-- The next step of a call, and the state after it. -/
def advance (externals : Externals) (state : SharedInfo) (thread : InfoThread) :
    InfoInput → Option (Place × SharedInfo)
  | .next =>
      match thread.place with
      | .known check =>
          some (if state.exchange.lastUpdateTime < 0 then check.outdated
            else .age check none none, state)
      | .symbols force =>
          some (if state.exchange.symbols.isEmpty ∨ force then .request
            else thread.call.onward, state)
      | .stamp answer => some (.store { answer with lastUpdateTime := state.now }, state)
      | .store exchange => some (thread.call.onward, { state with exchange })
      | .read => some (.returned (some state.exchange), state)
      | .age .. | .request | .returned _ | .failed _ => none
  | .clock =>
      match thread.place with
      | .age check none stamp => some (check.judge (some state.now) stamp, state)
      | _ => none
  | .cached =>
      match thread.place with
      | .age check now none =>
          some (check.judge now (some state.exchange.lastUpdateTime), state)
      | _ => none
  | .answer answer =>
      match thread.place with
      | .request =>
          match decodeInfo externals answer with
          | .ok exchange =>
              some (.stamp exchange, { state with answers := state.answers ++ [exchange] })
          | .error (.raised exception) => some (.failed exception, state)
          | .error (.undefined _) => none
      | _ => none

def step (externals : Externals) (state : SharedInfo) : InfoEvent → Option SharedInfo
  | .tick now => if state.now ≤ now then some { state with now } else none
  | .call call =>
      some { state with
        threads := state.threads ++ [{ call, since := state.now, place := call.start }]
        given :=
          match call with
          | .setExchangeInfo exchange => state.given ++ [exchange]
          | _ => state.given }
  | .go index input =>
      match state.threads[index]? with
      | some thread =>
          (advance externals state thread input).map fun (place, after) =>
            { after with threads := after.threads.set index { thread with place } }
      | none => none

/-- What is stored was stamped, or came from its owner, no longer ago than the delay. -/
def Punctual (delay : Int) (state : SharedInfo) : InfoEvent → Prop
  | .go index _ => ∀ thread exchange, state.threads[index]? = some thread →
      thread.place = .store exchange → state.now - delay ≤ exchange.lastUpdateTime
  | .tick _ | .call _ => True

/-! ## What a step does -/

/-- All that a step of one call can do. -/
inductive Advances (state : SharedInfo) (thread : InfoThread) :
    Place → SharedInfo → Prop where
  | unknown {check : AgeCheck} (place : thread.place = .known check)
      (never : state.exchange.lastUpdateTime < 0) :
      Advances state thread check.outdated state
  | known {check : AgeCheck} (place : thread.place = .known check)
      (updated : 0 ≤ state.exchange.lastUpdateTime) :
      Advances state thread (.age check none none) state
  | clock {check : AgeCheck} {stamp : Option Int}
      (place : thread.place = .age check none stamp) :
      Advances state thread (check.judge (some state.now) stamp) state
  | cached {check : AgeCheck} {now : Option Int}
      (place : thread.place = .age check now none) :
      Advances state thread (check.judge now (some state.exchange.lastUpdateTime)) state
  | renew {force : Bool} (place : thread.place = .symbols force) :
      Advances state thread .request state
  | keep (place : thread.place = .symbols false) :
      Advances state thread thread.call.onward state
  | answered (place : thread.place = .request) (exchange : Exchange) :
      Advances state thread (.stamp exchange)
        { state with answers := state.answers ++ [exchange] }
  | failed (place : thread.place = .request) (exception : Exception) :
      Advances state thread (.failed exception) state
  | stamped {answer : Exchange} (place : thread.place = .stamp answer) :
      Advances state thread (.store { answer with lastUpdateTime := state.now }) state
  | stored {exchange : Exchange} (place : thread.place = .store exchange) :
      Advances state thread thread.call.onward { state with exchange }
  | read (place : thread.place = .read) :
      Advances state thread (.returned (some state.exchange)) state

theorem advances_of_advance {externals : Externals} {state after : SharedInfo}
    {thread : InfoThread} {input : InfoInput} {place : Place}
    (advanced : advance externals state thread input = some (place, after)) :
    Advances state thread place after := by
  cases input with
  | next =>
      simp only [advance] at advanced
      cases atPlace : thread.place with
      | known check =>
          simp only [atPlace, Option.some.injEq, Prod.mk.injEq] at advanced
          rcases advanced with ⟨rfl, rfl⟩
          split
          next never => exact .unknown atPlace never
          next updated => exact .known atPlace (not_lt.mp updated)
      | symbols force =>
          simp only [atPlace, Option.some.injEq, Prod.mk.injEq] at advanced
          rcases advanced with ⟨rfl, rfl⟩
          split
          · exact .renew atPlace
          next kept =>
            have unforced : force = false := by simpa using (not_or.mp kept).2
            exact .keep (unforced ▸ atPlace)
      | stamp answer =>
          simp only [atPlace, Option.some.injEq, Prod.mk.injEq] at advanced
          rcases advanced with ⟨rfl, rfl⟩
          exact .stamped atPlace
      | store exchange =>
          simp only [atPlace, Option.some.injEq, Prod.mk.injEq] at advanced
          rcases advanced with ⟨rfl, rfl⟩
          exact .stored atPlace
      | read =>
          simp only [atPlace, Option.some.injEq, Prod.mk.injEq] at advanced
          rcases advanced with ⟨rfl, rfl⟩
          exact .read atPlace
      | age | request | returned | failed => simp [atPlace] at advanced
  | clock =>
      simp only [advance] at advanced
      split at advanced
      next atPlace =>
        cases advanced
        exact .clock atPlace
      · cases advanced
  | cached =>
      simp only [advance] at advanced
      split at advanced
      next atPlace =>
        cases advanced
        exact .cached atPlace
      · cases advanced
  | answer answer =>
      simp only [advance] at advanced
      split at advanced
      next atPlace =>
        split at advanced
        · cases advanced
          exact .answered atPlace _
        · cases advanced
          exact .failed atPlace _
        · cases advanced
      · cases advanced

end SharedInfo

/-! ## How old the information is -/

/-- What a call has made sure of: from where it reads the cache on, the information is not
older than the slack was when the call began. -/
def InfoThread.Sound (slack : Int) (cached : Exchange) (thread : InfoThread) : Prop :=
  match thread.place with
  | .age _ now stamp =>
      (∀ time ∈ now, thread.since ≤ time) ∧
        ∀ time ∈ stamp, cached.lastUpdateTime = time ∨
          thread.since - slack ≤ cached.lastUpdateTime
  | .symbols force => force = false → thread.since - slack ≤ cached.lastUpdateTime
  | .read => thread.since - slack ≤ cached.lastUpdateTime
  | .returned (some exchange) => thread.since - slack ≤ exchange.lastUpdateTime
  | .known _ | .request | .stamp _ | .store _ | .returned none | .failed _ => True

/-- Newer information in the cache takes nothing from a call. -/
theorem InfoThread.Sound.stored {slack : Int} {cached exchange : Exchange}
    {thread : InfoThread} (sound : thread.Sound slack cached)
    (recent : thread.since - slack ≤ exchange.lastUpdateTime) :
    thread.Sound slack exchange := by
  rcases thread with ⟨call, since, place⟩
  cases place with
  | age check now stamp => exact ⟨sound.1, fun _ _ => .inr recent⟩
  | symbols force => exact fun _ => recent
  | read => exact recent
  | returned exchange => cases exchange <;> exact sound
  | known | request | stamp | store | failed => trivial

/-- A call goes on to the result only with information that is recent enough. -/
theorem InfoThread.sound_onward {slack : Int} {cached : Exchange} {thread : InfoThread}
    (recent : thread.since - slack ≤ cached.lastUpdateTime) :
    InfoThread.Sound slack cached { thread with place := thread.call.onward } := by
  rcases thread with ⟨call, since, place⟩
  cases call with
  | updateExchangeInfo | setExchangeInfo => trivial
  | getExchangeInfo | findPrecisionForSymbol => exact recent

/-- The outcome of the comparison, whichever operand came last. -/
theorem InfoThread.sound_judge {slack : Int} {cached : Exchange} {thread : InfoThread}
    {now stamp : Option Int} (check : AgeCheck) (slackBound : EXCHANGE_DATA_MAX_AGE_S ≤ slack)
    (clock : ∀ time ∈ now, thread.since ≤ time)
    (read : ∀ time ∈ stamp, cached.lastUpdateTime = time ∨
      thread.since - slack ≤ cached.lastUpdateTime) :
    InfoThread.Sound slack cached { thread with place := check.judge now stamp } := by
  cases now with
  | none => exact ⟨clock, read⟩
  | some now =>
      cases stamp with
      | none => exact ⟨clock, read⟩
      | some stamp =>
          have begun := clock now rfl
          simp only [AgeCheck.judge]
          split
          · cases check with
            | lookup => trivial
            | update force => exact nofun
          next young =>
            have recent : thread.since - slack ≤ cached.lastUpdateTime := by
              rcases read stamp rfl with same | recent
              · omega
              · exact recent
            cases check with
            | lookup => exact recent
            | update force => exact fun _ => recent

namespace SharedInfo

/-- What every punctual step keeps. -/
structure Invariant (slack : Int) (state : SharedInfo) : Prop where
  begun : ∀ thread ∈ state.threads, thread.since ≤ state.now
  sound : ∀ thread ∈ state.threads, thread.Sound slack state.exchange

variable {externals : Externals} {state next : SharedInfo} {delay slack : Int}

/-- What the step of one call makes sure of for the call itself, and what becomes of the
cache. -/
theorem Advances.sound {after : SharedInfo} {thread : InfoThread} {place : Place}
    (advances : Advances state thread place after)
    (slackBound : EXCHANGE_DATA_MAX_AGE_S ≤ slack) (begun : thread.since ≤ state.now)
    (sound : thread.Sound slack state.exchange)
    (punctual : ∀ exchange, thread.place = .store exchange →
      thread.since - slack ≤ exchange.lastUpdateTime) :
    InfoThread.Sound slack after.exchange { thread with place } := by
  cases advances with
  | @unknown check =>
      cases check with
      | lookup => trivial
      | update force => exact nofun
  | known => exact ⟨nofun, nofun⟩
  | @clock check stamp place =>
      simp only [InfoThread.Sound, place] at sound
      apply InfoThread.sound_judge check slackBound _ sound.2
      intro time same
      cases same
      exact begun
  | @cached check now place =>
      simp only [InfoThread.Sound, place] at sound
      apply InfoThread.sound_judge check slackBound sound.1
      intro time same
      cases same
      exact .inl rfl
  | keep place =>
      simp only [InfoThread.Sound, place] at sound
      exact InfoThread.sound_onward (sound trivial)
  | stored place => exact InfoThread.sound_onward (punctual _ place)
  | read place =>
      simp only [InfoThread.Sound, place] at sound
      exact sound
  | renew | answered | failed | stamped => trivial

/-- The cache keeps its value or takes that of a call that stores. -/
theorem Advances.frame {after : SharedInfo} {thread : InfoThread} {place : Place}
    (advances : Advances state thread place after) :
    after.threads = state.threads ∧ after.now = state.now ∧
      (after.exchange = state.exchange ∨ thread.place = .store after.exchange) := by
  cases advances with
  | stored place => exact ⟨rfl, rfl, .inr place⟩
  | unknown | known | clock | cached | renew | keep | answered | failed | stamped | read =>
      exact ⟨rfl, rfl, .inl rfl⟩

theorem go_eq_some {index : Nat} {input : InfoInput}
    (stepped : state.step externals (.go index input) = some next) :
    ∃ thread place after, state.threads[index]? = some thread ∧
      Advances state thread place after ∧
      next = { after with threads := state.threads.set index { thread with place } } := by
  simp only [step] at stepped
  split at stepped
  next thread found =>
    rcases Option.map_eq_some_iff.mp stepped with ⟨⟨place, after⟩, advanced, rfl⟩
    have advances := advances_of_advance advanced
    exact ⟨thread, place, after, found, advances, by rw [advances.frame.1]⟩
  · cases stepped

theorem Invariant.step (invariant : state.Invariant slack)
    (slackBound : EXCHANGE_DATA_MAX_AGE_S ≤ slack) (delayBound : delay ≤ slack)
    {event : InfoEvent} (punctual : Punctual delay state event)
    (stepped : state.step externals event = some next) : next.Invariant slack := by
  cases event with
  | tick now =>
      simp only [SharedInfo.step] at stepped
      split at stepped
      next later =>
        cases stepped
        refine ⟨?_, invariant.sound⟩
        intro thread member
        exact Int.le_trans (invariant.begun thread member) later
      · cases stepped
  | call call =>
      cases stepped
      constructor
      case begun =>
        intro thread member
        rcases List.mem_append.mp member with before | added
        · exact invariant.begun thread before
        · rw [List.mem_singleton.mp added]
      case sound =>
        intro thread member
        rcases List.mem_append.mp member with before | added
        · exact invariant.sound thread before
        · rw [List.mem_singleton.mp added]
          cases call <;> trivial
  | go index input =>
      rcases go_eq_some stepped with ⟨thread, place, after, found, advances, rfl⟩
      have member := List.mem_of_getElem? found
      rcases advances.frame with ⟨-, sameNow, stored⟩
      constructor
      case begun =>
        intro other changed
        rw [sameNow]
        rcases List.mem_or_eq_of_mem_set changed with before | rfl
        · exact invariant.begun other before
        · exact invariant.begun thread member
      case sound =>
        intro other changed
        rcases List.mem_or_eq_of_mem_set changed with before | rfl
        · rcases stored with same | stored
          · rw [same]
            exact invariant.sound other before
          · apply (invariant.sound other before).stored
            have recent := punctual thread after.exchange found stored
            have begun := invariant.begun other before
            change other.since - slack ≤ after.exchange.lastUpdateTime
            omega
        · apply advances.sound slackBound (invariant.begun thread member)
            (invariant.sound thread member)
          intro exchange storing
          have recent := punctual thread exchange found storing
          have begun := invariant.begun thread member
          omega

/-! ## Where the information comes from -/

/-- Information that the cache held at first, that its owner gave, or that is one decoded
answer with a time of update. -/
def Origin (initial : Exchange) (state : SharedInfo) (exchange : Exchange) : Prop :=
  exchange = initial ∨ exchange ∈ state.given ∨
    ∃ answer ∈ state.answers,
      exchange = { answer with lastUpdateTime := exchange.lastUpdateTime }

/-- What a call is about to store or has returned. -/
def Whole (initial : Exchange) (state : SharedInfo) : Place → Prop
  | .stamp answer => answer ∈ state.answers
  | .store exchange | .returned (some exchange) => Origin initial state exchange
  | .known _ | .age .. | .symbols _ | .request | .read | .returned none | .failed _ => True

theorem Origin.mono {initial exchange : Exchange} (origin : Origin initial state exchange)
    (given : state.given ⊆ next.given) (answers : state.answers ⊆ next.answers) :
    Origin initial next exchange := by
  rcases origin with first | owned | ⟨answer, member, same⟩
  · exact .inl first
  · exact .inr (.inl (given owned))
  · exact .inr (.inr ⟨answer, answers member, same⟩)

theorem Whole.mono {initial : Exchange} {place : Place} (whole : Whole initial state place)
    (given : state.given ⊆ next.given) (answers : state.answers ⊆ next.answers) :
    Whole initial next place := by
  cases place with
  | stamp answer => exact answers whole
  | store exchange => exact Origin.mono whole given answers
  | returned exchange =>
      cases exchange with
      | none => trivial
      | some exchange => exact Origin.mono whole given answers
  | known | age | symbols | request | read | failed => trivial

theorem whole_onward {initial : Exchange} (call : InfoCall) :
    Whole initial state call.onward := by
  cases call <;> trivial

theorem whole_outdated {initial : Exchange} (check : AgeCheck) :
    Whole initial state check.outdated := by
  cases check <;> trivial

theorem whole_judge {initial : Exchange} (check : AgeCheck) (now stamp : Option Int) :
    Whole initial state (check.judge now stamp) := by
  cases now with
  | none => trivial
  | some now =>
      cases stamp with
      | none => trivial
      | some stamp =>
          simp only [AgeCheck.judge]
          split
          · exact whole_outdated check
          · cases check <;> trivial

/-- The cache and all calls hold whole information. -/
structure Unmixed (initial : Exchange) (state : SharedInfo) : Prop where
  cached : Origin initial state state.exchange
  whole : ∀ thread ∈ state.threads, Whole initial state thread.place

theorem Advances.whole {initial : Exchange} {after : SharedInfo} {thread : InfoThread}
    {place : Place} (advances : Advances state thread place after)
    (cached : Origin initial state state.exchange)
    (whole : Whole initial state thread.place) :
    state.given ⊆ after.given ∧ state.answers ⊆ after.answers ∧
      Origin initial after after.exchange ∧ Whole initial after place := by
  cases advances with
  | @unknown check =>
      exact ⟨List.Subset.refl _, List.Subset.refl _, cached, whole_outdated check⟩
  | clock | cached =>
      exact ⟨List.Subset.refl _, List.Subset.refl _, cached, whole_judge _ _ _⟩
  | keep => exact ⟨List.Subset.refl _, List.Subset.refl _, cached, whole_onward _⟩
  | answered place exchange =>
      have more := List.subset_append_left state.answers [exchange]
      exact ⟨List.Subset.refl _, more, cached.mono (List.Subset.refl _) more,
        List.mem_append_right _ List.mem_cons_self⟩
  | @stamped answer place =>
      rw [place] at whole
      exact ⟨List.Subset.refl _, List.Subset.refl _, cached, .inr (.inr ⟨answer, whole, rfl⟩)⟩
  | stored place =>
      rw [place] at whole
      exact ⟨List.Subset.refl _, List.Subset.refl _, whole, whole_onward _⟩
  | read => exact ⟨List.Subset.refl _, List.Subset.refl _, cached, cached⟩
  | known | renew | failed =>
      exact ⟨List.Subset.refl _, List.Subset.refl _, cached, trivial⟩

theorem Unmixed.step {initial : Exchange} (unmixed : state.Unmixed initial)
    {event : InfoEvent} (stepped : state.step externals event = some next) :
    next.Unmixed initial := by
  cases event with
  | tick now =>
      simp only [SharedInfo.step] at stepped
      split at stepped
      · cases stepped
        exact ⟨unmixed.cached, unmixed.whole⟩
      · cases stepped
  | call call =>
      cases stepped
      have given : state.given ⊆ (match call with
          | .setExchangeInfo exchange => state.given ++ [exchange]
          | _ => state.given) := by
        cases call with
        | setExchangeInfo => exact List.subset_append_left _ _
        | updateExchangeInfo | getExchangeInfo | findPrecisionForSymbol =>
            exact List.Subset.refl _
      constructor
      case cached => exact unmixed.cached.mono given (List.Subset.refl _)
      case whole =>
        intro thread member
        rcases List.mem_append.mp member with before | added
        · exact (unmixed.whole thread before).mono given (List.Subset.refl _)
        · rw [List.mem_singleton.mp added]
          cases call with
          | setExchangeInfo => exact .inr (.inl (List.mem_append_right _ List.mem_cons_self))
          | updateExchangeInfo | getExchangeInfo | findPrecisionForSymbol => trivial
  | go index input =>
      rcases go_eq_some stepped with ⟨thread, place, after, found, advances, rfl⟩
      rcases advances.whole unmixed.cached
        (unmixed.whole thread (List.mem_of_getElem? found)) with
        ⟨given, answers, cached, whole⟩
      refine ⟨cached, ?_⟩
      intro other changed
      rcases List.mem_or_eq_of_mem_set changed with before | rfl
      · exact (unmixed.whole other before).mono given answers
      · exact whole

end SharedInfo

/-- However calls of any number of threads interleave, a call that began at some time
returns information that was not older than an hour at that time, or than the longest
delay between stamping information and storing it, if that is longer.  What it returns is
whole: one decoded answer, what the owner of the client gave to it, or what the cache held
at first. -/
theorem shared_info_recent (externals : Externals) (events : List InfoEvent)
    (initial final : SharedInfo) (delay : Int) (idle : initial.threads = [])
    (ran : Transition.run (SharedInfo.step externals) initial events = some final)
    (punctual : Transition.AllSteps (SharedInfo.step externals) initial events
      (SharedInfo.Punctual delay)) :
    ∀ thread ∈ final.threads, ∀ exchange, thread.place = .returned (some exchange) →
      thread.since - max EXCHANGE_DATA_MAX_AGE_S delay ≤ exchange.lastUpdateTime ∧
        (exchange = initial.exchange ∨ exchange ∈ final.given ∨
          ∃ answer ∈ final.answers,
            exchange = { answer with lastUpdateTime := exchange.lastUpdateTime }) := by
  intro thread member exchange returned
  have invariant := Transition.run_invariant_of_allSteps
    (SharedInfo.Invariant (max EXCHANGE_DATA_MAX_AGE_S delay))
    ⟨by simp [idle], by simp [idle]⟩
    (fun _ _ _ invariant good stepped => invariant.step (Int.le_max_left _ _)
      (Int.le_max_right _ _) good stepped) ran punctual
  have unmixed := Transition.run_invariant (SharedInfo.Unmixed initial.exchange)
    ⟨.inl rfl, by simp [idle]⟩ (fun _ _ _ unmixed stepped => unmixed.step stepped) ran
  have sound := invariant.sound thread member
  have whole := unmixed.whole thread member
  simp only [InfoThread.Sound, returned] at sound
  rw [returned] at whole
  exact ⟨sound, whole⟩

namespace SharedInfo

/-- Information of a time, and threads that use it at the time 10000. -/
def sample (lastUpdateTime : Int) (threads : List InfoThread) (given : List Exchange) :
    SharedInfo where
  exchange := { Exchange.empty with lastUpdateTime }
  now := 10000
  threads := threads
  answers := []
  given := given

def sampleGiven : Exchange :=
  { Exchange.empty with lastUpdateTime := 5000 }

/-- A lookup judges recent information, and reads older information that another thread has
set in between. -/
def sampleEvents : List InfoEvent :=
  [.call (.setExchangeInfo sampleGiven), .call .findPrecisionForSymbol, .go 1 .next,
    .go 1 .cached, .go 1 .clock, .go 0 .next, .go 1 .next]

theorem sample_punctual :
    Transition.AllSteps (step .plain) (sample 10000 [] []) sampleEvents (Punctual 5000) := by
  refine (Transition.allSteps_cons rfl).mpr ⟨trivial, ?_⟩
  refine (Transition.allSteps_cons rfl).mpr ⟨trivial, ?_⟩
  refine (Transition.allSteps_cons rfl).mpr ⟨by rintro _ _ ⟨⟩ ⟨⟩, ?_⟩
  refine (Transition.allSteps_cons rfl).mpr ⟨by rintro _ _ ⟨⟩ ⟨⟩, ?_⟩
  refine (Transition.allSteps_cons rfl).mpr ⟨by rintro _ _ ⟨⟩ ⟨⟩, ?_⟩
  refine (Transition.allSteps_cons rfl).mpr ⟨by rintro _ _ ⟨⟩ ⟨⟩; decide, ?_⟩
  exact (Transition.allSteps_cons rfl).mpr
    ⟨by rintro _ _ ⟨⟩ ⟨⟩, Transition.allSteps_nil⟩

end SharedInfo

/-- What the lookup reads is older than an hour, and as old as the delay allows. -/
theorem shared_info_recent_sample :
    (10000 : Int) - max EXCHANGE_DATA_MAX_AGE_S 5000 ≤
      SharedInfo.sampleGiven.lastUpdateTime := by
  have bounded := shared_info_recent .plain SharedInfo.sampleEvents
    (SharedInfo.sample 10000 [] [])
    (SharedInfo.sample 5000
      [⟨.setExchangeInfo SharedInfo.sampleGiven, 10000, .returned none⟩,
        ⟨.findPrecisionForSymbol, 10000, .returned (some SharedInfo.sampleGiven)⟩]
      [SharedInfo.sampleGiven]) 5000 rfl rfl SharedInfo.sample_punctual
  exact (bounded _ (List.mem_cons_of_mem _ List.mem_cons_self) _ rfl).1

end BinanceApi.Futures
