import Mathlib.Data.List.Perm.Subperm
import BinanceApi.Library.Transition

/-!
# Forking tasks and joining them in order

A caller starts one task for every element of a list, then takes the results of the
tasks in the order of the list and folds them.  A task finishes at any time after it
was started, under circumstances that the schedule determines.  A result that is an
exception reaches the caller when it takes that result; the caller then waits for the
other tasks before the exception leaves it.
-/

namespace BinanceApi.ForkJoin

/-- What is forked and joined.  `work` is what a task makes of its argument under given
circumstances, or nothing if it does not come to an end under them. -/
structure Program (τ ω ε β σ : Type*) where
  tasks : List τ
  work : τ → ω → Option (Except ε β)
  start : σ
  collect : σ → β → σ

/-- Where the caller stands. -/
inductive Stage (ε σ : Type*) where
  | launching
  | collecting (collected : Nat) (total : σ)
  | unwinding (fault : ε)
  | returned (result : Except ε σ)

/-- The number of tasks started, the results of those that have finished, newest first,
and where the caller stands. -/
structure State (ε β σ : Type*) where
  launched : Nat
  finished : List (Nat × Except ε β)
  stage : Stage ε σ

inductive Action (ω : Type*) where
  | finish (index : Nat) (circumstances : ω)
  | caller

variable {τ ω ε β σ : Type*}

namespace State

def initial : State ε β σ where
  launched := 0
  finished := []
  stage := .launching

/-- Every task that was started has finished. -/
def allFinished (state : State ε β σ) : Bool :=
  (List.range state.launched).all fun index => (state.finished.lookup index).isSome

/-- A caller that does not return yet waits for some task. -/
theorem exists_unfinished {state : State ε β σ} (some : state.allFinished = false) :
    ∃ index, index < state.launched ∧ state.finished.lookup index = none := by
  simp only [allFinished, List.all_eq_false, List.mem_range] at some
  rcases some with ⟨index, started, unfinished⟩
  exact ⟨index, started, Option.not_isSome_iff_eq_none.mp unfinished⟩

end State

namespace Program

variable (program : Program τ ω ε β σ)

/-- A task that was started and has not finished yet stores its result. -/
def finish (state : State ε β σ) (index : Nat) (circumstances : ω) :
    Option (State ε β σ) :=
  if index < state.launched ∧ (state.finished.lookup index).isNone then
    match program.tasks[index]? with
    | none => none
    | some task =>
        match program.work task circumstances with
        | none => none
        | some result => some { state with finished := (index, result) :: state.finished }
  else none

/-- The caller's next step: nothing while it waits for a task, or after its return. -/
def caller (state : State ε β σ) : Option (State ε β σ) :=
  match state.stage with
  | .launching =>
      if state.launched < program.tasks.length then
        some { state with launched := state.launched + 1 }
      else
        some { state with stage := .collecting 0 program.start }
  | .collecting collected total =>
      if collected < program.tasks.length then
        match state.finished.lookup collected with
        | none => none
        | some (.ok value) =>
            some { state with
              stage := .collecting (collected + 1) (program.collect total value) }
        | some (.error fault) => some { state with stage := .unwinding fault }
      else
        some { state with stage := .returned (.ok total) }
  | .unwinding fault =>
      if state.allFinished then some { state with stage := .returned (.error fault) }
      else none
  | .returned _ => none

def step (state : State ε β σ) : Action ω → Option (State ε β σ)
  | .finish index circumstances => program.finish state index circumstances
  | .caller => program.caller state

/-- Some schedule lets the caller return a result. -/
def Returns (result : Except ε σ) : Prop :=
  ∃ actions state, Transition.run program.step State.initial actions = some state ∧
    state.stage = .returned result

/-- All that one step can do. -/
inductive Moves (program : Program τ ω ε β σ) (state : State ε β σ) :
    State ε β σ → Prop where
  | finish {index : Nat} {task : τ} {circumstances : ω} {result : Except ε β}
      (started : index < state.launched)
      (unfinished : state.finished.lookup index = none)
      (argument : program.tasks[index]? = some task)
      (worked : program.work task circumstances = some result) :
      Moves program state { state with finished := (index, result) :: state.finished }
  | launch (launching : state.stage = .launching)
      (more : state.launched < program.tasks.length) :
      Moves program state { state with launched := state.launched + 1 }
  | begin (launching : state.stage = .launching)
      (all : program.tasks.length ≤ state.launched) :
      Moves program state { state with stage := .collecting 0 program.start }
  | collect {collected : Nat} {total : σ} {value : β}
      (collecting : state.stage = .collecting collected total)
      (more : collected < program.tasks.length)
      (ready : state.finished.lookup collected = some (.ok value)) :
      Moves program state
        { state with stage := .collecting (collected + 1) (program.collect total value) }
  | fail {collected : Nat} {total : σ} {fault : ε}
      (collecting : state.stage = .collecting collected total)
      (more : collected < program.tasks.length)
      (ready : state.finished.lookup collected = some (.error fault)) :
      Moves program state { state with stage := .unwinding fault }
  | finishAll {collected : Nat} {total : σ}
      (collecting : state.stage = .collecting collected total)
      (all : program.tasks.length ≤ collected) :
      Moves program state { state with stage := .returned (.ok total) }
  | unwind {fault : ε} (unwinding : state.stage = .unwinding fault)
      (all : state.allFinished = true) :
      Moves program state { state with stage := .returned (.error fault) }

theorem moves_of_step {state next : State ε β σ} {action : Action ω}
    (stepped : program.step state action = some next) : program.Moves state next := by
  cases action with
  | finish index circumstances =>
      simp only [step, finish] at stepped
      split at stepped
      next possible =>
        split at stepped
        · cases stepped
        next task argument =>
          split at stepped
          · cases stepped
          next result worked =>
            cases stepped
            exact .finish possible.1 (by simpa using possible.2) argument worked
      next => cases stepped
  | caller =>
      simp only [step, caller] at stepped
      split at stepped
      next launching =>
        split at stepped
        next more =>
          cases stepped
          exact .launch launching more
        next all =>
          cases stepped
          exact .begin launching (Nat.le_of_not_lt all)
      next collected total collecting =>
        split at stepped
        next more =>
          split at stepped
          · cases stepped
          next value ready =>
            cases stepped
            exact .collect collecting more ready
          next fault ready =>
            cases stepped
            exact .fail collecting more ready
        next all =>
          cases stepped
          exact .finishAll collecting (Nat.le_of_not_lt all)
      next fault unwinding =>
        split at stepped
        next all =>
          cases stepped
          exact .unwind unwinding all
        next => cases stepped
      next => cases stepped

/-! ## What is joined -/

section Outcomes

variable (outcome : τ → Except ε β)

/-- The results of a list of tasks, folded in order up to the first exception. -/
def joined (tasks : List τ) : Except ε σ :=
  tasks.foldlM (fun total task => (outcome task).map (program.collect total)) program.start

theorem joined_append_error {front : List τ} {fault : ε}
    (failed : program.joined outcome front = .error fault) (back : List τ) :
    program.joined outcome (front ++ back) = .error fault := by
  simp only [joined, List.foldlM_append] at failed ⊢
  rw [failed]
  rfl

theorem joined_concat {front : List τ} {total : σ}
    (collected : program.joined outcome front = .ok total) (task : τ) :
    program.joined outcome (front ++ [task]) =
      (outcome task).map (program.collect total) := by
  simp only [joined, List.foldlM_append, List.foldlM_cons, List.foldlM_nil] at collected ⊢
  rw [collected]
  cases outcome task <;> rfl

/-- The first exception in the order of the list is the one that is joined. -/
theorem joined_first_error {front : List τ} {total : σ} {task : τ} {fault : ε}
    (collected : program.joined outcome front = .ok total)
    (failed : outcome task = .error fault) (back : List τ) :
    program.joined outcome (front ++ task :: back) = .error fault := by
  rw [List.append_cons]
  apply joined_append_error
  rw [program.joined_concat outcome collected, failed]
  rfl

/-- Tasks that all return are folded. -/
theorem joined_ok {tasks : List τ} {value : τ → β}
    (returned : ∀ task ∈ tasks, outcome task = .ok (value task)) :
    program.joined outcome tasks =
      .ok ((tasks.map value).foldl program.collect program.start) := by
  induction tasks using List.reverseRecOn with
  | nil => rfl
  | append_singleton front task ih =>
      have before := ih fun earlier membership =>
        returned earlier (List.mem_append_left _ membership)
      rw [program.joined_concat outcome before, returned task (by simp)]
      simp [Except.map]

/-- Tasks can be folded only if all of them return. -/
theorem exists_of_joined_ok {tasks : List τ} {total : σ}
    (collected : program.joined outcome tasks = .ok total) :
    ∀ task ∈ tasks, ∃ value, outcome task = .ok value := by
  induction tasks using List.reverseRecOn generalizing total with
  | nil => exact List.forall_mem_nil _
  | append_singleton front task ih =>
      cases before : program.joined outcome front with
      | error fault =>
          rw [program.joined_append_error outcome before] at collected
          cases collected
      | ok earlier =>
          rw [program.joined_concat outcome before] at collected
          simp only [List.forall_mem_append, List.forall_mem_singleton]
          refine ⟨ih before, ?_⟩
          cases result : outcome task with
          | error fault =>
              rw [result] at collected
              cases collected
          | ok value => exact ⟨value, rfl⟩

/-! ## Runs -/

/-- What the caller has made of the tasks it has joined. -/
def StageInv : Stage ε σ → Prop
  | .launching => True
  | .collecting collected total =>
      collected ≤ program.tasks.length ∧
        program.joined outcome (program.tasks.take collected) = .ok total
  | .unwinding fault => program.joined outcome program.tasks = .error fault
  | .returned result => program.joined outcome program.tasks = result

/-- What every step keeps: the tasks are started in order and finish once each, with
their outcomes, and the caller joins nothing before all are started. -/
structure Inv (state : State ε β σ) : Prop where
  launched_le : state.launched ≤ program.tasks.length
  launched_eq : state.stage = .launching ∨ state.launched = program.tasks.length
  distinct : (state.finished.map Prod.fst).Nodup
  results : ∀ entry ∈ state.finished, entry.1 < state.launched ∧
    program.tasks[entry.1]?.map outcome = some entry.2
  stage : program.StageInv outcome state.stage

variable {program outcome}

theorem Inv.initial : program.Inv outcome State.initial where
  launched_le := Nat.zero_le _
  launched_eq := .inl rfl
  distinct := List.nodup_nil
  results := List.forall_mem_nil _
  stage := trivial

/-- A result that was stored is the outcome of its task. -/
theorem Inv.of_lookup {state : State ε β σ} (invariant : program.Inv outcome state)
    {index : Nat} {result : Except ε β}
    (ready : state.finished.lookup index = some result) :
    ∃ task, program.tasks[index]? = some task ∧ outcome task = result := by
  rcases List.lookup_eq_some_iff.mp ready with ⟨front, back, split, -⟩
  have stored := (invariant.results (index, result) (by simp [split])).2
  exact Option.map_eq_some_iff.mp stored

/-- The next result that is joined is the outcome of the next task. -/
theorem Inv.joined_next {state : State ε β σ} (invariant : program.Inv outcome state)
    {collected : Nat} {total : σ} {result : Except ε β}
    (collecting : state.stage = .collecting collected total)
    (ready : state.finished.lookup collected = some result) :
    program.joined outcome (program.tasks.take (collected + 1)) =
      result.map (program.collect total) := by
  have prefixJoined := invariant.stage
  rw [collecting] at prefixJoined
  rcases invariant.of_lookup ready with ⟨task, argument, rfl⟩
  rw [List.take_add_one, argument]
  exact program.joined_concat outcome prefixJoined.2 task

theorem Inv.finish {state : State ε β σ} (invariant : program.Inv outcome state)
    {index : Nat} {task : τ} (started : index < state.launched)
    (unfinished : state.finished.lookup index = none)
    (argument : program.tasks[index]? = some task) :
    program.Inv outcome
      { state with finished := (index, outcome task) :: state.finished } where
  launched_le := invariant.launched_le
  launched_eq := invariant.launched_eq
  distinct := by
    rw [List.map_cons, List.nodup_cons]
    refine ⟨?_, invariant.distinct⟩
    intro membership
    rcases List.mem_map.mp membership with ⟨entry, stored, same⟩
    have apart := List.lookup_eq_none_iff.mp unfinished entry stored
    simp [same] at apart
  results := by
    rw [List.forall_mem_cons]
    exact ⟨⟨started, by rw [argument]; rfl⟩, invariant.results⟩
  stage := invariant.stage

theorem Inv.launch {state : State ε β σ} (invariant : program.Inv outcome state)
    (launching : state.stage = .launching) (more : state.launched < program.tasks.length) :
    program.Inv outcome { state with launched := state.launched + 1 } where
  launched_le := more
  launched_eq := .inl launching
  distinct := invariant.distinct
  results := by
    intro entry stored
    rcases invariant.results entry stored with ⟨started, result⟩
    exact ⟨Nat.lt_succ_of_lt started, result⟩
  stage := invariant.stage

/-- A step of the caller that starts no task. -/
theorem Inv.advance {state : State ε β σ} (invariant : program.Inv outcome state)
    {stage : Stage ε σ} (all : state.launched = program.tasks.length)
    (reached : program.StageInv outcome stage) :
    program.Inv outcome { state with stage := stage } where
  launched_le := invariant.launched_le
  launched_eq := .inr all
  distinct := invariant.distinct
  results := invariant.results
  stage := reached

/-- Behind the launch, every task has been started. -/
theorem Inv.all_launched {state : State ε β σ} (invariant : program.Inv outcome state)
    {stage : Stage ε σ} (current : state.stage = stage) (later : stage ≠ .launching) :
    state.launched = program.tasks.length :=
  invariant.launched_eq.resolve_left fun launching => later (current ▸ launching)

variable (fixed : ∀ task circumstances result,
  program.work task circumstances = some result → result = outcome task)

include fixed

theorem Inv.moves {state next : State ε β σ} (invariant : program.Inv outcome state)
    (moves : program.Moves state next) : program.Inv outcome next := by
  have reached := invariant.stage
  cases moves with
  | @finish index task circumstances result started unfinished argument worked =>
      rw [fixed task circumstances result worked]
      exact invariant.finish started unfinished argument
  | launch launching more => exact invariant.launch launching more
  | begin launching all =>
      exact invariant.advance (Nat.le_antisymm invariant.launched_le all)
        ⟨Nat.zero_le _, rfl⟩
  | @collect collected total value collecting more ready =>
      apply invariant.advance (invariant.all_launched collecting (by simp))
      exact ⟨more, invariant.joined_next collecting ready⟩
  | @fail collected total fault collecting more ready =>
      apply invariant.advance (invariant.all_launched collecting (by simp))
      have failed := invariant.joined_next collecting ready
      have whole := program.joined_append_error outcome failed
        (program.tasks.drop (collected + 1))
      rwa [List.take_append_drop] at whole
  | @finishAll collected total collecting all =>
      apply invariant.advance (invariant.all_launched collecting (by simp))
      rw [collecting] at reached
      have joined := reached.2
      rwa [List.take_of_length_le all] at joined
  | @unwind fault unwinding all =>
      apply invariant.advance (invariant.all_launched unwinding (by simp))
      rw [unwinding] at reached
      exact reached

theorem Inv.step {state next : State ε β σ} {action : Action ω}
    (invariant : program.Inv outcome state)
    (stepped : program.step state action = some next) : program.Inv outcome next :=
  invariant.moves fixed (moves_of_step program stepped)

/-- Whatever the order in which the tasks finish, the caller returns the outcomes joined
in the order of the list. -/
theorem Returns.eq_joined {result : Except ε σ} (returns : program.Returns result) :
    result = program.joined outcome program.tasks := by
  rcases returns with ⟨actions, state, ran, returned⟩
  have invariant := Transition.run_invariant (program.Inv outcome) Inv.initial
    (fun _ _ _ kept stepped => kept.step fixed stepped) ran
  have reached := invariant.stage
  rw [returned] at reached
  exact reached.symm

omit fixed

/-! ## Every run comes to an end -/

/-- No more than so many steps are left. -/
def remaining (program : Program τ ω ε β σ) (state : State ε β σ) : Nat :=
  (program.tasks.length - state.launched) +
    (program.tasks.length - state.finished.length) +
    match state.stage with
    | .launching => program.tasks.length + 2
    | .collecting collected _ => program.tasks.length - collected + 1
    | .unwinding _ => 1
    | .returned _ => 0

theorem remaining_initial :
    program.remaining State.initial = 3 * program.tasks.length + 2 := by
  simp only [remaining, State.initial, List.length_nil]
  omega

/-- Tasks finish once each. -/
theorem Inv.finished_le {state : State ε β σ} (invariant : program.Inv outcome state) :
    state.finished.length ≤ program.tasks.length := by
  have inRange : state.finished.map Prod.fst ⊆ List.range program.tasks.length := by
    intro index membership
    rcases List.mem_map.mp membership with ⟨entry, stored, rfl⟩
    have started := (invariant.results entry stored).1
    exact List.mem_range.mpr (Nat.lt_of_lt_of_le started invariant.launched_le)
  have short := (invariant.distinct.subperm inRange).length_le
  rwa [List.length_map, List.length_range] at short

include fixed

theorem Inv.remaining_lt {state next : State ε β σ} {action : Action ω}
    (invariant : program.Inv outcome state)
    (stepped : program.step state action = some next) :
    program.remaining next < program.remaining state := by
  have after := (invariant.step fixed stepped).finished_le
  cases moves_of_step program stepped with
  | finish started unfinished argument worked =>
      simp only [remaining, List.length_cons] at after ⊢
      omega
  | launch current bound | begin current bound | finishAll current bound
  | unwind current bound =>
      simp only [remaining, current]
      omega
  | collect current more ready | fail current more ready =>
      simp only [remaining, current]
      omega

variable (ends : ∀ task, ∃ circumstances result,
  program.work task circumstances = some result)

include ends

omit fixed in
/-- A task that was started can finish. -/
theorem Inv.can_finish {state : State ε β σ} (invariant : program.Inv outcome state)
    {index : Nat} (started : index < state.launched)
    (unfinished : state.finished.lookup index = none) :
    ∃ action next, program.step state action = some next := by
  have inside := Nat.lt_of_lt_of_le started invariant.launched_le
  rcases ends program.tasks[index] with ⟨circumstances, result, worked⟩
  refine ⟨.finish index circumstances,
    { state with finished := (index, result) :: state.finished }, ?_⟩
  simp only [Program.step, Program.finish, started, unfinished, Option.isNone_none, and_self,
    if_true, List.getElem?_eq_getElem inside, worked]

omit fixed in
/-- The caller never waits for a task that cannot finish. -/
theorem Inv.progress {state : State ε β σ} (invariant : program.Inv outcome state) :
    (∃ result, state.stage = .returned result) ∨
      ∃ action next, program.step state action = some next := by
  cases current : state.stage with
  | launching =>
      refine .inr ⟨.caller, ?_⟩
      simp only [Program.step, caller, current]
      split <;> exact ⟨_, rfl⟩
  | collecting collected total =>
      have all := invariant.all_launched current (by simp)
      by_cases more : collected < program.tasks.length
      · cases ready : state.finished.lookup collected with
        | none => exact .inr (invariant.can_finish ends (all ▸ more) ready)
        | some result =>
            refine .inr ⟨.caller, ?_⟩
            simp only [Program.step, caller, current, more, if_true, ready]
            cases result <;> exact ⟨_, rfl⟩
      · refine .inr ⟨.caller, ?_⟩
        simp only [Program.step, caller, current, more, if_false]
        exact ⟨_, rfl⟩
  | unwinding fault =>
      cases all : state.allFinished with
      | false =>
          rcases state.exists_unfinished all with ⟨index, started, unfinished⟩
          exact .inr (invariant.can_finish ends started unfinished)
      | true =>
          refine .inr ⟨.caller, ?_⟩
          simp only [Program.step, caller, current, all, if_true]
          exact ⟨_, rfl⟩
  | returned result => exact .inl ⟨result, rfl⟩

/-- A run takes a bounded number of steps, and any run can be continued until the caller
returns. -/
theorem run_ends {actions : List (Action ω)} {state : State ε β σ}
    (ran : Transition.run program.step State.initial actions = some state) :
    actions.length ≤ 3 * program.tasks.length + 2 ∧
      ∃ others final result, Transition.run program.step State.initial (actions ++ others) =
        some final ∧ final.stage = .returned result := by
  constructor
  · have short := Transition.length_le_of_variant (program.Inv outcome) program.remaining
      Inv.initial (fun _ _ _ kept stepped => kept.step fixed stepped)
      (fun _ _ _ kept stepped => kept.remaining_lt fixed stepped) ran
    rw [remaining_initial] at short
    omega
  · have invariant := Transition.run_invariant (program.Inv outcome) Inv.initial
      (fun _ _ _ kept stepped => kept.step fixed stepped) ran
    rcases Transition.exists_run_of_variant (program.Inv outcome)
        (fun state => ∃ result, state.stage = .returned result) program.remaining
        (fun _ _ _ kept stepped => kept.step fixed stepped)
        (fun _ _ _ kept stepped => kept.remaining_lt fixed stepped)
        (fun _ kept => kept.progress ends) invariant with
      ⟨others, final, continued, result, returned⟩
    exact ⟨others, final, result, Transition.run_append ran continued, returned⟩

end Outcomes

end Program

end BinanceApi.ForkJoin
