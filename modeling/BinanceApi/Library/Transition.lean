import Mathlib.Data.List.Induction
import Mathlib.Tactic.Common

/-!
# Runs of a transition system

A transition system is given by its step function: an action is possible in a
state or not, and leads to one state.  A run is a list of actions, each possible
when its turn comes.  Properties of all states of a run are reduced to properties
of single steps.
-/

namespace BinanceApi.Transition

variable {σ α : Type*} {step : σ → α → Option σ} {start : σ}

/-- The state after a list of actions, if each of them is possible. -/
def run (step : σ → α → Option σ) (start : σ) (actions : List α) : Option σ :=
  actions.foldlM step start

theorem run_concat (step : σ → α → Option σ) (start : σ) (actions : List α)
    (action : α) :
    run step start (actions ++ [action]) =
      (run step start actions).bind fun state => step state action := by
  simp [run, List.foldlM_append, Option.bind_eq_bind]

/-- The part of a run before its last action is a run. -/
theorem run_concat_eq_some {actions : List α} {action : α} {next : σ}
    (ran : run step start (actions ++ [action]) = some next) :
    ∃ state, run step start actions = some state ∧ step state action = some next := by
  rw [run_concat] at ran
  exact Option.bind_eq_some_iff.mp ran

/-- Two runs, the second from where the first ends, are one. -/
theorem run_append {front back : List α} {middle final : σ}
    (first : run step start front = some middle)
    (second : run step middle back = some final) :
    run step start (front ++ back) = some final := by
  rw [run, List.foldlM_append]
  exact Option.bind_eq_some_iff.mpr ⟨middle, first, second⟩

/-- A run is cut between any two of its actions. -/
theorem run_append_eq_some {front back : List α} {final : σ}
    (ran : run step start (front ++ back) = some final) :
    ∃ middle, run step start front = some middle ∧ run step middle back = some final := by
  rw [run, List.foldlM_append] at ran
  exact Option.bind_eq_some_iff.mp ran

/-- Each action of a run was possible when its turn came. -/
theorem step_of_run_eq_some {front back : List α} {action : α} {state final : σ}
    (ran : run step start (front ++ action :: back) = some final)
    (reached : run step start front = some state) :
    ∃ next, step state action = some next := by
  rcases run_append_eq_some ran with ⟨middle, first, rest⟩
  rw [reached] at first
  cases first
  rcases Option.bind_eq_some_iff.mp rest with ⟨next, stepped, -⟩
  exact ⟨next, stepped⟩

/-- What every step keeps holds in every state of a run. -/
theorem run_invariant (Inv : σ → Prop) (initial : Inv start)
    (kept : ∀ state action next, Inv state → step state action = some next → Inv next)
    {actions : List α} {final : σ} (ran : run step start actions = some final) :
    Inv final := by
  induction actions using List.reverseRecOn generalizing final with
  | nil =>
      cases ran
      exact initial
  | append_singleton actions action ih =>
      rcases run_concat_eq_some ran with ⟨state, before, last⟩
      exact kept state action final (ih before) last

/-- Every state that a run reaches, its first and last included. -/
def AllStates (step : σ → α → Option σ) (start : σ) (actions : List α)
    (P : σ → Prop) : Prop :=
  ∀ front back state, front ++ back = actions → run step start front = some state →
    P state

/-- Every step of a run, as the state it starts from and its action. -/
def AllSteps (step : σ → α → Option σ) (start : σ) (actions : List α)
    (Q : σ → α → Prop) : Prop :=
  ∀ front action back state, front ++ action :: back = actions →
    run step start front = some state → Q state action

theorem allStates_concat {actions : List α} {action : α} {next : σ} {P : σ → Prop}
    (ran : run step start (actions ++ [action]) = some next) :
    AllStates step start (actions ++ [action]) P ↔
      AllStates step start actions P ∧ P next := by
  constructor
  · intro all
    constructor
    · intro front back state split before
      apply all front (back ++ [action]) state _ before
      rw [← List.append_assoc, split]
    · exact all _ [] next (List.append_nil _) ran
  · intro both front back state split before
    rcases both with ⟨earlier, last⟩
    cases back using List.reverseRecOn with
    | nil =>
        rw [List.append_nil] at split
        rw [split, ran] at before
        cases before
        exact last
    | append_singleton back action =>
        rw [← List.append_assoc] at split
        exact earlier front back state (List.append_inj_left' split rfl) before

theorem allSteps_nil {Q : σ → α → Prop} : AllSteps step start [] Q := by
  intro front action back state split _
  simp at split

theorem allSteps_concat {actions : List α} {action : α} {state : σ} {Q : σ → α → Prop}
    (ran : run step start actions = some state) :
    AllSteps step start (actions ++ [action]) Q ↔
      AllSteps step start actions Q ∧ Q state action := by
  constructor
  · intro all
    constructor
    · intro front first back reached split before
      apply all front first (back ++ [action]) reached _ before
      rw [← List.cons_append, ← List.append_assoc, split]
    · exact all actions action [] state rfl ran
  · intro both front first back reached split before
    rcases both with ⟨earlier, last⟩
    cases back using List.reverseRecOn with
    | nil =>
        rcases List.append_inj' split rfl with ⟨frontEq, firstEq⟩
        rw [frontEq, ran] at before
        cases before
        cases firstEq
        exact last
    | append_singleton back _ =>
        rw [← List.cons_append, ← List.append_assoc] at split
        exact earlier front first back reached (List.append_inj_left' split rfl) before

theorem allSteps_cons {actions : List α} {action : α} {next : σ} {Q : σ → α → Prop}
    (stepped : step start action = some next) :
    AllSteps step start (action :: actions) Q ↔
      Q start action ∧ AllSteps step next actions Q := by
  have onward : ∀ front state, run step next front = some state ↔
      run step start (action :: front) = some state := by
    intro front state
    simp [run, stepped]
  constructor
  · intro all
    refine ⟨all [] action actions start rfl rfl, ?_⟩
    intro front other back state split before
    exact all (action :: front) other back state (by rw [← split]; rfl)
      ((onward front state).mp before)
  · intro both front other back state split before
    cases front with
    | nil =>
        cases split
        cases before
        exact both.1
    | cons first front =>
        cases split
        exact both.2 front other back state rfl ((onward front state).mpr before)

theorem allSteps_cons_of_stuck {actions : List α} {action : α} {Q : σ → α → Prop}
    (stuck : step start action = none) :
    AllSteps step start (action :: actions) Q ↔ Q start action := by
  constructor
  · intro all
    exact all [] action actions start rfl rfl
  · intro holds front other back state split before
    cases front with
    | nil =>
        cases split
        cases before
        exact holds
    | cons first front =>
        cases split
        simp [run, stuck] at before

/-- The steps of a run are checked one after the other, as far as it goes. -/
instance decidableAllSteps (Q : σ → α → Prop)
    [∀ state action, Decidable (Q state action)] :
    (start : σ) → (actions : List α) → Decidable (AllSteps step start actions Q)
  | _, [] => isTrue allSteps_nil
  | start, action :: actions =>
      match stepped : step start action with
      | none => decidable_of_iff _ (allSteps_cons_of_stuck stepped).symm
      | some next =>
          have := decidableAllSteps Q next actions
          decidable_of_iff _ (allSteps_cons stepped).symm

/-- What sound steps keep holds after a run of sound steps. -/
theorem run_invariant_of_allSteps (Inv : σ → Prop) {Sound : σ → α → Prop}
    (initial : Inv start)
    (kept : ∀ state action next, Inv state → Sound state action →
      step state action = some next → Inv next)
    {actions : List α} {final : σ} (ran : run step start actions = some final)
    (sound : AllSteps step start actions Sound) : Inv final := by
  induction actions using List.reverseRecOn generalizing final with
  | nil =>
      cases ran
      exact initial
  | append_singleton actions action ih =>
      rcases run_concat_eq_some ran with ⟨state, before, last⟩
      rcases (allSteps_concat before).mp sound with ⟨earlier, good⟩
      exact kept state action final (ih before earlier) good last

/-- If a step leads from a good state to a good one exactly when it is sound, then
a run stays in good states exactly when all its steps are sound. -/
theorem allStates_iff_allSteps (Inv : σ → Prop) {P : σ → Prop} {Sound : σ → α → Prop}
    (initialInv : Inv start) (initial : P start)
    (kept : ∀ state action next, Inv state → step state action = some next → Inv next)
    (exact : ∀ state action next, Inv state → P state →
      step state action = some next → (P next ↔ Sound state action))
    {actions : List α} {final : σ} (ran : run step start actions = some final) :
    AllStates step start actions P ↔ AllSteps step start actions Sound := by
  induction actions using List.reverseRecOn generalizing final with
  | nil =>
      constructor
      · intro _
        exact allSteps_nil
      · intro _ front back state split before
        rw [(List.append_eq_nil_iff.mp split).1] at before
        cases before
        exact initial
  | append_singleton actions action ih =>
      rcases run_concat_eq_some ran with ⟨state, before, last⟩
      have invariant : Inv state := run_invariant Inv initialInv kept before
      rw [allStates_concat ran, allSteps_concat before, ih before]
      constructor
      · intro both
        have good : P state := (ih before).mpr both.1 actions [] state
          (List.append_nil _) before
        exact ⟨both.1, (exact state action final invariant good last).mp both.2⟩
      · intro both
        have good : P state := (ih before).mpr both.1 actions [] state
          (List.append_nil _) before
        exact ⟨both.1, (exact state action final invariant good last).mpr both.2⟩

/-! ## Runs that come to an end -/

/-- A variant that every step lowers bounds the number of actions. -/
theorem length_le_of_variant (Inv : σ → Prop) (variant : σ → Nat) (initial : Inv start)
    (kept : ∀ state action next, Inv state → step state action = some next → Inv next)
    (lowers : ∀ state action next, Inv state → step state action = some next →
      variant next < variant state)
    {actions : List α} {final : σ} (ran : run step start actions = some final) :
    actions.length + variant final ≤ variant start := by
  induction actions using List.reverseRecOn generalizing final with
  | nil =>
      cases ran
      simp
  | append_singleton actions action ih =>
      rcases run_concat_eq_some ran with ⟨state, before, last⟩
      have invariant : Inv state := run_invariant Inv initial kept before
      have lower := lowers state action final invariant last
      have short := ih before
      rw [List.length_append, List.length_singleton]
      omega

/-- Where some step is possible in every state that is not final, and all steps lower a
variant, a final state can be reached. -/
theorem exists_run_of_variant (Inv Final : σ → Prop) (variant : σ → Nat)
    (kept : ∀ state action next, Inv state → step state action = some next → Inv next)
    (lowers : ∀ state action next, Inv state → step state action = some next →
      variant next < variant state)
    (progress : ∀ state, Inv state → Final state ∨ ∃ action next,
      step state action = some next)
    {state : σ} (invariant : Inv state) :
    ∃ actions final, run step state actions = some final ∧ Final final := by
  induction bound : variant state using Nat.strongRecOn generalizing state with
  | ind bound ih =>
      rcases progress state invariant with final | ⟨action, next, stepped⟩
      · exact ⟨[], state, rfl, final⟩
      · have lower := lowers state action next invariant stepped
        rcases ih (variant next) (bound ▸ lower) (kept state action next invariant stepped)
          rfl with ⟨actions, final, ran, isFinal⟩
        have first : run step state [action] = some next := by simp [run, stepped]
        exact ⟨action :: actions, final, run_append first ran, isFinal⟩

end BinanceApi.Transition
