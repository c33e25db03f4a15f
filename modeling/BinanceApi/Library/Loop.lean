import Mathlib.Tactic.Common

/-!
# Unbounded loops

A loop is given by its body: a function that either hands the next state to
another turn or leaves the loop with a value.  Execution is bounded by fuel so
that it stays computable, and `Returns` forgets the fuel.  Termination is always
an explicit statement: a loop returns because a variant decreases, never because
the definition says so.
-/

namespace BinanceApi.Loop

universe u v

/-- Outcome of one turn: run the body again, or leave the loop. -/
inductive Turn (σ : Type u) (α : Type v) where
  | again (state : σ)
  | leave (value : α)
  deriving DecidableEq, Repr

variable {σ : Type u} {α : Type v} {body : σ → Turn σ α}

/-- Execute at most `fuel` turns of the body. -/
def run (body : σ → Turn σ α) : Nat → σ → Option α
  | 0, _ => none
  | fuel + 1, state =>
      match body state with
      | .again next => run body fuel next
      | .leave value => some value

/-- The loop leaves with `value` after finitely many turns. -/
def Returns (body : σ → Turn σ α) (state : σ) (value : α) : Prop :=
  ∃ fuel, run body fuel state = some value

/-- A program that takes fuel ends with `value`: some fuel suffices, and any more
gives the same value. -/
def Ends (program : Nat → Option α) (value : α) : Prop :=
  ∃ fuel, ∀ extra, program (fuel + extra) = some value

theorem run_succ_again {fuel : Nat} {state next : σ}
    (turn : body state = .again next) :
    run body (fuel + 1) state = run body fuel next := by
  simp [run, turn]

theorem run_succ_leave {fuel : Nat} {state : σ} {value : α}
    (turn : body state = .leave value) :
    run body (fuel + 1) state = some value := by
  simp [run, turn]

/-- More fuel never changes the value a loop leaves with. -/
theorem run_mono {fuel extra : Nat} {state : σ} {value : α}
    (finished : run body fuel state = some value) :
    run body (fuel + extra) state = some value := by
  induction fuel generalizing state with
  | zero => simp [run] at finished
  | succ fuel ih =>
      rw [Nat.add_right_comm]
      cases turn : body state with
      | again next =>
          rw [run_succ_again turn] at finished ⊢
          exact ih finished
      | leave left =>
          rw [run_succ_leave turn] at finished ⊢
          exact finished

theorem Returns.ends {state : σ} {value : α} (returns : Returns body state value) :
    Ends (fun fuel => run body fuel state) value := by
  rcases returns with ⟨fuel, finished⟩
  exact ⟨fuel, fun _ => run_mono finished⟩

theorem Ends.returns {state : σ} {value : α}
    (ends : Ends (fun fuel => run body fuel state) value) :
    Returns body state value := by
  rcases ends with ⟨fuel, finished⟩
  exact ⟨fuel, finished 0⟩

/-- A program ends with at most one value. -/
theorem Ends.unique {program : Nat → Option α} {left right : α}
    (leftEnds : Ends program left) (rightEnds : Ends program right) :
    left = right := by
  rcases leftEnds with ⟨leftFuel, leftValue⟩
  rcases rightEnds with ⟨rightFuel, rightValue⟩
  have same := leftValue rightFuel
  rw [Nat.add_comm, rightValue leftFuel] at same
  exact (Option.some.inj same).symm

/-- A loop leaves with at most one value. -/
theorem Returns.unique {state : σ} {left right : α}
    (leftReturns : Returns body state left)
    (rightReturns : Returns body state right) : left = right :=
  leftReturns.ends.unique rightReturns.ends

theorem returns_of_leave {state : σ} {value : α}
    (turn : body state = .leave value) : Returns body state value :=
  ⟨1, run_succ_leave turn⟩

/-- A turn that goes on does not change the value of the loop. -/
theorem returns_again_iff {state next : σ} {value : α}
    (turn : body state = .again next) :
    Returns body state value ↔ Returns body next value := by
  constructor
  · intro returns
    rcases returns with ⟨fuel, finished⟩
    cases fuel with
    | zero => simp [run] at finished
    | succ fuel => exact ⟨fuel, (run_succ_again turn).symm.trans finished⟩
  · intro returns
    rcases returns with ⟨fuel, finished⟩
    exact ⟨fuel + 1, (run_succ_again turn).trans finished⟩

theorem returns_leave_iff {state : σ} {left value : α}
    (turn : body state = .leave left) :
    Returns body state value ↔ left = value := by
  constructor
  · exact (returns_of_leave turn).unique
  · intro equal
    subst equal
    exact returns_of_leave turn

/-- Partial correctness: what every turn preserves, and every exit turns into
the postcondition, holds of whatever the loop returns. -/
theorem Returns.post (Inv : σ → Prop) (Post : α → Prop)
    (again : ∀ state next, Inv state → body state = .again next → Inv next)
    (leave : ∀ state value, Inv state → body state = .leave value → Post value)
    {state : σ} {value : α} (returns : Returns body state value)
    (start : Inv state) : Post value := by
  rcases returns with ⟨fuel, finished⟩
  induction fuel generalizing state with
  | zero => simp [run] at finished
  | succ fuel ih =>
      cases turn : body state with
      | again next =>
          rw [run_succ_again turn] at finished
          exact ih (again state next start turn) finished
      | leave left =>
          rw [run_succ_leave turn, Option.some.injEq] at finished
          exact finished ▸ leave state left start turn

/-- Total correctness: an invariant with a natural-number variant that every
further turn decreases makes the loop return within `variant + 1` turns. -/
theorem run_of_variant (Inv : σ → Prop) (Post : α → Prop) (variant : σ → Nat)
    (again : ∀ state next, Inv state → body state = .again next →
      Inv next ∧ variant next < variant state)
    (leave : ∀ state value, Inv state → body state = .leave value → Post value)
    {state : σ} (start : Inv state) :
    ∃ value, run body (variant state + 1) state = some value ∧ Post value := by
  suffices bounded : ∀ bound state, Inv state → variant state ≤ bound →
      ∃ value, run body (bound + 1) state = some value ∧ Post value from
    bounded (variant state) state start (Nat.le_refl _)
  intro bound
  induction bound with
  | zero =>
      intro state invariant small
      cases turn : body state with
      | again next =>
          have decreases := (again state next invariant turn).2
          omega
      | leave value =>
          exact ⟨value, run_succ_leave turn, leave state value invariant turn⟩
  | succ bound ih =>
      intro state invariant small
      cases turn : body state with
      | again next =>
          rcases again state next invariant turn with ⟨kept, decreases⟩
          rw [run_succ_again turn]
          exact ih next kept (by omega)
      | leave value =>
          exact ⟨value, run_succ_leave turn, leave state value invariant turn⟩

theorem returns_of_variant (Inv : σ → Prop) (Post : α → Prop) (variant : σ → Nat)
    (again : ∀ state next, Inv state → body state = .again next →
      Inv next ∧ variant next < variant state)
    (leave : ∀ state value, Inv state → body state = .leave value → Post value)
    {state : σ} (start : Inv state) :
    ∃ value, Returns body state value ∧ Post value := by
  rcases run_of_variant Inv Post variant again leave start with ⟨value, finished, post⟩
  exact ⟨value, ⟨_, finished⟩, post⟩

/-! ## Loops without end -/

/-- The states in which a turn begins. -/
inductive Reaches (body : σ → Turn σ α) (start : σ) : σ → Prop where
  | start : Reaches body start start
  | again {state next : σ} (reached : Reaches body start state)
      (turn : body state = .again next) : Reaches body start next

/-- What a loop reaches after a turn, it reaches from where that turn leads. -/
theorem Reaches.of_again {start second state : σ} (reached : Reaches body start state)
    (turn : body start = .again second) : state = start ∨ Reaches body second state := by
  induction reached with
  | start => exact .inl rfl
  | again before last ih =>
      rcases ih with rfl | later
      · rw [turn, Turn.again.injEq] at last
        subst last
        exact .inr .start
      · exact .inr (later.again last)

/-- A loop whose first turn leaves begins no other. -/
theorem Reaches.of_leave {start state : σ} {value : α}
    (reached : Reaches body start state) (turn : body start = .leave value) :
    state = start := by
  induction reached with
  | start => rfl
  | again before last ih =>
      rw [ih, turn] at last
      cases last

/-- A loop that returns counts up to a bound only. -/
theorem Returns.bounded {state : σ} {value : α} (returns : Returns body state value)
    (count : σ → Nat) :
    ∃ bound, ∀ reached, Reaches body state reached → count reached ≤ bound := by
  rcases returns with ⟨fuel, finished⟩
  induction fuel generalizing state with
  | zero => simp [run] at finished
  | succ fuel ih =>
      cases turn : body state with
      | again next =>
          rw [run_succ_again turn] at finished
          rcases ih finished with ⟨bound, below⟩
          refine ⟨max (count state) bound, ?_⟩
          intro reached reaches
          rcases reaches.of_again turn with rfl | later
          · exact Nat.le_max_left _ _
          · exact Nat.le_trans (below reached later) (Nat.le_max_right _ _)
      | leave left =>
          refine ⟨count state, ?_⟩
          intro reached reaches
          exact Nat.le_of_eq (congrArg count (reaches.of_leave turn))

/-- An invariant that allows another turn in every state keeps the loop going, and a
counter that each of these turns raises passes every bound. -/
theorem unbounded_of_progress (Inv : σ → Prop) (count : σ → Nat)
    (progress : ∀ state, Inv state →
      ∃ next, body state = .again next ∧ Inv next ∧ count state < count next)
    {state : σ} (start : Inv state) (bound : Nat) :
    ∃ reached, Reaches body state reached ∧ Inv reached ∧ bound ≤ count reached := by
  induction bound with
  | zero => exact ⟨state, .start, start, Nat.zero_le _⟩
  | succ bound ih =>
      rcases ih with ⟨last, reaches, invariant, above⟩
      rcases progress last invariant with ⟨next, turn, kept, more⟩
      exact ⟨next, reaches.again turn, kept, by omega⟩

/-! ## Where a loop leaves -/

/-- The loop leaves with `value` in a turn that begins in `last`. -/
structure Leaves (body : σ → Turn σ α) (start last : σ) (value : α) : Prop where
  reached : Reaches body start last
  turn : body last = .leave value

theorem Reaches.after {start second state : σ} (turn : body start = .again second)
    (reached : Reaches body second state) : Reaches body start state := by
  induction reached with
  | start => exact Reaches.start.again turn
  | again _ last ih => exact ih.again last

/-- What every turn keeps holds where the loop leaves. -/
theorem Reaches.inv (Inv : σ → Prop)
    (again : ∀ state next, Inv state → body state = .again next → Inv next)
    {start state : σ} (reached : Reaches body start state) (initial : Inv start) :
    Inv state := by
  induction reached with
  | start => exact initial
  | again _ turn ih => exact again _ _ ih turn

/-- A loop that returns leaves somewhere. -/
theorem Returns.leaves {state : σ} {value : α} (returns : Returns body state value) :
    ∃ last, Leaves body state last value := by
  rcases returns with ⟨fuel, finished⟩
  induction fuel generalizing state with
  | zero => simp [run] at finished
  | succ fuel ih =>
      cases turn : body state with
      | again next =>
          rw [run_succ_again turn] at finished
          rcases ih finished with ⟨last, reached, leave⟩
          exact ⟨last, reached.after turn, leave⟩
      | leave left =>
          rw [run_succ_leave turn, Option.some.injEq] at finished
          exact ⟨state, .start, finished ▸ turn⟩

end BinanceApi.Loop
