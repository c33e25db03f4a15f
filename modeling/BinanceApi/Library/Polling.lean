import Mathlib.Tactic.Common

/-!
# Polling loops

A reader tries an operation again and again until it gives a value, the tries are
used up, or it is told to stop.  Between two tries others may change the shared
state.
-/

namespace BinanceApi.Polling

variable {σ α : Type*}

/-- Try `poll` at most `left` times, starting with try number `numTries`.  The
loop stops before a try at which `stopped` holds; `others` is what happens to the
state after a failed try. -/
def loop (poll : σ → Option α × σ) (others : Nat → σ → σ) (stopped : Nat → Bool) :
    (numTries left : Nat) → σ → Option α × σ
  | _, 0, state => (none, state)
  | numTries, left + 1, state =>
      if stopped numTries then (none, state)
      else
        match poll state with
        | (some value, next) => (some value, next)
        | (none, next) =>
            loop poll others stopped (numTries + 1) left (others numTries next)

/-- The state that try number `numTries + count` finds when the tries before it
fail and change nothing. -/
def stateAt (others : Nat → σ → σ) (numTries : Nat) (state : σ) : Nat → σ
  | 0 => state
  | count + 1 => stateAt others (numTries + 1) (others numTries state) count

/-- What a polling loop returns is what one of its tries found. -/
theorem exists_try_of_loop {poll : σ → Option α × σ} {others : Nat → σ → σ}
    {stopped : Nat → Bool}
    (unchanged : ∀ state, (poll state).1 = none → (poll state).2 = state)
    {numTries left : Nat} {state next : σ} {value : α}
    (found : loop poll others stopped numTries left state = (some value, next)) :
    ∃ count < left, poll (stateAt others numTries state count) = (some value, next) := by
  induction left generalizing numTries state with
  | zero => simp [loop] at found
  | succ left ih =>
      rw [loop] at found
      split at found
      · cases found
      · split at found
        next first outcome =>
          rw [← found]
          exact ⟨0, Nat.succ_pos left, outcome⟩
        next failed outcome =>
          have same : failed = state := by
            simpa [outcome] using unchanged state (by rw [outcome])
          rcases ih found with ⟨count, inside, success⟩
          refine ⟨count + 1, Nat.succ_lt_succ inside, ?_⟩
          rw [← same]
          exact success

/-- The loop returns what the first successful try finds, if that try is among those that
are left and the loop is not stopped before it. -/
theorem loop_eq_some_iff {poll : σ → Option α × σ} {others : Nat → σ → σ}
    {stopped : Nat → Bool}
    (unchanged : ∀ state, (poll state).1 = none → (poll state).2 = state)
    {numTries left : Nat} {state : σ} {value : α} :
    (loop poll others stopped numTries left state).1 = some value ↔
      ∃ count < left, (∀ earlier ≤ count, stopped (numTries + earlier) = false) ∧
        (∀ earlier < count, (poll (stateAt others numTries state earlier)).1 = none) ∧
        (poll (stateAt others numTries state count)).1 = some value := by
  induction left generalizing numTries state with
  | zero => simp [loop]
  | succ left ih =>
      rw [loop]
      split
      next stop =>
        constructor
        · intro found
          cases found
        · rintro ⟨count, -, going, -, -⟩
          have begun := going 0 (Nat.zero_le _)
          rw [Nat.add_zero, stop] at begun
          cases begun
      next going =>
        have going : stopped numTries = false := by simpa using going
        split
        next found next outcome =>
          constructor
          · intro same
            refine ⟨0, Nat.succ_pos left, ?_, nofun, ?_⟩
            · intro earlier first
              rw [Nat.le_zero.mp first]
              exact going
            · change (poll state).1 = some value
              rw [outcome]
              exact same
          · rintro ⟨count, -, -, failed, success⟩
            cases count with
            | zero =>
                change (poll state).1 = some value at success
                rw [outcome] at success
                exact success
            | succ count =>
                have first : (poll state).1 = none := failed 0 (Nat.succ_pos count)
                rw [outcome] at first
                cases first
        next failed outcome =>
          have none : (poll state).1 = none := by rw [outcome]
          have same : failed = state := by simpa [outcome] using unchanged state none
          rw [same, ih]
          constructor
          · rintro ⟨count, inside, running, before, success⟩
            refine ⟨count + 1, Nat.succ_lt_succ inside, ?_, ?_, success⟩
            · intro earlier reached
              cases earlier with
              | zero => exact going
              | succ earlier =>
                  rw [← Nat.add_assoc, Nat.add_right_comm]
                  exact running earlier (Nat.le_of_succ_le_succ reached)
            · intro earlier reached
              cases earlier with
              | zero => exact none
              | succ earlier => exact before earlier (Nat.lt_of_succ_lt_succ reached)
          · rintro ⟨count, inside, running, before, success⟩
            cases count with
            | zero =>
                change (poll state).1 = some value at success
                rw [none] at success
                cases success
            | succ count =>
                refine ⟨count, Nat.lt_of_succ_lt_succ inside, ?_, ?_, success⟩
                · intro earlier reached
                  rw [Nat.add_right_comm, Nat.add_assoc]
                  exact running (earlier + 1) (Nat.succ_le_succ reached)
                · intro earlier reached
                  exact before (earlier + 1) (Nat.succ_lt_succ reached)

/-- When the others apply the inputs `between n` after try number `n`, a reader sees
the states of one long run. -/
theorem stateAt_foldl {ι : Type*} (step : σ → ι → σ) (between : Nat → List ι)
    (numTries : Nat) (state : σ) (count : Nat) :
    stateAt (fun n current => (between n).foldl step current) numTries state count =
      ((List.range' numTries count).flatMap between).foldl step state := by
  induction count generalizing numTries state with
  | zero => rfl
  | succ count ih =>
      rw [stateAt, ih, List.range'_succ, List.flatMap_cons, List.foldl_append]

end BinanceApi.Polling
