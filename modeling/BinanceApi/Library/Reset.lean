import Mathlib.Data.List.Induction
import Mathlib.Tactic.Common

/-!
# Settings of objects that are built anew

Some inputs set a setting, all others leave it.  The setting lives in an object that
certain inputs replace by a fresh one, which has the value that the object starts with.
-/

namespace BinanceApi.Reset

variable {σ ι : Type*}

/-- The value that was set last, or the one to start with. -/
def lastSet (set? : ι → Option σ) (start : σ) (inputs : List ι) : σ :=
  (inputs.filterMap set?).getLast?.getD start

/-- The value that an object has which some inputs build anew. -/
def rebuilt (resets : ι → Bool) (set? : ι → Option σ) (start : σ) (inputs : List ι) : σ :=
  inputs.foldl
    (fun value input => if resets input then start else (set? input).getD value) start

theorem lastSet_concat (set? : ι → Option σ) (start : σ) (inputs : List ι) (input : ι) :
    lastSet set? start (inputs ++ [input]) =
      (set? input).getD (lastSet set? start inputs) := by
  cases set : set? input <;> simp [lastSet, set]

theorem rebuilt_concat (resets : ι → Bool) (set? : ι → Option σ) (start : σ)
    (inputs : List ι) (input : ι) :
    rebuilt resets set? start (inputs ++ [input]) =
      if resets input then start
      else (set? input).getD (rebuilt resets set? start inputs) := by
  simp [rebuilt]

/-- A rebuilt object has the value that was set last, at every moment, exactly when that
is the value to start with whenever the object is rebuilt. -/
theorem rebuilt_eq_lastSet_iff {resets : ι → Bool} {set? : ι → Option σ} (start : σ)
    (resetsOnly : ∀ input, resets input = true → set? input = none) (inputs : List ι) :
    (∀ front, front <+: inputs →
      rebuilt resets set? start front = lastSet set? start front) ↔
    ∀ front input, front ++ [input] <+: inputs → resets input = true →
      lastSet set? start front = start := by
  constructor
  · intro agree front input isPrefix reset
    have after := agree (front ++ [input]) isPrefix
    rw [rebuilt_concat, lastSet_concat, if_pos reset, resetsOnly input reset] at after
    exact after.symm
  · intro fresh front isPrefix
    induction front using List.reverseRecOn with
    | nil => rfl
    | append_singleton front input ih =>
        have before := ih ((List.prefix_append front [input]).trans isPrefix)
        rw [rebuilt_concat, lastSet_concat]
        cases reset : resets input with
        | false => simp [before]
        | true =>
            rw [if_pos rfl, resetsOnly input reset]
            exact (fresh front input isPrefix reset).symm

end BinanceApi.Reset
