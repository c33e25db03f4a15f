import Mathlib.Data.List.Induction
import Mathlib.Tactic.Common

/-!
# Machines with a log

A machine takes inputs one at a time; every input changes its state and produces
an output.  A run keeps the outputs in a log.  What every input preserves about
the state and the log holds after every run.
-/

namespace BinanceApi.Machine

variable {σ ι ο : Type*}

/-- Feed one input to a machine and append its output to the log. -/
def feed (step : σ → ι → σ × ο) (current : σ × List ο) (input : ι) : σ × List ο :=
  let (next, output) := step current.1 input
  (next, current.2 ++ [output])

/-- The state after a list of inputs, and the outputs in order. -/
def run (step : σ → ι → σ × ο) (start : σ) (inputs : List ι) : σ × List ο :=
  inputs.foldl (feed step) (start, [])

theorem run_concat (step : σ → ι → σ × ο) (start : σ) (inputs : List ι) (input : ι) :
    run step start (inputs ++ [input]) = feed step (run step start inputs) input := by
  simp [run]

/-- The state after a run does not depend on the log. -/
theorem run_fst (step : σ → ι → σ × ο) (start : σ) (inputs : List ι) :
    (run step start inputs).1 =
      inputs.foldl (fun state input => (step state input).1) start := by
  induction inputs using List.reverseRecOn with
  | nil => rfl
  | append_singleton inputs input ih =>
      rw [run_concat, List.foldl_append, ← ih]
      rfl

/-- Invariants of the state and the log hold after every run. -/
theorem run_invariant {step : σ → ι → σ × ο} (Inv : σ → List ο → Prop)
    (preserved : ∀ state log input, Inv state log →
      Inv (step state input).1 (log ++ [(step state input).2]))
    {start : σ} (initial : Inv start []) (inputs : List ι) :
    Inv (run step start inputs).1 (run step start inputs).2 := by
  induction inputs using List.reverseRecOn with
  | nil => exact initial
  | append_singleton inputs input ih =>
      rw [run_concat]
      exact preserved _ _ input ih

/-- What tells an output's input tells the inputs from the log. -/
theorem run_map {κ : Type*} {step : σ → ι → σ × ο} {told : ο → κ} {asked : ι → κ}
    (tells : ∀ state input, told (step state input).2 = asked input) (start : σ)
    (inputs : List ι) :
    (run step start inputs).2.map told = inputs.map asked := by
  induction inputs using List.reverseRecOn with
  | nil => rfl
  | append_singleton inputs input ih =>
      rw [run_concat, feed, List.map_append, List.map_append, ih]
      exact congrArg (inputs.map asked ++ [·]) (tells _ input)

/-- What an invariant says of each output and the log before it holds all along the
log. -/
theorem run_each {step : σ → ι → σ × ο} (Inv : σ → List ο → Prop)
    (Right : List ο → ο → Prop)
    (preserved : ∀ state log input, Inv state log →
      Inv (step state input).1 (log ++ [(step state input).2]))
    (right : ∀ state log input, Inv state log → Right log (step state input).2)
    {start : σ} (initial : Inv start []) (inputs : List ι) :
    ∀ front output back, (run step start inputs).2 = front ++ output :: back →
      Right front output := by
  refine (run_invariant
    (fun state log => Inv state log ∧
      ∀ front output back, log = front ++ output :: back → Right front output)
    ?_ ⟨initial, by simp⟩ inputs).2
  rintro state log input ⟨inv, earlier⟩
  refine ⟨preserved state log input inv, ?_⟩
  intro front output back split
  cases back using List.reverseRecOn with
  | nil =>
      rcases List.append_inj' split rfl with ⟨rfl, same⟩
      cases same
      exact right state log input inv
  | append_singleton back last =>
      rw [← List.cons_append, ← List.append_assoc] at split
      exact earlier front output back (List.append_inj' split rfl).1

end BinanceApi.Machine
