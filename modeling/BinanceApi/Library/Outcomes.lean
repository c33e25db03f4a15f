import Mathlib.Tactic.Common

/-!
# Avoiding faults

Some of the faults that a computation can end with are worse than others.  Whether a
sequence of computations avoids these depends on the first computation that does not
return: what follows it is not run.
-/

namespace BinanceApi.Outcomes

universe u v w

variable {ε : Type u} {α β : Type v} {bad : ε → Prop}

/-- The computation returns, or ends with a fault that is not a bad one. -/
def Avoids (bad : ε → Prop) (result : Except ε α) : Prop :=
  ∀ fault, result = .error fault → ¬bad fault

theorem avoids_ok (value : α) : Avoids bad (.ok value) := by
  intro fault failed
  cases failed

theorem avoids_error_iff {fault : ε} : Avoids bad (.error fault : Except ε α) ↔ ¬bad fault := by
  constructor
  · intro avoids
    exact avoids fault rfl
  · intro good other failed
    cases failed
    exact good

theorem isOk_iff {result : Except ε α} : result.isOk = true ↔ ∃ value, result = .ok value := by
  cases result <;> simp [Except.isOk, Except.toBool]

/-- A condition that holds of all values of a computation holds if it returns. -/
theorem forall_ok_iff {result : Except ε α} {p : Prop} :
    (∀ value, result = .ok value → p) ↔ (result.isOk = true → p) := by
  rw [isOk_iff, exists_imp]

/-- A sequence of two computations avoids the bad faults if the first does, and the second
one does where it is run. -/
theorem avoids_bind_iff {result : Except ε α} {next : α → Except ε β} :
    Avoids bad (result >>= next) ↔
      Avoids bad result ∧ ∀ value, result = .ok value → Avoids bad (next value) := by
  cases result with
  | error fault =>
      have ends : (Except.error fault >>= next) = .error fault := rfl
      rw [ends, avoids_error_iff, avoids_error_iff]
      constructor
      · intro good
        exact ⟨good, fun value returned => by cases returned⟩
      · exact And.left
  | ok value =>
      have goesOn : (Except.ok value >>= next) = next value := rfl
      rw [goesOn]
      constructor
      · intro avoids
        refine ⟨avoids_ok value, ?_⟩
        intro other returned
        cases returned
        exact avoids
      · intro both
        exact both.2 value rfl

theorem isOk_bind_iff {result : Except ε α} {next : α → Except ε β} :
    (result >>= next).isOk = true ↔ ∃ value, result = .ok value ∧ (next value).isOk = true := by
  cases result with
  | error fault =>
      constructor
      · intro returned
        cases returned
      · intro returned
        rcases returned with ⟨value, failed, -⟩
        cases failed
  | ok value =>
      constructor
      · intro returned
        exact ⟨value, rfl, returned⟩
      · intro returned
        rcases returned with ⟨other, same, returned⟩
        cases same
        exact returned

section Lists

variable {γ : Type w} (decode : γ → Except ε α)

theorem isOk_mapM_iff (elements : List γ) :
    (elements.mapM decode).isOk = true ↔
      ∀ element ∈ elements, (decode element).isOk = true := by
  induction elements with
  | nil => simp [pure, Except.pure, Except.isOk, Except.toBool]
  | cons head rest ih =>
      rw [List.mapM_cons, isOk_bind_iff, List.forall_mem_cons, ← ih, isOk_iff, isOk_iff]
      constructor
      · intro returned
        rcases returned with ⟨value, first, returned⟩
        rcases isOk_bind_iff.mp returned with ⟨values, others, -⟩
        exact ⟨⟨value, first⟩, values, others⟩
      · intro returned
        rcases returned with ⟨⟨value, first⟩, values, others⟩
        exact ⟨value, first, isOk_bind_iff.mpr ⟨values, others, rfl⟩⟩

/-- Elements are decoded in order up to the first that fails, so each is decoded safely
which only decodable ones precede. -/
theorem avoids_mapM_iff (elements : List γ) :
    Avoids bad (elements.mapM decode) ↔
      ∀ front element back, elements = front ++ element :: back →
        (∀ earlier ∈ front, (decode earlier).isOk = true) →
        Avoids bad (decode element) := by
  induction elements with
  | nil =>
      constructor
      · intro _ front element back split
        simp at split
      · intro _
        exact avoids_ok []
  | cons head rest ih =>
      rw [List.mapM_cons, avoids_bind_iff]
      constructor
      · intro both front element back split earlier
        rcases both with ⟨first, others⟩
        cases front with
        | nil =>
            cases split
            exact first
        | cons other front =>
            cases split
            rcases isOk_iff.mp (earlier head List.mem_cons_self) with ⟨value, returned⟩
            have tail := (avoids_bind_iff.mp (others value returned)).1
            exact ih.mp tail front element back rfl fun before membership =>
              earlier before (List.mem_cons_of_mem _ membership)
      · intro every
        refine ⟨every [] head rest rfl (List.forall_mem_nil _), ?_⟩
        intro value returned
        have headOk : (decode head).isOk = true := isOk_iff.mpr ⟨value, returned⟩
        have tail : Avoids bad (rest.mapM decode) := by
          apply ih.mpr
          intro front element back split earlier
          refine every (head :: front) element back (by rw [split, List.cons_append]) ?_
          rw [List.forall_mem_cons]
          exact ⟨headOk, earlier⟩
        exact avoids_bind_iff.mpr ⟨tail, fun values _ => avoids_ok _⟩

end Lists

/-! ## Steps in order -/

/-- A number of steps from a position on: each must be allowed where all before it have
succeeded. -/
def InOrder (allowed succeeds : Nat → Prop) : Nat → Nat → Prop
  | _, 0 => True
  | position, count + 1 =>
      allowed position ∧ (succeeds position → InOrder allowed succeeds (position + 1) count)

theorem inOrder_iff (allowed succeeds : Nat → Prop) (position count : Nat) :
    InOrder allowed succeeds position count ↔
      ∀ step, position ≤ step → step < position + count →
        (∀ earlier, position ≤ earlier → earlier < step → succeeds earlier) →
        allowed step := by
  induction count generalizing position with
  | zero =>
      simp only [InOrder, true_iff]
      omega
  | succ count ih =>
      rw [InOrder, ih]
      constructor
      · intro both step least inside before
        rcases Nat.eq_or_lt_of_le least with rfl | later
        · exact both.1
        · exact both.2 (before position (Nat.le_refl _) later) step later (by omega)
            fun earlier after => before earlier (by omega)
      · intro every
        refine ⟨every position (Nat.le_refl _) (by omega) (by omega), ?_⟩
        intro first step least inside before
        apply every step (by omega) (by omega)
        intro earlier after notYet
        rcases Nat.eq_or_lt_of_le after with rfl | later
        · exact first
        · exact before earlier later notYet

end BinanceApi.Outcomes
